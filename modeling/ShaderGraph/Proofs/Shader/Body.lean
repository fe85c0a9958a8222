import ShaderGraph.Shader.Stage

/-! The lines of a main function. Split at its line feeds, the text gives back what it was written
from: the lines of all groups in their order, with one empty line between groups that follow one
another. -/
namespace ShaderGraph

def linesOf (text : String) : List String := (text.split '\n').toList.map (·.copy)

/-- Lines that end in a line feed each are lines with nothing behind the last. -/
theorem intercalate_append_empty (lines : List String) :
    "\n".intercalate (lines ++ [""]) = unlines lines := by
  induction lines with
  | nil => rfl
  | cons line rest ih =>
    rw [List.cons_append, String.intercalate_cons_of_ne_nil (by simp), ih, unlines_cons]

theorem linesOf_unlines {lines : List String} (plain : ∀ line ∈ lines, '\n' ∉ line.toList) :
    linesOf (unlines lines) = lines ++ [""] := by
  have plain : ∀ line ∈ lines ++ [""], '\n' ∉ line.toList := by
    intro line member
    rcases List.mem_append.mp member with member | last
    · exact plain line member
    · simp [List.mem_singleton.mp last]
  have split := String.toList_split_intercalate plain
  rw [if_neg (by simp)] at split
  rw [linesOf, ← intercalate_append_empty]
  exact split

/-- An empty line between two texts is an empty line between their lines. -/
theorem intercalate_unlines (groups : List (List String)) :
    "\n".intercalate (groups.map unlines) = unlines ([""].intercalate groups) := by
  induction groups with
  | nil => rfl
  | cons group rest ih =>
    cases rest with
    | nil => simp
    | cons next others =>
      rw [List.map_cons, String.intercalate_cons_of_ne_nil (by simp), ih, List.intercalate_cons_cons,
        unlines_append, unlines_append]
      rfl

section
variable {groups : List (List String)}

theorem filter_intercalate_empty (full : ∀ group ∈ groups, "" ∉ group) :
    ([""].intercalate groups).filter (· ≠ "") = groups.flatten := by
  have kept (group : List String) (full : "" ∉ group) : group.filter (· ≠ "") = group :=
    List.filter_eq_self.mpr fun line member => by
      simpa using fun empty : line = "" => full (empty ▸ member)
  induction groups with
  | nil => rfl
  | cons group rest ih =>
    obtain ⟨first, others⟩ := List.forall_mem_cons.mp full
    cases rest with
    | nil => rw [List.intercalate_singleton, kept group first, List.flatten_singleton]
    | cons next more =>
      rw [List.intercalate_cons_cons, List.filter_append, List.filter_append, kept group first,
        ih others, List.flatten_cons]
      simp

theorem count_intercalate_empty (full : ∀ group ∈ groups, "" ∉ group) :
    ([""].intercalate groups).count "" = groups.length - 1 := by
  induction groups with
  | nil => rfl
  | cons group rest ih =>
    obtain ⟨first, others⟩ := List.forall_mem_cons.mp full
    cases rest with
    | nil => simp [List.count_eq_zero_of_not_mem first]
    | cons next more =>
      rw [List.intercalate_cons_cons, List.count_append, List.count_append,
        List.count_eq_zero_of_not_mem first, ih others]
      simp [Nat.add_comm]

end

namespace Program

structure OneLined (program : Program) : Prop where
  locals : ∀ d ∈ program.locals, '\n' ∉ (d.type ++ " " ++ d.name).toList
  defaults : ∀ d ∈ program.defaults, '\n' ∉ (d.type ++ " " ++ d.name ++ " = " ++ d.value).toList
  calls : ∀ call ∈ program.calls, '\n' ∉ call.statement.toList
  epilogue : ∀ line ∈ program.epilogue, '\n' ∉ line.toList

variable {program : Program}

theorem OneLined.sections (plain : program.OneLined) :
    ∀ lines ∈ program.sections, ∀ line ∈ lines, '\n' ∉ line.toList := by
  simp only [Program.sections, List.forall_mem_cons, List.forall_mem_map, List.forall_mem_append]
  refine ⟨fun d member => ?_, fun d member => ?_, ⟨plain.calls, plain.epilogue⟩, by simp⟩
  · simpa [d.text_eq] using plain.locals d member
  · simpa [d.text_eq] using plain.defaults d member

def indented (program : Program) : List (List String) :=
  (program.sections.filter (!·.isEmpty)).map fun lines => lines.map ("  " ++ ·)

theorem mainBody_eq_unlines (program : Program) : program.mainBody =
    unlines ("void main() \x7b" :: [""].intercalate program.indented ++ ["\x7d"]) := by
  have body : program.mainBody = "void main() \x7b\n" ++
      "\n".intercalate (program.indented.map unlines) ++ "\x7d\n" := by
    rw [indented, List.map_map]
    rfl
  rw [body, intercalate_unlines, List.cons_append, unlines_cons, unlines_append, ← String.append_assoc]
  rfl

theorem full_of_mem_indented {group : List String} (member : group ∈ program.indented) :
    group ≠ [] ∧ "" ∉ group := by
  obtain ⟨lines, kept, rfl⟩ := List.mem_map.mp member
  have full : lines ≠ [] := by simpa using (List.mem_filter.mp kept).2
  simp [full]

theorem flatten_indented (program : Program) :
    program.indented.flatten = program.sections.flatten.map ("  " ++ ·) := by
  rw [indented, ← List.map_flatten, List.flatten_filter_not_isEmpty]

/-- Nothing that is written between the braces holds a line feed. -/
theorem OneLined.between (plain : program.OneLined) {line : String}
    (member : line ∈ [""].intercalate program.indented) : '\n' ∉ line.toList := by
  by_cases empty : line = ""
  · simp [empty]
  · have kept : line ∈ ([""].intercalate program.indented).filter (· ≠ "") :=
      List.mem_filter.mpr ⟨member, by simpa using empty⟩
    rw [filter_intercalate_empty fun group among => (full_of_mem_indented among).2,
      flatten_indented] at kept
    obtain ⟨written, among, rfl⟩ := List.mem_map.mp kept
    obtain ⟨lines, here, among⟩ := List.mem_flatten.mp among
    simpa using plain.sections lines here written among

/-- The text of a main function is `void main() {`, the groups of lines, and `}` with a line feed behind
it. Each line is written as it is, two columns to the right. One empty line parts a group from the next
one, and no other line is empty. -/
theorem mainBody_layout (plain : program.OneLined) :
    let locals := program.locals.map fun d => d.type ++ " " ++ d.name ++ ";"
    let defaults := program.defaults.map fun d => d.type ++ " " ++ d.name ++ " = " ++ d.value ++ ";"
    let statements := program.calls.map Call.statement ++ program.epilogue
    let groups := ([locals, defaults, statements].filter (!·.isEmpty)).map fun lines =>
      lines.map ("  " ++ ·)
    let between := [""].intercalate groups
    linesOf program.mainBody = "void main() \x7b" :: between ++ ["\x7d", ""] ∧
    between.filter (· ≠ "") = (locals ++ defaults ++ statements).map ("  " ++ ·) ∧
    (∀ group ∈ groups, group ≠ [] ∧ "" ∉ group) ∧
    between.count "" = groups.length - 1 := by
  intro locals defaults statements groups between
  have full (group : List String) (member : group ∈ groups) : group ≠ [] ∧ "" ∉ group :=
    full_of_mem_indented member
  have apart (group : List String) (member : group ∈ groups) := (full group member).2
  refine ⟨?_, ?_, full, count_intercalate_empty apart⟩
  · have lines : ∀ line ∈ "void main() \x7b" :: between ++ ["\x7d"], '\n' ∉ line.toList := by
      intro line member
      rcases List.mem_append.mp member with member | last
      · rcases List.mem_cons.mp member with rfl | member
        · decide
        · exact plain.between member
      · rw [List.mem_singleton.mp last]
        decide
    rw [mainBody_eq_unlines]
    exact (linesOf_unlines lines).trans (List.append_assoc ..)
  · rw [filter_intercalate_empty apart]
    refine (flatten_indented program).trans (congrArg _ ?_)
    simp [Program.sections, Declaration.text_eq, DefaultVariable.text_eq, locals, defaults,
      statements]

def shaded : Program :=
  { empty with
    locals := [⟨"vec3", "a_at_o"⟩]
    defaults := [⟨"float", "default_k_for_a", "1.0"⟩]
    calls := [⟨"a", "tone", ["default_k_for_a"], ["a_at_o"], "tone( default_k_for_a, a_at_o );"⟩]
    epilogue := ["color = a_at_o;"] }

theorem shaded_layout :
    let fed := { shaded with defaults := [] }
    (shaded.OneLined ∧ linesOf shaded.mainBody =
      ["void main() \x7b", "  vec3 a_at_o;", "", "  float default_k_for_a = 1.0;", "",
        "  tone( default_k_for_a, a_at_o );", "  color = a_at_o;", "\x7d", ""]) ∧
      fed.OneLined ∧ linesOf fed.mainBody =
        ["void main() \x7b", "  vec3 a_at_o;", "", "  tone( default_k_for_a, a_at_o );",
          "  color = a_at_o;", "\x7d", ""] := by
  intro fed
  have plain : shaded.OneLined := by
    constructor <;> decide
  have plainFed : fed.OneLined := by
    constructor <;> decide
  exact ⟨⟨plain, (mainBody_layout plain).1.trans (by decide +kernel)⟩,
    plainFed, (mainBody_layout plainFed).1.trans (by decide +kernel)⟩

end Program
end ShaderGraph
