import ShaderGraph.Graph.Name

/-! Names of variables. They are made of the names of nodes and parameters with a word between them,
which a name may hold as well, so that two variables can come to one text. They do only if one of the
names goes on behind another with that word. -/
namespace ShaderGraph

def Begins (name start : String) : Prop := start.toList <+: name.toList

instance (name start : String) : Decidable (Begins name start) :=
  inferInstanceAs (Decidable (start.toList <+: name.toList))

/-- One of two names goes on behind the other with a word. -/
def Continues (word a b : String) : Prop := Begins a (b ++ word) ∨ Begins b (a ++ word)

instance (word a b : String) : Decidable (Continues word a b) :=
  inferInstanceAs (Decidable (_ ∨ _))

variable {mark : α} {word a b c d : List α}

/-- A word without the mark is over before the first mark. -/
theorem prefix_of_append_eq (free : mark ∉ word) (same : word ++ b = a ++ mark :: c) :
    word <+: a := by
  rcases List.append_eq_append_iff.mp same with ⟨more, rfl, _⟩ | ⟨rest, rfl, marked⟩
  · exact List.prefix_append word more
  · cases rest with
    | nil => simp
    | cons first rest =>
      obtain ⟨rfl, _⟩ := List.cons.inj marked
      exact absurd (by simp) free

theorem eq_nil_or_prefix (free : mark ∉ word)
    (same : mark :: (word ++ b) = a ++ mark :: (word ++ d)) : a = [] ∨ mark :: word <+: a := by
  cases a with
  | nil => exact .inl rfl
  | cons first rest =>
    obtain ⟨rfl, behind⟩ := List.cons.inj same
    have within : word <+: rest := prefix_of_append_eq free behind
    exact .inr (List.prefix_cons_inj mark |>.mpr within)

/-- Texts that are parted by a mark and a word without it can be parted at two places only if the
mark and the word are also in front of one of them. -/
theorem eq_or_prefix_of_append_eq (free : mark ∉ word)
    (same : a ++ mark :: (word ++ b) = c ++ mark :: (word ++ d)) :
    a = c ∨ a ++ mark :: word <+: c ∨ c ++ mark :: word <+: a := by
  rcases List.append_eq_append_iff.mp same with ⟨more, rfl, rest⟩ | ⟨more, rfl, rest⟩
  · rcases eq_nil_or_prefix free rest with rfl | behind
    · simp
    · exact .inr (.inl ((List.prefix_append_right_inj a).mpr behind))
  · rcases eq_nil_or_prefix free rest with rfl | behind
    · simp
    · exact .inr (.inr ((List.prefix_append_right_inj c).mpr behind))

variable {node other input output : String}

theorem toList_outputVariable (node output : String) :
    (outputVariable node output).toList =
      node.toList ++ '_' :: ("at".toList ++ ('_' :: output.toList)) := by
  simp [outputVariable]

theorem toList_defaultVariable (node input : String) :
    (defaultVariable node input).toList =
      "default".toList ++ '_' :: (input.toList ++ '_' :: ("for".toList ++ ('_' :: node.toList))) := by
  simp [defaultVariable]

theorem outputVariable_injective {first second : String}
    (same : outputVariable node first = outputVariable node second) : first = second := by
  have texts := congrArg String.toList same
  simp only [toList_outputVariable, List.append_cancel_left_eq, List.cons.injEq, true_and] at texts
  exact String.toList_inj.mp texts

/-- Outputs of two nodes share a variable only if the name of one goes on behind that of the other. -/
theorem continues_of_outputVariable_eq {first second : String}
    (same : outputVariable node first = outputVariable other second) :
    node = other ∨ Continues "_at" node other := by
  have texts := congrArg String.toList same
  rw [toList_outputVariable, toList_outputVariable] at texts
  rcases eq_or_prefix_of_append_eq (by decide) texts with same | behind | behind
  · exact .inl (String.toList_inj.mp same)
  · exact .inr (.inr (by simpa [Begins] using behind))
  · exact .inr (.inl (by simpa [Begins] using behind))

/-- Two inputs share a default variable only if the name of one goes on behind that of the other. -/
theorem continues_of_defaultVariable_eq {first second : String}
    (same : defaultVariable node first = defaultVariable other second) :
    (first = second ∧ node = other) ∨ Continues "_for" first second := by
  have texts := congrArg String.toList same
  simp only [toList_defaultVariable, List.append_cancel_left_eq, List.cons.injEq, true_and] at texts
  rcases eq_or_prefix_of_append_eq (by decide) texts with same | behind | behind
  · rw [same] at texts
    simp only [List.append_cancel_left_eq, List.cons.injEq, true_and] at texts
    exact .inl ⟨String.toList_inj.mp same, String.toList_inj.mp texts⟩
  · exact .inr (.inr (by simpa [Begins] using behind))
  · exact .inr (.inl (by simpa [Begins] using behind))

/-- An output shares its variable with a default only if its node is named after the defaults. -/
theorem begins_of_variables_eq (same : outputVariable node output = defaultVariable other input) :
    Begins node "default" := by
  have texts := congrArg String.toList same
  rw [toList_outputVariable, toList_defaultVariable] at texts
  exact prefix_of_append_eq (by decide) texts.symm

end ShaderGraph
