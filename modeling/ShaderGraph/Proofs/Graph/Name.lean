import ShaderGraph.Graph.Name

/-! Normalized names. No scope mark is left in them, and names without one stay as they are, but for
the name of the vertex position that is no longer in use. -/
namespace ShaderGraph

def Scoped (name : String) : Prop := "::".toList <:+: name.toList

instance (name : String) : Decidable (Scoped name) :=
  inferInstanceAs (Decidable ("::".toList <:+: name.toList))

theorem joinScopes_cons {c : Char} {rest : List Char}
    (single : ∀ more, c = ':' → rest = ':' :: more → False) :
    joinScopes (c :: rest) = c :: joinScopes rest := by
  rw [joinScopes]
  exact single

theorem head?_of_head?_joinScopes {cs : List Char} (colon : (joinScopes cs).head? = some ':') :
    cs.head? = some ':' := by
  induction cs using joinScopes.induct with
  | case1 rest => rfl
  | case2 c rest single => rwa [joinScopes_cons single] at colon
  | case3 => contradiction

/-- A colon is left only in front of another character, and what stands for two colons is none. -/
theorem not_infix_joinScopes (cs : List Char) : ¬"::".toList <:+: joinScopes cs := by
  induction cs using joinScopes.induct with
  | case1 rest ih =>
    rw [joinScopes, List.infix_cons_iff]
    rintro (front | inside)
    · simp at front
    · exact ih inside
  | case2 c rest single ih =>
    rw [joinScopes_cons single, List.infix_cons_iff]
    rintro (front | inside)
    · obtain ⟨same, front⟩ := List.cons_prefix_cons.mp front
      obtain ⟨behind, next⟩ := front
      have colon : rest.head? = some ':' := head?_of_head?_joinScopes (next ▸ rfl)
      obtain ⟨more, rfl⟩ := List.head?_eq_some_iff.mp colon
      exact single more same.symm rfl
    · exact ih inside
  | case3 => simp [joinScopes]

theorem joinScopes_of_not_infix {cs : List Char} (free : ¬"::".toList <:+: cs) :
    joinScopes cs = cs := by
  induction cs using joinScopes.induct with
  | case1 rest => exact absurd (List.prefix_append [':', ':'] rest).isInfix free
  | case2 c rest single ih =>
    rw [joinScopes_cons single, ih fun inside => free (List.infix_cons inside)]
  | case3 => rfl

/-- What stands in front of all scope marks is kept. None may begin in it, be it with its last colon. -/
theorem joinScopes_append {front rest : List Char} (free : ¬"::".toList <:+: front ++ rest.take 1) :
    joinScopes (front ++ rest) = front ++ joinScopes rest := by
  induction front with
  | nil => rfl
  | cons c front ih =>
    have single : ∀ more, c = ':' → front ++ rest = ':' :: more → False := by
      rintro more rfl next
      have colon : [':'] <+: front ++ rest.take 1 := by
        cases front with
        | nil =>
          obtain rfl : rest = ':' :: more := next
          exact List.prefix_rfl
        | cons d front =>
          obtain rfl := (List.cons.inj next).1
          exact List.prefix_append [':'] (front ++ rest.take 1)
      exact free ((List.prefix_cons_inj ':').mpr colon).isInfix
    rw [List.cons_append, joinScopes_cons single, ih fun inside => free (List.infix_cons inside)]
    rfl

/-- The first scope mark becomes an underscore. -/
theorem joinScopes_scope {front : List Char} (first : ¬"::".toList <:+: front ++ [':'])
    (back : List Char) : joinScopes (front ++ ':' :: ':' :: back) = joinScopes (front ++ '_' :: back) := by
  have free : ¬"::".toList <:+: front ++ ['_'] := by
    rw [List.infix_concat_iff]
    rintro (⟨_, last⟩ | inside)
    · simpa using congrArg List.getLast? last
    · exact first (inside.trans (List.prefix_append front [':']).isInfix)
  have single : ∀ more, '_' = ':' → back = ':' :: more → False := by
    rintro more same
    contradiction
  rw [joinScopes_append first, joinScopes_append free, joinScopes, joinScopes_cons single]

theorem not_scoped_normalizeName (name : String) : ¬Scoped (normalizeName name) := by
  rw [normalizeName]
  split
  · decide +kernel
  · rw [Scoped, String.toList_ofList (l := joinScopes name.toList)]
    exact not_infix_joinScopes name.toList

theorem normalizeName_ne (name : String) : normalizeName name ≠ "gl_Vertex" := by
  rw [normalizeName]
  split
  · decide
  · assumption

/-- A name that is normalized stays as it is. -/
theorem normalizeName_of_not_scoped {name : String} (free : ¬Scoped name)
    (present : name ≠ "gl_Vertex") : normalizeName name = name := by
  simp only [normalizeName, joinScopes_of_not_infix free, String.ofList_toList, if_neg present]

@[simp] theorem normalizeName_normalizeName (name : String) :
    normalizeName (normalizeName name) = normalizeName name :=
  normalizeName_of_not_scoped (not_scoped_normalizeName name) (normalizeName_ne name)

/-- The first scope mark of a name may be written as an underscore. -/
theorem normalizeName_scope {front : String} (first : ¬Scoped (front ++ ":")) (back : String) :
    normalizeName (front ++ "::" ++ back) = normalizeName (front ++ "_" ++ back) := by
  have first : ¬"::".toList <:+: front.toList ++ [':'] := by
    rwa [Scoped, String.toList_append] at first
  have joined := joinScopes_scope first back.toList
  simp only [normalizeName, String.toList_append, List.append_assoc]
  exact congrArg (fun cs => if String.ofList cs = "gl_Vertex" then "vsg_Vertex" else String.ofList cs)
    joined

/-- Normalizing projects the names onto those that have no scope mark and are not the one out of use. It
leads there from each name, and leaves as they are the names that are there, and no others. Scope marks
become underscores from the first on, and only then the name out of use is replaced. -/
theorem normalizeName_projects (name : String) :
    normalizeName (normalizeName name) = normalizeName name ∧
      ¬Scoped (normalizeName name) ∧ normalizeName name ≠ "gl_Vertex" ∧
      (normalizeName name = name ↔ ¬Scoped name ∧ name ≠ "gl_Vertex") ∧
      normalizeName "gl_Vertex" = "vsg_Vertex" ∧
      ∀ front back, name = front ++ "::" ++ back → ¬Scoped (front ++ ":") →
        normalizeName name = normalizeName (front ++ "_" ++ back) := by
  have image : ¬Scoped (normalizeName name) ∧ normalizeName name ≠ "gl_Vertex" :=
    ⟨not_scoped_normalizeName name, normalizeName_ne name⟩
  refine ⟨normalizeName_normalizeName name, image.1, image.2, ⟨fun kept => ?_, ?_⟩, ?_, ?_⟩
  · rwa [kept] at image
  · rintro ⟨free, present⟩
    exact normalizeName_of_not_scoped free present
  · decide +kernel
  · rintro front back rfl first
    exact normalizeName_scope first back

theorem scopedVertex_projects :
    normalizeName "gl::Vertex" = "vsg_Vertex" ∧ normalizeName "vsg_Vertex" = "vsg_Vertex" ∧
      normalizeName "gl::Vertex" ≠ "gl::Vertex" := by
  obtain ⟨again, _, _, kept, renamed, scope⟩ := normalizeName_projects "gl::Vertex"
  have first : normalizeName "gl::Vertex" = normalizeName "gl_Vertex" :=
    scope "gl" "Vertex" (by decide +kernel) (by decide +kernel)
  rw [first, renamed] at again
  exact ⟨first.trans renamed, again, fun same => absurd (kept.mp same).1 (by decide +kernel)⟩

/-- The variable of an output has a mark of its own, which the name out of use has not. -/
theorem outputVariable_ne (node output : String) : outputVariable node output ≠ "gl_Vertex" := by
  intro same
  have marked : "_at_".toList <:+: (outputVariable node output).toList := by
    simp only [outputVariable, String.toList_append]
    exact List.infix_append _ _ _
  rw [same] at marked
  exact absurd marked (by decide +kernel)

end ShaderGraph
