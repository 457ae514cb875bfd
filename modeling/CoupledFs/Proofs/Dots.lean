import CoupledFs.Path.Dots

/-! Reducing components to names. Names are what is left alone by it, and components can be reduced
in two steps. -/

namespace CoupledFs.Path

/-- A component that is neither dropped nor refused, and takes nothing back. -/
structure IsName (component : String) : Prop where
  nonempty : component ≠ ""
  not_dot : component ≠ "."
  not_dots : component ≠ ".."
  without_nul : '\x00' ∉ component.toList

/-- A component that would be a name, were there no NUL in it. -/
structure IsForbidden (component : String) : Prop where
  nonempty : component ≠ ""
  not_dot : component ≠ "."
  not_dots : component ≠ ".."
  with_nul : '\x00' ∈ component.toList

variable {names found : List String} {component : String}

theorem component_cases (component : String) :
    (component = "" ∨ component = ".") ∨ component = ".." ∨ IsForbidden component ∨
      IsName component := by
  by_cases blank : component = "" ∨ component = "."
  · exact .inl blank
  by_cases dots : component = ".."
  · exact .inr (.inl dots)
  by_cases nul : '\x00' ∈ component.toList
  · exact .inr (.inr (.inl ⟨fun empty => blank (.inl empty), fun dot => blank (.inr dot), dots, nul⟩))
  · exact .inr (.inr (.inr ⟨fun empty => blank (.inl empty), fun dot => blank (.inr dot), dots, nul⟩))

theorem reduceAfter_of_blank (blank : component = "" ∨ component = ".")
    (names rest : List String) :
    reduceAfter names (component :: rest) = reduceAfter names rest := by
  conv => lhs; unfold reduceAfter
  exact if_pos blank

theorem reduceAfter_dots_nil (rest : List String) :
    reduceAfter [] (".." :: rest) = .error .escapes := by
  conv => lhs; unfold reduceAfter
  exact (if_neg (by simp)).trans (if_pos rfl)

theorem reduceAfter_dots_cons (name : String) (outer rest : List String) :
    reduceAfter (name :: outer) (".." :: rest) = reduceAfter outer rest := by
  conv => lhs; unfold reduceAfter
  exact (if_neg (by simp)).trans (if_pos rfl)

theorem reduceAfter_of_isForbidden (forbidden : IsForbidden component)
    (names rest : List String) :
    reduceAfter names (component :: rest) = .error (.forbidden component) := by
  conv => lhs; unfold reduceAfter
  rw [if_neg (not_or.mpr ⟨forbidden.nonempty, forbidden.not_dot⟩), if_neg forbidden.not_dots,
    if_pos forbidden.with_nul]

theorem reduceAfter_of_isName (name : IsName component) (names rest : List String) :
    reduceAfter names (component :: rest) = reduceAfter (component :: names) rest := by
  conv => lhs; unfold reduceAfter
  rw [if_neg (not_or.mpr ⟨name.nonempty, name.not_dot⟩), if_neg name.not_dots,
    if_neg name.without_nul]

/-- Components that come after others are reduced after what those come down to. -/
theorem reduceAfter_append (names front back : List String) :
    reduceAfter names (front ++ back) =
      (reduceAfter names front).bind fun found => reduceAfter found.reverse back := by
  induction front generalizing names with
  | nil => simp [reduceAfter.eq_1, Except.bind]
  | cons component front ih =>
    rw [List.cons_append]
    rcases component_cases component with blank | rfl | forbidden | name
    · rw [reduceAfter_of_blank blank, reduceAfter_of_blank blank, ih]
    · cases names with
      | nil =>
        rw [reduceAfter_dots_nil, reduceAfter_dots_nil]
        rfl
      | cons name outer => rw [reduceAfter_dots_cons, reduceAfter_dots_cons, ih]
    · rw [reduceAfter_of_isForbidden forbidden, reduceAfter_of_isForbidden forbidden]
      rfl
    · rw [reduceAfter_of_isName name, reduceAfter_of_isName name, ih]

theorem reduceAfter_of_names (proper : ∀ name ∈ found, IsName name) (names : List String) :
    reduceAfter names found = .ok (names.reverse ++ found) := by
  induction found generalizing names with
  | nil => simp [reduceAfter.eq_1]
  | cons name found ih =>
    have first := proper name List.mem_cons_self
    have later := ih fun other member => proper other (List.mem_cons_of_mem name member)
    rw [reduceAfter_of_isName first, later]
    simp

theorem forall_of_reduceAfter {components : List String} {property : String → Prop}
    (before : ∀ name ∈ names, property name)
    (given : ∀ name ∈ components, IsName name → property name)
    (reduced : reduceAfter names components = .ok found) : ∀ name ∈ found, property name := by
  induction components generalizing names with
  | nil =>
    cases reduced
    simpa using before
  | cons component components ih =>
    have later : ∀ name ∈ components, IsName name → property name :=
      fun name member => given name (List.mem_cons_of_mem component member)
    rcases component_cases component with blank | rfl | forbidden | name
    · rw [reduceAfter_of_blank blank] at reduced
      exact ih before later reduced
    · cases names with
      | nil =>
        rw [reduceAfter_dots_nil] at reduced
        cases reduced
      | cons name outer =>
        rw [reduceAfter_dots_cons] at reduced
        exact ih (fun other member => before other (List.mem_cons_of_mem name member)) later reduced
    · rw [reduceAfter_of_isForbidden forbidden] at reduced
      cases reduced
    · rw [reduceAfter_of_isName name] at reduced
      have first := given component List.mem_cons_self name
      refine ih ?_ later reduced
      intro other member
      rcases List.mem_cons.mp member with rfl | old
      · exact first
      · exact before other old

theorem isName_of_reduceDots {components : List String}
    (reduced : reduceDots components = .ok found) : ∀ name ∈ found, IsName name :=
  forall_of_reduceAfter (by simp) (fun _ _ name => name) reduced

theorem mem_of_reduceDots {components : List String}
    (reduced : reduceDots components = .ok found) : ∀ name ∈ found, name ∈ components :=
  forall_of_reduceAfter (by simp) (fun _ member _ => member) reduced

theorem reduceDots_of_names (proper : ∀ name ∈ found, IsName name) :
    reduceDots found = .ok found :=
  reduceAfter_of_names proper []

end CoupledFs.Path
