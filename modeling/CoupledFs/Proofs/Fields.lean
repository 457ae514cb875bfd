import CoupledFs.Text.Fields

/-! Joined text divides into what its parts divide into, and text that was put between separators
divides into just that. -/

namespace CoupledFs.Text

variable {divides : Char → Bool} {separator : Char}

theorem fieldsOf_eq_splitOnP (divides : Char → Bool) (text : List Char) :
    fieldsOf divides text = text.splitOnP divides := by
  induction text with
  | nil => rfl
  | cons c rest ih => rw [fieldsOf, ih, List.splitOnP_cons_eq_if_modifyHead]

theorem fields_eq_map_splitOnP (divides : Char → Bool) (text : String) :
    fields divides text = (text.toList.splitOnP divides).map String.ofList := by
  rw [fields, fieldsOf_eq_splitOnP]

theorem fields_empty (divides : Char → Bool) : fields divides "" = [""] :=
  rfl

/-- A separator divides a text into what is before it and what is behind it. -/
theorem fields_append (separates : divides separator = true) (front back : String) :
    fields divides (front ++ String.singleton separator ++ back) =
      fields divides front ++ fields divides back := by
  simp [fields_eq_map_splitOnP, List.splitOnP_append_cons _ _ separates]

theorem fields_of_whole {text : String} (whole : ∀ c ∈ text.toList, divides c = false) :
    fields divides text = [text] := by
  rw [fields_eq_map_splitOnP, List.splitOnP_eq_singleton whole]
  simp

theorem fields_intercalate (separates : divides separator = true) {parts : List String}
    (nonempty : parts ≠ []) (whole : ∀ part ∈ parts, ∀ c ∈ part.toList, divides c = false) :
    fields divides (String.intercalate (String.singleton separator) parts) = parts := by
  induction parts with
  | nil => exact absurd rfl nonempty
  | cons part parts ih =>
    have first := fields_of_whole (whole part List.mem_cons_self)
    cases parts with
    | nil => rwa [String.intercalate_singleton]
    | cons next rest =>
      have later := ih (List.cons_ne_nil next rest) fun other member =>
        whole other (List.mem_cons_of_mem part member)
      rw [String.intercalate_cons_cons, fields_append separates, first, later]
      rfl

theorem whole_of_mem_fieldsOf {text piece : List Char} (member : piece ∈ fieldsOf divides text) :
    ∀ c ∈ piece, divides c = false := by
  induction text generalizing piece with
  | nil => simp_all [fieldsOf]
  | cons c rest ih =>
    unfold fieldsOf at member
    by_cases separates : divides c = true
    · rw [if_pos separates] at member
      rcases List.mem_cons.mp member with rfl | later
      · exact fun _ absent => absurd absent List.not_mem_nil
      · exact ih later
    · rw [if_neg separates] at member
      cases pieces : fieldsOf divides rest with
      | nil => simp [pieces] at member
      | cons first others =>
        rw [pieces] at ih member
        rcases List.mem_cons.mp member with rfl | later
        · intro other among
          rcases List.mem_cons.mp among with rfl | old
          · simpa using separates
          · exact ih List.mem_cons_self other old
        · exact ih (List.mem_cons_of_mem first later)

theorem whole_of_mem_fields {text field : String} (member : field ∈ fields divides text) :
    ∀ c ∈ field.toList, divides c = false := by
  obtain ⟨piece, among, rfl⟩ := List.mem_map.mp member
  rw [String.toList_ofList]
  exact whole_of_mem_fieldsOf among

/-! ### Joining -/

theorem joinParts_singleton (separator : Char) (part : String) :
    joinParts separator [part] = part := by
  unfold joinParts
  by_cases empty : part = ""
  · simp [empty]
  · simp [empty]

theorem joinParts_pair (separator : Char) (front back : String) :
    joinParts separator [front, back] =
      if front = "" then back
      else if back = "" then front
      else front ++ String.singleton separator ++ back := by
  unfold joinParts
  by_cases frontEmpty : front = ""
  · by_cases backEmpty : back = ""
    · simp [frontEmpty, backEmpty]
    · simp [frontEmpty, backEmpty]
  · by_cases backEmpty : back = ""
    · simp [frontEmpty, backEmpty]
    · simp [frontEmpty, backEmpty]

theorem joinParts_eq_empty_iff {parts : List String} :
    joinParts separator parts = "" ↔ parts.filter (· ≠ "") = [] := by
  unfold joinParts
  cases kept : parts.filter (· ≠ "") with
  | nil => simp
  | cons part rest =>
    have member : part ∈ parts.filter (· ≠ "") := kept ▸ List.mem_cons_self
    have nonempty : part ≠ "" := of_decide_eq_true (List.mem_filter.mp member).2
    cases rest with
    | nil => simpa using nonempty
    | cons next others => simp [String.intercalate_cons_cons]

theorem joinParts_append (separator : Char) (front back : List String) :
    joinParts separator (front ++ back) =
      joinParts separator [joinParts separator front, joinParts separator back] := by
  rw [joinParts_pair]
  by_cases frontEmpty : front.filter (· ≠ "") = []
  · rw [if_pos (joinParts_eq_empty_iff.mpr frontEmpty)]
    simp only [joinParts, List.filter_append, frontEmpty, List.nil_append]
  · rw [if_neg (mt joinParts_eq_empty_iff.mp frontEmpty)]
    by_cases backEmpty : back.filter (· ≠ "") = []
    · rw [if_pos (joinParts_eq_empty_iff.mpr backEmpty)]
      simp only [joinParts, List.filter_append, backEmpty, List.append_nil]
    · rw [if_neg (mt joinParts_eq_empty_iff.mp backEmpty)]
      simp only [joinParts, List.filter_append]
      exact String.intercalate_append_of_ne_nil frontEmpty backEmpty

theorem toList_joinParts_cons (separator : Char) (part : String) (parts : List String) :
    (joinParts separator (part :: parts)).toList =
      part.toList ++ ((if part.toList = [] ∨ (joinParts separator parts).toList = [] then []
        else [separator]) ++ (joinParts separator parts).toList) := by
  have split := joinParts_append separator [part] parts
  rw [List.singleton_append, joinParts_singleton, joinParts_pair] at split
  rw [split]
  by_cases empty : part = ""
  · simp [empty]
  · by_cases silent : joinParts separator parts = ""
    · simp [empty, silent]
    · simp [empty, silent]

theorem joinParts_cons_cons {front back : String} (nonempty : front ≠ "") (nonempty' : back ≠ "")
    (separator : Char) (rest : List String) :
    joinParts separator (front :: back :: rest) =
      joinParts separator ((front ++ String.singleton separator ++ back) :: rest) := by
  have pair := joinParts_pair separator front back
  rw [if_neg nonempty, if_neg nonempty'] at pair
  calc joinParts separator ([front, back] ++ rest)
    _ = joinParts separator
        [front ++ String.singleton separator ++ back, joinParts separator rest] := by
      rw [joinParts_append, pair]
    _ = joinParts separator ([front ++ String.singleton separator ++ back] ++ rest) := by
      rw [joinParts_append, joinParts_singleton]

end CoupledFs.Text
