import CoupledFs.Host.Path
import CoupledFs.Proofs.Fields

/-! The names in the paths of the machine: what joining two paths, taking away the last name and
putting another in its place do to them. -/

namespace CoupledFs.Host.Path

variable {path base name : String}

/-- The names in a path, with every `.` among them. -/
def pieces (path : String) : List String :=
  (Text.fields (· = '/') path).filter (· ≠ "")

/-- The names in a path, without any `.` among them. -/
def names (path : String) : List String :=
  (components path).filter (· ≠ ".")

/-- A name that stands for something in the directory that it is looked for in. -/
structure IsPlain (name : String) : Prop where
  nonempty : name ≠ ""
  whole : '/' ∉ name.toList
  here : name ≠ "."
  above : name ≠ ".."

theorem components_of_pieces_eq_nil (empty : pieces path = []) : components path = [] := by
  unfold pieces at empty
  simp only [components, empty]

theorem components_of_pieces_eq_cons {first : String} {rest : List String}
    (divided : pieces path = first :: rest) : components path =
      if first = "." ∧ isAbsolute path then rest.filter (· ≠ ".")
      else first :: rest.filter (· ≠ ".") := by
  unfold pieces at divided
  simp only [components, divided]

theorem names_eq (path : String) : names path = (pieces path).filter (· ≠ ".") := by
  unfold names
  cases divided : pieces path with
  | nil => rw [components_of_pieces_eq_nil divided]
  | cons first rest =>
    rw [components_of_pieces_eq_cons divided]
    by_cases dot : first = "."
    · split <;> simp [dot]
    · simp [dot]

/-! ### Joining -/

theorem pieces_empty : pieces "" = [] := by
  rw [pieces, Text.fields_empty]
  rfl

theorem pieces_slash (front back : String) :
    pieces (front ++ "/" ++ back) = pieces front ++ pieces back := by
  have split : Text.fields (· = '/') (front ++ String.singleton '/' ++ back) =
      Text.fields (· = '/') front ++ Text.fields (· = '/') back :=
    Text.fields_append (by simp) front back
  rw [pieces, show "/" = String.singleton '/' from rfl, split, List.filter_append]
  rfl

theorem pieces_of_whole (nonempty : name ≠ "") (whole : '/' ∉ name.toList) :
    pieces name = [name] := by
  have undivided : ∀ c ∈ name.toList, decide (c = '/') = false := by
    intro c member
    rw [decide_eq_false_iff_not]
    rintro rfl
    exact whole member
  rw [pieces, Text.fields_of_whole undivided]
  simp [nonempty]

theorem isAbsolute_of_whole (whole : '/' ∉ name.toList) : isAbsolute name = false := by
  rw [isAbsolute, decide_eq_false_iff_not]
  exact fun first => whole (List.mem_of_mem_head? first)

theorem exists_eq_slash_of_getLast? (closed : base.toList.getLast? = some '/') :
    ∃ front, base = front ++ "/" := by
  obtain ⟨front, split⟩ := List.getLast?_eq_some_iff.mp closed
  refine ⟨String.ofList front, String.toList_inj.mp ?_⟩
  rw [String.toList_append, String.toList_ofList]
  exact split

theorem pieces_join (base : String) (relative : isAbsolute path = false) :
    pieces (join base path) = pieces base ++ pieces path := by
  unfold join
  by_cases empty : base = ""
  · simp [empty, pieces_empty]
  · rw [if_neg (by simp [relative, empty])]
    split
    · rename_i closed
      obtain ⟨front, rfl⟩ := exists_eq_slash_of_getLast? closed
      have bare := pieces_slash front ""
      rw [String.append_empty, pieces_empty, List.append_nil] at bare
      rw [pieces_slash, bare]
    · exact pieces_slash base path

theorem names_join (base : String) (relative : isAbsolute path = false) :
    names (join base path) = names base ++ names path := by
  rw [names_eq, names_eq, names_eq, pieces_join base relative, List.filter_append]

theorem isAbsolute_append (nonempty : base ≠ "") (more : String) :
    isAbsolute (base ++ more) = isAbsolute base := by
  obtain ⟨first, rest, spelled⟩ : ∃ first rest, base.toList = first :: rest :=
    List.exists_cons_of_ne_nil (by simpa using nonempty)
  simp [isAbsolute, spelled]

theorem isAbsolute_join (base : String) (relative : isAbsolute path = false) :
    isAbsolute (join base path) = isAbsolute base := by
  unfold join
  by_cases empty : base = ""
  · rw [if_pos (.inr empty), relative, empty]
    rfl
  · rw [if_neg (by simp [relative, empty])]
    split
    · exact isAbsolute_append empty path
    · rw [String.append_assoc, isAbsolute_append empty]

theorem components_join (base : String) (plain : IsPlain name) :
    components (join base name) = components base ++ [name] := by
  have relative := isAbsolute_of_whole plain.whole
  have divided := pieces_join base relative
  rw [pieces_of_whole plain.nonempty plain.whole] at divided
  cases given : pieces base with
  | nil =>
    rw [given] at divided
    rw [components_of_pieces_eq_cons divided, components_of_pieces_eq_nil given]
    simp [plain.here]
  | cons first rest =>
    rw [given, List.cons_append] at divided
    rw [components_of_pieces_eq_cons divided, components_of_pieces_eq_cons given,
      isAbsolute_join base relative, List.filter_append]
    split <;> simp [plain.here]

/-! ### The last name -/

theorem whole_of_mem_components (member : name ∈ components path) :
    name ≠ "" ∧ '/' ∉ name.toList := by
  have among : name ∈ pieces path := by
    cases divided : pieces path with
    | nil =>
      rw [components_of_pieces_eq_nil divided] at member
      cases member
    | cons first rest =>
      rw [components_of_pieces_eq_cons divided] at member
      split at member
      · exact List.mem_cons_of_mem _ (List.mem_filter.mp member).1
      · refine List.mem_cons.mpr ((List.mem_cons.mp member).imp_right fun later => ?_)
        exact (List.mem_filter.mp later).1
  obtain ⟨field, nonempty⟩ := List.mem_filter.mp among
  refine ⟨of_decide_eq_true nonempty, fun slash => ?_⟩
  exact absurd (Text.whole_of_mem_fields field '/' slash) (by simp)

/-- The only component that can be a `.` is the first of a relative path. -/
theorem dots_of_components_eq_cons {first : String} {rest : List String}
    (divided : components path = first :: rest) :
    ¬(first = "." ∧ isAbsolute path = true) ∧ rest.filter (· ≠ ".") = rest := by
  cases given : pieces path with
  | nil =>
    rw [components_of_pieces_eq_nil given] at divided
    cases divided
  | cons piece others =>
    rw [components_of_pieces_eq_cons given] at divided
    split at divided
    · have kept : (first :: rest).filter (· ≠ ".") = first :: rest := by
        rw [← divided, List.filter_filter]
        simp
      obtain ⟨named, kept⟩ := List.forall_mem_cons.mp (List.filter_eq_self.mp kept)
      exact ⟨fun dot => absurd dot.1 (of_decide_eq_true named), List.filter_eq_self.mpr kept⟩
    · rename_i plain
      obtain ⟨rfl, rfl⟩ := List.cons.inj divided
      exact ⟨plain, by rw [List.filter_filter]; simp⟩

/-- A path in the spelling that the parent of a path has. -/
def tidy (path : String) : String :=
  ofComponents (isAbsolute path) (components path)

theorem isAbsolute_tidy (path : String) : isAbsolute (tidy path) = isAbsolute path := by
  unfold tidy ofComponents
  cases absolute : isAbsolute path with
  | true => simp [isAbsolute]
  | false =>
    cases divided : components path with
    | nil => rfl
    | cons first rest =>
      obtain ⟨nonempty, whole⟩ := whole_of_mem_components (divided ▸ List.mem_cons_self)
      rw [if_neg Bool.false_ne_true, String.empty_append, ← isAbsolute_of_whole whole]
      cases rest with
      | nil => rw [String.intercalate_singleton]
      | cons second rest =>
        rw [String.intercalate_cons_cons, String.append_assoc, isAbsolute_append nonempty]

theorem pieces_tidy (path : String) : pieces (tidy path) = components path := by
  have joined : pieces (String.intercalate "/" (components path)) = components path := by
    by_cases empty : components path = []
    · rw [empty, String.intercalate_nil, pieces_empty]
    · have divided : Text.fields (· = '/') (String.intercalate (String.singleton '/')
          (components path)) = components path := by
        refine Text.fields_intercalate (by simp) empty fun name member c within => ?_
        rw [decide_eq_false_iff_not]
        rintro rfl
        exact (whole_of_mem_components member).2 within
      rw [pieces, show "/" = String.singleton '/' from rfl, divided, List.filter_eq_self]
      exact fun name member => decide_eq_true (whole_of_mem_components member).1
  unfold tidy ofComponents
  split
  · have rooted := pieces_slash "" (String.intercalate "/" (components path))
    rwa [String.empty_append, pieces_empty, List.nil_append, joined] at rooted
  · rwa [String.empty_append]

theorem components_tidy (path : String) : components (tidy path) = components path := by
  have divided := pieces_tidy path
  cases given : components path with
  | nil => exact components_of_pieces_eq_nil (divided.trans given)
  | cons first rest =>
    obtain ⟨plain, kept⟩ := dots_of_components_eq_cons given
    rw [components_of_pieces_eq_cons (divided.trans given), isAbsolute_tidy, if_neg plain, kept]

theorem tidy_tidy (path : String) : tidy (tidy path) = tidy path := by
  rw [tidy, isAbsolute_tidy, components_tidy, tidy]

theorem parent?_join (base : String) (plain : IsPlain name) :
    parent? (join base name) = some (tidy base) := by
  have absolute := isAbsolute_join base (isAbsolute_of_whole plain.whole)
  have divided := components_join base plain
  unfold parent?
  split
  · rename_i empty
    rw [empty] at divided
    exact absurd divided.symm (List.append_ne_nil_of_right_ne_nil _ (List.cons_ne_nil name []))
  · rw [divided, List.dropLast_concat, absolute, tidy]

theorem fileName?_join (base : String) (plain : IsPlain name) :
    fileName? (join base name) = some name := by
  rw [fileName?, components_join base plain, List.getLast?_concat]
  simp [plain.here, plain.above]

theorem withFileName_join (base : String) (plain : IsPlain name) (other : String) :
    withFileName (join base name) other = join (tidy base) other := by
  rw [withFileName, fileName?_join base plain, parent?_join base plain]

end CoupledFs.Host.Path
