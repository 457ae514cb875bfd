import CoupledFs.Proofs.Building
import CoupledFs.Proofs.ByteOrder
import Mathlib.Data.List.Nodup

/-! What a table of roots holds: the roots of a list in their order, each once, and each with the
directory that the list mentions last. -/

namespace CoupledFs

namespace Root

variable {a b c : Root}

theorem lt_irrefl (a : Root) : ¬a < a := by
  rintro (name | ⟨-, separator⟩)
  · exact Std.lt_irrefl name
  · exact Std.lt_irrefl separator

theorem lt_trans (first : a < b) (second : b < c) : a < c := by
  rcases first with name | ⟨name, separator⟩ <;> rcases second with name' | ⟨name', separator'⟩
  · exact .inl (Std.lt_trans name name')
  · exact .inl (name' ▸ name)
  · exact .inl (name ▸ name')
  · exact .inr ⟨name.trans name', Std.lt_trans separator separator'⟩

theorem lt_of_not_lt (differs : a ≠ b) (after : ¬a < b) : b < a := by
  rcases Std.lt_trichotomy a.name b.name with name | same | name
  · exact absurd (.inl name) after
  · rcases Std.lt_trichotomy a.separator b.separator with separator | same' | separator
    · exact absurd (.inr ⟨same, separator⟩) after
    · refine absurd ?_ differs
      cases a
      cases b
      cases same
      cases same'
      rfl
    · exact .inr ⟨same.symm, separator⟩
  · exact .inl name

/-- The order of roots compares the bytes of their names first. -/
theorem lt_iff_bytes : a < b ↔
    a.name.toUTF8.data.toList < b.name.toUTF8.data.toList ∨
      a.name = b.name ∧ a.separator < b.separator := by
  rw [Text.toUTF8_lt_iff]
  rfl

end Root

namespace RootTable

variable {entries entries' : List (Root × NodeId)} {root : Root} {directory : NodeId}

/-! ### Entries in order -/

/-- The entries stand in the order of their roots, each root once. -/
def Ordered (entries : List (Root × NodeId)) : Prop :=
  entries.Pairwise (·.1 < ·.1)

theorem eq_or_mem_of_mem_insertEntry {entry : Root × NodeId}
    (member : entry ∈ insertEntry root directory entries) :
    entry.1 = root ∨ entry ∈ entries := by
  induction entries with
  | nil => exact .inl (congrArg Prod.fst (List.mem_singleton.mp member))
  | cons first entries ih =>
    obtain ⟨other, there⟩ := first
    unfold insertEntry at member
    split at member
    · rcases List.mem_cons.mp member with rfl | later
      · exact .inl rfl
      · exact .inr (List.mem_cons_of_mem _ later)
    · split at member
      · rcases List.mem_cons.mp member with rfl | later
        · exact .inl rfl
        · exact .inr later
      · rcases List.mem_cons.mp member with rfl | later
        · exact .inr List.mem_cons_self
        · exact (ih later).imp_right (List.mem_cons_of_mem _)

theorem Ordered.insertEntry (ordered : Ordered entries) (root : Root) (directory : NodeId) :
    Ordered (insertEntry root directory entries) := by
  induction entries with
  | nil => exact List.pairwise_singleton ..
  | cons first entries ih =>
    obtain ⟨other, there⟩ := first
    obtain ⟨least, rest⟩ := List.pairwise_cons.mp ordered
    unfold RootTable.insertEntry
    split
    · subst other
      exact List.pairwise_cons.mpr ⟨least, rest⟩
    · rename_i differs
      split
      · rename_i before
        refine List.pairwise_cons.mpr ⟨fun entry member => ?_, ordered⟩
        rcases List.mem_cons.mp member with rfl | later
        · exact before
        · exact Root.lt_trans before (least entry later)
      · rename_i after
        refine List.pairwise_cons.mpr ⟨fun entry member => ?_, ih rest⟩
        rcases eq_or_mem_of_mem_insertEntry member with rfl | old
        · exact Root.lt_of_not_lt differs after
        · exact least entry old

theorem ordered_ofList (entries : List (Root × NodeId)) : Ordered (ofList entries).entries := by
  induction entries using List.reverseRecOn with
  | nil => exact .nil
  | append_singleton entries entry ih =>
    unfold ofList at ih ⊢
    rw [List.foldl_append]
    exact ih.insertEntry entry.1 entry.2

theorem Ordered.lookup_eq_some_iff (ordered : Ordered entries) :
    entries.lookup root = some directory ↔ (root, directory) ∈ entries := by
  constructor
  · intro found
    obtain ⟨front, back, rfl, -⟩ := List.lookup_eq_some_iff.mp found
    simp
  · intro member
    obtain ⟨front, back, rfl⟩ := List.append_of_mem member
    refine List.lookup_eq_some_iff.mpr ⟨front, back, rfl, fun entry earlier => ?_⟩
    have before := (List.pairwise_append.mp ordered).2.2 entry earlier _ List.mem_cons_self
    have differs : root ≠ entry.1 := by
      rintro rfl
      exact Root.lt_irrefl _ before
    simpa using differs

/-- Ordered entries are known by what a lookup finds in them. -/
theorem Ordered.eq_of_lookup (ordered : Ordered entries) (ordered' : Ordered entries')
    (same : ∀ root, entries.lookup root = entries'.lookup root) : entries = entries' := by
  have asymm {a b : Root × NodeId} (before : a.1 < b.1) (after : b.1 < a.1) : a = b :=
    absurd (Root.lt_trans before after) (Root.lt_irrefl a.1)
  have distinct {entries : List (Root × NodeId)} (ordered : Ordered entries) : entries.Nodup :=
    ordered.imp fun before => by
      rintro rfl
      exact Root.lt_irrefl _ before
  have perm := (List.perm_ext_iff_of_nodup (distinct ordered) (distinct ordered')).mpr
    fun (root, directory) => by
      rw [← ordered.lookup_eq_some_iff, ← ordered'.lookup_eq_some_iff, same]
  exact perm.eq_of_pairwise (fun _ _ _ _ => asymm) ordered ordered'

/-! ### Tables of lists -/

/-- The last entry of a list for a root gives it this directory. -/
def LastMention (entries : List (Root × NodeId)) (root : Root) (directory : NodeId) : Prop :=
  ∃ front back, entries = front ++ (root, directory) :: back ∧ root ∉ back.map Prod.fst

theorem lookup_reverse_eq_some_iff :
    entries.reverse.lookup root = some directory ↔ LastMention entries root directory := by
  rw [List.lookup_eq_some_iff]
  constructor
  · rintro ⟨back, front, same, absent⟩
    refine ⟨front.reverse, back.reverse, ?_, ?_⟩
    · rw [← List.reverse_reverse entries, same]
      simp
    · intro member
      obtain ⟨entry, later, rfl⟩ := List.mem_map.mp member
      simpa using absent entry (List.mem_reverse.mp later)
  · rintro ⟨front, back, rfl, absent⟩
    refine ⟨back.reverse, front.reverse, by simp, fun entry later => ?_⟩
    have differs : root ≠ entry.1 := by
      rintro rfl
      exact absent (List.mem_map_of_mem (List.mem_reverse.mp later))
    simpa using differs

/-- How a table stands to the list that it was made from. -/
structure Tabulates (table : RootTable) (entries : List (Root × NodeId)) : Prop where
  lists : ∀ root, root ∈ table.roots ↔ root ∈ entries.map Prod.fst
  ordered : table.roots.Pairwise (· < ·)
  bytewise : table.roots.Pairwise fun a b =>
    a.name.toUTF8.data.toList < b.name.toUTF8.data.toList ∨
      a.name = b.name ∧ a.separator < b.separator
  size : table.size = table.roots.length
  isEmpty : table.isEmpty = true ↔ table.roots = []
  contains : ∀ root, table.contains root = true ↔ root ∈ table.roots
  knows : ∀ root, (table.get? root).isSome = true ↔ root ∈ table.roots
  last : ∀ root directory, table.get? root = some directory ↔ LastMention entries root directory

theorem contains_iff_mem_roots (table : RootTable) (root : Root) :
    table.contains root = true ↔ root ∈ table.roots := by
  simp [contains, roots]

theorem tabulates_ofList (entries : List (Root × NodeId)) : (ofList entries).Tabulates entries := by
  have ordered : (ofList entries).roots.Pairwise (· < ·) :=
    List.pairwise_map.mpr (ordered_ofList entries)
  refine ⟨fun root => ?_, ordered, ordered.imp Root.lt_iff_bytes.mp, ?_, ?_,
    contains_iff_mem_roots _, get?_isSome_iff_mem_roots _, fun root directory => ?_⟩
  · rw [← get?_isSome_iff_mem_roots, get?_ofList_isSome]
  · rw [roots, List.length_map, size]
  · rw [roots, List.map_eq_nil_iff, isEmpty, List.isEmpty_iff]
  · rw [get?_ofList, lookup_reverse_eq_some_iff]

/-- The table of a list has the roots of the list, each once, in the order of their names and then of
their separators. What it says of its size and of single roots agrees with that, and each root has the
directory that the list mentions last for it. Lists that mention the same directories last for all roots
have the same table, however they are ordered. -/
theorem table_of_last_mentions (entries : List (Root × NodeId)) :
    (ofList entries).Tabulates entries ∧
      ∀ entries' : List (Root × NodeId),
        (∀ root directory, LastMention entries root directory ↔ LastMention entries' root directory) →
        ofList entries = ofList entries' := by
  refine ⟨tabulates_ofList entries, fun entries' same => ?_⟩
  have found (root : Root) : (ofList entries).get? root = (ofList entries').get? root := by
    refine Option.ext fun directory => ?_
    rw [(tabulates_ofList entries).last, (tabulates_ofList entries').last, same]
  exact congrArg mk ((ordered_ofList entries).eq_of_lookup (ordered_ofList entries') found)

/-- A name beyond the basic plane comes behind one at its end, and the root that is mentioned again gets
its later directory. -/
theorem table_of_last_mentions_beyond_plane :
    let inner : Root := ⟨"\uFFFD", '/'⟩
    let outer : Root := ⟨"𐀀", '/'⟩
    let entries := [(outer, 0), (inner, 1), (outer, 2)]
    let entries' := [(outer, 2), (inner, 1)]
    (ofList entries).roots = [inner, outer] ∧ (ofList entries).get? outer = some 2 ∧
      (ofList entries).Tabulates entries ∧
      (∀ root directory, LastMention entries root directory ↔ LastMention entries' root directory) ∧
      ofList entries = ofList entries' := by
  intro inner outer entries entries'
  have same (root : Root) (directory : NodeId) :
      LastMention entries root directory ↔ LastMention entries' root directory := by
    rw [← lookup_reverse_eq_some_iff, ← lookup_reverse_eq_some_iff]
    by_cases last : root = outer
    · subst last
      rfl
    · have differs : (root == outer) = false := by simpa using last
      simp [entries, entries', List.lookup_cons, differs]
  obtain ⟨tabulates, unique⟩ := table_of_last_mentions entries
  have roots : (ofList entries).roots = [inner, outer] := by decide
  have outer_last : LastMention entries outer 2 := ⟨[(outer, 0), (inner, 1)], [], rfl, by simp⟩
  exact ⟨roots, (tabulates.last outer 2).mpr outer_last, tabulates, same, unique entries' same⟩

end RootTable

end CoupledFs
