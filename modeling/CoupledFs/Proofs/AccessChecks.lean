import CoupledFs.Proofs.Session
import CoupledFs.Proofs.Upkeep
import Mathlib.Data.Nat.Bitwise

/-! Access checks. Whether there is a node comes first, then what its mode grants its owner, and last
whether the store can be written to. -/

namespace CoupledFs

namespace AccessMode

/-- The place of the bit that grants a mode to the owner. -/
def place : AccessMode → Nat
  | read => 8
  | write => 7
  | execute => 6

theorem toNat_ownerBit (mode : AccessMode) : mode.ownerBit.toNat = 2 ^ mode.place := by
  cases mode <;> rfl

theorem word_injective {mode mode' : AccessMode} (same : mode.word = mode'.word) : mode = mode' := by
  cases mode <;> cases mode' <;> first | rfl | exact absurd same (by decide)

end AccessMode

def FsError.notPermitted (shown : String) (mode : AccessMode) : FsError :=
  .accessDenied (shown ++ ": " ++ (FsError.accessDenied (mode.word ++ " not permitted")).message)

def FsError.storeReadOnly (shown : String) : FsError :=
  .accessDenied (shown ++ ": read-only file system")

namespace FsError

theorem notPermitted_inj {shown : String} {mode mode' : AccessMode} :
    notPermitted shown mode = notPermitted shown mode' ↔ mode = mode' := by
  constructor
  · intro same
    have message := (String.append_right_inj _).mp (accessDenied.inj same)
    exact AccessMode.word_injective
      ((String.append_left_inj _).mp ((String.append_right_inj _).mp message))
  · rintro rfl
    rfl

theorem notPermitted_ne_storeReadOnly (shown : String) (mode : AccessMode) :
    notPermitted shown mode ≠ storeReadOnly shown := by
  intro same
  have reason := accessDenied.inj same
  rw [String.append_assoc] at reason
  have message := (String.append_right_inj _).mp reason
  revert message
  cases mode <;> decide

end FsError

namespace Node

variable {node : Node} {mode : AccessMode} {modes : List AccessMode}

def Grants (node : Node) (mode : AccessMode) : Prop :=
  node.mode.toNat.testBit mode.place = true

instance (node : Node) (mode : AccessMode) : Decidable (node.Grants mode) :=
  inferInstanceAs (Decidable (_ = true))

/-- The first mode in a list that a node does not grant. -/
def FirstDenied (node : Node) (modes : List AccessMode) (mode : AccessMode) : Prop :=
  ∃ front back, modes = front ++ mode :: back ∧ (∀ earlier ∈ front, node.Grants earlier) ∧
    ¬node.Grants mode

theorem and_ownerBit_eq_zero_iff : node.mode &&& mode.ownerBit = 0 ↔ ¬node.Grants mode := by
  rw [← UInt32.toNat_inj, UInt32.toNat_and, AccessMode.toNat_ownerBit, Nat.and_two_pow, Grants]
  cases node.mode.toNat.testBit mode.place <;> simp

theorem FirstDenied.unique {mode' : AccessMode} (first : node.FirstDenied modes mode)
    (first' : node.FirstDenied modes mode') : mode = mode' := by
  obtain ⟨front, back, rfl, granted, denied⟩ := first
  obtain ⟨front', back', split, granted', denied'⟩ := first'
  rcases List.append_eq_append_iff.mp split with ⟨more, rfl, rest⟩ | ⟨more, rfl, rest⟩
  · cases more with
    | nil => exact (List.cons.inj rest).1
    | cons other more =>
      obtain ⟨rfl, -⟩ := List.cons.inj rest
      exact absurd (granted' mode (by simp)) denied
  · cases more with
    | nil => exact (List.cons.inj rest).1.symm
    | cons other more =>
      obtain ⟨rfl, -⟩ := List.cons.inj rest
      exact absurd (granted mode' (by simp)) denied'

theorem FirstDenied.not_all (first : node.FirstDenied modes mode) :
    ¬∀ mode ∈ modes, node.Grants mode := by
  obtain ⟨front, back, rfl, -, denied⟩ := first
  exact fun all => denied (all mode (by simp))

theorem checkAccess_cases (node : Node) (modes : List AccessMode) :
    (∃ mode, node.FirstDenied modes mode ∧
      node.checkAccess modes = .error (.accessDenied (mode.word ++ " not permitted"))) ∨
    (∀ mode ∈ modes, node.Grants mode) ∧ node.checkAccess modes = .ok () := by
  have denies (mode : AccessMode) :
      decide (node.mode &&& mode.ownerBit = 0) = true ↔ ¬node.Grants mode := by
    rw [decide_eq_true_eq, and_ownerBit_eq_zero_iff]
  unfold checkAccess
  cases found : modes.find? fun mode => node.mode &&& mode.ownerBit = 0 with
  | none =>
    refine .inr ⟨fun mode member => ?_, rfl⟩
    exact not_not.mp (mt (denies mode).mpr (List.find?_eq_none.mp found mode member))
  | some mode =>
    obtain ⟨denied, front, back, split, granted⟩ := List.find?_eq_some_iff_append.mp found
    refine .inl ⟨mode, ⟨front, back, split, fun earlier member => ?_, (denies mode).mp denied⟩, rfl⟩
    have passed := granted earlier member
    rw [Bool.not_eq_true'] at passed
    exact not_not.mp (mt (denies earlier).mpr (by rw [passed]; exact Bool.false_ne_true))

/-- What is answered to those who want to use a node in some modes, where `shown` is the node's path. -/
structure Judges (node : Node) (readOnly : Bool) (shown : String) (modes : List AccessMode)
    (answer : Except FsError Response) : Prop where
  succeeds : answer = .ok (.answer .done) ↔
    (∀ mode ∈ modes, node.Grants mode) ∧ (readOnly = false ∨ .write ∉ modes)
  denies : ∀ mode, answer = .error (.notPermitted shown mode) ↔ node.FirstDenied modes mode
  protects : answer = .error (.storeReadOnly shown) ↔
    (∀ mode ∈ modes, node.Grants mode) ∧ readOnly = true ∧ .write ∈ modes
  fails : ∀ error, answer = .error error →
    (∃ mode, error = .notPermitted shown mode) ∨ error = .storeReadOnly shown

end Node

namespace FileSystem

variable {fs : FileSystem} {graph : Graph}

theorem judges_accessTo (fs : FileSystem) (node : Node) (absolute : Path)
    (modes : List AccessMode) : node.Judges fs.store.readOnly absolute.display modes
      (((fs.accessTo modes absolute node).map fun _ => Answer.done).map Response.answer) := by
  rcases node.checkAccess_cases modes with ⟨mode, first, checked⟩ | ⟨all, checked⟩
  · have judged : fs.accessTo modes absolute node = .error (.notPermitted absolute.display mode) := by
      simp only [accessTo, checked]
      rfl
    rw [judged]
    refine ⟨?_, fun other => ?_, ?_, ?_⟩
    · simp [Except.map, first.not_all]
    · simp only [Except.map, Except.error.injEq, FsError.notPermitted_inj]
      exact ⟨fun same => same ▸ first, first.unique⟩
    · simp [Except.map, FsError.notPermitted_ne_storeReadOnly, first.not_all]
    · rintro error ⟨⟩
      exact .inl ⟨mode, rfl⟩
  · have never (mode : AccessMode) : ¬node.FirstDenied modes mode := fun first => first.not_all all
    by_cases barred : fs.store.readOnly = true ∧ .write ∈ modes
    · have judged : fs.accessTo modes absolute node = .error (.storeReadOnly absolute.display) := by
        simp only [accessTo, checked]
        exact if_pos barred
      rw [judged]
      refine ⟨?_, fun mode => ?_, ?_, ?_⟩
      · simp [Except.map, barred]
      · simp [Except.map, never, (FsError.notPermitted_ne_storeReadOnly _ mode).symm]
      · simpa [Except.map, barred] using all
      · rintro error ⟨⟩
        exact .inr rfl
    · have judged : fs.accessTo modes absolute node = .ok () := by
        simp only [accessTo, checked]
        exact if_neg barred
      rw [judged]
      refine ⟨?_, fun mode => ?_, ?_, ?_⟩
      · simp only [Except.map, true_iff]
        exact ⟨all, (Decidable.not_and_iff_or_not.mp barred).imp_left Bool.eq_false_of_not_eq_true⟩
      · simp [Except.map, never]
      · simpa [Except.map] using fun _ => not_and.mp barred
      · rintro error ⟨⟩

/-- At a path there is no node, which is why attributes cannot be read and access is refused, or there
is one, whose mode and store decide. -/
theorem access_cases (opened : fs.isOpen = true) (graph : Graph) (path : Path) :
    (fs.find? graph path = none ∧ ∃ error,
      (fs.serve (.readBasic path) graph).answer = .error error ∧
      ∀ modes, (fs.serve (.checkAccess path modes) graph).answer = .error error) ∨
    ∃ node, fs.find? graph path = some node ∧
      (fs.serve (.readBasic path) graph).answer = .ok (.basic (graph.node node).basicAttributes) ∧
      ∀ modes, (graph.node node).Judges fs.store.readOnly (path.toAbsolute fs.defaultRoot).display
        modes ((fs.serve (.checkAccess path modes) graph).answer.map .answer) := by
  cases found : fs.find? graph path with
  | none =>
    obtain ⟨error, fails⟩ := exists_error_of_lost opened found
    exact .inl ⟨rfl, error, congrArg Prod.fst (fails (.readBasic path) _ rfl),
      fun modes => congrArg Prod.fst (fails (.checkAccess path modes) _ rfl)⟩
  | some node =>
    have basic : fs.intent (.readBasic path) = _ := rfl
    refine .inr ⟨node, rfl, congrArg Prod.fst (outcome_serve_of_found opened basic found),
      fun modes => ?_⟩
    have access : fs.intent (.checkAccess path modes) = _ := rfl
    have seen : (fs.serve (.checkAccess path modes) graph).answer = _ :=
      congrArg Prod.fst (outcome_serve_of_found opened access found)
    rw [seen]
    exact fs.judges_accessTo (graph.node node) _ modes

end FileSystem

namespace Provider

variable {provider : Provider} {id : SystemId} {fs : FileSystem}

/-- Whoever asks for access to a path of an open file system is told what is wrong with the path, just
as when reading attributes there, or is judged by the node: by the owner's bits in its mode first, and
then by whether the store can be written to. Asking for two lists of modes at once is asking for both,
and neither order nor repetition matters to who gets access. -/
theorem access_judged (there : provider.system? id = some fs) (opened : fs.isOpen = true)
    (path : Path) :
    let basic := (operate id (.request (.readBasic path)) provider).answer
    let access (modes : List AccessMode) :=
      (operate id (.request (.checkAccess path modes)) provider).answer
    let granted := Except.ok (.answer .done)
    ((fs.find? provider.graph path = none ∧ ∃ error, basic = .error error ∧
        ∀ modes, access modes = .error error) ∨
      ∃ node, fs.find? provider.graph path = some node ∧
        basic = .ok (.answer (.basic (provider.graph.node node).basicAttributes)) ∧
        ∀ modes, (provider.graph.node node).Judges fs.store.readOnly
          (path.toAbsolute fs.defaultRoot).display modes (access modes)) ∧
      (∀ modes modes', access (modes ++ modes') = granted ↔
        access modes = granted ∧ access modes' = granted) ∧
      ∀ modes modes', (∀ mode, mode ∈ modes ↔ mode ∈ modes') →
        (access modes = granted ↔ access modes' = granted) := by
  intro basic access granted
  have access_eq (modes : List AccessMode) :
      access modes = (fs.serve (.checkAccess path modes) provider.graph).answer.map .answer :=
    answer_operate_request there _
  have basic_eq : basic = (fs.serve (.readBasic path) provider.graph).answer.map .answer :=
    answer_operate_request there _
  rcases fs.access_cases opened provider.graph path with
    ⟨lost, error, unread, refused⟩ | ⟨node, found, read, judged⟩
  · have refused (modes : List AccessMode) : access modes = .error error := by
      rw [access_eq, refused]
      rfl
    refine ⟨.inl ⟨lost, error, ?_, refused⟩, fun modes modes' => ?_, fun modes modes' _ => ?_⟩
    · rw [basic_eq, unread]
      rfl
    · simp [refused, granted]
    · simp [refused]
  · have judged (modes : List AccessMode) := access_eq modes ▸ judged modes
    refine ⟨.inr ⟨node, found, ?_, judged⟩, fun modes modes' => ?_, fun modes modes' same => ?_⟩
    · rw [basic_eq, read]
      rfl
    · rw [(judged _).succeeds, (judged modes).succeeds, (judged modes').succeeds]
      simp only [List.mem_append, or_imp, forall_and]
      tauto
    · rw [(judged modes).succeeds, (judged modes').succeeds]
      simp only [same]

/-- The root of a store that is read-only, with a mode that lets its owner read and write: that nothing
can be executed is said before that nothing can be written. -/
theorem access_judged_at_root :
    let config := { Config.unix with readOnly := true, directoryMode := 0o600 }
    let provider := ({} : Provider).afterAll [(1, .newFileSystem "key" config)]
    let access (modes : List AccessMode) :=
      (operate 0 (.request (.checkAccess (.root .slash) modes)) provider).answer
    (∃ fs, provider.system? 0 = some fs ∧ fs.isOpen = true) ∧
      access [.read, .read] = .ok (.answer .done) ∧
      access [.write, .execute] = .error (.notPermitted "/" .execute) ∧
      access [.read, .write] = .error (.storeReadOnly "/") := by
  intro config provider access
  let fs : FileSystem := ⟨config, ⟨"memfs", "key", true⟩, {}, ⟨[(.slash, 0)]⟩, .slash,
    ⟨["root"], ["root"]⟩, true⟩
  have there : provider.system? 0 = some fs := rfl
  have root : provider.graph.node 0 = .newDirectory 1 0o600 (some ⟨"root", "root"⟩) := rfl
  have grants (mode : AccessMode) : (provider.graph.node 0).Grants mode ↔ mode ≠ .execute := by
    rw [root]
    cases mode <;> decide
  have shown : ((Path.root .slash).toAbsolute fs.defaultRoot).display = "/" := by decide
  obtain ⟨⟨lost, -⟩ | ⟨node, found, -, judged⟩, -, -⟩ :=
    access_judged there rfl (.root .slash)
  · cases lost
  · cases found
    rw [shown] at judged
    refine ⟨⟨fs, there, rfl⟩, (judged _).succeeds.mpr ?_, ((judged _).denies .execute).mpr ?_,
      (judged _).protects.mpr ?_⟩
    · simp [grants]
    · exact ⟨[.write], [], rfl, by simp [grants], by simp [grants]⟩
    · simp [grants, fs]

end Provider

end CoupledFs
