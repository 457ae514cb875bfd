import CoupledFs.Proofs.Forest
import CoupledFs.Proofs.PathModel
import CoupledFs.Proofs.Session
import CoupledFs.Proofs.Untimed

/-! What answers depend on. A request depends on the tree of its root and on no other, and an inquiry on
which roots there are, but not on what they stand for. -/

namespace CoupledFs

def Request.path : Request → Path
  | .createDirectory path | .createFile path | .createSymbolicLink path _ => path
  | .readBasic path | .readPosix path | .checkAccess path _ | .listChildren path => path

namespace PathModel

variable (config : Config) (defaultRoot : Root) {model other : PathModel}

theorem locate_eq (model : PathModel) (path : Path) : model.locate defaultRoot path =
    match model.maps (path.root?.getD defaultRoot) with
    | some map => .ok (path.toAbsolute defaultRoot, path.root?.getD defaultRoot, map)
    | none => .error (.noSuchFile ("the root of " ++ path.display ++ " does not exist")) := by
  simp only [locate, path.root?_toAbsolute, Option.bind_some]
  cases model.maps (path.root?.getD defaultRoot) <;> rfl

theorem create_elsewhere (model : PathModel) (path : Path) (entry : Descriptor) :
    (model.create config defaultRoot path entry).2.isOpen = model.isOpen ∧
      ∀ root, root ≠ path.root?.getD defaultRoot →
        (model.create config defaultRoot path entry).2.maps root = model.maps root := by
  rw [create, locate_eq]
  cases model.maps (path.root?.getD defaultRoot) with
  | none => exact ⟨rfl, fun _ _ => rfl⟩
  | some map =>
    dsimp only
    split
    · exact ⟨rfl, fun _ _ => rfl⟩
    · split
      · exact ⟨rfl, fun _ _ => rfl⟩
      · exact ⟨rfl, fun root differs => Function.update_of_ne differs _ _⟩

theorem create_congr (path : Path) (entry : Descriptor)
    (same : model.maps (path.root?.getD defaultRoot) = other.maps (path.root?.getD defaultRoot)) :
    (model.create config defaultRoot path entry).1 =
        (other.create config defaultRoot path entry).1 ∧
      (model.create config defaultRoot path entry).2.maps (path.root?.getD defaultRoot) =
        (other.create config defaultRoot path entry).2.maps (path.root?.getD defaultRoot) := by
  rw [create, create, locate_eq, locate_eq, ← same]
  cases there : model.maps (path.root?.getD defaultRoot) with
  | none => exact ⟨rfl, same⟩
  | some map =>
    rw [there] at same
    dsimp only
    split
    · exact ⟨rfl, there.trans same⟩
    · split
      · exact ⟨rfl, there.trans same⟩
      · refine ⟨rfl, ?_⟩
        dsimp only
        rw [Function.update_self, Function.update_self]

theorem look_congr (path : Path) (view : Path → PathMap → Descriptor → Except FsError Answer)
    (same : model.maps (path.root?.getD defaultRoot) = other.maps (path.root?.getD defaultRoot)) :
    model.look defaultRoot path view = other.look defaultRoot path view := by
  rw [look, look, locate_eq, locate_eq, same]

theorem serve_elsewhere (model : PathModel) (request : Request) :
    (model.serve config defaultRoot request).2.isOpen = model.isOpen ∧
      ∀ root, root ≠ request.path.root?.getD defaultRoot →
        (model.serve config defaultRoot request).2.maps root = model.maps root := by
  unfold serve
  split
  · exact ⟨rfl, fun _ _ => rfl⟩
  · cases request with
    | createDirectory path | createFile path | createSymbolicLink path target =>
      exact model.create_elsewhere config defaultRoot path _
    | readBasic | readPosix | checkAccess | listChildren => exact ⟨rfl, fun _ _ => rfl⟩

theorem serve_congr (request : Request) (opened : model.isOpen = other.isOpen)
    (same : model.maps (request.path.root?.getD defaultRoot) =
      other.maps (request.path.root?.getD defaultRoot)) :
    (model.serve config defaultRoot request).1 = (other.serve config defaultRoot request).1 ∧
      (model.serve config defaultRoot request).2.maps (request.path.root?.getD defaultRoot) =
        (other.serve config defaultRoot request).2.maps (request.path.root?.getD defaultRoot) := by
  unfold serve
  rw [opened]
  split
  · exact ⟨rfl, same⟩
  · cases request with
    | createDirectory path | createFile path | createSymbolicLink path target =>
      exact create_congr config defaultRoot path _ same
    | readBasic path | readPosix path | checkAccess path modes | listChildren path =>
      refine ⟨?_, same⟩
      dsimp only
      exact look_congr defaultRoot path _ same

end PathModel

/-! ### What can be seen of responses -/

namespace RootTable

/-- The table without what its roots stand for. -/
def bare (table : RootTable) : RootTable :=
  ⟨table.entries.map fun (root, _) => (root, 0)⟩

theorem roots_bare (table : RootTable) : table.bare.roots = table.roots := by
  simp [bare, roots]

theorem get?_bare (table : RootTable) (root : Root) :
    table.bare.get? root = (table.get? root).map fun _ => 0 := by
  unfold bare get?
  induction table.entries with
  | nil => rfl
  | cons entry entries ih =>
    obtain ⟨first, directory⟩ := entry
    by_cases same : root = first
    · simp [same]
    · have differs : (root == first) = false := by simpa using same
      simp only [List.map_cons, List.lookup_cons, differs, ih]

theorem bare_insert (table : RootTable) (root : Root) (directory : NodeId) :
    (table.insert root directory).bare = table.bare.insert root 0 := by
  simp only [bare, insert, mk.injEq]
  induction table.entries with
  | nil => rfl
  | cons entry entries ih =>
    obtain ⟨first, there⟩ := entry
    simp only [insertEntry, List.map_cons]
    split
    · rfl
    · split
      · rfl
      · rw [List.map_cons, ih]

theorem bare_ofList (entries : List (Root × NodeId)) :
    (ofList entries).bare = ofList (entries.map fun (root, _) => (root, 0)) := by
  induction entries using List.reverseRecOn with
  | nil => rfl
  | append_singleton entries entry ih =>
    unfold ofList at ih ⊢
    rw [List.map_append, List.foldl_append, List.foldl_append, ← ih]
    exact bare_insert _ entry.1 entry.2

end RootTable

/-- What a finding shows, besides which nodes there are. -/
def Finding.shown : Finding → Finding
  | .roots table => .roots table.bare
  | finding => finding

/-- What a response shows, besides times and which nodes there are. -/
def Response.shown : Response → Response
  | .answer given => .answer given.untimed
  | .finding found => .finding found.shown
  | .system id => .system id
  | .done => .done

theorem Response.shown_answer (given : Except FsError Answer) :
    (given.map answer).map shown = (given.map Answer.untimed).map answer := by
  cases given <;> rfl

theorem Response.shown_finding (found : Except FsError Finding) :
    (found.map finding).map shown = (found.map Finding.shown).map finding := by
  cases found <;> rfl

namespace FileSystem

/-- The file system without what its roots stand for. -/
def uprooted (fs : FileSystem) : FileSystem :=
  fs.withRoots fs.roots.bare

variable {fs twin : FileSystem}

theorem eq_withRoots_of_uprooted (same : fs.uprooted = twin.uprooted) :
    ∃ table, twin = fs.withRoots table ∧ fs.roots.bare = table.bare := by
  have restored : twin.uprooted.withRoots twin.roots = twin := rfl
  rw [← same] at restored
  exact ⟨twin.roots, restored.symm, congrArg FileSystem.roots same⟩

theorem resolveRoot_withRoots {table : RootTable} (bare : fs.roots.bare = table.bare) (path : Path) :
    (fs.resolveRoot path).map (fun _ => ()) =
      ((fs.withRoots table).resolveRoot path).map fun _ => () := by
  have known : (fs.roots.get? (path.root?.getD fs.defaultRoot)).map (fun _ => 0) =
      (table.get? (path.root?.getD fs.defaultRoot)).map fun _ => 0 := by
    rw [← RootTable.get?_bare, bare, RootTable.get?_bare]
  simp only [resolveRoot, path.root?_toAbsolute, Option.bind_some, withRoots]
  cases mine : fs.roots.get? (path.root?.getD fs.defaultRoot) <;>
    cases yours : table.get? (path.root?.getD fs.defaultRoot) <;>
    simp [mine, yours, Except.map] at known ⊢

theorem answer_whileOpen {α β : Type} (fs : FileSystem) (operation : String) (action : Action Graph α)
    (f : α → β) (graph : Graph) :
    ((do
      let value ← (do
        fs.ensureOpen operation
        action)
      return f value : Action Graph β) graph).answer =
      fs.lifecycle.check.bind fun _ => (action graph).answer.map f := by
  change Prod.fst (Reply.outcome ((f <$> (do
    fs.ensureOpen operation
    action)) graph)) = _
  rw [Action.outcome_map, Action.outcome_bind, outcome_ensureOpen]
  cases fs.lifecycle.check <;> rfl

/-- What an inquiry finds depends on the roots, and not on what they stand for. -/
theorem shown_inquire (same : fs.uprooted = twin.uprooted) (inquiry : Inquiry)
    (graph graph' : Graph) : (fs.inquire inquiry graph).answer.map Finding.shown =
      (twin.inquire inquiry graph').answer.map Finding.shown := by
  obtain ⟨table, rfl, bare⟩ := eq_withRoots_of_uprooted same
  have guarded {α : Type} (operation : String) {action action' : Action Graph α} (f : α → Finding)
      (alike : ((action graph).answer.map f).map Finding.shown =
        ((action' graph').answer.map f).map Finding.shown) :
      ((do
        let value ← (do
          fs.ensureOpen operation
          action)
        return f value : Action Graph Finding) graph).answer.map Finding.shown =
      ((do
        let value ← (do
          (fs.withRoots table).ensureOpen operation
          action')
        return f value : Action Graph Finding) graph').answer.map Finding.shown := by
    rw [answer_whileOpen, answer_whileOpen, withRoots]
    cases fs.lifecycle.check with
    | error error => rfl
    | ok => exact alike
  cases inquiry with
  | newByteChannel path =>
    refine guarded _ (fun _ => .nothing) ?_
    have missing := resolveRoot_withRoots bare path
    cases mine : fs.resolveRoot path <;> cases yours : (fs.withRoots table).resolveRoot path <;>
      rw [mine, yours] at missing <;> cases missing <;> rfl
  | newDirectoryStream | delete | pathMatcher | newWatchService =>
    exact guarded _ (fun _ => .nothing) rfl
  | isReadOnly => exact guarded _ .flag rfl
  | separator => exact guarded _ .separator rfl
  | rootDirectories => exact guarded _ .roots (congrArg (Except.ok ∘ Finding.roots) bare)
  | fileStores => exact guarded _ .stores rfl
  | attributeViews => exact guarded _ .views rfl
  | getPath first more =>
    have roots : fs.roots.roots = table.roots := by
      rw [← RootTable.roots_bare, bare, RootTable.roots_bare]
    refine guarded _ .path ?_
    rw [roots]
    rfl
  | lookupService => exact guarded _ .principals rfl
  | isOpen | key | fileStore => rfl

end FileSystem

end CoupledFs
