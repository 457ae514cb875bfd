import CoupledFs.Proofs.Contents
import CoupledFs.Proofs.Counting
import CoupledFs.Proofs.DriveText
import CoupledFs.Proofs.MakingAndReading

/-! Names that can be written down. What was made at paths that were read from text is listed under
names from which its path can be put together, and the text of that path leads back to it. -/

namespace CoupledFs

namespace PathStyle

variable {style : PathStyle} {root : Root} {name : String}

theorem HasRoot.separator (owned : style.HasRoot root) : root.separator = style.separator := by
  cases style with
  | unix =>
    obtain rfl : root = .slash := owned
    rfl
  | windows =>
    obtain ⟨letter, rfl⟩ := owned
    rfl

end PathStyle

namespace Path

variable {style : PathStyle} {roots : List Root} {root : Root} {name : String}

theorem ofParts_join {path : Path} (rooted : path.root? = some root) (name : String) :
    ofParts (some root) (path.segments ++ [name]) root.separator = some (path.join name) := by
  obtain ⟨first, rest, names⟩ : ∃ first rest, path.segments ++ [name] = first :: rest :=
    List.exists_cons_of_ne_nil (by simp)
  simp only [join, rooted, names, ofParts]
  rfl

theorem heading_display (named : style.rootNamed name = .ok root)
    (owned : ∀ root ∈ roots, style.HasRoot root) (more : String) :
    heading style roots (root.display ++ more) =
      .ok (some root, "" ++ String.singleton style.separator ++ more) := by
  cases style with
  | unix =>
    obtain ⟨-, rfl⟩ := PathStyle.rootNamed_unix_eq_ok_iff.mp named
    exact heading_display_slash roots more
  | windows =>
    obtain ⟨letter, _, drive, -, rfl⟩ := PathStyle.rootNamed_windows_eq_ok_iff.mp named
    exact heading_display_drive owned (PathStyle.splitDrive?_eq_some_iff.mp drive).2 more

/-- Joined to a path whose names are admissible, an admissible name makes a path that is read from its
own text. -/
theorem parse_display_join {path : Path} {rootName : String} (rooted : path.root? = some root)
    (named : style.rootNamed rootName = .ok root) (owned : ∀ root ∈ roots, style.HasRoot root)
    (admitted : ∀ segment ∈ (path.join name).segments, style.Admits segment) :
    parse style roots (path.join name).display [] = .ok (path.join name) := by
  have made := ofParts_join rooted name
  rw [(PathStyle.hasRoot_of_rootNamed named).separator] at made
  exact parse_display_of_heading admitted made (heading_display named owned)

end Path

namespace FileSystem

variable {fs : FileSystem} {graph : Graph} {path : Path}

/-- The file system makes the path of some text. -/
def Spells (fs : FileSystem) (path : Path) : Prop :=
  ∃ first more, ∃ graph : Graph, (fs.getPath first more graph).answer = .ok path

theorem Spells.admits (spelled : fs.Spells path) (opened : fs.isOpen = true) :
    ∀ name ∈ path.segments, fs.config.pathStyle.Admits name := by
  obtain ⟨first, more, graph, got⟩ := spelled
  have read := congrArg Prod.fst (outcome_getPath opened first more graph)
  exact Path.admits_of_ofText (read.symm.trans got)

theorem answer_getPath (opened : fs.isOpen = true)
    (read : Path.parse fs.config.pathStyle fs.roots.roots first more = .ok path) (graph : Graph) :
    (fs.inquire (.getPath first more) graph).answer = .ok (.path path) := by
  change (fs.inquire (.getPath first more) graph).outcome.1 = _
  rw [inquire, Action.outcome_bind, outcome_getPath opened, read]
  rfl

theorem creates?_of_intent {request : Request} {make : Int → Node}
    (about : fs.intent request = .make path make) :
    ∃ kind, request.creates? = some (kind, path) := by
  cases request with
  | createDirectory | createFile | createSymbolicLink =>
    cases about
    exact ⟨_, rfl⟩
  | readBasic | readPosix | checkAccess | listChildren => cases about

theorem answer_listChildren (opened : fs.isOpen = true)
    (found : fs.find? graph path = some node) (directory : (graph.node node).isDirectory = true) :
    (fs.serve (.listChildren path) graph).answer = .ok (.names (graph.namesIn node)) := by
  have about : fs.intent (.listChildren path) = _ := rfl
  have seen := congrArg Prod.fst (outcome_serve_of_found opened about found)
  dsimp only at seen
  rw [namesIn_of_directory directory] at seen
  exact seen

theorem mem_roots_of_get? (anchored : fs.roots.get? root = some start) : root ∈ fs.roots.roots := by
  obtain ⟨front, rest, same, -⟩ := List.lookup_eq_some_iff.mp anchored
  simp [RootTable.roots, same]

end FileSystem

namespace Provider

/-- A name in a directory that stands for something in text as it does in the directory: joined to the
path of the directory, it makes a path whose text is read as that path, and leads to the same node. -/
structure Spelled (provider : Provider) (id : SystemId) (fs : FileSystem) (directory : Path)
    (node : NodeId) (name : String) : Prop where
  admitted : fs.config.pathStyle.Admits name
  denotes : (operate id (.inquire (.getPath (directory.join name).display [])) provider).answer =
    .ok (.finding (.path (directory.join name)))
  leads : ∃ child, provider.graph.child? node name = some child ∧
    fs.find? provider.graph (directory.join name) = some child

section Session

variable (steps : List (Int × Command))
  (rooted : ∀ step ∈ steps, ∀ id table, step.2 ≠ .operate id (.setRoots table))
  {id : SystemId} {fs : FileSystem}
  (there : (({} : Provider).afterAll steps).system? id = some fs) (opened : fs.isOpen = true)
  (spelled : ∀ step ∈ steps, ∀ request kind path, step.2 = .operate id (.request request) →
    request.creates? = some (kind, path) → fs.Spells path)

include rooted there opened spelled

/-- If all that is made is made at paths that were read from text, names are admissible throughout. -/
theorem admitted_afterAll : fs.AllEntries (({} : Provider).afterAll steps).graph
    fun names _ => ∀ name ∈ names, fs.config.pathStyle.Admits name := by
  apply allEntries_afterAll steps rooted
    (fun names _ => ∀ name ∈ names, fs.config.pathStyle.Admits name) _ _ fs there rfl
  · intro name member
    cases member
  · intro step member request asked other _ path make about _
    obtain ⟨kind, creates⟩ := other.creates?_of_intent about
    exact (spelled step member request kind path asked creates).admits opened

/-- What is made at paths that were read from text can be named by text. Every name that an absolute path
of a directory is listed to have is admissible in the style of the file system, and together with the
path it makes a path that is read from its own text and leads to what the directory has under that
name. -/
theorem names_spelled_by_text {directory : Path} {node : NodeId}
    (absolute : directory.isAbsolute = true)
    (found : fs.find? (({} : Provider).afterAll steps).graph directory = some node)
    (isDirectory : ((({} : Provider).afterAll steps).graph.node node).isDirectory = true) :
    let provider := ({} : Provider).afterAll steps
    ∃ names, (operate id (.request (.listChildren directory)) provider).answer =
        .ok (.answer (.names names)) ∧
      (∀ name, name ∈ names ↔ ∃ child, provider.graph.child? node name = some child) ∧
      ∀ name ∈ names, provider.Spelled id fs directory node name := by
  intro provider
  obtain ⟨root, anchor⟩ := Option.isSome_iff_exists.mp absolute
  obtain ⟨_, _, built⟩ := exists_builtBy steps rooted there
  have admitted := admitted_afterAll steps rooted there opened spelled
  have place := (fs.find?_eq_nodeAt? provider.graph directory).symm.trans found
  obtain ⟨start, anchored, -⟩ := Option.bind_eq_some_iff.mp place
  rw [FileSystem.anchor, anchor, Option.getD_some] at anchored
  obtain ⟨rootName, accepted⟩ := built.rootNamed root (FileSystem.mem_roots_of_get? anchored)
  have owned : ∀ root ∈ fs.roots.roots, fs.config.pathStyle.HasRoot root := by
    intro root member
    obtain ⟨name, accepted⟩ := built.rootNamed root member
    exact PathStyle.hasRoot_of_rootNamed accepted
  have listed := answer_operate_request there (.listChildren directory)
  rw [fs.answer_listChildren opened found isDirectory] at listed
  refine ⟨provider.graph.namesIn node, listed, fun name => Graph.mem_namesIn, ?_⟩
  intro name member
  obtain ⟨child, linked⟩ := Graph.mem_namesIn.mp member
  have leads : fs.find? provider.graph (directory.join name) = some child := by
    rw [FileSystem.find?_eq_nodeAt?]
    exact FileSystem.nodeAt?_join place linked
  have segments := admitted.of_found leads
  refine ⟨segments name (by simp), ?_, child, linked, leads⟩
  have read := Path.parse_display_join anchor accepted owned segments
  rw [answer_operate_inquire there, fs.answer_getPath opened read]
  rfl

end Session

/-- A directory on a drive, made where the text `c:/a` leads. -/
theorem names_spelled_by_text_on_drive :
    let top : Path := .root (.drive 'C')
    let path : Path := .element ⟨some (.drive 'C'), ["a"], '\\', by simp⟩
    let steps : List (Int × Command) :=
      [(1, .newFileSystem "key" .windows), (2, .operate 0 (.request (.createDirectory path)))]
    let provider := ({} : Provider).afterAll steps
    (∀ step ∈ steps, ∀ id table, step.2 ≠ .operate id (.setRoots table)) ∧
      ∃ fs, provider.system? 0 = some fs ∧ fs.isOpen = true ∧ fs.Spells path ∧
        (∀ step ∈ steps, ∀ request kind path, step.2 = .operate 0 (.request request) →
          request.creates? = some (kind, path) → fs.Spells path) ∧
        top.isAbsolute = true ∧ fs.find? provider.graph top = some 0 ∧
        (provider.graph.node 0).isDirectory = true ∧ provider.Spelled 0 fs top 0 "a" := by
  intro top path steps provider
  let fs : FileSystem :=
    ⟨.windows, ⟨"memfs", "key", false⟩, {}, ⟨[(.drive 'C', 0)]⟩, .drive 'C',
      ⟨["Administrator"], ["Administrators"]⟩, true⟩
  let start : Graph := ⟨#[.newDirectory 1 0o755 none], 1⟩
  have built : (FileSystem.build "key" .windows true { clock := 1 }).outcome = (.ok fs, start) := rfl
  have about : fs.intent (.createDirectory path) = _ := rfl
  have parented : (path.toAbsolute (.drive 'C')).parent? = some top := rfl
  have free : start.child? 0 "a" = none := rfl
  obtain ⟨rooted, there, graph⟩ :=
    session_of_making built rfl rfl about rfl rfl parented (.here 0) rfl free
  have read : Path.parse .windows [.drive 'C'] "c:/a" [] = .ok path := rfl
  have got := congrArg Prod.fst (fs.outcome_getPath rfl "c:/a" [] {})
  have spells : fs.Spells path := ⟨"c:/a", [], {}, got.trans read⟩
  have spelled : ∀ step ∈ steps, ∀ request kind path, step.2 = .operate 0 (.request request) →
      request.creates? = some (kind, path) → fs.Spells path := by
    intro step member request kind other asked creates
    rcases List.mem_cons.mp member with rfl | member
    · cases asked
    · rw [List.mem_singleton.mp member] at asked
      cases asked
      cases creates
      exact spells
  have found : fs.find? provider.graph top = some 0 := rfl
  have directory : (provider.graph.node 0).isDirectory = true := by
    rw [graph]
    rfl
  have linked : provider.graph.child? 0 "a" = some 1 := by
    rw [graph]
    rfl
  obtain ⟨names, -, listed, each⟩ :=
    names_spelled_by_text steps rooted there rfl spelled rfl found directory
  exact ⟨rooted, fs, there, rfl, spells, spelled, rfl, found, directory,
    each "a" ((listed "a").mpr ⟨1, linked⟩)⟩

end Provider

end CoupledFs
