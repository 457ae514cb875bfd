import CoupledFs.Proofs.Contents

/-! Owners and modes. All that is in the trees of a file system bears the owner and the mode that the
configuration has for its kind, so that the attributes of the one view tell those of the other. -/

namespace CoupledFs

def Config.modeOf (config : Config) : NodeKind → UInt32
  | .directory => config.directoryMode
  | .file => config.fileMode
  | .symlink => symlinkMode

/-- An entry with the owner and the mode that a configuration has for its kind. -/
structure Descriptor.Stamped (entry : Descriptor) (config : Config) : Prop where
  owned : entry.ownership = config.ownership
  permitted : entry.mode = config.modeOf entry.kind

theorem Node.posixAttributes_of_stamped {node : Node} {config : Config}
    (stamped : node.descriptor.Stamped config) : node.posixAttributes =
      if config.supports .posix then
        .ok ⟨node.basicAttributes, config.owner, config.group, config.modeOf node.kind &&& 0o7777⟩
      else .error (.unsupportedAttribute PosixAttributes.viewName) := by
  have owned : node.ownership = config.ownership := stamped.owned
  have permitted : node.mode = config.modeOf node.kind := stamped.permitted
  rw [posixAttributes, owned, permitted, Config.ownership]
  split
  · rename_i shown
    split at shown
    · cases shown
      rename_i supported
      rw [if_pos supported]
    · cases shown
  · rename_i hidden
    split at hidden
    · cases hidden
    · rename_i unsupported
      rw [if_neg unsupported]

namespace FileSystem

variable {fs : FileSystem} {graph : Graph}

theorem stamped_of_intent {path : Path} {make : Int → Node}
    (about : fs.intent request = .make path make) (now : Int) :
    (make now).descriptor.Stamped fs.config := by
  cases request with
  | createDirectory | createFile | createSymbolicLink =>
    cases about
    exact ⟨rfl, rfl⟩
  | readBasic | readPosix | checkAccess | listChildren => cases about

theorem answer_attributeViews (opened : fs.isOpen = true) (graph : Graph) : ∃ names,
    (fs.inquire .attributeViews graph).answer = .ok (.views names) ∧
      ("posix" ∈ names ↔ fs.config.supports .posix = true) := by
  have shown : (fs.inquire .attributeViews graph).outcome.1 =
      .ok (.views (([.basic, .posix].filter fs.config.supports).map AttributeView.name)) := by
    rw [inquire, Action.outcome_bind, attributeViews, Action.outcome_bind, outcome_ensureOpen,
      check_of_open opened]
    rfl
  refine ⟨_, shown, ?_⟩
  constructor
  · intro listed
    obtain ⟨view, member, named⟩ := List.mem_map.mp listed
    cases view with
    | basic => exact absurd named (by decide)
    | posix => exact (List.mem_filter.mp member).2
  · intro supported
    exact List.mem_map.mpr ⟨.posix, List.mem_filter.mpr ⟨by simp, supported⟩, rfl⟩

/-- The attributes at a path are read off one node, or there are none for one reason. -/
theorem attributes_cases (opened : fs.isOpen = true) (graph : Graph) (path : Path) :
    (∃ error, (fs.serve (.readBasic path) graph).answer = .error error ∧
      (fs.serve (.readPosix path) graph).answer = .error error) ∨
    ∃ node, fs.find? graph path = some node ∧
      (fs.serve (.readBasic path) graph).answer = .ok (.basic (graph.node node).basicAttributes) ∧
      (fs.serve (.readPosix path) graph).answer = (graph.node node).posixAttributes.map .posix := by
  cases found : fs.find? graph path with
  | none =>
    obtain ⟨error, fails⟩ := exists_error_of_lost opened found
    exact .inl ⟨error, congrArg Prod.fst (fails (.readBasic path) _ rfl),
      congrArg Prod.fst (fails (.readPosix path) _ rfl)⟩
  | some node =>
    have basic : fs.intent (.readBasic path) = _ := rfl
    have posix : fs.intent (.readPosix path) = _ := rfl
    exact .inr ⟨node, rfl, congrArg Prod.fst (outcome_serve_of_found opened basic found),
      congrArg Prod.fst (outcome_serve_of_found opened posix found)⟩

end FileSystem

/-- How the answers to reading the basic and the posix attributes at a path go together, where there are
views of the given names. -/
structure ViewsAgree (config : Config) (names : List String)
    (basic posix : Except FsError Response) : Prop where
  succeeds : (∃ response, posix = .ok response) ↔
    (∃ response, basic = .ok response) ∧ "posix" ∈ names
  fails : ∀ error, basic = .error error → posix = .error error
  unsupported : ∀ response, basic = .ok response → "posix" ∉ names →
    posix = .error (.unsupportedAttribute "posix")
  agrees : ∀ response, posix = .ok response → ∃ attributes : PosixAttributes,
    response = .answer (.posix attributes) ∧ basic = .ok (.answer (.basic attributes.basic)) ∧
      attributes.owner = config.owner ∧ attributes.group = config.group ∧
      attributes.permissions = config.modeOf attributes.basic.kind &&& 0o7777

namespace ViewsAgree

variable {config : Config} {names : List String}

theorem of_error (error : FsError) : ViewsAgree config names (.error error) (.error error) where
  succeeds := by simp
  fails := fun _ same => same
  unsupported := nofun
  agrees := nofun

theorem of_stamped {node : Node} (stamped : node.descriptor.Stamped config)
    (listed : "posix" ∈ names ↔ config.supports .posix = true) :
    ViewsAgree config names (.ok (.answer (.basic node.basicAttributes)))
      ((node.posixAttributes.map .posix).map .answer) := by
  rw [Node.posixAttributes_of_stamped stamped]
  by_cases supported : config.supports .posix = true
  · rw [if_pos supported]
    refine ⟨?_, nofun, fun _ _ missing => absurd (listed.mpr supported) missing, ?_⟩
    · exact ⟨fun _ => ⟨⟨_, rfl⟩, listed.mpr supported⟩, fun _ => ⟨_, rfl⟩⟩
    · intro response same
      cases same
      exact ⟨_, rfl, rfl, rfl, rfl, rfl⟩
  · rw [if_neg supported]
    refine ⟨?_, nofun, fun _ _ _ => rfl, nofun⟩
    constructor
    · intro succeeded
      obtain ⟨_, impossible⟩ := succeeded
      cases impossible
    · intro both
      exact absurd (listed.mp both.2) supported

end ViewsAgree

namespace Provider

/-- Whatever is asked of file systems in the course of a session, all that is in their trees is
stamped, the roots included, as long as nobody gives them other roots. -/
theorem stamped_afterAll (steps : List (Int × Command))
    (rooted : ∀ step ∈ steps, ∀ id table, step.2 ≠ .operate id (.setRoots table))
    {id : SystemId} {fs : FileSystem}
    (there : (({} : Provider).afterAll steps).system? id = some fs) :
    fs.AllEntries (({} : Provider).afterAll steps).graph fun _ entry => entry.Stamped fs.config := by
  apply allEntries_afterAll steps rooted (fun _ entry => entry.Stamped fs.config) ⟨rfl, rfl⟩ _ fs
    there rfl
  intro _ _ request _ other same path make about now
  rw [← same]
  exact other.stamped_of_intent about now

/-- The file system that a session leaves open was built in it from a valid configuration. At each path,
it shows the posix attributes just if it shows the basic ones and has the posix view. Then they are the
basic ones with the owner, the group and the permissions that the configuration has for the kind of the
node; and if it does not show the basic ones, it gives the same reason for both. -/
theorem posix_view_agrees_with_basic (steps : List (Int × Command))
    (rooted : ∀ step ∈ steps, ∀ id table, step.2 ≠ .operate id (.setRoots table))
    {id : SystemId} {fs : FileSystem}
    (there : (({} : Provider).afterAll steps).system? id = some fs) (opened : fs.isOpen = true)
    (path : Path) :
    let provider := ({} : Provider).afterAll steps
    fs.config.validate = .ok () ∧ (∃ step ∈ steps, fs.BuiltBy step.2) ∧ ∃ names,
      (operate id (.inquire .attributeViews) provider).answer = .ok (.finding (.views names)) ∧
      ViewsAgree fs.config names (operate id (.request (.readBasic path)) provider).answer
        (operate id (.request (.readPosix path)) provider).answer := by
  intro provider
  obtain ⟨step, member, built⟩ := exists_builtBy steps rooted there
  have stamped := stamped_afterAll steps rooted there
  have views := answer_operate_inquire there .attributeViews
  obtain ⟨names, shown, listed⟩ := fs.answer_attributeViews opened provider.graph
  rw [shown] at views
  refine ⟨built.valid, ⟨step, member, built⟩, names, views, ?_⟩
  rw [answer_operate_request there, answer_operate_request there]
  rcases fs.attributes_cases opened provider.graph path with
    ⟨error, basic, posix⟩ | ⟨node, found, basic, posix⟩
  · rw [basic, posix]
    exact .of_error error
  · rw [basic, posix]
    exact .of_stamped (stamped.of_found found) listed

/-- A new file of a unix file system, with what its posix attributes are. -/
theorem posix_view_agrees_with_basic_of_file :
    let path : Path := .element ⟨none, ["a"], '/', by simp⟩
    let steps : List (Int × Command) :=
      [(1, .newFileSystem "key" .unix), (2, .operate 0 (.request (.createFile path)))]
    let provider := ({} : Provider).afterAll steps
    (∀ step ∈ steps, ∀ id table, step.2 ≠ .operate id (.setRoots table)) ∧
      ∃ fs names, provider.system? 0 = some fs ∧ fs.isOpen = true ∧
        (operate 0 (.inquire .attributeViews) provider).answer = .ok (.finding (.views names)) ∧
        (operate 0 (.request (.readPosix path)) provider).answer =
          .ok (.answer (.posix ⟨⟨.file, 0, .fresh 2⟩, "root", "root", 0o644⟩)) ∧
        ViewsAgree fs.config names (operate 0 (.request (.readBasic path)) provider).answer
          (operate 0 (.request (.readPosix path)) provider).answer := by
  intro path steps provider
  let fs : FileSystem :=
    ⟨.unix, ⟨"memfs", "key", false⟩, {}, ⟨[(.slash, 0)]⟩, .slash, ⟨["root"], ["root"]⟩, true⟩
  let start : Graph := ⟨#[.newDirectory 1 0o755 (some ⟨"root", "root"⟩)], 1⟩
  have built : (FileSystem.build "key" .unix true { clock := 1 }).outcome = (.ok fs, start) := rfl
  have about : fs.intent (.createFile path) = _ := rfl
  have parented : (path.toAbsolute .slash).parent? = some (.root .slash) := rfl
  have free : start.child? 0 "a" = none := rfl
  obtain ⟨rooted, there, graph⟩ :=
    session_of_making built rfl rfl about rfl rfl parented (.here 0) rfl free
  have found : fs.find? provider.graph path = some 1 := by
    rw [graph]
    rfl
  have read : fs.intent (.readPosix path) = _ := rfl
  have seen := congrArg Prod.fst (FileSystem.outcome_serve_of_found rfl read found)
  obtain ⟨-, -, names, views, agree⟩ := posix_view_agrees_with_basic steps rooted there rfl path
  refine ⟨rooted, fs, names, there, rfl, views, ?_, agree⟩
  have node : provider.graph.node 1 = .newFile 2 0o644 (some ⟨"root", "root"⟩) := by
    rw [graph]
    rfl
  have permitted : (0o644 : UInt32) &&& 0o7777 = 0o644 := by decide
  have shown : (Node.newFile 2 0o644 (some ⟨"root", "root"⟩)).posixAttributes =
      .ok ⟨⟨.file, 0, .fresh 2⟩, "root", "root", 0o644⟩ := by
    simp only [Node.posixAttributes, Node.newFile, permitted]
    rfl
  rw [node, shown] at seen
  rw [answer_operate_request there]
  exact congrArg (Except.map Response.answer) seen

end Provider

end CoupledFs
