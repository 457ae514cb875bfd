import CoupledFs.Proofs.Closing
import CoupledFs.Proofs.Construction
import CoupledFs.Proofs.Locality
import CoupledFs.Proofs.MakingAndReading
import CoupledFs.Proofs.PathAlgebra

/-! Drives and the roots that there are. A text that begins with a drive is read alike whatever the
roots are, but for the root itself: that is the first one that bears the name of the drive, and where
there is none, whatever needs the root says so. -/

namespace CoupledFs

def Root.IsFirstNamed (roots : List Root) (name : String) (root : Root) : Prop :=
  ∃ front back, roots = front ++ root :: back ∧ root.name = name ∧ ∀ other ∈ front, other.name ≠ name

theorem Root.IsFirstNamed.mem {roots : List Root} {name : String} {root : Root}
    (first : Root.IsFirstNamed roots name root) : root ∈ roots := by
  obtain ⟨front, back, rfl, -, -⟩ := first
  simp

theorem Root.IsFirstNamed.name_eq {roots : List Root} {name : String} {root : Root}
    (first : Root.IsFirstNamed roots name root) : root.name = name := by
  obtain ⟨_, _, _, named, _⟩ := first
  exact named

def FsError.missingRoot (path : Path) : FsError :=
  .noSuchFile ("the root of " ++ path.display ++ " does not exist")

theorem RootTable.get?_eq_none_iff (table : RootTable) (root : Root) :
    table.get? root = none ↔ root ∉ table.roots := by
  rw [← table.get?_isSome_iff_mem_roots, Option.isSome_iff_ne_none, not_not]

namespace Path

variable {anchor : Option Root} {text body : String}

/-! ### Reading -/

theorem driveAmong_cases (roots : List Root) (letter : Char) :
    Root.IsFirstNamed roots (Root.drive letter).name (driveAmong roots letter) ∨
      (∀ other ∈ roots, other.name ≠ (Root.drive letter).name) ∧
        driveAmong roots letter = .drive letter := by
  simp only [driveAmong]
  cases found : roots.find? (·.name = (Root.drive letter).name) with
  | none =>
    right
    refine ⟨?_, rfl⟩
    intro other member
    simpa using List.find?_eq_none.mp found other member
  | some root =>
    left
    obtain ⟨named, front, back, same, before⟩ := List.find?_eq_some_iff_append.mp found
    exact ⟨front, back, same, by simpa using named, by simpa using before⟩

/-- What becomes of a text that is read as beginning with some root does not depend on the root. -/
theorem ofText_of_headings {anchors : List Root → Root}
    (headed : ∀ roots, heading .windows roots text = .ok (some (anchors roots), body)) :
    (∃ error, ∀ roots, ofText .windows roots text = .error error) ∨
      ∃ names, ∀ roots, ∃ path, ofText .windows roots text = .ok path ∧
        path.root? = some (anchors roots) ∧ path.segments = names := by
  cases named : namesIn .windows body text with
  | error error =>
    left
    refine ⟨error, fun roots => ?_⟩
    rw [ofText_of_heading (headed roots), named]
    rfl
  | ok names =>
    right
    refine ⟨names, fun roots => ?_⟩
    obtain ⟨path, made⟩ : ∃ path, ofParts (some (anchors roots)) names '\\' = some path := by
      cases names with
      | nil => exact ⟨_, rfl⟩
      | cons => exact ⟨_, rfl⟩
    refine ⟨path, ?_, root?_of_ofParts made, segments_of_ofParts made⟩
    rw [ofText_of_heading (headed roots), named]
    exact assemble_eq_ok_iff.mpr made

/-- What is made of a text on drives, whatever roots there are. -/
inductive DriveReading (text : String) : Prop where
  | refused (error : FsError) (fails : ∀ roots, ofText .windows roots text = .error error)
  | relative (path : Path) (rootless : path.root? = none)
      (leads : ∀ roots, ofText .windows roots text = .ok path)
  | absolute (letter : Char) (rest : List Char) (names : List String)
      (begins : text.toList = letter :: ':' :: rest) (alpha : letter.isAlpha = true)
      (leads : ∀ roots, ∃ path, ofText .windows roots text = .ok path ∧
        path.root? = some (driveAmong roots letter) ∧ path.segments = names)

theorem driveReading (text : String) : DriveReading text := by
  cases drive : PathStyle.splitDrive? text.toList with
  | some found =>
    obtain ⟨letter, rest⟩ := found
    obtain ⟨begins, alpha⟩ := PathStyle.splitDrive?_eq_some_iff.mp drive
    by_cases closed : rest = [] ∨ rest.head?.any PathStyle.windows.divides = true
    · have headed (roots : List Root) : heading .windows roots text =
          .ok (some (driveAmong roots letter), String.ofList rest) :=
        heading_windows_eq_ok_iff.mpr (.inl ⟨letter, rest, drive, closed, rfl, rfl⟩)
      rcases ofText_of_headings headed with ⟨error, fails⟩ | ⟨names, leads⟩
      · exact .refused error fails
      · exact .absolute letter rest names begins alpha leads
    · refine .refused (.invalidArgument (.driveRelative text)) fun roots => ?_
      have dangling : heading .windows roots text = .error (.invalidArgument (.driveRelative text)) := by
        have ⟨nonempty, unseparated⟩ := not_or.mp closed
        simp [heading, drive, nonempty, unseparated]
      rw [ofText, dangling]
      rfl
  | none =>
    by_cases separated : text.toList.head?.any PathStyle.windows.divides = true
    · refine .refused (.invalidArgument (.noDrive text)) fun roots => ?_
      simp only [ofText, heading, drive, separated, if_true]
      rfl
    · have headed (roots : List Root) : heading .windows roots text = .ok (none, text) :=
        heading_windows_eq_ok_iff.mpr (.inr ⟨drive, Bool.eq_false_iff.mpr separated, rfl, rfl⟩)
      cases read : ofText .windows [] text with
      | error error =>
        refine .refused error fun roots => ?_
        rw [← read, ofText_of_heading (headed roots), ofText_of_heading (headed [])]
      | ok path =>
        obtain ⟨anchor, body, names, headed', -, made⟩ := ofText_eq_ok_iff.mp read
        rw [headed []] at headed'
        cases headed'
        refine .relative path (root?_of_ofParts made) fun roots => ?_
        rw [← read, ofText_of_heading (headed roots), ofText_of_heading (headed [])]

/-! ### Texts -/

theorem displayUpTo_begins {path : Path} {root : Root} (rooted : path.root? = some root)
    (length : Nat) : ∃ rest, path.displayUpTo length = root.name ++ rest := by
  obtain ⟨close, shown⟩ : ∃ close, root.display = root.name ++ close := by
    unfold Root.display
    split
    · exact ⟨"", by simp⟩
    · exact ⟨String.singleton root.separator, by simp⟩
  cases path with
  | root r =>
    cases rooted
    exact ⟨close, shown⟩
  | element e =>
    have rooted : e.root = some root := rooted
    refine ⟨close ++ String.intercalate (String.singleton e.separator) (e.segments.take length), ?_⟩
    simp [displayUpTo, ElementPath.displayUpTo, ElementPath.anchor, rooted, shown, String.append_assoc]

theorem displayUpTo_ne_missing {path : Path} {root : Root} {letter : Char}
    (rooted : path.root? = some root) (named : root.name = (Root.drive letter).name)
    (length : Nat) (text : String) :
    path.displayUpTo length ≠ "the root of " ++ text ++ " does not exist" := by
  obtain ⟨rest, begins⟩ := displayUpTo_begins rooted length
  intro same
  have chars := congrArg String.toList (begins.symm.trans same)
  rw [named] at chars
  simp [Root.drive] at chars

end Path

namespace FileSystem

variable {fs : FileSystem} {graph : Graph} {request : Request} {path : Path} {root : Root}
  {text : String}

theorem path_intent (fs : FileSystem) (request : Request) : (fs.intent request).path = request.path := by
  cases request <;> rfl

theorem resolveRoot_of_root (rooted : path.root? = some root) : fs.resolveRoot path =
    match fs.roots.get? root with
    | some start => .ok (path, start)
    | none => .error (.missingRoot path) := by
  have absolute : path.isAbsolute = true := by
    rw [Path.isAbsolute, rooted]
    rfl
  simp only [resolveRoot, Path.toAbsolute_of_isAbsolute absolute, rooted, Option.bind_some]
  rfl

/-! ### Requests -/

theorem view_ne_noSuchFile {view : Path → Node → Except FsError Answer}
    (about : fs.intent request = .look path view) (absolute : Path) (node : Node) (text : String) :
    view absolute node ≠ .error (.noSuchFile text) := by
  cases request with
  | createDirectory | createFile | createSymbolicLink => cases about
  | readBasic =>
    cases about
    simp
  | readPosix =>
    cases about
    simp only [Node.posixAttributes]
    split <;> simp [Except.map]
  | checkAccess =>
    cases about
    simp only [accessTo]
    split
    · simp [Except.map]
    · split <;> simp [Except.map]
  | listChildren =>
    cases about
    simp only [namesIn]
    split <;> simp [Except.map]

/-- What is refused before any lock is taken is not refused because something is missing, where the root
exists. -/
theorem plan_ne_noSuchFile (resolved : fs.resolveRoot request.path = .ok found) (text : String) :
    fs.plan request ≠ .error (.noSuchFile text) := by
  unfold plan whileOpen
  have about := fs.path_intent request
  split
  · rename_i error shut
    unfold Lifecycle.check at shut
    split at shut <;> cases shut
    simp
  · cases intent : fs.intent request with
    | make path make =>
      rw [intent, Intent.path] at about
      simp only [planIntent, planCreate, about, resolved]
      split
      · simp [Except.map]
      · split <;> simp [Except.map]
    | look path view =>
      rw [intent, Intent.path] at about
      simp [planIntent, planRead, about, resolved]

theorem root?_of_plan (planned : fs.plan request = .ok t) :
    t.path.root? = (request.path.toAbsolute fs.defaultRoot).root? := by
  have about := fs.path_intent request
  cases intent : fs.intent request with
  | make path make =>
    rw [intent, Intent.path] at about
    obtain ⟨absolute, start, name, parent, resolved, -, named, parented, rfl⟩ :=
      plan_make_eq_ok intent planned
    obtain ⟨rfl, -⟩ := resolveRoot_eq_ok.mp resolved
    rw [← about]
    exact Path.root?_of_parent? parented
  | look path view =>
    rw [intent, Intent.path] at about
    obtain ⟨absolute, start, resolved, rfl⟩ := plan_look_eq_ok intent planned
    obtain ⟨rfl, -⟩ := resolveRoot_eq_ok.mp resolved
    rw [← about]

theorem work_ne_noSuchFile (planned : fs.plan request = .ok t) (target : NodeId) (graph : Graph)
    (text : String) : (t.work target graph).outcome.1 ≠ .error (.noSuchFile text) := by
  cases intent : fs.intent request with
  | make path make =>
    obtain ⟨absolute, start, name, parent, -, -, -, -, rfl⟩ := plan_make_eq_ok intent planned
    rw [outcome_makeAt]
    cases directory : (graph.node target).isDirectory with
    | false =>
      rw [linkNew_of_leaf parent absolute directory]
      simp [Reply.outcome, Except.map]
    | true =>
      cases taken : graph.child? target name with
      | some child =>
        rw [linkNew_of_taken parent absolute taken]
        simp [Reply.outcome, Except.map]
      | none =>
        rw [linkNew_of_free parent absolute directory taken]
        simp [Reply.outcome, Except.map]
  | look path view =>
    obtain ⟨absolute, start, -, rfl⟩ := plan_look_eq_ok intent planned
    exact view_ne_noSuchFile intent absolute (graph.node target) text

/-- Where the root exists, what is said to be missing is a place below it. -/
theorem exists_displayUpTo_of_noSuchFile (resolved : fs.resolveRoot request.path = .ok found)
    (missing : (fs.serve request graph).answer = .error (.noSuchFile text)) :
    ∃ walked length, Path.root? walked = (request.path.toAbsolute fs.defaultRoot).root? ∧
      text = walked.displayUpTo length := by
  change (fs.serve request graph).outcome.1 = _ at missing
  rw [outcome_serve] at missing
  cases planned : fs.plan request with
  | error error =>
    rw [planned, Plan.outcome_error] at missing
    cases missing
    exact absurd planned (plan_ne_noSuchFile resolved text)
  | ok t =>
    rw [planned, Plan.outcome_ok] at missing
    refine ⟨t.path, ?_⟩
    rcases Route.exists_or_stop graph t.start t.path.segments with
      ⟨above, target, route⟩ | ⟨front, name, rest, above, node, names, route, stop⟩
    · rw [t.outcome_of_route route] at missing
      exact absurd missing (work_ne_noSuchFile planned target graph text)
    · rw [t.outcome_of_stop names route stop, Traversal.stopError] at missing
      split at missing <;> cases missing
      exact ⟨above.length + 1, root?_of_plan planned, rfl⟩

/-! ### Operations -/

theorem answer_inquire_getPath (opened : fs.isOpen = true) (first : String) (more : List String)
    (graph : Graph) : (fs.inquire (.getPath first more) graph).answer =
      (Path.parse fs.config.pathStyle fs.roots.roots first more).map .path := by
  change (fs.inquire (.getPath first more) graph).outcome.1 = _
  rw [inquire, Action.outcome_bind, outcome_getPath opened]
  cases Path.parse fs.config.pathStyle fs.roots.roots first more <;> rfl

/-- Whoever is refused a channel is refused it for want of the root first. -/
theorem answer_newByteChannel (opened : fs.isOpen = true) (path : Path) (graph : Graph) :
    (fs.inquire (.newByteChannel path) graph).answer =
      (fs.resolveRoot path).bind fun _ => .error (.notImplemented "new_byte_channel") := by
  change (fs.inquire (.newByteChannel path) graph).outcome.1 = _
  rw [inquire, Action.outcome_bind, newByteChannel, Action.outcome_bind, outcome_ensureOpen,
    check_of_open opened]
  cases resolved : fs.resolveRoot path <;> rfl

end FileSystem

/-- The path whose root an operation has to find, if there is one. -/
def Operation.seeks? : Operation → Option Path
  | .request call => some call.path
  | .inquire (.newByteChannel path) => some path
  | .inquire _ | .setRoots _ | .close => none

namespace Provider

variable {provider before after : Provider} {id : SystemId} {fs : FileSystem} {path : Path}
  {operation : Operation}

/-- Where the root of a path is missing, whatever seeks it says so, locks nothing and changes nothing. -/
theorem outcome_operate_of_missing (there : provider.system? id = some fs) (opened : fs.isOpen = true)
    (sought : operation.seeks? = some path) (lost : fs.resolveRoot path = .error (.missingRoot path)) :
    (operate id operation provider).outcome = (.error (.missingRoot path), provider) ∧
      (operate id operation provider).steps = [] := by
  cases operation with
  | request request =>
    cases sought
    have planned : fs.plan request = .error (.missingRoot request.path) :=
      FileSystem.plan_of_lost opened (by rw [fs.path_intent, lost])
    have served := fs.outcome_serve request provider.graph
    rw [planned, Plan.outcome_error] at served
    obtain ⟨answer, state⟩ := Prod.mk.inj served
    rw [outcome_operate_request there, answer, state, operate, steps_map_request there,
      FileSystem.steps_serve, planned, Plan.steps_error]
    exact ⟨rfl, rfl⟩
  | inquire inquiry =>
    cases inquiry with
    | newByteChannel =>
      cases sought
      rw [outcome_operate_inquire there, FileSystem.answer_newByteChannel opened, lost, operate,
        steps_map_request there]
      exact ⟨rfl, (fs.idle_inquire _ _).2⟩
    | _ => cases sought
  | setRoots | close => cases sought

/-- Where the root of a path is there and is a drive, nothing that seeks it says that it is missing. -/
theorem answer_operate_ne_missingRoot {root : Root} {letter : Char}
    (there : provider.system? id = some fs) (sought : operation.seeks? = some path)
    (rooted : path.root? = some root) (named : root.name = (Root.drive letter).name)
    (resolved : fs.resolveRoot path = .ok found) :
    (operate id operation provider).answer ≠ .error (.missingRoot path) := by
  intro missing
  cases operation with
  | request request =>
    cases sought
    rw [answer_operate_request there] at missing
    have missing : (fs.serve request provider.graph).answer = .error (.missingRoot request.path) := by
      cases answer : (fs.serve request provider.graph).answer with
      | ok value =>
        rw [answer] at missing
        cases missing
      | error error =>
        rw [answer] at missing
        cases missing
        rfl
    obtain ⟨walked, length, rooted', same⟩ :=
      FileSystem.exists_displayUpTo_of_noSuchFile resolved missing
    rw [Path.root?_toAbsolute, rooted, Option.getD_some] at rooted'
    exact Path.displayUpTo_ne_missing rooted' named length _ same.symm
  | inquire inquiry =>
    cases inquiry with
    | newByteChannel =>
      cases sought
      rw [answer_operate_inquire there] at missing
      cases opened : fs.isOpen with
      | true =>
        rw [FileSystem.answer_newByteChannel opened, resolved] at missing
        cases missing
      | false =>
        rw [(FileSystem.refuses_inquire opened rfl provider.graph).answer] at missing
        cases missing
    | _ => cases sought
  | setRoots | close => cases sought

/-! ### While the roots stay -/

/-- Whether steps leave a file system the roots that it has. -/
def LeaveRoots (id : SystemId) (steps : List (Int × Command)) : Prop :=
  ∀ step ∈ steps, ∀ table, step.2 ≠ .operate id (.setRoots table)

theorem Consequence.roots_eq (consequence : Consequence before command after)
    (kept : ∀ table, command ≠ .operate id (.setRoots table)) (there : before.system? id = some fs) :
    ∃ later, after.system? id = some later ∧ later.roots = fs.roots := by
  have shut (other : SystemId) :
      ∃ later, (before.withShut other).system? id = some later ∧ later.roots = fs.roots := by
    refine ⟨_, system?_withShut_eq_some.mpr ⟨fs, there, rfl⟩, ?_⟩
    split <;> rfl
  cases consequence with
  | nothing | served | deregistered | dropped => exact ⟨fs, there, rfl⟩
  | rerooted other table =>
    refine ⟨fs, ?_, rfl⟩
    rw [system?_withRoots, if_neg, there]
    rintro rfl
    exact kept table rfl
  | @shut other => exact shut other
  | @retired other => exact shut other
  | @detached _ _ added graph => exact ⟨fs, system?_withSystem_of_some there added graph, rfl⟩
  | @registered _ _ added graph => exact ⟨fs, system?_withSystem_of_some there added graph, rfl⟩

theorem exists_roots_eq_afterAll (there : provider.system? id = some fs)
    {steps : List (Int × Command)} (kept : LeaveRoots id steps) :
    ∃ later, (provider.afterAll steps).system? id = some later ∧ later.roots = fs.roots := by
  induction steps generalizing provider fs with
  | nil => exact ⟨fs, there, rfl⟩
  | cons step steps ih =>
    have there' : (provider.atTime step.1).system? id = some fs := there
    obtain ⟨next, there, same⟩ :=
      (consequence_of_obey _ step.2).roots_eq (kept step List.mem_cons_self) there'
    obtain ⟨later, there, same'⟩ := ih there fun other member =>
      kept other (List.mem_cons_of_mem step member)
    exact ⟨later, there, same'.trans same⟩

/-- As long as a file system has the roots that it has now, nothing that uses a path says that its
root is missing. -/
def Serves (provider : Provider) (id : SystemId) (path : Path) : Prop :=
  ∀ steps, LeaveRoots id steps → ∀ operation : Operation, operation.seeks? = some path →
    (operate id operation (provider.afterAll steps)).answer ≠ .error (.missingRoot path)

/-- As long as a file system is open and has the roots that it has now, whatever seeks the root of a path
says that it is missing, changes nothing and has locked nothing. -/
def Misses (provider : Provider) (id : SystemId) (path : Path) : Prop :=
  ∀ steps, LeaveRoots id steps → let later := provider.afterAll steps
    ∀ fs, later.system? id = some fs → fs.isOpen = true →
      ∀ operation : Operation, operation.seeks? = some path →
        (operate id operation later).outcome = (.error (.missingRoot path), later) ∧
          (operate id operation later).steps = []

end Provider

def Response.segments : Response → List String
  | .finding (.path path) => path.segments
  | .finding _ | .answer _ | .system _ | .done => []

namespace Provider

variable {provider : Provider} {id : SystemId} {fs : FileSystem}

section Rooted

variable (there : provider.system? id = some fs) {path : Path} {root : Root}
  (rooted : path.root? = some root)

include there rooted

theorem serves_of_mem {letter : Char} (named : root.name = (Root.drive letter).name)
    (member : root ∈ fs.roots.roots) : provider.Serves id path := by
  intro steps kept operation sought
  obtain ⟨later, there', same⟩ := exists_roots_eq_afterAll there kept
  obtain ⟨start, found⟩ : ∃ start, later.roots.get? root = some start := by
    apply Option.ne_none_iff_exists'.mp
    rw [ne_eq, RootTable.get?_eq_none_iff, same]
    exact not_not_intro member
  have resolved := later.resolveRoot_of_root rooted
  rw [found] at resolved
  exact answer_operate_ne_missingRoot there' sought rooted named resolved

theorem misses_of_not_mem (absent : root ∉ fs.roots.roots) : provider.Misses id path := by
  intro steps kept last later there' opened operation sought
  obtain ⟨found, there'', same⟩ := exists_roots_eq_afterAll there kept
  cases there'.symm.trans there''
  have lost := later.resolveRoot_of_root rooted
  rw [same, (RootTable.get?_eq_none_iff _ root).mpr absent] at lost
  exact outcome_operate_of_missing there' opened sought lost

end Rooted

theorem answer_operate_getPath (there : provider.system? id = some fs) (opened : fs.isOpen = true)
    (drives : fs.config.pathStyle = .windows) (first : String) (more : List String) :
    (operate id (.inquire (.getPath first more)) provider).answer =
      (Path.ofText .windows fs.roots.roots (Text.joinParts '\\' (first :: more))).map fun path =>
        .finding (.path path) := by
  rw [answer_operate_inquire there, FileSystem.answer_inquire_getPath opened, drives, Path.parse]
  change ((Path.ofText .windows fs.roots.roots (Text.joinParts '\\' (first :: more))).map _).map _ = _
  cases Path.ofText .windows fs.roots.roots (Text.joinParts '\\' (first :: more)) <;> rfl

/-- What an open file system on drives makes of a text depends on its roots in nothing but the root of
the path. That is the first root that bears the name of the drive, in the order of the table, and then
the path can be used as long as the roots stay. Where no root bears that name it is the drive itself,
and whatever needs the root says that it is missing, before it locks anything. -/
theorem drive_text_finds_root (there : provider.system? id = some fs) (opened : fs.isOpen = true)
    (drives : fs.config.pathStyle = .windows) (first : String) (more : List String) :
    (∀ table, (operate id (.inquire (.getPath first more)) (provider.withRoots id table)).answer.map
        Response.segments =
      (operate id (.inquire (.getPath first more)) provider).answer.map Response.segments) ∧
    ∀ path root, (operate id (.inquire (.getPath first more)) provider).answer =
        .ok (.finding (.path path)) → path.root? = some root →
      ∃ letter rest, (Text.joinParts '\\' (first :: more)).toList = letter :: ':' :: rest ∧
        letter.isAlpha = true ∧
        (Root.IsFirstNamed fs.roots.roots (Root.drive letter).name root ∧ provider.Serves id path ∨
          (∀ other ∈ fs.roots.roots, other.name ≠ (Root.drive letter).name) ∧ root = .drive letter ∧
            provider.Misses id path) := by
  have got := answer_operate_getPath there opened drives first more
  have got' (table : RootTable) :=
    have there' : (provider.withRoots id table).system? id = some (fs.withRoots table) := by
      rw [system?_withRoots, if_pos rfl, there]
      rfl
    answer_operate_getPath there' opened drives first more
  cases Path.driveReading (Text.joinParts '\\' (first :: more)) with
  | refused error fails =>
    rw [fails] at got
    refine ⟨fun table => ?_, fun path root answered => ?_⟩
    · rw [got, got', fails]
    · cases got.symm.trans answered
  | relative path rootless leads =>
    rw [leads] at got
    refine ⟨fun table => ?_, fun other root answered rooted => ?_⟩
    · rw [got, got', leads]
    · cases got.symm.trans answered
      cases rootless.symm.trans rooted
  | absolute letter rest names begins alpha leads =>
    obtain ⟨path, read, rooted, segments⟩ := leads fs.roots.roots
    rw [read] at got
    refine ⟨fun table => ?_, fun other root answered rooted' => ?_⟩
    · obtain ⟨path', read', -, segments'⟩ := leads table.roots
      rw [got, got', show (fs.withRoots table).roots.roots = table.roots from rfl, read']
      exact congrArg Except.ok (segments'.trans segments.symm)
    · cases got.symm.trans answered
      cases rooted.symm.trans rooted'
      refine ⟨letter, rest, begins, alpha, ?_⟩
      rcases Path.driveAmong_cases fs.roots.roots letter with present | ⟨absent, drive⟩
      · left
        exact ⟨present, serves_of_mem there rooted present.name_eq present.mem⟩
      · right
        refine ⟨absent, drive, misses_of_not_mem there rooted ?_⟩
        intro member
        exact absent _ member (by rw [drive])

/-- Of two roots of one name the first is found, however it separates, and the path leads to it. A drive
that has no root is missed. -/
theorem drive_text_finds_root_of_odd_separator :
    let roots : RootTable := ⟨[(⟨"C:", '/'⟩, 0), (⟨"C:", '\\'⟩, 1)]⟩
    let provider := ({} : Provider).afterAll
      [(1, .newDetached "key" .windows), (2, .operate 0 (.setRoots roots))]
    let path : Path := .element ⟨some ⟨"C:", '/'⟩, ["data"], '\\', by simp⟩
    (operate 0 (.inquire (.getPath "c:/data" [])) provider).answer = .ok (.finding (.path path)) ∧
      provider.Serves 0 path ∧ provider.Misses 0 (.root (.drive 'D')) := by
  intro roots provider path
  obtain ⟨fs, there, opened, drives, same⟩ : ∃ fs, provider.system? 0 = some fs ∧ fs.isOpen = true ∧
      fs.config.pathStyle = .windows ∧ fs.roots = roots := ⟨_, rfl, rfl, rfl, rfl⟩
  have got (text : String) (path : Path) (read : Path.parse .windows roots.roots text [] = .ok path) :
      (operate 0 (.inquire (.getPath text [])) provider).answer = .ok (.finding (.path path)) := by
    rw [answer_operate_getPath there opened drives, same]
    exact congrArg (Except.map _) read
  have answered := got "c:/data" path rfl
  have answered' := got "d:" (.root (.drive 'D')) rfl
  obtain ⟨-, found⟩ := drive_text_finds_root there opened drives "c:/data" []
  obtain ⟨-, lost⟩ := drive_text_finds_root there opened drives "d:" []
  refine ⟨answered, ?_, ?_⟩
  · obtain ⟨letter, rest, begins, -, ⟨-, serves⟩ | ⟨absent, drive, -⟩⟩ := found _ _ answered rfl
    · exact serves
    · exact absurd congr(($drive).separator) (by simp [Root.drive])
  · obtain ⟨letter, rest, begins, -, ⟨first, -⟩ | ⟨-, -, misses⟩⟩ := lost _ _ answered' rfl
    · have member := first.mem
      rw [same] at member
      exact absurd member (by decide)
    · exact misses

end Provider

end CoupledFs
