import CoupledFs.Proofs.RootNames
import CoupledFs.Proofs.WorkloadLimit

/-! What keeps a workload from starting, and that nothing else does. A request is refused for the first
of its faults, and one without faults comes to a report, whatever turns its workers take. -/

namespace CoupledFs

namespace Config

variable {config : Config} {document : List UInt8}

/-- The configuration that a document describes, valid or not. -/
def described? (document : List UInt8) : Option Config :=
  (Json.read? document).bind unix.overlay?

theorem ofDocument_of_undescribed (nothing : described? document = none) :
    ofDocument document =
      .error (.configuration "the document does not describe a file system") := by
  unfold described? at nothing
  rw [ofDocument, nothing]

theorem ofDocument_of_described (described : described? document = some config) :
    ofDocument document = config.validate.map fun _ => config := by
  unfold described? at described
  rw [ofDocument, described]
  cases valid : config.validate <;> simp only [valid] <;> rfl

/-- A valid configuration stays valid in another style, which brings its own roots along. -/
theorem validate_restyled (valid : config.validate = .ok ()) (style : PathStyle) :
    ({ config with pathStyle := style, roots := none } : Config).validate = .ok () := by
  obtain ⟨-, basic, -⟩ := validate_eq_ok_iff.mp valid
  exact validate_eq_ok_iff.mpr ⟨nofun, basic, style.defaultRoots, rfl⟩

end Config

namespace Workload

/-! ### Faults of a request -/

/-- What keeps a workload from starting. -/
inductive Fault where
  | noThreads
  | tooLarge
  | unreadable (file : String) (refusal : Host.Refusal)
  | undescribed (file : String)
  | invalid (file : String) (error : FsError)
  deriving DecidableEq

namespace Fault

/-- How many kinds of faults are looked for earlier. Of the last three there is at most one. -/
def rank : Fault → Nat
  | noThreads => 0
  | tooLarge => 1
  | unreadable _ _ | undescribed _ | invalid _ _ => 2

def unloaded (file : String) (error : FsError) : Complaint :=
  (Complaint.ofError error).within ("failed to load config " ++ file)

def complaint (request : Request) : Fault → Complaint
  | noThreads => ⟨"--threads must be at least 1", []⟩
  | tooLarge => request.tooLarge
  | unreadable file refusal => unloaded file (.io refusal.message)
  | undescribed file =>
    unloaded file (.configuration "the document does not describe a file system")
  | invalid file error => unloaded file error

end Fault

variable {request : Request} {content : String → Except Host.Refusal (List UInt8)} {fault : Fault}

def Request.directories (request : Request) : Nat :=
  request.threads * ∑ l ∈ Finset.range (request.depth + 1), request.fanout ^ l

/-- The faults of a request, where files have the given content. -/
inductive Request.Has (request : Request) (content : String → Except Host.Refusal (List UInt8)) :
    Fault → Prop where
  | noThreads (none : request.threads = 0) : Has request content .noThreads
  | tooLarge (large : 2 ^ 64 ≤ request.directories) : Has request content .tooLarge
  | unreadable {file : String} {refusal : Host.Refusal} (given : request.config = some file)
      (refused : content file = .error refusal) : Has request content (.unreadable file refusal)
  | undescribed {file : String} {document : List UInt8} (given : request.config = some file)
      (read : content file = .ok document) (nothing : Config.described? document = none) :
      Has request content (.undescribed file)
  | invalid {file : String} {document : List UInt8} {config : Config} {error : FsError}
      (given : request.config = some file) (read : content file = .ok document)
      (described : Config.described? document = some config)
      (refused : config.validate = .error error) : Has request content (.invalid file error)

/-- A fault before which there is no other. -/
structure Request.HasFirst (request : Request)
    (content : String → Except Host.Refusal (List UInt8)) (fault : Fault) : Prop where
  has : request.Has content fault
  least : ∀ other, request.Has content other → fault.rank ≤ other.rank

theorem Request.exists_first (has : request.Has content fault) :
    ∃ first, request.HasFirst content first := by
  obtain ⟨first, has, least⟩ :=
    (measure Fault.rank).wf.has_min {fault | request.Has content fault} ⟨fault, has⟩
  exact ⟨first, has, fun other has => Nat.le_of_not_lt (least other has)⟩

/-! ### Loading a configuration -/

def Request.styled (request : Request) (config : Config) : Config :=
  match request.pathStyle with
  | none => config
  | some style => { config with pathStyle := style, roots := none }

theorem Request.validate_styled (request : Request) {config : Config}
    (valid : config.validate = .ok ()) : (request.styled config).validate = .ok () := by
  unfold styled
  cases request.pathStyle with
  | none => exact valid
  | some style => exact Config.validate_restyled valid style

section Loading

variable {file : String} {config : Config}

theorem loadConfig_of_unread (given : request.config = some file)
    (unread : readConfig (content file) = .error error) :
    loadConfig request content = .error (Fault.unloaded file error) := by
  unfold loadConfig
  rw [given]
  simp only [unread]
  rfl

private theorem accepted (valid : config.validate = .ok ()) : (do
    config.validate.mapError fun error => (Complaint.ofError error).within "invalid configuration"
    return config) = Except.ok config := by
  rw [valid]
  rfl

theorem loadConfig_of_read (given : request.config = some file)
    (read : readConfig (content file) = .ok config) (valid : config.validate = .ok ()) :
    loadConfig request content = .ok (request.styled config) := by
  have styled := accepted (request.validate_styled valid)
  unfold Request.styled at styled ⊢
  unfold loadConfig
  cases asked : request.pathStyle <;>
  · simp only [given, read, asked] at styled ⊢
    exact styled

theorem loadConfig_of_ungiven (ungiven : request.config = none) :
    loadConfig request content = .ok (request.styled .unix) := by
  have valid : Config.unix.validate = .ok () := rfl
  have styled := accepted (request.validate_styled valid)
  unfold Request.styled at styled ⊢
  unfold loadConfig
  cases asked : request.pathStyle <;>
  · simp only [ungiven, asked] at styled ⊢
    exact styled

end Loading

/-- What is wrong with a configuration is that it cannot be had from its file. -/
theorem loadConfig_of_has (has : request.Has content fault) (configured : fault.rank = 2) :
    loadConfig request content = .error (fault.complaint request) := by
  cases has with
  | noThreads | tooLarge => cases configured
  | unreadable given refused =>
    exact loadConfig_of_unread given (by rw [refused, readConfig])
  | undescribed given read nothing =>
    exact loadConfig_of_unread given (by rw [read, readConfig, Config.ofDocument_of_undescribed nothing])
  | invalid given read described refused =>
    refine loadConfig_of_unread given ?_
    rw [read, readConfig, Config.ofDocument_of_described described, refused]
    rfl

/-- A configuration that could be had is not refused any more, whatever style is asked for. -/
theorem exists_loadConfig (sound : ∀ fault, request.Has content fault → fault.rank ≠ 2) :
    ∃ config, loadConfig request content = .ok config := by
  cases given : request.config with
  | none => exact ⟨_, loadConfig_of_ungiven given⟩
  | some file =>
    cases read : content file with
    | error refusal => exact absurd rfl (sound _ (.unreadable given read))
    | ok document =>
      cases described : Config.described? document with
      | none => exact absurd rfl (sound _ (.undescribed given read described))
      | some config =>
        cases valid : config.validate with
        | error error => exact absurd rfl (sound _ (.invalid given read described valid))
        | ok =>
          have read : readConfig (content file) = .ok config := by
            rw [read, readConfig, Config.ofDocument_of_described described, valid]
            rfl
          exact ⟨_, loadConfig_of_read given read valid⟩

/-! ### Starting -/

theorem prepare_of_fits (some_threads : request.threads ≠ 0) (fits : request.directories < 2 ^ 64) :
    prepare request content =
      (loadConfig request content).map fun config => (config, request.directories) := by
  rw [prepare_of_expectedDirectories some_threads, expectedDirectories_eq _ _ some_threads,
    ← Request.directories, counted?_of_lt fits]

namespace Request.HasFirst

variable (first : request.HasFirst content fault)

include first

theorem threads_ne_zero (later : fault.rank ≠ 0) : request.threads ≠ 0 :=
  fun none => later (Nat.le_zero.mp (first.least _ (.noThreads none)))

theorem fits (later : 1 < fault.rank) : request.directories < 2 ^ 64 :=
  Nat.lt_of_not_le fun large => Nat.not_le_of_lt later (first.least _ (.tooLarge large))

/-- A request is refused for its first fault. -/
theorem prepare_eq : prepare request content = .error (fault.complaint request) := by
  have has := first.has
  cases has with
  | noThreads none =>
    rw [prepare, if_pos none]
    rfl
  | tooLarge large =>
    have some_threads := first.threads_ne_zero Nat.one_ne_zero
    rw [prepare_of_expectedDirectories some_threads, expectedDirectories_eq _ _ some_threads,
      ← Request.directories, counted?_of_le large]
    rfl
  | unreadable | undescribed | invalid =>
    rw [prepare_of_fits (first.threads_ne_zero two_ne_zero) (first.fits Nat.one_lt_two),
      loadConfig_of_has first.has rfl]
    rfl

end Request.HasFirst

theorem exists_prepare (sound : ∀ fault, ¬request.Has content fault) :
    ∃ config expected, prepare request content = .ok (config, expected) := by
  have some_threads : request.threads ≠ 0 := fun none => sound _ (.noThreads none)
  have fits := Nat.lt_of_not_le fun large => sound _ (.tooLarge large)
  obtain ⟨config, loaded⟩ := exists_loadConfig fun fault has => absurd has (sound fault)
  exact ⟨config, _, by rw [prepare_of_fits some_threads fits, loaded]; rfl⟩

/-! ### Coming to a report -/

theorem Crew.Reached.exists_done {site : Site} {turns : Fin request.threads → Nat}
    {crew : Crew request.threads} (reached : Reached site request turns crew)
    (enough : ∀ worker, ∑ other : Fin request.threads, (site.errands request other).length ≤
      turns worker) :
    ∃ tallies : Fin request.threads → Tally, ∀ worker, crew.tasks worker = .done (tallies worker) := by
  refine ⟨fun _ => request.share site.fs.store.readOnly, fun worker => ?_⟩
  have own : (site.errands request worker).length ≤
      ∑ other : Fin request.threads, (site.errands request other).length :=
    Finset.single_le_sum (f := fun other : Fin request.threads =>
      (site.errands request other).length) (fun _ _ => Nat.zero_le _) (Finset.mem_univ worker)
  exact (reached.done_iff worker _).mpr ⟨own.trans (enough worker), rfl⟩

/-- Workers at a site come to an end when they get turns enough, whatever the order of the turns. Once
all are done there is a report, in whatever order they are asked what they counted. -/
structure Site.ComesToReport (site : Site) (request : Request) (expected : Nat)
    (provider : Provider) : Prop where
  ends : ∃ calls, ∀ steps : List (Int × Fin request.threads),
    (∀ worker, calls ≤ Crew.turns steps worker) →
    ∃ tallies : Fin request.threads → Tally, ∀ worker,
      ((Crew.opening site request provider.graph).run site.fs steps).tasks worker =
        .done (tallies worker)
  reports : ∀ (steps : List (Int × Fin request.threads)) (tallies : Fin request.threads → Tally),
    let crew := (Crew.opening site request provider.graph).run site.fs steps
    (∀ worker, crew.tasks worker = .done (tallies worker)) →
    ∀ order : List (Fin request.threads), order.Perm (List.finRange request.threads) →
    ∀ (later : Int) (log : Array Log.Record), ∃ report after,
      (conclude request expected site (order.map tallies)).Yields
        ⟨{ provider with graph := { crew.graph with clock := later } }, log⟩ report after

theorem Site.Ready.comesToReport {site : Site} {config : Config} {provider : Provider}
    (ready : site.Ready config provider) (some_threads : request.threads ≠ 0)
    (counted : expectedDirectories request.threads request.depth request.fanout = some expected) :
    site.ComesToReport request expected provider := by
  have reached (steps : List (Int × Fin request.threads)) : Crew.Reached site request
      (Crew.turns steps) ((Crew.opening site request provider.graph).run site.fs steps) :=
    Crew.reached_run ready.tree ready.opened steps
  refine ⟨⟨_, fun steps => (reached steps).exists_done⟩, ?_⟩
  intro steps tallies crew finished order once later log
  obtain ⟨report, after, concluded, -⟩ :=
    exists_exact_conclude some_threads counted ready (reached steps) finished once later log
  exact ⟨report, after, concluded⟩

/-- A file system can be set up for a request that is in order, and workers there come to a report. -/
theorem exists_comesToReport {config : Config}
    (prepared : prepare request content = .ok (config, expected)) (now : Int) :
    ∃ site progress, (setUp request config).Yields ⟨({} : Provider).atTime now, #[]⟩ site progress ∧
      site.ComesToReport request expected progress.provider := by
  obtain ⟨some_threads, counted, loaded⟩ := prepare_eq_ok prepared
  obtain ⟨site, progress, begun, ready⟩ := exists_setUp request (validate_of_loadConfig loaded)
    ⟨({} : Provider).atTime now, #[]⟩ rfl
  exact ⟨site, progress, begun, ready.comesToReport some_threads counted⟩

/-- A workload is refused just if its request has faults, and for the first of them: that there are no
workers, that their trees are too large, that the configuration cannot be had from the file given for
it. Any other request comes to a report, whatever turns its workers take and whatever style takes the
place of the configured one. -/
theorem refused_iff_faulty (request : Request)
    (content : String → Except Host.Refusal (List UInt8)) :
    ((∃ complaint, (run request content).1 = .error complaint) ↔
      ∃ fault, request.Has content fault) ∧
    (∀ fault, request.HasFirst content fault →
      (run request content).1 = .error (fault.complaint request)) ∧
    ((∀ fault, ¬request.Has content fault) →
      (∃ report, (run request content).1 = .ok report) ∧
      ∃ config expected, prepare request content = .ok (config, expected) ∧
        ∀ now : Int, ∃ site progress,
          (setUp request config).Yields ⟨({} : Provider).atTime now, #[]⟩ site progress ∧
          site.ComesToReport request expected progress.provider) := by
  have refused (fault : Fault) (first : request.HasFirst content fault) :
      (run request content).1 = .error (fault.complaint request) := by
    rw [run, first.prepare_eq]
  refine ⟨⟨?faulty, ?complains⟩, refused, ?sound⟩
  case faulty =>
    rintro ⟨complaint, failed⟩
    by_contra sound
    obtain ⟨config, expected, prepared⟩ := exists_prepare (not_exists.mp sound)
    obtain ⟨report, finished⟩ := exists_report_of_prepare prepared
    cases failed.symm.trans finished
  case complains =>
    rintro ⟨fault, has⟩
    obtain ⟨first, first_has⟩ := Request.exists_first has
    exact ⟨_, refused first first_has⟩
  case sound =>
    intro sound
    obtain ⟨config, expected, prepared⟩ := exists_prepare sound
    exact ⟨exists_report_of_prepare prepared, config, expected, prepared,
      exists_comesToReport prepared⟩

/-- No workers count before a file that is not there. A file without roots is refused also where the
requested style would bring its own, and one with a drive is good for unix paths. -/
theorem refused_iff_faulty_of_odd_requests :
    let missing (_ : String) : Except Host.Refusal (List UInt8) := .error .notFound
    let idle : Request := { threads := 0, config := some "a.json" }
    let rootless (_ : String) : Except Host.Refusal (List UInt8) :=
      .ok (Json.ascii "\x7b\"roots\":[]\x7d")
    let bare : Request := { config := some "a.json", pathStyle := some .windows }
    let drive (_ : String) : Except Host.Refusal (List UInt8) :=
      .ok (Json.ascii "\x7b\"path_style\":\"windows\",\"roots\":[\"C:\"]\x7d")
    let moved : Request := { config := some "a.json", pathStyle := some .unix }
    (idle.Has missing (.unreadable "a.json" .notFound) ∧ idle.HasFirst missing .noThreads ∧
      (run idle missing).1 = .error ⟨"--threads must be at least 1", []⟩) ∧
    (bare.HasFirst rootless (.invalid "a.json" (.invalidArgument .noRoots)) ∧
      (run bare rootless).1 = .error ⟨"failed to load config a.json",
        ["invalid argument: at least one root is required"]⟩) ∧
    (∀ fault, ¬moved.Has drive fault) ∧ ∃ report, (run moved drive).1 = .ok report := by
  intro missing idle rootless bare drive moved
  obtain ⟨-, refused, -⟩ := refused_iff_faulty idle missing
  obtain ⟨-, refused', -⟩ := refused_iff_faulty bare rootless
  obtain ⟨-, -, reports⟩ := refused_iff_faulty moved drive
  have workless : idle.HasFirst missing .noThreads := ⟨.noThreads rfl, fun _ _ => Nat.zero_le _⟩
  have described : Config.described? (Json.ascii "\x7b\"roots\":[]\x7d") =
      some { Config.unix with roots := some [] } := by decide +kernel
  have invalid : bare.HasFirst rootless (.invalid "a.json" (.invalidArgument .noRoots)) := by
    refine ⟨.invalid rfl rfl described rfl, fun other has => ?_⟩
    cases has with
    | noThreads none => cases none
    | tooLarge large => exact absurd large (by decide)
    | unreadable | undescribed | invalid => exact Nat.le_refl 2
  have sound (fault : Fault) : ¬moved.Has drive fault := by
    intro has
    have described : Config.described?
        (Json.ascii "\x7b\"path_style\":\"windows\",\"roots\":[\"C:\"]\x7d") =
          some { Config.unix with pathStyle := .windows, roots := some ["C:"] } := by decide +kernel
    cases has with
    | noThreads none => cases none
    | tooLarge large => exact absurd large (by decide)
    | unreadable given refused => cases refused
    | undescribed given read nothing =>
      cases read
      cases described.symm.trans nothing
    | invalid given read described' refused =>
      cases read
      cases described.symm.trans described'
      cases refused
  exact ⟨⟨.unreadable rfl rfl, workless, refused _ workless⟩, ⟨invalid, refused' _ invalid⟩, sound,
    (reports sound).1⟩

end Workload

end CoupledFs
