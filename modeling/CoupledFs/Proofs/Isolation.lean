import CoupledFs.Proofs.Locality
import CoupledFs.Proofs.Neighbours

/-! Isolation: what is asked of one tree has no bearing on what is answered about another, in the same
file system or not. Requests can be struck from a session tree by tree, and the rest of the session goes
on as before. -/

namespace CoupledFs

namespace FileSystem

theorem uprooted_of_build {key : String} {config : Config} {registered : Bool}
    {before before' graph graph' : Graph} {fs twin : FileSystem}
    (built : (build key config registered before).outcome = (.ok fs, graph))
    (built' : (build key config registered before').outcome = (.ok twin, graph')) :
    fs.uprooted = twin.uprooted := by
  obtain ⟨first, others, named, rfl, -⟩ := build_eq_ok built
  obtain ⟨first', others', named', rfl, -⟩ := build_eq_ok built'
  cases named.symm.trans named'
  have starts (start : Nat) : ((first :: others).zipIdx start).map (fun (root, _) => (root, 0)) =
      (first :: others).map (·, 0) := by
    rw [← List.zipIdx_map_fst start (first :: others), List.map_map, List.zipIdx_map_fst]
    rfl
  simp only [uprooted, withRoots, RootTable.bare_ofList, starts]

end FileSystem

namespace Provider

variable {provider twin : Provider} {models models' : SystemId → PathModel} {id : SystemId}
  {struck : SystemId → Root → Bool}

/-- Whether a command is a request about one of the given trees. -/
def isAbout (provider : Provider) (trees : SystemId → Root → Bool) : Command → Bool
  | .operate id (.request request) =>
    (provider.system? id).any fun fs => trees id (fs.anchor request.path)
  | _ => false

/-- Two providers that differ in what there is in the struck trees, and in nothing else but times and in
which nodes are used. -/
structure Twins (struck : SystemId → Root → Bool) (provider twin : Provider)
    (models models' : SystemId → PathModel) : Prop where
  modelled : provider.Models models
  modelled' : twin.Models models'
  size : provider.systems.size = twin.systems.size
  system : ∀ id, (provider.system? id).map FileSystem.uprooted =
    (twin.system? id).map FileSystem.uprooted
  registry : provider.registry = twin.registry
  hasRegistry : provider.hasRegistry = twin.hasRegistry
  opened : ∀ id, (models id).isOpen = (models' id).isOpen
  maps : ∀ id root, struck id root = false → (models id).maps root = (models' id).maps root

theorem twins_empty (struck : SystemId → Root → Bool) (models : SystemId → PathModel) :
    Twins struck {} {} models models :=
  ⟨models_empty models, models_empty models, rfl, fun _ => rfl, rfl, rfl, fun _ => rfl,
    fun _ _ _ => rfl⟩

namespace Twins

variable (twins : Twins struck provider twin models models')

include twins

theorem atTime (now now' : Int) :
    Twins struck (provider.atTime now) (twin.atTime now') models models' :=
  { twins with
    modelled := twins.modelled.atTime now
    modelled' := twins.modelled'.atTime now' }

theorem cases (id : SystemId) :
    provider.system? id = none ∧ twin.system? id = none ∨
      ∃ fs fs', provider.system? id = some fs ∧ twin.system? id = some fs' ∧
        fs.uprooted = fs'.uprooted := by
  have same := twins.system id
  cases there : provider.system? id with
  | none =>
    rw [there] at same
    exact .inl ⟨rfl, Option.map_eq_none_iff.mp same.symm⟩
  | some fs =>
    rw [there] at same
    obtain ⟨fs', there', alike⟩ := Option.map_eq_some_iff.mp same.symm
    exact .inr ⟨fs, fs', rfl, there', alike.symm⟩

theorem strike {fs : FileSystem} (there : provider.system? id = some fs) {request : Request}
    (about : struck id (fs.anchor request.path) = true) :
    Twins struck { provider with graph := (fs.serve request provider.graph).state } twin
      (Function.update models id ((models id).serve fs.config fs.defaultRoot request).2) models' := by
  have elsewhere := (models id).serve_elsewhere fs.config fs.defaultRoot request
  refine { twins with modelled := twins.modelled.serve there request, opened := ?_, maps := ?_ }
  · intro other
    by_cases same : other = id
    · subst same
      rw [Function.update_self, elsewhere.1, twins.opened]
    · rw [Function.update_of_ne same, twins.opened]
  · intro other root kept
    by_cases same : other = id
    · subst same
      have differs : root ≠ fs.anchor request.path := by
        rintro rfl
        cases about.symm.trans kept
      rw [Function.update_self, elsewhere.2 root differs, twins.maps other root kept]
    · rw [Function.update_of_ne same, twins.maps other root kept]

/-- A request about another tree comes to the same in both. -/
theorem serve {fs fs' : FileSystem} (there : provider.system? id = some fs)
    (there' : twin.system? id = some fs') (alike : fs.uprooted = fs'.uprooted) {request : Request}
    (kept : struck id (fs.anchor request.path) = false) :
    Twins struck { provider with graph := (fs.serve request provider.graph).state }
        { twin with graph := (fs'.serve request twin.graph).state }
        (Function.update models id ((models id).serve fs.config fs.defaultRoot request).2)
        (Function.update models' id ((models' id).serve fs.config fs.defaultRoot request).2) ∧
      (fs.serve request provider.graph).answer.map Answer.untimed =
        (fs'.serve request twin.graph).answer.map Answer.untimed := by
  obtain ⟨table, rfl, -⟩ := FileSystem.eq_withRoots_of_uprooted alike
  obtain ⟨answers, maps⟩ := PathModel.serve_congr fs.config fs.defaultRoot request (twins.opened id)
    (twins.maps id _ kept)
  have mine := (twins.modelled.each there).serve request
  have yours := (twins.modelled'.each there').serve request
  have elsewhere := (models id).serve_elsewhere fs.config fs.defaultRoot request
  have elsewhere' := (models' id).serve_elsewhere fs.config fs.defaultRoot request
  refine ⟨{ twins with
    modelled := twins.modelled.serve there request
    modelled' := twins.modelled'.serve there' request
    opened := ?_
    maps := ?_ }, mine.answer.trans (answers.trans yours.answer.symm)⟩
  · intro other
    by_cases same : other = id
    · subst same
      rw [Function.update_self, Function.update_self, elsewhere.1, elsewhere'.1, twins.opened]
    · rw [Function.update_of_ne same, Function.update_of_ne same, twins.opened]
  · intro other root clear
    by_cases same : other = id
    · subst same
      rw [Function.update_self, Function.update_self]
      by_cases here : root = request.path.root?.getD fs.defaultRoot
      · rw [here, maps]
      · rw [elsewhere.2 root here, elsewhere'.2 root here, twins.maps other root clear]
    · rw [Function.update_of_ne same, Function.update_of_ne same, twins.maps other root clear]

theorem withSystem {key : String} {config : Config} {registered : Bool} {fs fs' : FileSystem}
    {graph graph' : Graph} {roots : List Root}
    (built : (FileSystem.build key config registered provider.graph).outcome = (.ok fs, graph))
    (built' : (FileSystem.build key config registered twin.graph).outcome = (.ok fs', graph'))
    (named : config.resolvedRoots = .ok roots) :
    Twins struck (provider.withSystem fs graph) (twin.withSystem fs' graph')
      (Function.update models provider.systems.size (.new config roots))
      (Function.update models' twin.systems.size (.new config roots)) where
  modelled := twins.modelled.withSystem built named
  modelled' := twins.modelled'.withSystem built' named
  size := by simp [Provider.withSystem, twins.size]
  system := by
    intro id
    rw [system?_withSystem, system?_withSystem, ← twins.size]
    split
    · exact congrArg some (FileSystem.uprooted_of_build built built')
    · exact twins.system id
  registry := twins.registry
  hasRegistry := twins.hasRegistry
  opened := by
    intro id
    rw [← twins.size]
    by_cases last : id = provider.systems.size
    · rw [last, Function.update_self, Function.update_self]
    · rw [Function.update_of_ne last, Function.update_of_ne last, twins.opened]
  maps := by
    intro id root kept
    rw [← twins.size]
    by_cases last : id = provider.systems.size
    · rw [last, Function.update_self, Function.update_self]
    · rw [Function.update_of_ne last, Function.update_of_ne last, twins.maps id root kept]

theorem withShut (id : SystemId) :
    Twins struck (provider.withShut id) (twin.withShut id)
      (Function.update models id { models id with isOpen := false })
      (Function.update models' id { models' id with isOpen := false }) where
  modelled := twins.modelled.withShut id
  modelled' := twins.modelled'.withShut id
  size := by simp [Provider.withShut, twins.size]
  system := by
    intro other
    have same := congrArg (Option.map fun fs : FileSystem => { fs with lifecycle := ⟨false⟩ })
      (twins.system other)
    rw [system?_withShut, system?_withShut]
    split
    · rw [Option.map_map, Option.map_map] at same
      rw [Option.map_map, Option.map_map]
      exact same
    · exact twins.system other
  registry := twins.registry
  hasRegistry := twins.hasRegistry
  opened := by
    intro other
    by_cases same : other = id
    · rw [same, Function.update_self, Function.update_self]
    · rw [Function.update_of_ne same, Function.update_of_ne same, twins.opened]
  maps := by
    intro other root kept
    by_cases same : other = id
    · subst same
      rw [Function.update_self, Function.update_self]
      exact twins.maps other root kept
    · rw [Function.update_of_ne same, Function.update_of_ne same, twins.maps other root kept]

theorem congr {after after' : Provider} (graph : after.graph = provider.graph)
    (systems : after.systems = provider.systems) (graph' : after'.graph = twin.graph)
    (systems' : after'.systems = twin.systems) (registry : after.registry = after'.registry)
    (hasRegistry : after.hasRegistry = after'.hasRegistry) :
    Twins struck after after' models models' where
  modelled := twins.modelled.congr graph systems
  modelled' := twins.modelled'.congr graph' systems'
  size := by rw [systems, systems', twins.size]
  system := by
    intro id
    rw [system?, system?, systems, systems']
    exact twins.system id
  registry := registry
  hasRegistry := hasRegistry
  opened := twins.opened
  maps := twins.maps

end Twins

/-- Outcomes that show the same and leave twins. -/
structure Alike (struck : SystemId → Root → Bool) {α : Type} (shown : α → α)
    (outcome outcome' : Except FsError α × Provider) : Prop where
  shown : outcome.1.map shown = outcome'.1.map shown
  twins : ∃ models models', Twins struck outcome.2 outcome'.2 models models'

theorem Alike.named {action : Action Provider SystemId}
    (alike : Alike struck (fun id => id) (action provider).outcome (action twin).outcome) :
    Alike struck Response.shown ((do return Response.system (← action)) provider).outcome
      ((do return Response.system (← action)) twin).outcome := by
  obtain ⟨shown, models, models', twins⟩ := alike
  change Alike struck Response.shown ((Response.system <$> action) provider).outcome
    ((Response.system <$> action) twin).outcome
  rw [Action.outcome_map, Action.outcome_map]
  refine ⟨?_, models, models', twins⟩
  have whole (found : Except FsError SystemId) : found.map (fun id => id) = found := by
    cases found <;> rfl
  rw [whole, whole] at shown
  simp only [Prod.map, shown]

section Obeyed

variable (twins : Twins struck provider twin models models')

include twins

theorem Twins.alike {α : Type} {shown : α → α} {answer answer' : Except FsError α}
    (same : answer.map shown = answer'.map shown) :
    Alike struck shown (answer, provider) (answer', twin) :=
  ⟨same, models, models', twins⟩

theorem Twins.construct (key : String) (config : Config) (registered : Bool) :
    Alike struck (fun id => id) (construct key config registered provider).outcome
      (construct key config registered twin).outcome := by
  cases valid : config.validate with
  | error error =>
    rw [outcome_construct_of_invalid valid, outcome_construct_of_invalid valid]
    exact twins.alike rfl
  | ok =>
    obtain ⟨fs, graph, built⟩ := FileSystem.exists_build valid key registered provider.graph
    obtain ⟨fs', graph', built'⟩ := FileSystem.exists_build valid key registered twin.graph
    obtain ⟨_, _, named, -⟩ := FileSystem.build_eq_ok built
    rw [outcome_construct_of_build built, outcome_construct_of_build built', twins.size]
    exact (twins.withSystem built built' named).alike rfl

theorem Twins.newFileSystem (key : String) (config : Config) :
    Alike struck (fun id => id) (newFileSystem key config provider).outcome
      (newFileSystem key config twin).outcome := by
  have lookup : twin.registry.lookup key = provider.registry.lookup key := by rw [twins.registry]
  cases leads : provider.registry.lookup key with
  | some other =>
    rw [outcome_newFileSystem_of_taken leads, outcome_newFileSystem_of_taken (lookup.trans leads)]
    exact twins.alike rfl
  | none =>
    have leads' := lookup.trans leads
    cases valid : config.validate with
    | error error =>
      rw [outcome_newFileSystem_of_invalid leads valid, outcome_newFileSystem_of_invalid leads' valid]
      exact twins.alike rfl
    | ok =>
      obtain ⟨fs, graph, built⟩ := FileSystem.exists_build valid key true provider.graph
      obtain ⟨fs', graph', built'⟩ := FileSystem.exists_build valid key true twin.graph
      obtain ⟨_, _, named, -⟩ := FileSystem.build_eq_ok built
      have joined := twins.withSystem built built' named
      rw [outcome_newFileSystem_of_build leads built, outcome_newFileSystem_of_build leads' built',
        ← twins.registry, twins.size]
      exact ⟨rfl, _, _, joined.congr rfl rfl rfl rfl rfl twins.hasRegistry⟩

theorem Twins.operate (id : SystemId) (operation : Operation)
    (rooted : ∀ table, operation ≠ .setRoots table)
    (kept : provider.isAbout struck (.operate id operation) = false) :
    Alike struck Response.shown (operate id operation provider).outcome
      (operate id operation twin).outcome := by
  rcases twins.cases id with ⟨missing, missing'⟩ | ⟨fs, fs', there, there', alike⟩
  · cases operation with
    | request request =>
      simp only [Provider.operate, outcome_map_request_of_none missing,
        outcome_map_request_of_none missing']
      exact twins.alike rfl
    | inquire inquiry =>
      simp only [Provider.operate, outcome_map_request_of_none missing,
        outcome_map_request_of_none missing']
      exact twins.alike rfl
    | setRoots table => exact absurd rfl (rooted table)
    | close =>
      rw [outcome_operate_close, state_close_of_none missing, outcome_operate_close,
        state_close_of_none missing']
      exact twins.alike rfl
  · cases operation with
    | request request =>
      have kept : struck id (fs.anchor request.path) = false := by
        simpa [isAbout, there] using kept
      obtain ⟨twins, answers⟩ := twins.serve there there' alike kept
      rw [outcome_operate_request there, outcome_operate_request there']
      refine twins.alike ?_
      rw [Response.shown_answer, Response.shown_answer, answers]
    | inquire inquiry =>
      rw [outcome_operate_inquire there, outcome_operate_inquire there']
      refine twins.alike ?_
      rw [Response.shown_finding, Response.shown_finding,
        FileSystem.shown_inquire alike inquiry provider.graph twin.graph]
    | setRoots table => exact absurd rfl (rooted table)
    | close =>
      obtain ⟨table, rfl, -⟩ := FileSystem.eq_withRoots_of_uprooted alike
      rw [outcome_operate_close, state_close there, outcome_operate_close, state_close there',
        ← twins.hasRegistry]
      have shut := twins.withShut id
      split
      · rename_i due
        have due' : (fs.withRoots table).isOpen ∧ (fs.withRoots table).registered ∧
          provider.hasRegistry := due
        rw [if_pos due']
        have registry := congrArg (List.filter (·.1 ≠ fs.key)) shut.registry
        exact ⟨rfl, _, _, shut.congr rfl rfl rfl rfl registry shut.hasRegistry⟩
      · rename_i idle
        have idle' : ¬ ((fs.withRoots table).isOpen ∧ (fs.withRoots table).registered ∧
          provider.hasRegistry) := idle
        rw [if_neg idle']
        exact shut.alike rfl

theorem Twins.obey (command : Command)
    (rooted : ∀ id table, command ≠ .operate id (.setRoots table))
    (kept : provider.isAbout struck command = false) :
    Alike struck Response.shown (obey command provider).outcome (obey command twin).outcome := by
  cases command with
  | newFileSystem key config => exact (twins.newFileSystem key config).named
  | newDetached key config => exact (twins.construct key config false).named
  | getFileSystem key =>
    have lookup : twin.lookup key = provider.lookup key := by
      rw [Provider.lookup, ← twins.registry]
      rfl
    simp only [Provider.obey, Action.outcome_bind, Action.outcome_inspect, lookup]
    cases provider.lookup key <;> exact twins.alike rfl
  | deregister key =>
    have registry := congrArg (List.filter (·.1 ≠ key)) twins.registry
    simp only [Provider.obey, Action.outcome_bind, outcome_deregister]
    exact ⟨rfl, _, _, twins.congr rfl rfl rfl rfl registry twins.hasRegistry⟩
  | dropRegistry => exact ⟨rfl, _, _, twins.congr rfl rfl rfl rfl rfl rfl⟩
  | operate id operation =>
    exact twins.operate id operation (fun table same => rooted id table (by rw [same])) kept

end Obeyed

theorem exists_of_isAbout {trees : SystemId → Root → Bool} {command : Command}
    (about : provider.isAbout trees command = true) :
    ∃ id request fs, command = .operate id (.request request) ∧ provider.system? id = some fs ∧
      trees id (fs.anchor request.path) = true := by
  unfold isAbout at about
  split at about
  · rename_i id request
    cases there : provider.system? id with
    | none => simp [there] at about
    | some fs => exact ⟨id, request, fs, rfl, there, by simpa [there] using about⟩
  · cases about

theorem Twins.after_struck (twins : Twins struck provider twin models models')
    (about : provider.isAbout struck command = true) (now : Int) :
    ∃ next, Twins struck (provider.after (now, command)) twin next models' := by
  obtain ⟨id, request, fs, rfl, there, chosen⟩ := exists_of_isAbout about
  have later : Twins struck (provider.atTime now) twin models models' :=
    { twins with modelled := twins.modelled.atTime now }
  rw [after_request there]
  exact ⟨_, later.strike there chosen⟩

/-- The rest of a session goes on in a twin as if nothing had been struck. -/
theorem Twins.history (twins : Twins struck provider twin models models')
    (steps : List (Int × Command))
    (rooted : ∀ step ∈ steps, ∀ id table, step.2 ≠ .operate id (.setRoots table)) :
    let kept := (history steps provider).filter fun (found, step) => !found.isAbout struck step.2
    (Provider.history (kept.map Prod.snd) twin).map (fun (found, step) =>
        (found.reply step).map Response.shown) =
      kept.map fun (found, step) => (found.reply step).map Response.shown := by
  induction steps generalizing provider twin models models' with
  | nil => rfl
  | cons step steps ih =>
    have first := rooted step List.mem_cons_self
    have later := fun other member => rooted other (List.mem_cons_of_mem step member)
    cases about : provider.isAbout struck step.2 with
    | true =>
      obtain ⟨_, next⟩ := twins.after_struck about step.1
      simp only [Provider.history, List.filter_cons, about, Bool.not_true, Bool.false_eq_true, if_false]
      exact ih next later
    | false =>
      obtain ⟨shown, _, _, next⟩ := (twins.atTime step.1 step.1).obey step.2 first about
      have rest := ih next later
      simp only [Provider.history, List.filter_cons, about, Bool.not_false, if_true, List.map_cons]
      exact congrArg₂ List.cons shown.symm rest

/-- Which requests are struck from a session makes no difference to the rest of it: whether all that are
about one file system, or all that are about one of its roots, or any other choice of trees. -/
theorem isolated (struck : SystemId → Root → Bool) (steps : List (Int × Command))
    (rooted : ∀ step ∈ steps, ∀ id table, step.2 ≠ .operate id (.setRoots table)) :
    let kept := (history steps {}).filter fun (provider, step) => !provider.isAbout struck step.2
    (history (kept.map Prod.snd) {}).map (fun (provider, step) =>
        (provider.reply step).map Response.shown) =
      kept.map fun (provider, step) => (provider.reply step).map Response.shown :=
  (twins_empty struck fun _ => .new .unix []).history steps rooted

/-- What is done on one drive makes no difference on another. -/
theorem isolated_drives :
    let path (letter : Char) : Path := .element ⟨some (.drive letter), ["a"], '\\', by simp⟩
    let config : Config := { Config.windows with roots := some ["C:", "D:"] }
    let struck : Int × Command := (2, .operate 0 (.request (.createFile (path 'C'))))
    let create : Int × Command := (3, .operate 0 (.request (.createFile (path 'D'))))
    let read : Int × Command := (4, .operate 0 (.request (.readBasic (path 'D'))))
    let provider := ({} : Provider).after (1, .newFileSystem "key" config)
    (∀ step ∈ [(1, .newFileSystem "key" config), struck, create, read],
        ∀ id table, step.2 ≠ .operate id (.setRoots table)) ∧
      (provider.reply create).map Response.shown =
        ((provider.after struck).reply create).map Response.shown ∧
      ((provider.after create).reply read).map Response.shown =
        (((provider.after struck).after create).reply read).map Response.shown := by
  intro path config struck create read provider
  let onC : SystemId → Root → Bool := fun id root => id = 0 ∧ root = .drive 'C'
  have rooted : ∀ step ∈ [(1, .newFileSystem "key" config), struck, create, read],
      ∀ id table, step.2 ≠ .operate id (.setRoots table) := by
    simp [struck, create, read]
  have same := isolated onC _ rooted
  have begun : ({} : Provider).isAbout onC (.newFileSystem "key" config) = false := rfl
  have about : provider.isAbout onC struck.2 = true := rfl
  have other : (provider.after struck).isAbout onC create.2 = false := by
    rw [isAbout, system?_after_request]
    rfl
  have other' : ((provider.after struck).after create).isAbout onC read.2 = false := by
    rw [isAbout, system?_after_request, system?_after_request]
    rfl
  simp only [history, List.filter_cons, List.filter_nil, begun, provider, about, other, other',
    Bool.not_true, Bool.not_false, Bool.false_eq_true, if_true, if_false, List.map_cons,
    List.map_nil, List.cons.injEq] at same
  exact ⟨rooted, same.2.1, same.2.2.1⟩

end Provider

end CoupledFs
