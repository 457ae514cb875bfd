import CoupledFs.Proofs.Creation
import CoupledFs.Proofs.Locality
import CoupledFs.Proofs.Neighbours

/-! Making nodes in any order. Whether a node can be made at a path depends on what is there and above
it, so that nodes none of which is to be above another can be made in any order. -/

namespace CoupledFs

namespace Path

/-- A path to something above what the other path leads to. -/
structure ProperPrefix (path other : Path) : Prop where
  root : path.root? = other.root?
  names : path.segments <+: other.segments
  shorter : path.segments.length < other.segments.length

/-- Paths to different places, neither of which is above the other. -/
structure Independent (path other : Path) : Prop where
  apart : path.root? ≠ other.root? ∨ path.segments ≠ other.segments
  notAbove : ¬ path.ProperPrefix other
  notBelow : ¬ other.ProperPrefix path

theorem Independent.symm {path other : Path} (independent : path.Independent other) :
    other.Independent path :=
  ⟨independent.apart.imp Ne.symm Ne.symm, independent.notBelow, independent.notAbove⟩

theorem Independent.not_isPrefix {path other : Path} (independent : path.Independent other)
    (root : path.root? = other.root?) : ¬ path.segments <+: other.segments := by
  intro front
  rcases Nat.lt_or_ge path.segments.length other.segments.length with shorter | longer
  · exact independent.notAbove ⟨root, front, shorter⟩
  · have same := front.eq_of_length_le longer
    rcases independent.apart with roots | names
    · exact roots root
    · exact names same

end Path

/-! ### What making a node depends on -/

namespace PathMap

variable {map other : PathMap}

theorem obstacle?_congr {path : Path}
    (same : ∀ front, front <+: path.segments → map.get? front = other.get? front) :
    map.obstacle? path = other.obstacle? path := by
  have barriers : map.barrier? path = other.barrier? path := by
    funext depth
    rw [barrier?, barrier?, same _ (List.take_prefix depth _)]
  rw [obstacle?, obstacle?, barriers]

theorem create_congr {path : Path}
    (same : ∀ front, front <+: path.segments → map.get? front = other.get? front)
    (entry : Descriptor) :
    (map.create path entry).map (fun _ => ()) = (other.create path entry).map fun _ => () := by
  cases path with
  | root r => rfl
  | element e =>
    have way := obstacle?_congr same
    have there := same e.segments List.prefix_rfl
    cases barred : map.obstacle? (.element e) with
    | some error =>
      rw [create_of_obstacle barred, create_of_obstacle (way ▸ barred)]
    | none =>
      cases found : map.get? e.segments with
      | some taken =>
        rw [create_of_taken barred found, create_of_taken (way ▸ barred) (there ▸ found)]
      | none =>
        rw [create_of_free barred found, create_of_free (way ▸ barred) (there ▸ found)]
        rfl

end PathMap

theorem PathModel.answer_create_congr {model other : PathModel} (config : Config)
    (defaultRoot : Root) {path : Path} (entry : Descriptor)
    (known : (model.maps (path.root?.getD defaultRoot)).isSome =
      (other.maps (path.root?.getD defaultRoot)).isSome)
    (same : ∀ ⦃map map'⦄, model.maps (path.root?.getD defaultRoot) = some map →
      other.maps (path.root?.getD defaultRoot) = some map' →
      ∀ front, front <+: path.segments → map.get? front = map'.get? front) :
    (model.create config defaultRoot path entry).1 =
      (other.create config defaultRoot path entry).1 := by
  rw [create, create, locate_eq, locate_eq]
  cases mine : model.maps (path.root?.getD defaultRoot) with
  | none =>
    cases yours : other.maps (path.root?.getD defaultRoot) with
    | none => rfl
    | some map' => simp [mine, yours] at known
  | some map =>
    cases yours : other.maps (path.root?.getD defaultRoot) with
    | none => simp [mine, yours] at known
    | some map' =>
      have agree := same mine yours
      rw [← path.segments_toAbsolute defaultRoot] at agree
      have made := PathMap.create_congr agree entry
      dsimp only
      split
      · rfl
      · cases first : map.create (path.toAbsolute defaultRoot) entry <;>
          cases second : map'.create (path.toAbsolute defaultRoot) entry <;>
          simp_all [Except.map]

namespace Node

@[simp]
theorem descriptor_bare (node : Node) : node.bare.descriptor = node.descriptor := by
  unfold bare descriptor kind size
  cases content : node.content <;> rfl

end Node

namespace FileSystem

variable {fs : FileSystem} {graph graph' after : Graph} {model model' : PathModel} {path : Path}
  {request other : Request} {make : Int → Node}

def bareAt? (fs : FileSystem) (graph : Graph) (root : Root) (names : List String) : Option Node :=
  (fs.nodeAt? graph root names).map fun id => (graph.node id).bare

theorem entryAt?_eq_bareAt? (fs : FileSystem) (graph : Graph) (root : Root) (names : List String) :
    fs.entryAt? graph root names = (fs.bareAt? graph root names).map Node.descriptor := by
  simp [entryAt?, bareAt?, Function.comp_def]

theorem bareAt?_at_time (fs : FileSystem) (graph : Graph) (now : Int) :
    fs.bareAt? { graph with clock := now } = fs.bareAt? graph := by
  funext root names
  rw [bareAt?, nodeAt?_at_time]
  rfl

theorem Untouched.bareAt? (untouched : fs.Untouched graph after) :
    fs.bareAt? after = fs.bareAt? graph := by
  funext root names
  rw [FileSystem.bareAt?, untouched.places]
  exact Option.map_congr fun _ found => congrArg Node.bare (untouched.nodes found)

theorem untimed_answer_of_make (about : fs.intent request = .make path make) (graph : Graph) :
    (fs.serve request graph).answer.map Answer.untimed = (fs.serve request graph).answer := by
  have effect := fs.effect_of_serve request graph
  generalize (fs.serve request graph).answer = answer, (fs.serve request graph).state = after
    at effect ⊢
  cases effect with
  | nothing _ idle =>
    cases answer with
    | error error => rfl
    | ok value =>
      obtain ⟨_, _, looks⟩ := idle value rfl
      cases about.symm.trans looks
  | growth => rfl

/-- Making a node is answered alike in two graphs with the same nodes at its path and above. -/
theorem Refines.answer_congr (refines : fs.Refines graph model) (refines' : fs.Refines graph' model')
    (about : fs.intent request = .make path make)
    (same : ∀ front, front <+: path.segments →
      fs.bareAt? graph (fs.anchor path) front = fs.bareAt? graph' (fs.anchor path) front) :
    (fs.serve request graph).answer = (fs.serve request graph').answer := by
  have known (root : Root) : (model.maps root).isSome = (model'.maps root).isSome :=
    (refines.known root).trans (refines'.known root).symm
  have entries ⦃map map' : PathMap⦄ (there : model.maps (fs.anchor path) = some map)
      (there' : model'.maps (fs.anchor path) = some map') (front : List String)
      (above : front <+: path.segments) : map.get? front = map'.get? front := by
    rw [refines.mirrors there, refines'.mirrors there', entryAt?_eq_bareAt?, same front above,
      ← entryAt?_eq_bareAt?]
  rw [← untimed_answer_of_make about graph, ← untimed_answer_of_make about graph']
  refine (refines.serve request).answer.trans (Eq.trans ?_ (refines'.serve request).answer.symm)
  unfold PathModel.serve
  rw [refines.opened, refines'.opened]
  split
  · rfl
  · cases request with
    | createDirectory | createFile | createSymbolicLink =>
      cases about
      exact PathModel.answer_create_congr _ _ _ (known _) entries
    | readBasic | readPosix | checkAccess | listChildren => cases about

/-- The node that a request puts in a place, if the place is that of its path and the request succeeds. -/
def planted? (fs : FileSystem) (graph : Graph) (request : Request) (root : Root)
    (names : List String) : Option Node :=
  match fs.intent request with
  | .make path make =>
    if (fs.serve request graph).answer = .ok .done ∧ root = fs.anchor path ∧ names = path.segments
      then some (make 0).bare else none
  | .look .. => none

theorem planted?_congr
    (same : (fs.serve request graph).answer = (fs.serve request graph').answer) :
    fs.planted? graph request = fs.planted? graph' request := by
  funext root names
  rw [planted?, planted?, same]

/-- What there is after a request: what it put there, and what was there. -/
theorem bareAt?_of_serve (valid : fs.Rooted graph) (request : Request) (root : Root)
    (names : List String) : fs.bareAt? (fs.serve request graph).state root names =
      (fs.planted? graph request root names).or (fs.bareAt? graph root names) := by
  have effect := fs.effect_of_serve request graph
  unfold planted?
  generalize (fs.serve request graph).answer = answer, (fs.serve request graph).state = after
    at effect ⊢
  cases effect with
  | nothing _ idle =>
    cases about : fs.intent request with
    | look => rfl
    | make path make =>
      have failed : answer ≠ .ok .done := by
        intro succeeded
        obtain ⟨_, _, looks⟩ := idle _ succeeded
        cases about.symm.trans looks
      simp [failed]
  | @growth path absolute parent make anchor start target name passed about absolute_eq rooted found
      segments route directory free =>
    subst absolute_eq
    have place : fs.nodeAt? graph anchor parent.segments = some target :=
      Option.bind_eq_some_iff.mpr ⟨_, found, route.resolve⟩
    have childless := childless_of_intent about graph.clock
    have anchored : anchor = fs.anchor path :=
      Option.some.inj (rooted.symm.trans (path.root?_toAbsolute fs.defaultRoot))
    rw [path.segments_toAbsolute] at segments
    rw [bareAt?, map_nodeAt?_addUnder valid place directory free childless Node.bare_link, about,
      ← segments, anchored, bare_of_intent about]
    by_cases here : root = fs.anchor path ∧ names = path.segments
    · rw [if_pos here]
      dsimp only
      rw [if_pos ⟨rfl, here⟩]
      rfl
    · rw [if_neg here]
      dsimp only
      rw [if_neg fun there => here there.2]
      rfl

def Independent (fs : FileSystem) (request other : Request) : Prop :=
  ∃ path path', fs.made? request = some path ∧ fs.made? other = some path' ∧ path.Independent path'

theorem Independent.symm (independent : fs.Independent request other) :
    fs.Independent other request := by
  obtain ⟨path, path', made, made', apart⟩ := independent
  exact ⟨path', path, made', made, apart.symm⟩

theorem Independent.planted?_eq_none (independent : fs.Independent request other)
    (about : fs.intent other = .make path make) (above : names <+: path.segments) (graph : Graph) :
    fs.planted? graph request (fs.anchor path) names = none := by
  obtain ⟨absolute, absolute', made, made', apart⟩ := independent
  obtain ⟨path₁, make₁, about₁, rfl⟩ := made?_eq_some.mp made
  obtain ⟨path₂, make₂, about₂, rfl⟩ := made?_eq_some.mp made'
  cases about.symm.trans about₂
  simp only [planted?, about₁]
  refine if_neg ?_
  rintro ⟨-, root, rfl⟩
  refine apart.not_isPrefix ?_ ?_
  · rw [path₁.root?_toAbsolute, path.root?_toAbsolute]
    exact congrArg some root.symm
  · rwa [path₁.segments_toAbsolute, path.segments_toAbsolute]

theorem Independent.planted?_eq_none_of_some (independent : fs.Independent request other)
    (planted : fs.planted? graph other root names = some node) :
    fs.planted? graph request root names = none := by
  cases about : fs.intent other with
  | look => simp [planted?, about] at planted
  | make path make =>
    simp only [planted?, about, Option.ite_none_right_eq_some] at planted
    obtain ⟨⟨-, rfl, rfl⟩, -⟩ := planted
    exact independent.planted?_eq_none about List.prefix_rfl graph

/-- What requests leave in a place: what one of them makes there, and else what was there. -/
def Leaves (fs : FileSystem) (graph : Graph) (requests : List Request) (root : Root)
    (names : List String) (node : Node) : Prop :=
  (∃ request ∈ requests, fs.planted? graph request root names = some node) ∨
    (∀ request ∈ requests, fs.planted? graph request root names = none) ∧
      fs.bareAt? graph root names = some node

theorem Leaves.of_perm {requests requests' : List Request} (perm : requests.Perm requests')
    (leaves : fs.Leaves graph requests root names node) :
    fs.Leaves graph requests' root names node := by
  rcases leaves with ⟨request, member, planted⟩ | ⟨nothing, old⟩
  · exact .inl ⟨request, perm.mem_iff.mp member, planted⟩
  · exact .inr ⟨fun request member => nothing request (perm.mem_iff.mpr member), old⟩

/-- What independent requests leave is what the later ones leave of what the first one leaves. -/
theorem leaves_cons_iff {requests : List Request}
    (independent : ∀ other ∈ requests, fs.Independent request other)
    (answers : ∀ other ∈ requests, ∀ root names,
      fs.planted? after other root names = fs.planted? graph other root names)
    (first : ∀ root names, fs.bareAt? after root names =
      (fs.planted? graph request root names).or (fs.bareAt? graph root names)) :
    fs.Leaves after requests root names node ↔ fs.Leaves graph (request :: requests) root names node := by
  have later : fs.Leaves after requests root names node ↔
      (∃ other ∈ requests, fs.planted? graph other root names = some node) ∨
        (∀ other ∈ requests, fs.planted? graph other root names = none) ∧
          (fs.planted? graph request root names).or (fs.bareAt? graph root names) = some node := by
    rw [Leaves, first]
    refine or_congr (exists_congr fun other => and_congr_right fun member => ?_)
      (and_congr_left' (forall₂_congr fun other member => ?_))
    · rw [answers other member]
    · rw [answers other member]
  rw [later, Leaves]
  simp only [List.mem_cons, exists_eq_or_imp, forall_eq_or_imp]
  cases planted : fs.planted? graph request root names with
  | none => simp
  | some made =>
    -- Nobody else makes a node in this place.
    have nothing : ∀ other ∈ requests, fs.planted? graph other root names = none := by
      intro other member
      exact (independent other member).symm.planted?_eq_none_of_some planted
    have nobody : ¬ ∃ other ∈ requests, fs.planted? graph other root names = some node := by
      rintro ⟨other, member, planted'⟩
      cases (nothing other member).symm.trans planted'
    simpa [nobody] using fun _ => nothing

end FileSystem

namespace Provider

variable {provider : Provider} {models : SystemId → PathModel} {id : SystemId} {fs : FileSystem}

def asking (id : SystemId) (calls : List (Int × Request)) : List (Int × Command) :=
  calls.map fun (now, request) => (now, .operate id (.request request))

theorem system?_afterAll_asking (provider : Provider) (id : SystemId) (calls : List (Int × Request))
    (other : SystemId) :
    (provider.afterAll (asking id calls)).system? other = provider.system? other := by
  induction calls generalizing provider with
  | nil => rfl
  | cons call calls ih => exact (ih _).trans (system?_after_request provider call.1 id call.2 other)

theorem Models.of_creation (modelled : provider.Models models)
    (there : provider.system? id = some fs) (now : Int) {request : Request} {path : Path}
    {make : Int → Node} (about : fs.intent request = .make path make) :
    (∃ models', (provider.after (now, .operate id (.request request))).Models models') ∧
      provider.reply (now, .operate id (.request request)) =
        (fs.serve request provider.graph).answer.map .answer ∧
      (∀ root names,
        fs.bareAt? (provider.after (now, .operate id (.request request))).graph root names =
          (fs.planted? provider.graph request root names).or
            (fs.bareAt? provider.graph root names)) ∧
      ∀ other fs', other ≠ id → provider.system? other = some fs' →
        fs'.bareAt? (provider.after (now, .operate id (.request request))).graph =
          fs'.bareAt? provider.graph := by
  have refines := modelled.each there
  have later := modelled.atTime now
  have refines' := later.each there
  have timeless (fs : FileSystem) : fs.bareAt? (provider.atTime now).graph = fs.bareAt? provider.graph :=
    fs.bareAt?_at_time provider.graph now
  have same : (fs.serve request (provider.atTime now).graph).answer =
      (fs.serve request provider.graph).answer :=
    refines'.answer_congr refines about fun front _ => by rw [timeless]
  have effect := fs.effect_of_serve request (provider.atTime now).graph
  rw [after_request there, reply_request there, same]
  refine ⟨⟨_, later.serve there request⟩, rfl, fun root names => ?_,
    fun other fs' differs there' => ?_⟩
  · dsimp only
    rw [FileSystem.bareAt?_of_serve refines'.rooted, timeless, FileSystem.planted?_congr same]
  · have apart := later.apart there there' differs.symm
    dsimp only
    rw [(effect.untouched apart (later.each there').rooted).bareAt?, timeless]

/-- After one node has been made, an independent request is answered as before. -/
theorem Models.answer_after_creation (modelled : provider.Models models)
    (there : provider.system? id = some fs) (now : Int) {request other : Request}
    (independent : fs.Independent request other) :
    (fs.serve other (provider.after (now, .operate id (.request request))).graph).answer =
      (fs.serve other provider.graph).answer := by
  have ⟨absolute, absolute', made, made', _⟩ := independent
  obtain ⟨path, make, about, -⟩ := FileSystem.made?_eq_some.mp made
  obtain ⟨path', make', about', -⟩ := FileSystem.made?_eq_some.mp made'
  obtain ⟨⟨_, modelled'⟩, -, trees, -⟩ := modelled.of_creation there now about
  have there' := (system?_after_request provider now id request id).trans there
  refine (modelled'.each there').answer_congr (modelled.each there) about' fun front above => ?_
  rw [trees, independent.planted?_eq_none about' above, Option.none_or]

/-- Nodes that are made at independent paths. -/
theorem Models.creations (modelled : provider.Models models) (there : provider.system? id = some fs)
    (calls : List (Int × Request))
    (creating : ∀ call ∈ calls, (fs.made? call.2).isSome = true)
    (independent : (calls.map Prod.snd).Pairwise fs.Independent) :
    (history (asking id calls) provider).map (fun (found, step) => found.reply step) =
        calls.map (fun call => (fs.serve call.2 provider.graph).answer.map .answer) ∧
      (∀ root names node,
        fs.bareAt? (provider.afterAll (asking id calls)).graph root names = some node ↔
          fs.Leaves provider.graph (calls.map Prod.snd) root names node) ∧
      ∀ other fs', other ≠ id → provider.system? other = some fs' →
        fs'.bareAt? (provider.afterAll (asking id calls)).graph = fs'.bareAt? provider.graph := by
  induction calls generalizing provider models with
  | nil => exact ⟨rfl, fun root names node => by simp [FileSystem.Leaves, asking, afterAll], fun _ _ _ _ => rfl⟩
  | cons call calls ih =>
    obtain ⟨now, request⟩ := call
    obtain ⟨absolute, made⟩ := Option.isSome_iff_exists.mp (creating _ List.mem_cons_self)
    obtain ⟨path, make, about, -⟩ := FileSystem.made?_eq_some.mp made
    obtain ⟨first, rest⟩ := List.pairwise_cons.mp independent
    obtain ⟨⟨_, modelled'⟩, reply, trees, others⟩ := modelled.of_creation there now about
    have there' (other : SystemId) := system?_after_request provider now id request other
    obtain ⟨replies, left, aside⟩ := ih modelled' ((there' id).trans there)
      (fun call member => creating call (List.mem_cons_of_mem _ member)) rest
    have answers (other : Request) (member : other ∈ calls.map Prod.snd) :=
      modelled.answer_after_creation there now (first other member)
    refine ⟨?replies, ?tree, ?aside⟩
    case replies =>
      have later : calls.map (fun call =>
          (fs.serve call.2 (provider.after (now, .operate id (.request request))).graph).answer.map
            Response.answer) =
          calls.map fun call => (fs.serve call.2 provider.graph).answer.map .answer :=
        List.map_congr_left fun call member => by
          rw [answers call.2 (List.mem_map_of_mem member)]
      exact congrArg₂ List.cons reply (replies.trans later)
    case tree =>
      intro root names node
      refine (left root names node).trans
        (FileSystem.leaves_cons_iff first (fun other member root names => ?_) trees)
      rw [FileSystem.planted?_congr (answers other member)]
    case aside =>
      intro other fs' differs found
      exact (aside other fs' differs ((there' other).trans found)).trans (others other fs' differs found)

/-- Nodes at independent paths can be made in any order: each request is answered the same, and the same
trees come of it, in this file system and in all others. -/
theorem creations_commute (steps : List (Int × Command))
    (rooted : ∀ step ∈ steps, ∀ id table, step.2 ≠ .operate id (.setRoots table)) {id : SystemId}
    {fs : FileSystem} (there : (({} : Provider).afterAll steps).system? id = some fs)
    (calls calls' : List (Int × Request))
    (creating : ∀ call ∈ calls, (fs.made? call.2).isSome = true)
    (independent : (calls.map Prod.snd).Pairwise fs.Independent)
    (reordered : (calls.map Prod.snd).Perm (calls'.map Prod.snd)) :
    let provider := ({} : Provider).afterAll steps
    let replies (calls : List (Int × Request)) :=
      (history (asking id calls) provider).map fun (found, step) => found.reply step
    let later (calls : List (Int × Request)) := provider.afterAll (asking id calls)
    ((calls.map Prod.snd).zip (replies calls)).Perm ((calls'.map Prod.snd).zip (replies calls')) ∧
      ∀ other, (later calls).system? other = (later calls').system? other ∧
        ∀ found, (later calls).system? other = some found →
          found.bareAt? (later calls).graph = found.bareAt? (later calls').graph := by
  intro provider replies later
  obtain ⟨models, modelled⟩ := exists_models steps rooted
  have creating' : ∀ call ∈ calls', (fs.made? call.2).isSome = true := by
    intro call member
    obtain ⟨call', member', same⟩ :=
      List.mem_map.mp (reordered.mem_iff.mpr (List.mem_map_of_mem member))
    rw [← same]
    exact creating call' member'
  have independent' := (reordered.pairwise_iff fun apart => apart.symm).mp independent
  obtain ⟨answers, left, aside⟩ := modelled.creations there calls creating independent
  obtain ⟨answers', left', aside'⟩ := modelled.creations there calls' creating' independent'
  have systems (calls : List (Int × Request)) (other : SystemId) :
      (later calls).system? other = provider.system? other :=
    system?_afterAll_asking provider id calls other
  refine ⟨?_, fun other => ⟨(systems calls other).trans (systems calls' other).symm, ?_⟩⟩
  · have paired {calls : List (Int × Request)} (answered : replies calls = calls.map fun call =>
        (fs.serve call.2 provider.graph).answer.map Response.answer) :
        (calls.map Prod.snd).zip (replies calls) = (calls.map Prod.snd).map fun request =>
          (request, (fs.serve request provider.graph).answer.map Response.answer) := by
      rw [answered, List.zip_map', List.map_map]
      rfl
    rw [paired answers, paired answers']
    exact reordered.map _
  · intro found there'
    rw [systems] at there'
    by_cases same : other = id
    · subst same
      cases there.symm.trans there'
      funext root names
      ext node
      rw [left, left']
      exact ⟨.of_perm reordered, .of_perm reordered.symm⟩
    · rw [aside other found same there', aside' other found same there']

/-- A directory, a link to it and a file for which there is no directory. -/
theorem creations_commute_of_siblings :
    let path (name : String) (names : List String) : Path :=
      .element ⟨some .slash, name :: names, '/', by simp⟩
    let directory : Request := .createDirectory (path "a" [])
    let link : Request := .createSymbolicLink (path "b" []) (path "a" [])
    let lost : Request := .createFile (path "c" ["d"])
    let calls : List (Int × Request) := [(2, directory), (3, link), (4, lost)]
    let calls' : List (Int × Request) := [(5, lost), (6, link), (7, directory)]
    let provider := ({} : Provider).afterAll [(1, .newFileSystem "key" .unix)]
    let replies (calls : List (Int × Request)) :=
      (history (asking 0 calls) provider).map fun (found, step) => found.reply step
    ∃ fs, provider.system? 0 = some fs ∧ [directory, link, lost].Pairwise fs.Independent ∧
      ([directory, link, lost].zip (replies calls)).Perm
        ([lost, link, directory].zip (replies calls')) ∧
      fs.bareAt? (provider.afterAll (asking 0 calls)).graph =
        fs.bareAt? (provider.afterAll (asking 0 calls')).graph := by
  intro path directory link lost calls calls' provider replies
  have rooted : ∀ step ∈ [((1 : Int), Command.newFileSystem "key" .unix)], ∀ id table,
      step.2 ≠ .operate id (.setRoots table) := by simp
  obtain ⟨fs, there⟩ : ∃ fs, provider.system? 0 = some fs := ⟨_, rfl⟩
  have separate {first second : String} (differs : first ≠ second) (names names' : List String) :
      (path first names).Independent (path second names') := by
    refine ⟨.inr ?_, ?_, ?_⟩
    · simp [path, Path.segments, differs]
    · rintro ⟨-, front, -⟩
      simp [path, Path.segments, List.cons_prefix_cons, differs] at front
    · rintro ⟨-, front, -⟩
      simp [path, Path.segments, List.cons_prefix_cons, Ne.symm differs] at front
  have independent : [directory, link, lost].Pairwise fs.Independent := by
    have first : fs.Independent directory link := ⟨_, _, rfl, rfl, separate (by simp) _ _⟩
    have second : fs.Independent directory lost := ⟨_, _, rfl, rfl, separate (by simp) _ _⟩
    have third : fs.Independent link lost := ⟨_, _, rfl, rfl, separate (by simp) _ _⟩
    simp [first, second, third]
  have creating : ∀ call ∈ calls, (fs.made? call.2).isSome = true := by
    simp [calls, directory, link, lost, FileSystem.made?, FileSystem.intent]
  obtain ⟨same, trees⟩ := creations_commute _ rooted there calls calls' creating independent
    (List.reverse_perm _).symm
  refine ⟨fs, there, independent, same, ?_⟩
  exact (trees 0).2 fs ((system?_afterAll_asking provider 0 calls 0).trans there)

/-- Paths that differ in nothing but the separator lead to one place. Only one of two nodes can be made
there, although the paths are not the same and neither is above the other. -/
theorem not_creations_commute :
    let path (separator : Char) : Path := .element ⟨some .slash, ["a"], separator, by simp⟩
    let create : Int × Command := (2, .operate 0 (.request (.createDirectory (path '/'))))
    let other : Int × Command := (2, .operate 0 (.request (.createFile (path '\\'))))
    let provider := ({} : Provider).after (1, .newFileSystem "key" .unix)
    path '/' ≠ path '\\' ∧ ¬ (path '/').ProperPrefix (path '\\') ∧
      ¬ (path '\\').ProperPrefix (path '/') ∧ provider.reply create = .ok (.answer .done) ∧
      (provider.after other).reply create = .error (.alreadyExists "/a") := by
  intro path create other provider
  have distinct : path '/' ≠ path '\\' := by simp [path]
  have level (first second : Char) : ¬ (path first).ProperPrefix (path second) :=
    fun above => Nat.lt_irrefl 1 above.shorter
  let fs : FileSystem :=
    ⟨.unix, ⟨"memfs", "key", false⟩, {}, ⟨[(.slash, 0)]⟩, .slash, ⟨["root"], ["root"]⟩, true⟩
  let start : Graph := ⟨#[.newDirectory 1 0o755 (some ⟨"root", "root"⟩)], 2⟩
  let taken : Graph := start.addUnder 0 "a" (.newFile · 0o644 (some ⟨"root", "root"⟩))
  have there : provider.system? 0 = some fs := rfl
  have made : (fs.serve (.createDirectory (path '/')) start).answer = .ok .done :=
    congrArg Prod.fst (FileSystem.outcome_serve_of_free rfl rfl rfl rfl rfl rfl (.here 0) rfl rfl)
  have late : (fs.serve (.createDirectory (path '/')) taken).answer = .error (.alreadyExists "/a") := by
    have planned : fs.plan (.createDirectory (path '/')) = .ok (FileSystem.makeAt (.root .slash)
        (path '/') 0 "a" (.newDirectory · 0o755 (some ⟨"root", "root"⟩))) := rfl
    have outcome := fs.outcome_serve (.createDirectory (path '/')) taken
    rw [planned, Plan.outcome_ok, FileSystem.outcome_makeAt_of_taken _ _ (.here 0) rfl] at outcome
    exact congrArg Prod.fst outcome
  have other_made : (provider.after other).graph = taken := by
    have outcome : (fs.serve (.createFile (path '\\')) start).outcome = (.ok .done, taken) :=
      FileSystem.outcome_serve_of_free rfl rfl rfl rfl rfl rfl (.here 0) rfl rfl
    rw [after_request there]
    exact congrArg Prod.snd outcome
  refine ⟨distinct, level _ _, level _ _, ?_, ?_⟩
  · rw [reply_request there]
    exact congrArg (Except.map Response.answer) made
  · have there' : (provider.after other).system? 0 = some fs :=
      (system?_after_request provider 2 0 _ 0).trans there
    rw [reply_request there', atTime, other_made]
    exact congrArg (Except.map Response.answer) late

end Provider

end CoupledFs
