import CoupledFs.Proofs.Contents
import CoupledFs.Proofs.Counting
import CoupledFs.Proofs.ForestInvariant
import CoupledFs.Proofs.Reentry

/-! Counting directories as far down as there are any. It comes to an end by itself, so that the bound
on its depth makes no difference, and every directory is counted once, whatever its name. -/

namespace CoupledFs

namespace Graph

variable {graph : Graph} {start node : NodeId} {names names' : List String}

def directoriesFrom (graph : Graph) (start : NodeId) : Set NodeId :=
  {node | Relation.ReflTransGen graph.Links start node ∧ (graph.node node).isDirectory = true}

theorem exists_resolve_iff : (∃ names, graph.resolve start names = some node) ↔
    Relation.ReflTransGen graph.Links start node := by
  constructor
  · rintro ⟨names, reached⟩
    induction names generalizing start with
    | nil =>
      cases reached
      exact .refl
    | cons name names ih =>
      obtain ⟨child, linked, reached⟩ := Option.bind_eq_some_iff.mp reached
      exact .head ⟨name, linked⟩ (ih reached)
  · intro below
    induction below with
    | refl => exact ⟨[], rfl⟩
    | tail _ linked ih =>
      obtain ⟨names, reached⟩ := ih
      obtain ⟨name, linked⟩ := linked
      refine ⟨names ++ [name], ?_⟩
      rw [resolve_concat, reached, Option.bind_some, linked]

theorem Treelike.length_lt_size (treelike : graph.Treelike) (inside : start < graph.size)
    (reached : graph.resolve start names = some node) : names.length < graph.size := by
  obtain ⟨above, route⟩ := Route.of_resolve reached
  have distinct := Loopless.nodup_visited treelike.loopless start names
  have within : graph.visited start names ⊆ List.range graph.size := by
    intro other member
    rw [List.mem_range]
    rcases eq_or_above_of_mem_visited member with rfl | below
    · exact inside
    · obtain ⟨_, -, name, linked⟩ := Relation.TransGen.tail'_iff.mp below
      exact treelike.closed linked
  have fewer := (distinct.subperm within).length_le
  rwa [route.visited, List.length_append, route.length_above, List.length_range] at fewer

theorem Arboreal.eq_of_resolve (arboreal : graph.Arboreal)
    (reached : graph.resolve start names = some node)
    (reached' : graph.resolve start names' = some node) : names = names' := by
  have onward (front : List String) (last : String) :
      graph.resolve start (front ++ [last]) ≠ some start := by
    intro back
    rw [resolve_concat] at back
    obtain ⟨parent, upto, linked⟩ := Option.bind_eq_some_iff.mp back
    have below := exists_resolve_iff.mp ⟨front, upto⟩
    exact arboreal.treelike.loopless start (.tail' below ⟨last, linked⟩)
  induction names using List.reverseRecOn generalizing names' node with
  | nil =>
    cases reached
    cases names' using List.reverseRecOn with
    | nil => rfl
    | append_singleton front' last' => exact absurd reached' (onward front' last')
  | append_singleton front last ih =>
    cases names' using List.reverseRecOn with
    | nil =>
      cases reached'
      exact absurd reached (onward front last)
    | append_singleton front' last' =>
      rw [resolve_concat] at reached reached'
      obtain ⟨parent, upto, linked⟩ := Option.bind_eq_some_iff.mp reached
      obtain ⟨parent', upto', linked'⟩ := Option.bind_eq_some_iff.mp reached'
      obtain ⟨rfl, rfl⟩ := arboreal.once linked linked'
      rw [ih upto upto']

/-- Listing the directories by the names that lead to them lists each of them once. -/
theorem Arboreal.encard_directoriesFrom (arboreal : graph.Arboreal)
    (directory : (graph.node start).isDirectory = true) :
    (graph.directoriesFrom start).encard = (graph.directoriesWithin graph.size start).length := by
  have listed : graph.directoriesFrom start = {node | node ∈
      (graph.directoriesWithin graph.size start).filterMap (graph.resolve start)} := by
    ext node
    rw [Set.mem_ofPred_eq, List.mem_filterMap]
    constructor
    · rintro ⟨below, last⟩
      obtain ⟨names, reached⟩ := exists_resolve_iff.mpr below
      have short := arboreal.treelike.length_lt_size (lt_size_of_isDirectory directory) reached
      have member := (mem_directoriesWithin_iff directory).mpr
        ⟨Nat.le_of_lt short, node, reached, last⟩
      exact ⟨names, member, reached⟩
    · rintro ⟨names, member, reached⟩
      obtain ⟨-, _, reached', last⟩ := (mem_directoriesWithin_iff directory).mp member
      cases reached.symm.trans reached'
      exact ⟨exists_resolve_iff.mp ⟨names, reached⟩, last⟩
  have distinct := nodup_directoriesWithin (fun _ node (_ : graph.resolve start _ = some node) =>
    arboreal.distinct node) graph.size
  have apart : ((graph.directoriesWithin graph.size start).filterMap (graph.resolve start)).Nodup :=
    distinct.filterMap fun _ _ _ => arboreal.eq_of_resolve
  have all : ((graph.directoriesWithin graph.size start).filterMap (graph.resolve start)).length =
      (graph.directoriesWithin graph.size start).length := by
    rw [List.filterMap_length_eq_length]
    intro names member
    obtain ⟨-, _, reached, -⟩ := (mem_directoriesWithin_iff directory).mp member
    rw [reached]
    rfl
  rw [listed, ← List.coe_toFinset, Set.encard_coe_eq_coe_finsetCard,
    List.toFinset_card_of_nodup apart, all]

end Graph

namespace FileSystem

mutual

/-- What counting the directories at a path and below comes to, if nothing bounds it but the tree. The
names in the directory are listed, and then each of them is looked at. No request may fail, or change
anything. -/
inductive Counts (fs : FileSystem) (graph : Graph) : Path → Nat → Prop where
  | list {path : Path} {names : List String} {count : Nat}
      (listed : (fs.listChildren path graph).outcome = (.ok names, graph))
      (children : CountsEach fs graph path names count) : Counts fs graph path (1 + count)

/-- What counting comes to below each of some names in the directory at a path. -/
inductive CountsEach (fs : FileSystem) (graph : Graph) : Path → List String → Nat → Prop where
  | done (path : Path) : CountsEach fs graph path [] 0
  | leaf {path : Path} {name : String} {names : List String} {attributes : BasicAttributes}
      {count : Nat} (read : (fs.readBasic (path.join name) graph).outcome = (.ok attributes, graph))
      (other : attributes.kind ≠ .directory) (rest : CountsEach fs graph path names count) :
      CountsEach fs graph path (name :: names) count
  | directory {path : Path} {name : String} {names : List String} {attributes : BasicAttributes}
      {below count : Nat}
      (read : (fs.readBasic (path.join name) graph).outcome = (.ok attributes, graph))
      (same : attributes.kind = .directory) (inner : Counts fs graph (path.join name) below)
      (rest : CountsEach fs graph path names count) :
      CountsEach fs graph path (name :: names) (below + count)

end

mutual

theorem Counts.unique {fs : FileSystem} {graph : Graph} {path : Path} {count count' : Nat} :
    fs.Counts graph path count → fs.Counts graph path count' → count = count'
  | .list listed children, .list listed' children' => by
    cases listed.symm.trans listed'
    exact congrArg (1 + ·) (CountsEach.unique children children')

theorem CountsEach.unique {fs : FileSystem} {graph : Graph} {path : Path} {names : List String}
    {count count' : Nat} :
    fs.CountsEach graph path names count → fs.CountsEach graph path names count' → count = count'
  | .done _, .done _ => rfl
  | .leaf _ _ rest, .leaf _ _ rest' => CountsEach.unique rest rest'
  | .leaf read other _, .directory read' same _ _ => by
    cases read.symm.trans read'
    exact absurd same other
  | .directory read same _ _, .leaf read' other _ => by
    cases read.symm.trans read'
    exact absurd same other
  | .directory _ _ inner rest, .directory _ _ inner' rest' =>
    congrArg₂ (· + ·) (Counts.unique inner inner') (CountsEach.unique rest rest')

end

variable {fs : FileSystem} {graph : Graph} {path : Path} {node child : NodeId} {name : String}
  {depth : Nat}

section Place

variable (opened : fs.isOpen = true)
  (place : fs.nodeAt? graph (fs.anchor path) path.segments = some node)

include opened place

theorem countsEach_of_linked {names : List String}
    (below : ∀ name child, graph.directory? node name = some child →
      fs.Counts graph (path.join name) (graph.directoriesWithin depth child).length)
    (linked : ∀ name ∈ names, ∃ child, graph.child? node name = some child) :
    fs.CountsEach graph path names (names.flatMap fun name =>
      (graph.directory? node name).toList.flatMap fun child =>
        (graph.directoriesWithin depth child).map (name :: ·)).length := by
  induction names with
  | nil => exact .done path
  | cons name names ih =>
    obtain ⟨first, later⟩ := List.forall_mem_cons.mp linked
    obtain ⟨child, first⟩ := first
    have read := outcome_readBasic_join opened place first
    rw [List.flatMap_cons, List.length_append]
    cases directory : (graph.node child).isDirectory with
    | true =>
      have found := Graph.directory?_eq_some_iff.mpr ⟨first, directory⟩
      rw [found, Option.toList_some, List.flatMap_singleton, List.length_map]
      exact .directory read (of_decide_eq_true directory) (below name child found) (ih later)
    | false =>
      have missing : graph.directory? node name = none := by
        simp [Graph.directory?, first, directory]
      rw [missing, Option.toList_none, List.flatMap_nil, List.length_nil, Nat.zero_add]
      exact .leaf read (of_decide_eq_false directory) (ih later)

/-- Where no names lead further down than some depth, counting comes to an end, and to the directories
within that depth. -/
theorem counts_of_low (directory : (graph.node node).isDirectory = true)
    (low : ∀ names below, graph.resolve node names = some below → names.length < depth) :
    fs.Counts graph path (graph.directoriesWithin depth node).length := by
  induction depth generalizing path node with
  | zero => exact absurd (low [] node rfl) (Nat.not_lt_zero 0)
  | succ depth ih =>
    have below (name : String) (child : NodeId) (found : graph.directory? node name = some child) :
        fs.Counts graph (path.join name) (graph.directoriesWithin depth child).length := by
      obtain ⟨linked, directory'⟩ := Graph.directory?_eq_some_iff.mp found
      refine ih (nodeAt?_join place linked) directory' fun names last reached => ?_
      have longer := low (name :: names) last (by rw [Graph.resolve, linked, Option.bind_some, reached])
      exact Nat.lt_of_succ_lt_succ longer
    rw [Graph.directoriesWithin, List.length_cons, Nat.add_comm]
    have listed := outcome_listChildren opened place directory
    have linked (name : String) (member : name ∈ graph.namesIn node) :
        ∃ child, graph.child? node name = some child := Graph.mem_namesIn.mp member
    exact .list listed (countsEach_of_linked opened place below linked)

end Place

/-- Where nothing is linked twice or below itself, counting comes to the number of directories, and
that within the bound on its depth. -/
theorem exists_count (opened : fs.isOpen = true) (arboreal : graph.Arboreal)
    (found : fs.find? graph path = some node) (directory : (graph.node node).isDirectory = true) :
    ∃ count : Nat, (∀ other, fs.Counts graph path other ↔ other = count) ∧
      (fs.countDirectories path graph).outcome = (.ok count, graph) ∧
      (graph.directoriesFrom node).encard = count := by
  rw [find?_eq_nodeAt?] at found
  have inside := Graph.lt_size_of_isDirectory directory
  have counts := counts_of_low opened found directory fun names below reached =>
    arboreal.treelike.length_lt_size inside reached
  refine ⟨_, fun other => ⟨fun counts' => counts'.unique counts, ?_⟩, ?_,
    arboreal.encard_directoriesFrom directory⟩
  · rintro rfl
    exact counts
  · rw [countDirectories, Action.outcome_bind, Action.outcome_inspect]
    exact outcome_countWithin opened found directory graph.size

end FileSystem

namespace Provider

/-- Whatever has been made in a session, and under whatever names, counting the directories at a path
where there is one comes to an end without an error. The count is the number of directories there and
below; what is no directory does not count. -/
theorem each_directory_counted_once (steps : List (Int × Command)) {id : SystemId} {fs : FileSystem}
    (there : (({} : Provider).afterAll steps).system? id = some fs) (opened : fs.isOpen = true)
    {path : Path} {node : NodeId}
    (found : fs.find? (({} : Provider).afterAll steps).graph path = some node)
    (directory : ((({} : Provider).afterAll steps).graph.node node).isDirectory = true) :
    let provider := ({} : Provider).afterAll steps
    ∃ count : Nat, (∀ other, fs.Counts provider.graph path other ↔ other = count) ∧
      (request id (·.countDirectories path) provider).outcome = (.ok count, provider) ∧
      (provider.graph.directoriesFrom node).encard = count := by
  intro provider
  obtain ⟨count, counts, counted, number⟩ :=
    FileSystem.exists_count opened (arboreal_afterAll steps) found directory
  refine ⟨count, counts, ?_, number⟩
  obtain ⟨answer, state⟩ := Prod.mk.inj counted
  rw [outcome_request there, answer, state]

/-- A directory whose name looks like a step up is counted as itself, below the root. -/
theorem each_directory_counted_once_under_odd_name :
    let top : Path := .root .slash
    let path : Path := .element ⟨none, [".."], '/', by simp⟩
    let steps : List (Int × Command) :=
      [(1, .newFileSystem "key" .unix), (2, .operate 0 (.request (.createDirectory path)))]
    let provider := ({} : Provider).afterAll steps
    ∃ fs, provider.system? 0 = some fs ∧ fs.isOpen = true ∧
      fs.find? provider.graph top = some 0 ∧ (provider.graph.node 0).isDirectory = true ∧
      (request 0 (·.countDirectories top) provider).outcome = (.ok 2, provider) ∧
      (provider.graph.directoriesFrom 0).encard = 2 := by
  intro top path steps provider
  let fs : FileSystem :=
    ⟨.unix, ⟨"memfs", "key", false⟩, {}, ⟨[(.slash, 0)]⟩, .slash, ⟨["root"], ["root"]⟩, true⟩
  let start : Graph := ⟨#[.newDirectory 1 0o755 (some ⟨"root", "root"⟩)], 1⟩
  have built : (FileSystem.build "key" .unix true { clock := 1 }).outcome = (.ok fs, start) := rfl
  have about : fs.intent (.createDirectory path) = _ := rfl
  have parented : (path.toAbsolute .slash).parent? = some (.root .slash) := rfl
  obtain ⟨-, there, graph⟩ :=
    session_of_making built rfl rfl about rfl rfl parented (.here 0) rfl rfl
  let grown := Graph.addUnder { start with clock := 2 } 0 ".."
    (.newDirectory · 0o755 (some ⟨"root", "root"⟩))
  have place : fs.nodeAt? grown (fs.anchor top) top.segments = some 0 := rfl
  have inner : fs.nodeAt? grown (fs.anchor (top.join "..")) (top.join "..").segments = some 1 := rfl
  have named : grown.namesIn 0 = [".."] := List.perm_singleton.mp (grown.namesIn_perm 0)
  have empty : grown.namesIn 1 = [] := List.perm_nil.mp (grown.namesIn_perm 1)
  have listed := FileSystem.outcome_listChildren rfl place rfl
  have listed' := FileSystem.outcome_listChildren rfl inner rfl
  rw [named] at listed
  rw [empty] at listed'
  have linked : grown.child? 0 ".." = some 1 := rfl
  have read := FileSystem.outcome_readBasic_join rfl place linked
  have counts : fs.Counts provider.graph top 2 := by
    rw [graph]
    exact .list listed (.directory read rfl (.list listed' (.done _)) (.done _))
  have found : fs.find? provider.graph top = some 0 := by
    rw [graph]
    rfl
  have directory : (provider.graph.node 0).isDirectory = true := by
    rw [graph]
    rfl
  obtain ⟨count, unique, counted, number⟩ :=
    each_directory_counted_once steps there rfl found directory
  obtain rfl := (unique 2).mp counts
  exact ⟨fs, there, rfl, found, directory, counted, number⟩

end Provider

end CoupledFs
