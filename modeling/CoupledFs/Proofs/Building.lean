import CoupledFs.Proofs.Growth
import CoupledFs.Proofs.Location
import CoupledFs.Proofs.Outcome

/-! A file system that was just built: each of its roots stands for an empty directory of its own. -/

namespace CoupledFs

namespace RootTable

private theorem lookup_entry (root other : Root) (directory : NodeId)
    (entries : List (Root × NodeId)) : ((root, directory) :: entries).lookup other =
      if other = root then some directory else entries.lookup other := by
  by_cases same : other = root
  · simp [same]
  · have differs : (other == root) = false := by simpa using same
    simp [List.lookup_cons, differs, same]

theorem lookup_insertEntry (root : Root) (directory : NodeId) (entries : List (Root × NodeId))
    (other : Root) : (insertEntry root directory entries).lookup other =
      if other = root then some directory else entries.lookup other := by
  induction entries with
  | nil => exact lookup_entry root other directory []
  | cons entry entries ih =>
    obtain ⟨first, there⟩ := entry
    unfold insertEntry
    split
    · subst first
      rw [lookup_entry, lookup_entry]
      by_cases same : other = root <;> simp [same]
    · rename_i differs
      split
      · exact lookup_entry root other directory _
      · rw [lookup_entry, lookup_entry, ih]
        by_cases same : other = first
        · subst first
          simp [Ne.symm differs]
        · simp [same]

theorem get?_insert (table : RootTable) (root : Root) (directory : NodeId) (other : Root) :
    (table.insert root directory).get? other =
      if other = root then some directory else table.get? other :=
  lookup_insertEntry root directory table.entries other

theorem get?_ofList (entries : List (Root × NodeId)) (root : Root) :
    (ofList entries).get? root = entries.reverse.lookup root := by
  induction entries using List.reverseRecOn with
  | nil => rfl
  | append_singleton entries entry ih =>
    obtain ⟨last, directory⟩ := entry
    unfold ofList at ih ⊢
    rw [List.foldl_append, List.reverse_append]
    change (RootTable.insert _ last directory).get? root =
      ((last, directory) :: entries.reverse).lookup root
    rw [get?_insert, lookup_entry, ih]

theorem get?_isSome_iff_mem_roots (table : RootTable) (root : Root) :
    (table.get? root).isSome = true ↔ root ∈ table.roots := by
  rw [get?, List.lookup_isSome_iff, roots]
  simp

theorem mem_of_get?_ofList {entries : List (Root × NodeId)}
    (found : (ofList entries).get? root = some directory) : (root, directory) ∈ entries := by
  rw [get?_ofList] at found
  obtain ⟨front, rest, same, -⟩ := List.lookup_eq_some_iff.mp found
  have member : (root, directory) ∈ entries.reverse := by simp [same]
  exact List.mem_reverse.mp member

theorem get?_ofList_isSome (entries : List (Root × NodeId)) (root : Root) :
    ((ofList entries).get? root).isSome = true ↔ root ∈ entries.map Prod.fst := by
  rw [get?_ofList, List.lookup_isSome_iff]
  simp

theorem insertEntry_perm {root : Root} {directory : NodeId} {entries : List (Root × NodeId)}
    (fresh : root ∉ entries.map Prod.fst) :
    (insertEntry root directory entries).Perm ((root, directory) :: entries) := by
  induction entries with
  | nil => exact .refl _
  | cons entry entries ih =>
    obtain ⟨first, there⟩ := entry
    obtain ⟨differs, fresh'⟩ := List.ne_and_not_mem_of_not_mem_cons fresh
    unfold insertEntry
    rw [if_neg differs]
    split
    · exact .refl _
    · exact ((ih fresh').cons _).trans (.swap _ _ _)

theorem roots_ofList_perm {entries : List (Root × NodeId)} (distinct : (entries.map Prod.fst).Nodup) :
    (ofList entries).roots.Perm (entries.map Prod.fst) := by
  suffices (ofList entries).entries.Perm entries from this.map Prod.fst
  induction entries using List.reverseRecOn with
  | nil => exact .refl _
  | append_singleton entries entry ih =>
    rw [List.map_append] at distinct
    obtain ⟨distinct', -, apart⟩ := List.nodup_append.mp distinct
    have known := ih distinct'
    have fresh : entry.1 ∉ (ofList entries).entries.map Prod.fst := by
      intro member
      have again := (known.map Prod.fst).mem_iff.mp member
      exact apart entry.1 again entry.1 (List.mem_singleton.mpr rfl) rfl
    unfold ofList at fresh known ⊢
    rw [List.foldl_append]
    exact (insertEntry_perm fresh).trans ((known.cons entry).trans (List.perm_append_singleton _ _).symm)

end RootTable

namespace Config

theorem resolveAfter_cons {style : PathStyle} {root : Root} {name : String}
    (named : style.rootNamed name = .ok root) (found : List Root) (names : List String) :
    resolveAfter style found (name :: names) =
      if root ∈ found then .error (.invalidArgument (.rootListedTwice root.display))
      else resolveAfter style (found ++ [root]) names := by
  rw [resolveAfter, named]
  by_cases twice : root ∈ found
  · simp [twice, bind, Except.bind, throw, throwThe, MonadExceptOf.throw]
  · simp [twice, bind, Except.bind]

theorem length_of_resolveAfter {style : PathStyle} {found roots : List Root} {names : List String}
    (resolved : resolveAfter style found names = .ok roots) :
    roots.length = found.length + names.length := by
  induction names generalizing found with
  | nil =>
    cases resolved
    rfl
  | cons name names ih =>
    cases named : style.rootNamed name with
    | error error =>
      rw [resolveAfter, named] at resolved
      cases resolved
    | ok root =>
      rw [resolveAfter_cons named] at resolved
      split at resolved
      · cases resolved
      · have counted := ih resolved
        simp only [List.length_append, List.length_cons, List.length_nil] at counted ⊢
        omega

theorem resolvedRoots_of_validate {config : Config} (valid : config.validate = .ok ()) :
    ∃ first others, config.resolvedRoots = .ok (first :: others) := by
  have named : config.roots ≠ some [] := by
    intro rootless
    rw [validate, if_pos rootless] at valid
    cases valid
  have resolved : ∃ roots, config.resolvedRoots = .ok roots := by
    rw [validate, if_neg named] at valid
    cases resolved : config.resolvedRoots with
    | ok roots => exact ⟨roots, rfl⟩
    | error error =>
      rw [resolved] at valid
      split at valid <;> cases valid
  obtain ⟨roots, resolved⟩ := resolved
  cases roots with
  | cons first others => exact ⟨first, others, resolved⟩
  | nil =>
    unfold resolvedRoots at resolved
    split at resolved
    · cases style : config.pathStyle <;> simp [style, PathStyle.defaultRoots] at resolved
    · rename_i names given
      have counted := length_of_resolveAfter resolved
      simp only [List.length_nil, Nat.zero_add] at counted
      rw [given, List.eq_nil_of_length_eq_zero counted.symm] at named
      exact absurd rfl named

end Config

namespace FileSystem

theorem makeRoots_eq (config : Config) (roots : List Root) (graph : Graph) :
    makeRoots config roots graph =
      { answer := .ok (roots.zipIdx graph.size)
        state := { graph with
          nodes := graph.nodes ++ Array.replicate roots.length
            (Node.newDirectory graph.clock config.directoryMode config.ownership) }
        trace := [] } := by
  induction roots generalizing graph with
  | nil => simp [makeRoots, pure]
  | cons root roots ih =>
    have pushed (node : Node) : graph.nodes.push node ++ Array.replicate roots.length node =
        graph.nodes ++ Array.replicate (roots.length + 1) node := by
      rw [Array.replicate_succ', Array.push_eq_append, Array.append_assoc]
    simp only [makeRoots, bind, ih, pure, Reply.behind]
    simp [Graph.add, Graph.size, pushed]

/-- A file system can be built from any valid configuration. -/
theorem exists_build {config : Config} (valid : config.validate = .ok ()) (key : String)
    (registered : Bool) (before : Graph) :
    ∃ fs graph, (build key config registered before).outcome = (.ok fs, graph) := by
  obtain ⟨first, others, named⟩ := Config.resolvedRoots_of_validate valid
  simp only [build, Action.ofExcept, Reply.outcome, Reply.behind, bind, valid, named, makeRoots_eq, Action.report,
    pure, Prod.mk.injEq, Except.ok.injEq]
  exact ⟨_, _, rfl, rfl⟩

section Built

variable {key : String} {config : Config} {registered : Bool} {before graph : Graph}
  {fs : FileSystem} (built : (build key config registered before).outcome = (.ok fs, graph))

include built

theorem build_eq_ok :
    ∃ first others, config.resolvedRoots = .ok (first :: others) ∧
      fs = ⟨config, ⟨config.storeName, key, config.readOnly⟩, {},
        .ofList ((first :: others).zipIdx before.size), first, ⟨config.users, config.groups⟩,
        registered⟩ ∧
      graph = { before with
        nodes := before.nodes ++ Array.replicate (others.length + 1)
          (Node.newDirectory before.clock config.directoryMode config.ownership) } := by
  unfold build at built
  rw [Action.outcome_bind] at built
  cases valid : config.validate with
  | error error =>
    rw [valid] at built
    cases built
  | ok =>
    rw [valid] at built
    change Reply.outcome ((Action.ofExcept config.resolvedRoots >>= _) before) = _ at built
    rw [Action.outcome_bind] at built
    cases named : config.resolvedRoots with
    | error error =>
      rw [named] at built
      cases built
    | ok roots =>
      rw [named] at built
      cases roots with
      | nil => cases built
      | cons first others =>
        refine ⟨first, others, rfl, ?_⟩
        simp only [Action.ofExcept, Reply.outcome, Reply.behind, bind, makeRoots_eq, Action.report,
          pure, Prod.mk.injEq, Except.ok.injEq] at built
        exact ⟨built.1.symm, built.2.symm⟩

theorem node_of_root (anchor : fs.roots.get? root = some start) :
    graph.node start = .newDirectory before.clock config.directoryMode config.ownership := by
  obtain ⟨first, others, -, rfl, rfl⟩ := build_eq_ok built
  obtain ⟨least, most, -⟩ := List.mem_zipIdx (RootTable.mem_of_get?_ofList anchor)
  have inside : start - before.nodes.size < others.length + 1 :=
    Nat.sub_lt_left_of_lt_add least most
  simp only [Graph.node]
  rw [Array.getElem?_append_right least, Array.getElem?_replicate, if_pos inside]
  rfl

theorem root_unique (anchor : fs.roots.get? root = some start)
    (anchor' : fs.roots.get? root' = some start) : root = root' := by
  obtain ⟨first, others, -, rfl, rfl⟩ := build_eq_ok built
  obtain ⟨-, -, same⟩ := List.mem_zipIdx (RootTable.mem_of_get?_ofList anchor)
  obtain ⟨-, -, same'⟩ := List.mem_zipIdx (RootTable.mem_of_get?_ofList anchor')
  rw [same, same']

theorem child?_of_root (anchor : fs.roots.get? root = some start) (name : String) :
    graph.child? start name = none := by
  rw [Graph.child?, node_of_root built anchor]
  rfl

/-- In a new file system, there is nothing but the roots. -/
theorem nodeAt?_of_build (root : Root) (names : List String) :
    fs.nodeAt? graph root names = if names = [] then fs.roots.get? root else none := by
  unfold nodeAt?
  cases anchor : fs.roots.get? root with
  | none => simp
  | some start => cases names <;> simp [Graph.resolve, child?_of_root built anchor]

theorem rooted_of_build : fs.Rooted graph := by
  have at_root {root : Root} {names : List String} {node : NodeId}
      (found : fs.nodeAt? graph root names = some node) :
      names = [] ∧ fs.roots.get? root = some node := by
    rw [nodeAt?_of_build built] at found
    split at found
    · exact ⟨‹_›, found⟩
    · cases found
  have anchored {root : Root} {start : NodeId} (anchor : fs.roots.get? root = some start) :
      (graph.node start).isDirectory = true := by
    rw [node_of_root built anchor]
    rfl
  refine ⟨?inside, ?apart, fun root start anchor => anchored anchor, ?distinct⟩
  case inside =>
    intro root names node found
    exact Graph.lt_size_of_isDirectory (anchored (at_root found).2)
  case apart =>
    intro root names root' names' node found found'
    obtain ⟨rfl, anchor⟩ := at_root found
    obtain ⟨rfl, anchor'⟩ := at_root found'
    exact ⟨root_unique built anchor anchor', rfl⟩
  case distinct =>
    intro root names node found
    rw [node_of_root built (at_root found).2]
    exact List.nodup_nil

/-- A new file system has the roots that its configuration names. -/
theorem knows_of_build :
    ∃ first others, config.resolvedRoots = .ok (first :: others) ∧ fs.defaultRoot = first ∧
      ∀ root, (fs.roots.get? root).isSome = true ↔ root ∈ first :: others := by
  obtain ⟨first, others, named, rfl, -⟩ := build_eq_ok built
  refine ⟨first, others, named, rfl, fun root => ?_⟩
  rw [RootTable.get?_ofList_isSome, List.zipIdx_map_fst]

end Built

end FileSystem

end CoupledFs
