/-
The relations of a map snapshot (`runtime_map_forwarder.rs`).

* `readNode`, `readEdge`: the loops over the nodes and the edges;
* `validateIds`, `validateBindings`, `validateAvailabilityShape`: the other relations;
* `validateRelations`: **the checks on a snapshot**;
* `Snapshot`: a map without cycles, whose names are those of its nodes;
* `accepted_maps_acyclic`: what is accepted is one, and only cycles are refused as such.
-/
import Mathlib.Data.String.Basic
import Sts2Gateway.Library.JsonValue
import Sts2Gateway.RuntimeMap.Cycles

namespace Sts2Gateway.RuntimeMap

open JsonValue Reachability Relation

def maxMapNodes : ℕ := 256
def maxMapEdges : ℕ := 1024
def maxMapBindings : ℕ := 256

/-! ### The checks -/

/-- The names of the nodes so far, and of the visited ones. -/
structure Nodes where
  nodeIds : Finset String
  visitedNodes : Finset String

def readNode (nodes : Nodes) (node : Value) : Option Nodes := do
  let _ ← node.asObject
  let id ← node.text "id"
  let _ ← (node.get "row").bind Value.asI64
  let _ ← (node.get "column").bind Value.asI64
  guard (id ∉ nodes.nodeIds)
  return {
    nodeIds := insert id nodes.nodeIds
    visitedNodes := if (node.get "visited").bind Value.asBool = some true then
      insert id nodes.visitedNodes else nodes.visitedNodes }

/-- How many names come before one. -/
def rank (nodeIds : Finset String) (id : String) : ℕ := (nodeIds.filter (· < id)).card

/-- The number of a node, in the order of the names. -/
def indexOf (nodeIds : Finset String) (id : String) : Option ℕ :=
  if id ∈ nodeIds then some (rank nodeIds id) else none

/-- The edges so far, and the targets of each node. -/
structure Edges where
  edgeIds : Finset (String × String)
  adjacency : List (List ℕ)

def readEdge (nodeIds : Finset String) (edges : Edges) (edge : Value) : Option Edges := do
  let _ ← edge.asObject
  let source ← edge.text "from"
  let target ← edge.text "to"
  let sourceIndex ← indexOf nodeIds source
  let targetIndex ← indexOf nodeIds target
  guard (source ≠ target ∧ (source, target) ∉ edges.edgeIds)
  return {
    edgeIds := insert (source, target) edges.edgeIds
    adjacency := edges.adjacency.modify sourceIndex (· ++ [targetIndex]) }

/-- The names of a list, each there once and in a set. -/
def namesIn (allowed : Finset String) (values : List Value) : Option (Finset String) :=
  values.foldlM
    (fun seen value => do
      let id ← value.asStr
      guard (id ∈ allowed ∧ id ∉ seen)
      return insert id seen) ∅

def validateIds (snapshot : Value) (nodes : Nodes) : Bool :=
  Option.isSome do
    let history ← snapshot.items "history"
    let terminalIds ← snapshot.items "terminal_node_ids"
    let _ ← namesIn (nodes.nodeIds ∩ nodes.visitedNodes) history
    namesIn nodes.nodeIds terminalIds

/-- The names that the bindings so far took. -/
structure Taken where
  graphIds : Finset String
  hostIds : Finset String
  optionIds : Finset String

def readBinding (nodeIds : Finset String) (currentNode : Option String) (taken : Taken)
    (binding : Value) : Option Taken := do
  let _ ← binding.asObject
  let graphId ← binding.text "graph_node_id"
  let hostId ← binding.text "host_action_id"
  let action ← binding.get "action"
  let _ ← action.asObject
  let actionNode := action.text "node_id"
  guard (graphId ∈ nodeIds ∧ currentNode ≠ some graphId ∧ graphId ∉ taken.graphIds ∧
    hostId ∉ taken.hostIds ∧ actionNode.getD "" ∉ taken.optionIds ∧ hostId ≠ graphId ∧
    action.text "kind" = some "select_map_node" ∧ actionNode.isSome)
  return {
    graphIds := insert graphId taken.graphIds
    hostIds := insert hostId taken.hostIds
    optionIds := insert (actionNode.getD "") taken.optionIds }

def validateBindings (snapshot : Value) (nodeIds : Finset String) (currentNode : Option String) :
    Bool :=
  Option.isSome do
    let bindings ← snapshot.items "bindings"
    guard (bindings.length ≤ maxMapBindings)
    bindings.foldlM (readBinding nodeIds currentNode) ⟨∅, ∅, ∅⟩

/-- A member that is there and is not `null`. -/
def isPresent (snapshot : Value) (key : String) : Bool :=
  (snapshot.get key).any fun value => !value.isNull

def validateAvailabilityShape (snapshot : Value) : Bool :=
  let available := snapshot.text "availability" = some "available"
  let complete := snapshot.text "completeness" = some "complete"
  let reasonPresent := isPresent snapshot "reason"
  if reasonPresent ≠ decide (¬ available ∨ ¬ complete) ∨ (¬ available ∧ complete) then false
  else !decide available ||
    (isPresent snapshot "map_instance_id" && isPresent snapshot "act_id" &&
      isPresent snapshot "scope_id")

def positionValid (snapshot position : Value) (nodes : Nodes) : Bool :=
  match position.text "kind" with
  | some "current" => (position.text "node_id").any fun id =>
      id ∈ nodes.nodeIds && id ∈ nodes.visitedNodes
  | some "pre_start" => (snapshot.items "history").any List.isEmpty
  | some "unavailable" => true
  | _ => false

/-- The nodes of a snapshot. -/
def readNodes (snapshot : Value) : Option Nodes := do
  let nodes ← snapshot.items "nodes"
  guard (nodes.length ≤ maxMapNodes)
  nodes.foldlM readNode ⟨∅, ∅⟩

/-- The edges of a snapshot; the names are distinct, so there are as many as nodes. -/
def readEdges (snapshot : Value) (nodeIds : Finset String) : Option Edges := do
  let edges ← snapshot.items "edges"
  guard (edges.length ≤ maxMapEdges)
  edges.foldlM (readEdge nodeIds) ⟨∅, List.replicate nodeIds.card []⟩

def validateRelations (value : Value) : Bool :=
  Option.isSome do
    let snapshot ← value.get "snapshot"
    let _ ← snapshot.asObject
    let nodes ← readNodes snapshot
    let edges ← readEdges snapshot nodes.nodeIds
    guard (hasCycle edges.adjacency = some false)
    let position ← snapshot.get "position"
    let _ ← position.asObject
    let currentNode := if position.text "kind" = some "current" then position.text "node_id"
      else none
    guard (positionValid snapshot position nodes ∧ validateIds snapshot nodes ∧
      validateBindings snapshot nodes.nodeIds currentNode ∧ validateAvailabilityShape snapshot)

/-! ### What is read -/

/-- The name of a node, and whether it was visited. -/
def nodeOf (node : Value) : Option (String × Bool) :=
  (node.text "id").map fun id => (id, decide ((node.get "visited").bind Value.asBool = some true))

def edgeOf (edge : Value) : Option (String × String) := do
  return (← edge.text "from", ← edge.text "to")

/-- The nodes that are read have distinct names. -/
lemma nodes_of_read {values : List Value} {nodes : Nodes}
    (h : values.foldlM readNode ⟨∅, ∅⟩ = some nodes) :
    ∃ named : List (String × Bool), values.map nodeOf = named.map some ∧
      (named.map Prod.fst).Nodup ∧ nodes.nodeIds = (named.map Prod.fst).toFinset ∧
      ∀ id, id ∈ nodes.visitedNodes ↔ (id, true) ∈ named := by
  induction values using List.reverseRecOn generalizing nodes with
  | nil =>
    obtain rfl := Option.some.inj h
    exact ⟨[], rfl, List.nodup_nil, rfl, by simp⟩
  | append_singleton values node ih =>
    rw [List.foldlM_append] at h
    obtain ⟨before, hbefore, hnode⟩ := Option.bind_eq_some_iff.mp h
    obtain ⟨named, hnames, hnodup, hids, hvisited⟩ := ih hbefore
    rw [List.foldlM_cons] at hnode
    obtain ⟨after, hafter, hend⟩ := Option.bind_eq_some_iff.mp hnode
    obtain rfl := Option.some.inj hend
    simp only [readNode, Option.bind_eq_bind, Option.bind_eq_some_iff, Option.guard_eq_some',
      Option.pure_def, Option.some.injEq] at hafter
    obtain ⟨_, -, id, hid, _, -, _, -, -, hnew, rfl⟩ := hafter
    have hfresh : id ∉ named.map Prod.fst := by
      rw [hids, List.mem_toFinset] at hnew
      exact hnew
    refine ⟨named ++ [(id, decide ((node.get "visited").bind Value.asBool = some true))],
      ?_, ?_, ?_, fun other => ?_⟩
    · rw [List.map_append, List.map_append, hnames, List.map_singleton, List.map_singleton, nodeOf,
        hid, Option.map_some]
    · rw [List.map_append, List.map_singleton, List.nodup_append_comm]
      exact List.nodup_cons.mpr ⟨hfresh, hnodup⟩
    · rw [hids, List.map_append, List.map_singleton, List.toFinset_append, Finset.union_comm]
      rfl
    · rw [List.mem_append, List.mem_singleton, Prod.mk.injEq, ← hvisited, eq_comm (a := true),
        decide_eq_true_iff]
      simp only [← Option.bind_eq_some_iff]
      by_cases hseen : (node.get "visited").bind Value.asBool = some true
      · rw [if_pos hseen, Finset.mem_insert, or_comm, and_iff_left hseen]
      · rw [if_neg hseen, or_iff_left fun hlast => hseen hlast.2]

/-- The names of a list that are read are distinct, and in the set. -/
lemma names_of_read {allowed : Finset String} {values : List Value} {seen : Finset String}
    (h : namesIn allowed values = some seen) :
    ∃ named : List String, values.map Value.asStr = named.map some ∧ named.Nodup ∧
      seen = named.toFinset ∧ ∀ id ∈ named, id ∈ allowed := by
  rw [namesIn] at h
  induction values using List.reverseRecOn generalizing seen with
  | nil =>
    obtain rfl := Option.some.inj h
    exact ⟨[], rfl, List.nodup_nil, rfl, by simp⟩
  | append_singleton values value ih =>
    rw [List.foldlM_append] at h
    obtain ⟨before, hbefore, hvalue⟩ := Option.bind_eq_some_iff.mp h
    obtain ⟨named, hnames, hnodup, hids, hallowed⟩ := ih hbefore
    rw [List.foldlM_cons] at hvalue
    obtain ⟨after, hafter, hend⟩ := Option.bind_eq_some_iff.mp hvalue
    obtain rfl := Option.some.inj hend
    simp only [Option.bind_eq_bind, Option.bind_eq_some_iff, Option.guard_eq_some',
      Option.pure_def, Option.some.injEq] at hafter
    obtain ⟨id, hid, -, ⟨hmem, hnew⟩, rfl⟩ := hafter
    rw [hids, List.mem_toFinset] at hnew
    refine ⟨named ++ [id], ?_, ?_, ?_, ?_⟩
    · rw [List.map_append, List.map_append, hnames, List.map_singleton, List.map_singleton, hid]
    · rw [List.nodup_append_comm]
      exact List.nodup_cons.mpr ⟨hnew, hnodup⟩
    · rw [hids, List.toFinset_append, Finset.union_comm]
      rfl
    · rintro other hother
      rcases List.mem_append.mp hother with hold | hlast
      · exact hallowed other hold
      · rwa [List.mem_singleton.mp hlast]

/-- The bindings that are read are of distinct nodes, none of which is the current one. -/
lemma bindings_of_read {nodeIds : Finset String} {currentNode : Option String}
    {values : List Value} {taken : Taken}
    (h : values.foldlM (readBinding nodeIds currentNode) ⟨∅, ∅, ∅⟩ = some taken) :
    ∃ named : List String, values.map (fun value => value.text "graph_node_id") = named.map some ∧
      named.Nodup ∧ taken.graphIds = named.toFinset ∧
      ∀ id ∈ named, id ∈ nodeIds ∧ currentNode ≠ some id := by
  induction values using List.reverseRecOn generalizing taken with
  | nil =>
    obtain rfl := Option.some.inj h
    exact ⟨[], rfl, List.nodup_nil, rfl, by simp⟩
  | append_singleton values value ih =>
    rw [List.foldlM_append] at h
    obtain ⟨before, hbefore, hvalue⟩ := Option.bind_eq_some_iff.mp h
    obtain ⟨named, hnames, hnodup, hids, hallowed⟩ := ih hbefore
    rw [List.foldlM_cons] at hvalue
    obtain ⟨after, hafter, hend⟩ := Option.bind_eq_some_iff.mp hvalue
    obtain rfl := Option.some.inj hend
    simp only [readBinding, Option.bind_eq_bind, Option.bind_eq_some_iff, Option.guard_eq_some',
      Option.pure_def, Option.some.injEq] at hafter
    obtain ⟨_, -, id, hid, _, -, _, -, _, -, -, ⟨hmem, hother, hnew, -⟩, rfl⟩ := hafter
    rw [hids, List.mem_toFinset] at hnew
    refine ⟨named ++ [id], ?_, ?_, ?_, ?_⟩
    · rw [List.map_append, List.map_append, hnames, List.map_singleton, List.map_singleton, hid]
    · rw [List.nodup_append_comm]
      exact List.nodup_cons.mpr ⟨hnew, hnodup⟩
    · rw [hids, List.toFinset_append, Finset.union_comm]
      rfl
    · rintro last hlast
      rcases List.mem_append.mp hlast with hold | hlast
      · exact hallowed last hold
      · rw [List.mem_singleton.mp hlast]
        exact ⟨hmem, hother⟩

/-! ### The graph that is read -/

lemma rank_lt_card {nodeIds : Finset String} {id : String} (h : id ∈ nodeIds) :
    rank nodeIds id < nodeIds.card := by
  refine Finset.card_lt_card (Finset.filter_ssubset.mpr ⟨id, h, lt_irrefl id⟩)

/-- A name that comes before another one has fewer names before it. -/
lemma rank_lt_rank {nodeIds : Finset String} {u v : String} (hu : u ∈ nodeIds) (huv : u < v) :
    rank nodeIds u < rank nodeIds v := by
  refine Finset.card_lt_card ((Finset.ssubset_iff_of_subset fun id hid => ?_).mpr ⟨u, ?_, ?_⟩)
  · rw [Finset.mem_filter] at hid ⊢
    exact ⟨hid.1, hid.2.trans huv⟩
  · exact Finset.mem_filter.mpr ⟨hu, huv⟩
  · exact fun hself => lt_irrefl u (Finset.mem_filter.mp hself).2

lemma injOn_rank (nodeIds : Finset String) : Set.InjOn (rank nodeIds) nodeIds := by
  intro u hu v hv heq
  rcases lt_trichotomy u v with hlt | rfl | hlt
  · exact absurd heq (rank_lt_rank hu hlt).ne
  · rfl
  · exact absurd heq (rank_lt_rank hv hlt).ne'

lemma mem_of_indexOf {nodeIds : Finset String} {id : String} {i : ℕ}
    (h : indexOf nodeIds id = some i) : id ∈ nodeIds ∧ rank nodeIds id = i := by
  rw [indexOf] at h
  split_ifs at h with hmem
  exact ⟨hmem, Option.some.inj h⟩

/-- One more target of a node is one more edge. -/
lemma edge_modify {adjacency : List (List ℕ)} {source : ℕ} (target : ℕ)
    (hsource : source < adjacency.length) (u v : ℕ) :
    Edge (adjacency.modify source (· ++ [target])) u v ↔
      Edge adjacency u v ∨ (u = source ∧ v = target) := by
  by_cases hu : u = source
  · subst hu
    have hself : (adjacency.modify u (· ++ [target]))[u]? = some (adjacency[u] ++ [target]) := by
      rw [List.getElem?_modify_eq, List.getElem?_eq_getElem hsource]
      rfl
    have hold : adjacency[u]? = some adjacency[u] := List.getElem?_eq_getElem hsource
    simp only [Edge, hself, hold, Option.some.injEq, exists_eq_left', List.mem_append,
      List.mem_singleton, true_and]
  · have hother : (adjacency.modify source (· ++ [target]))[u]? = adjacency[u]? :=
      List.getElem?_modify_ne _ _ (Ne.symm hu)
    simp only [Edge, hother, hu, false_and, or_false]

/-- The edges that are read are distinct, and between nodes. -/
lemma edges_of_read {nodeIds : Finset String} {values : List Value} {edges : Edges}
    (h : values.foldlM (readEdge nodeIds) ⟨∅, List.replicate nodeIds.card []⟩ = some edges) :
    ∃ named : List (String × String), values.map edgeOf = named.map some ∧ named.Nodup ∧
      edges.edgeIds = named.toFinset ∧ (∀ e ∈ named, e.1 ∈ nodeIds ∧ e.2 ∈ nodeIds) ∧
      edges.adjacency.length = nodeIds.card ∧
      ∀ i j, Edge edges.adjacency i j ↔
        ∃ e ∈ named, indexOf nodeIds e.1 = some i ∧ indexOf nodeIds e.2 = some j := by
  induction values using List.reverseRecOn generalizing edges with
  | nil =>
    obtain rfl := Option.some.inj h
    refine ⟨[], rfl, List.nodup_nil, rfl, by simp, List.length_replicate, fun i j => ?_⟩
    constructor
    · rintro ⟨targets, htargets, hj⟩
      rw [List.eq_of_mem_replicate (List.mem_of_getElem? htargets)] at hj
      cases hj
    · rintro ⟨_, he, -⟩
      cases he
  | append_singleton values edge ih =>
    rw [List.foldlM_append] at h
    obtain ⟨before, hbefore, hedge⟩ := Option.bind_eq_some_iff.mp h
    obtain ⟨named, hnames, hnodup, hids, hnodes, hlength, hgraph⟩ := ih hbefore
    rw [List.foldlM_cons] at hedge
    obtain ⟨after, hafter, hend⟩ := Option.bind_eq_some_iff.mp hedge
    obtain rfl := Option.some.inj hend
    simp only [readEdge, Option.bind_eq_bind, Option.bind_eq_some_iff, Option.guard_eq_some',
      Option.pure_def, Option.some.injEq] at hafter
    obtain ⟨_, -, source, hsource, target, htarget, sourceIndex, hsourceIndex, targetIndex,
      htargetIndex, -, ⟨-, hnew⟩, rfl⟩ := hafter
    obtain ⟨hsourceMem, hsourceRank⟩ := mem_of_indexOf hsourceIndex
    have hsourceLt : sourceIndex < nodeIds.card := hsourceRank ▸ rank_lt_card hsourceMem
    rw [hids, List.mem_toFinset] at hnew
    refine ⟨named ++ [(source, target)], ?_, ?_, ?_, ?_, ?_, fun i j => ?_⟩
    · rw [List.map_append, List.map_append, hnames, List.map_singleton, List.map_singleton, edgeOf,
        hsource, htarget]
      rfl
    · rw [List.nodup_append_comm]
      exact List.nodup_cons.mpr ⟨hnew, hnodup⟩
    · rw [hids, List.toFinset_append, Finset.union_comm]
      rfl
    · intro e he
      rcases List.mem_append.mp he with hold | hlast
      · exact hnodes e hold
      · rw [List.mem_singleton.mp hlast]
        exact ⟨hsourceMem, (mem_of_indexOf htargetIndex).1⟩
    · rw [List.length_modify, hlength]
    · rw [edge_modify _ (hlength ▸ hsourceLt), hgraph]
      constructor
      · rintro (⟨e, he, hends⟩ | ⟨rfl, rfl⟩)
        · exact ⟨e, List.mem_append_left _ he, hends⟩
        · exact ⟨_, List.mem_append_right _ (List.mem_singleton_self _), hsourceIndex,
            htargetIndex⟩
      · rintro ⟨e, he, hi, hj⟩
        rcases List.mem_append.mp he with hold | hlast
        · exact .inl ⟨e, hold, hi, hj⟩
        · obtain rfl := List.mem_singleton.mp hlast
          exact .inr ⟨Option.some.inj (hi.symm.trans hsourceIndex),
            Option.some.inj (hj.symm.trans htargetIndex)⟩

/-- The search over the targets that are read finds a cycle exactly when the names have one. -/
lemma hasCycle_of_read {snapshot : Value} {nodeIds : Finset String} {edges : Edges}
    (h : readEdges snapshot nodeIds = some edges) :
    ∃ (values : List Value) (named : List (String × String)),
      snapshot.items "edges" = some values ∧ values.map edgeOf = named.map some ∧
      named.Nodup ∧ (∀ e ∈ named, e.1 ∈ nodeIds ∧ e.2 ∈ nodeIds) ∧
      ∃ found, hasCycle edges.adjacency = some found ∧
        (found = true ↔ Cyclic fun u v => (u, v) ∈ named) := by
  simp only [readEdges, Option.bind_eq_bind, Option.bind_eq_some_iff,
    Option.guard_eq_some'] at h
  obtain ⟨values, hvalues, -, -, hread⟩ := h
  obtain ⟨named, hnames, hnodup, -, hnodes, hlength, hgraph⟩ := edges_of_read hread
  have hrange : InRange edges.adjacency := by
    intro targets htargets v hv
    obtain ⟨u, hu⟩ := List.mem_iff_getElem?.mp htargets
    obtain ⟨e, -, -, hindex⟩ := (hgraph u v).mp ⟨targets, hu, hv⟩
    obtain ⟨hmem, rfl⟩ := mem_of_indexOf hindex
    exact hlength ▸ rank_lt_card hmem
  obtain ⟨found, hfound, hcycle⟩ := hasCycle_eq hrange
  refine ⟨values, named, hvalues, hnames, hnodup, hnodes, found, hfound, hcycle.trans ⟨?_, ?_⟩⟩
  · -- the names have distinct numbers, so the numbers lead back to them
    refine Cyclic.map (Function.invFunOn (rank nodeIds) nodeIds) fun i j hedge => ?_
    obtain ⟨e, he, hi, hj⟩ := (hgraph i j).mp hedge
    obtain ⟨hu, rfl⟩ := mem_of_indexOf hi
    obtain ⟨hv, rfl⟩ := mem_of_indexOf hj
    have hback := (injOn_rank nodeIds).leftInvOn_invFunOn
    rw [hback hu, hback hv]
    exact he
  · refine Cyclic.map (rank nodeIds) fun u v hedge => ?_
    obtain ⟨hu, hv⟩ := hnodes _ hedge
    exact (hgraph _ _).mpr ⟨(u, v), hedge, if_pos hu, if_pos hv⟩

/-! ### The maps that are accepted -/

/-- A map without cycles, whose names are those of its nodes. -/
structure Snapshot where
  /-- The nodes, and whether they were visited. -/
  nodes : List (String × Bool)
  edges : List (String × String)
  history : List String
  terminalIds : List String
  current : Option String
  bindings : List String
  nodup_nodes : (nodes.map Prod.fst).Nodup
  nodup_edges : edges.Nodup
  edge_nodes : ∀ e ∈ edges, e.1 ∈ nodes.map Prod.fst ∧ e.2 ∈ nodes.map Prod.fst
  acyclic : ¬ Cyclic fun u v => (u, v) ∈ edges
  nodup_history : history.Nodup
  visited_history : ∀ id ∈ history, (id, true) ∈ nodes
  nodup_terminalIds : terminalIds.Nodup
  terminal_nodes : ∀ id ∈ terminalIds, id ∈ nodes.map Prod.fst
  visited_current : ∀ id ∈ current, (id, true) ∈ nodes
  nodup_bindings : bindings.Nodup
  binding_nodes : ∀ id ∈ bindings, id ∈ nodes.map Prod.fst ∧ current ≠ some id

/-- The map is what a JSON snapshot says. -/
structure Snapshot.ReadFrom (map : Snapshot) (snapshot : Value) : Prop where
  nodes : ∃ values, snapshot.items "nodes" = some values ∧
    values.map nodeOf = map.nodes.map some
  edges : ∃ values, snapshot.items "edges" = some values ∧
    values.map edgeOf = map.edges.map some
  history : ∃ values, snapshot.items "history" = some values ∧
    values.map Value.asStr = map.history.map some
  terminalIds : ∃ values, snapshot.items "terminal_node_ids" = some values ∧
    values.map Value.asStr = map.terminalIds.map some
  current : ∃ position, snapshot.get "position" = some position ∧
    map.current = if position.text "kind" = some "current" then position.text "node_id" else none
  bindings : ∃ values, snapshot.items "bindings" = some values ∧
    values.map (fun value => value.text "graph_node_id") = map.bindings.map some

/-- The current node was visited. -/
lemma visited_of_positionValid {snapshot position : Value} {nodes : Nodes} {id : String}
    (h : positionValid snapshot position nodes)
    (hid : id ∈ if position.text "kind" = some "current" then position.text "node_id" else none) :
    id ∈ nodes.visitedNodes := by
  split_ifs at hid with hkind
  · rw [Option.mem_def] at hid
    rw [positionValid, hkind] at h
    have hknown : (decide (id ∈ nodes.nodeIds) && decide (id ∈ nodes.visitedNodes)) = true := by
      rwa [hid] at h
    rw [Bool.and_eq_true, decide_eq_true_iff, decide_eq_true_iff] at hknown
    exact hknown.2
  · cases hid

lemma snapshot_of_validateRelations {value : Value} (h : validateRelations value) :
    ∃ snapshot, value.get "snapshot" = some snapshot ∧ ∃ map : Snapshot, map.ReadFrom snapshot := by
  obtain ⟨_, haccepted⟩ := Option.isSome_iff_exists.mp h
  simp only [Option.bind_eq_bind, Option.bind_eq_some_iff] at haccepted
  obtain ⟨snapshot, hsnapshot, -, -, nodes, hnodes, edges, hedges, _, hacyclic, position,
    hposition, -, -, hrest⟩ := haccepted
  rw [Option.guard_eq_some'] at hacyclic hrest
  obtain ⟨hvalid, hids, hbindings, -⟩ := hrest
  simp only [readNodes, Option.bind_eq_bind, Option.bind_eq_some_iff] at hnodes
  obtain ⟨nodeValues, hnodeValues, -, -, hread⟩ := hnodes
  obtain ⟨named, hnamed, hnodup, hnodeIds, hvisited⟩ := nodes_of_read hread
  have hmem : ∀ id, id ∈ nodes.nodeIds ↔ id ∈ named.map Prod.fst := fun id => by
    rw [hnodeIds, List.mem_toFinset]
  obtain ⟨edgeValues, links, hedgeValues, hlinks, hlinksNodup, hlinkNodes, found, hfound, hcycle⟩ :=
    hasCycle_of_read hedges
  have hnone : ¬ Cyclic fun u v => (u, v) ∈ links := by
    rw [← hcycle, Option.some.inj (hfound.symm.trans hacyclic)]
    exact Bool.false_ne_true
  obtain ⟨_, hlists⟩ := Option.isSome_iff_exists.mp hids
  simp only [Option.bind_eq_bind, Option.bind_eq_some_iff] at hlists
  obtain ⟨historyValues, hhistoryValues, terminalValues, hterminalValues, _, hhistory,
    hterminal⟩ := hlists
  obtain ⟨history, hhistoryNames, hhistoryNodup, -, hhistoryMem⟩ := names_of_read hhistory
  obtain ⟨terminalIds, hterminalNames, hterminalNodup, -, hterminalMem⟩ := names_of_read hterminal
  obtain ⟨_, htaken⟩ := Option.isSome_iff_exists.mp hbindings
  simp only [Option.bind_eq_bind, Option.bind_eq_some_iff] at htaken
  obtain ⟨bindingValues, hbindingValues, -, -, hbound⟩ := htaken
  obtain ⟨bindings, hbindingNames, hbindingNodup, -, hbindingMem⟩ := bindings_of_read hbound
  refine ⟨snapshot, hsnapshot, {
    nodes := named
    edges := links
    history := history
    terminalIds := terminalIds
    current := if position.text "kind" = some "current" then position.text "node_id" else none
    bindings := bindings
    nodup_nodes := hnodup
    nodup_edges := hlinksNodup
    edge_nodes := fun e he => ⟨(hmem _).mp (hlinkNodes e he).1, (hmem _).mp (hlinkNodes e he).2⟩
    acyclic := hnone
    nodup_history := hhistoryNodup
    visited_history := fun id hid =>
      (hvisited id).mp (Finset.mem_inter.mp (hhistoryMem id hid)).2
    nodup_terminalIds := hterminalNodup
    terminal_nodes := fun id hid => (hmem id).mp (hterminalMem id hid)
    visited_current := fun id hid => (hvisited id).mp (visited_of_positionValid hvalid hid)
    nodup_bindings := hbindingNodup
    binding_nodes := fun id hid =>
      ⟨(hmem id).mp (hbindingMem id hid).1, (hbindingMem id hid).2⟩ },
    ⟨nodeValues, hnodeValues, hnamed⟩, ⟨edgeValues, hedgeValues, hlinks⟩,
    ⟨historyValues, hhistoryValues, hhistoryNames⟩,
    ⟨terminalValues, hterminalValues, hterminalNames⟩, ⟨position, hposition, rfl⟩,
    ⟨bindingValues, hbindingValues, hbindingNames⟩⟩

/-- **Accepted maps have no cycle, and only cycles are refused as such**: the search finds the
cycles of a graph in range; what is accepted is a map as above; and over the nodes and the edges
of a snapshot the search finds a cycle exactly when the names of the edges have one. -/
theorem accepted_maps_acyclic :
    (∀ adjacency, InRange adjacency →
      ∃ found, hasCycle adjacency = some found ∧ (found = true ↔ Cyclic (Edge adjacency))) ∧
    (∀ value, validateRelations value →
      ∃ snapshot, value.get "snapshot" = some snapshot ∧
        ∃ map : Snapshot, map.ReadFrom snapshot) ∧
    (∀ snapshot nodes edges, readNodes snapshot = some nodes →
      readEdges snapshot nodes.nodeIds = some edges →
      ∃ (values : List Value) (named : List (String × String)),
        snapshot.items "edges" = some values ∧ values.map edgeOf = named.map some ∧
        ∃ found, hasCycle edges.adjacency = some found ∧
          (found = true ↔ Cyclic fun u v => (u, v) ∈ named)) := by
  refine ⟨fun _ => hasCycle_eq, fun _ => snapshot_of_validateRelations, ?_⟩
  intro snapshot nodes edges _ hedges
  obtain ⟨values, named, hvalues, hnames, -, -, hcycle⟩ := hasCycle_of_read hedges
  exact ⟨values, named, hvalues, hnames, hcycle⟩

/-- A node of the sample map. -/
def sampleNode (id : String) (visited : Bool) : Value :=
  .object [("id", .string id), ("row", .number (.unsigned 0)), ("column", .number (.negative 0)),
    ("visited", .bool visited)]

def sampleEdge (source target : String) : Value :=
  .object [("from", .string source), ("to", .string target)]

/-- A map of two ways from one node, which is the current one, to another. -/
def sampleMap : Value :=
  .object [("snapshot", .object [
    ("nodes", .array [sampleNode "a" true, sampleNode "b" false, sampleNode "c" false]),
    ("edges", .array [sampleEdge "a" "b", sampleEdge "b" "c", sampleEdge "a" "c"]),
    ("position", .object [("kind", .string "current"), ("node_id", .string "a")]),
    ("history", .array [.string "a"]), ("terminal_node_ids", .array [.string "c"]),
    ("bindings", .array [.object [("graph_node_id", .string "b"), ("host_action_id", .string "go"),
      ("action", .object [("kind", .string "select_map_node"), ("node_id", .string "n1")])]]),
    ("availability", .string "available"), ("completeness", .string "complete"),
    ("map_instance_id", .string "m"), ("act_id", .string "1"), ("scope_id", .string "s")])]

/-- The sample map is accepted, and read as a map without cycles. -/
theorem sampleMap_accepted :
    validateRelations sampleMap ∧
      ∃ snapshot, sampleMap.get "snapshot" = some snapshot ∧
        ∃ map : Snapshot, map.ReadFrom snapshot := by
  have haccepted : validateRelations sampleMap := by decide +kernel
  exact ⟨haccepted, accepted_maps_acyclic.2.1 sampleMap haccepted⟩

end Sts2Gateway.RuntimeMap
