/-
# Proofs.NodeOrder — what the order of the nodes leaves in the graph

The nodes of a graph of functions come in any order and are sorted by their names
alone, so nodes that share a name stay in an order that nothing tells.  Any two
orders by name differ by exchanges of neighbours that share a name
(`eq_of_perm_of_inOrder`), and so all is said by what one exchange does: it leaves the
graph as it is if the one node calls what the other calls first
(`Program.addCalls_comm`).

The condition is needed as well, since each of the nodes of a name may come first
(`Program.exists_arrangement`), and then the callees of the name begin with its own.
Hence the graph is determined just where the nodes of a name agree
(`Program.graph_determined_iff`).
-/
import Exposure.Proofs.FunctionGraphs

namespace Exposure

set_option autoImplicit false

theorem eraseDups_of_nodup {l : List String} (distinct : l.Nodup) : l.eraseDups = l :=
  (eraseDups_sublist l).eq_of_length
    (by rw [length_eraseDups, List.toFinset_card_of_nodup distinct])

/-! ## Exchanging neighbours of one name -/

section Exchange

variable {α β : Type} (key : α → String)

/-- The elements stand in the order of their keys. -/
def InOrder (l : List α) : Prop := l.Pairwise fun a b => key a ≤ key b

/-- Neighbours of one key may be exchanged in the lists of these elements that are in order. -/
def Exchangeable (l : List α) (f : List α → β) : Prop :=
  ∀ before a b after, (before ++ a :: b :: after).Perm l → InOrder key (before ++ a :: b :: after) →
    key a = key b → f (before ++ a :: b :: after) = f (before ++ b :: a :: after)

variable {key}

theorem InOrder.exchange {before after : List α} {a b : α}
    (ordered : InOrder key (before ++ a :: b :: after)) (same : key a = key b) :
    InOrder key (before ++ b :: a :: after) := by
  simp only [InOrder, List.pairwise_append, List.pairwise_cons, List.mem_cons,
    forall_eq_or_imp] at ordered ⊢
  obtain ⟨before, ⟨⟨-, first⟩, second, after⟩, apart⟩ := ordered
  refine ⟨before, ⟨⟨same ▸ String.le_refl _, second⟩, first, after⟩, fun x member => ?_⟩
  exact ⟨(apart x member).2.1, (apart x member).1, (apart x member).2.2⟩

/-- What is least by its key can be brought to the front. -/
theorem Exchangeable.front {l before after : List α} {n : α} {f : List α → β}
    (exchange : Exchangeable key l f) (perm : (before ++ n :: after).Perm l)
    (least : ∀ x ∈ l, key n ≤ key x) (ordered : InOrder key (before ++ n :: after)) :
    f (before ++ n :: after) = f (n :: (before ++ after)) ∧
      InOrder key (n :: (before ++ after)) := by
  induction before using List.reverseRecOn generalizing after with
  | nil => exact ⟨rfl, ordered⟩
  | append_singleton before x ih =>
      simp only [List.append_assoc, List.cons_append, List.nil_append] at perm ordered ⊢
      have above : key n ≤ key x := least x (perm.mem_iff.1 (by simp))
      have below : key x ≤ key n :=
        (List.pairwise_cons.1 (List.pairwise_append.1 ordered).2.1).1 n List.mem_cons_self
      have same : key x = key n := String.le_antisymm below above
      have swapped : (before ++ n :: x :: after).Perm l :=
        ((List.Perm.swap x n after).append_left before).trans perm
      rw [exchange before x n after perm ordered same]
      exact ih swapped (ordered.exchange same)

/-- All orders by the keys are the same to a function that lets neighbours of one key be
exchanged. -/
theorem eq_of_perm_of_inOrder {l l' : List α} {f : List α → β} (exchange : Exchangeable key l f)
    (ordered : InOrder key l) (perm : l'.Perm l) (ordered' : InOrder key l') : f l' = f l := by
  -- the first of the one order is brought to the front of the other, and what follows is an order
  -- of the rest
  induction l generalizing l' f with
  | nil => rw [List.Perm.eq_nil perm]
  | cons n rest ih =>
      obtain ⟨least, ordered⟩ := List.pairwise_cons.1 ordered
      obtain ⟨before, after, rfl⟩ := List.append_of_mem (perm.mem_iff.2 List.mem_cons_self)
      have atLeast : ∀ x ∈ n :: rest, key n ≤ key x :=
        List.forall_mem_cons.2 ⟨String.le_refl _, least⟩
      obtain ⟨same, moved⟩ := exchange.front perm atLeast ordered'
      have remaining : (before ++ after).Perm rest := (List.perm_middle.symm.trans perm).cons_inv
      have later : Exchangeable key rest fun t => f (n :: t) := by
        intro before a b after among inOrder alike
        have least : ∀ x ∈ before ++ a :: b :: after, key n ≤ key x :=
          fun x member => least x (among.mem_iff.1 member)
        exact exchange (n :: before) a b after (among.cons n)
          (List.pairwise_cons.2 ⟨least, inOrder⟩) alike
      rw [same]
      exact ih later ordered remaining (List.pairwise_cons.1 moved).2

end Exchange

/-! ## Edges that are added again -/

namespace Digraph

variable {g : Digraph} {met : List Construct} {calls : List (String × String)} {caller : Construct}

theorem addVertex_of_known {v : Construct} (known : g.members.hasName v.name = true) :
    g.addVertex v = g := by
  simp [addVertex, ConstructSet.add, ConstructSet.has, known]

theorem members_addEdge (g : Digraph) (caller callee : Construct) :
    (g.addEdge caller callee).members = (g.members.add caller).add callee := by
  unfold addEdge
  dsimp only
  split <;> rfl

theorem hasName_addEdge {name : String} (known : g.members.hasName name = true)
    (callee : Construct) : (g.addEdge caller callee).members.hasName name = true := by
  rw [members_addEdge, ConstructSet.hasName_add, ConstructSet.hasName_add]
  exact .inl (.inl known)

/-- Of a callee whose name is known only the name counts. -/
theorem addEdge_congr {c d : Construct} (same : c.name = d.name)
    (alike : c = d ∨ g.members.hasName c.name = true) :
    g.addEdge caller c = g.addEdge caller d := by
  rcases alike with rfl | known
  · rfl
  · have known : (g.addVertex caller).members.hasName c.name = true :=
      (ConstructSet.hasName_add g.members caller c.name).2 (.inl known)
    obtain ⟨v, member, name⟩ := ConstructSet.hasName_iff.1 known
    have found : ((g.addVertex caller).vertex? c.name).isSome = true :=
      List.find?_isSome.2 ⟨v, member, by simpa using name⟩
    obtain ⟨w, found⟩ := Option.isSome_iff_exists.1 found
    rw [same] at found
    simp only [addEdge, addVertex_of_known known, addVertex_of_known (same ▸ known), same, found,
      Option.getD_some]

theorem addEdges_congr {cs ds : List Construct} (same : cs.map (·.name) = ds.map (·.name))
    (alike : ∀ c ∈ cs, ∀ d ∈ ds, c.name = d.name → c = d ∨ g.members.hasName c.name = true) :
    cs.foldl (·.addEdge caller ·) g = ds.foldl (·.addEdge caller ·) g := by
  induction cs generalizing ds g with
  | nil => rw [List.map_eq_nil_iff.1 same.symm]
  | cons c cs ih =>
      obtain ⟨d, ds, rfl, name, same⟩ := List.map_eq_cons_iff.1 same.symm
      rw [List.foldl_cons, List.foldl_cons,
        addEdge_congr name.symm (alike c List.mem_cons_self d List.mem_cons_self name.symm)]
      refine ih same.symm fun x member y among equal => ?_
      refine (alike x (List.mem_cons_of_mem _ member) y (List.mem_cons_of_mem _ among)
        equal).imp_right fun known => ?_
      exact hasName_addEdge known d

theorem GrownBy.hasName {name : String} (grown : g.GrownBy met calls) :
    g.members.hasName name = true ↔ ∃ c ∈ met, c.name = name := by
  rw [grown.members, ConstructSet.hasName_ofList]

/-- An edge that is there is not added again. -/
theorem GrownBy.addEdge_of_mem (grown : g.GrownBy met calls) {callee : Construct}
    (call : (caller.name, callee.name) ∈ calls) : g.addEdge caller callee = g := by
  obtain ⟨source, target⟩ := grown.ends _ call
  simp only [Digraph.addEdge, addVertex_of_known (grown.hasName.2 source),
    addVertex_of_known (grown.hasName.2 target),
    (grown.hasEdge caller.name callee.name).2 call, if_true]

theorem GrownBy.addEdges_of_mem (grown : g.GrownBy met calls) {cs : List Construct}
    (known : ∀ c ∈ cs, (caller.name, c.name) ∈ calls) : cs.foldl (·.addEdge caller ·) g = g := by
  induction cs with
  | nil => rfl
  | cons c cs ih =>
      rw [List.foldl_cons, grown.addEdge_of_mem (known c List.mem_cons_self)]
      exact ih fun d member => known d (List.mem_cons_of_mem _ member)

/-- Callees that are added before others of the same names, in the same order, and then again, are
added once. -/
theorem GrownBy.addEdges_absorb (grown : g.GrownBy met calls) {cs ds : List Construct}
    (begins : cs.map (·.name) <+: ds.map (·.name))
    (alike : ∀ c ∈ cs, ∀ d ∈ ds, c.name = d.name → c = d ∨ g.members.hasName c.name = true) :
    (cs ++ ds).foldl (·.addEdge caller ·) g = ds.foldl (·.addEdge caller ·) g ∧
      (ds ++ cs).foldl (·.addEdge caller ·) g = ds.foldl (·.addEdge caller ·) g := by
  obtain ⟨tail, split⟩ := begins
  obtain ⟨first, rest, rfl, same, -⟩ := List.map_eq_append_iff.1 split.symm
  constructor
  -- after the callees of `cs` those of `first` are there, so that only `rest` is new
  · have once := grown.addEdges caller first
    rw [List.foldl_append, List.foldl_append, List.foldl_append,
      addEdges_congr same.symm fun c member d among =>
        alike c member d (List.mem_append_left _ among),
      once.addEdges_of_mem fun d member => List.mem_append_right _ (List.mem_map_of_mem member)]
  · have all := grown.addEdges caller (first ++ rest)
    rw [List.foldl_append, all.addEdges_of_mem fun c member => ?_]
    obtain ⟨d, among, name⟩ : ∃ d ∈ first, d.name = c.name :=
      List.mem_map.1 (same ▸ List.mem_map_of_mem member)
    exact List.mem_append_right _ (List.mem_map.2 ⟨d, List.mem_append_left _ among, by rw [name]⟩)

end Digraph

namespace Program

/-! ## Graphs of any enumeration and any sort -/

/-- A sort of nodes by their names.  Nothing is said of nodes that share a name. -/
structure SortsByName (sort : List FunctionNode → List FunctionNode) : Prop where
  perm : ∀ nodes, (sort nodes).Perm nodes
  inOrder : ∀ nodes, InOrder FunctionNode.name (sort nodes)

variable (isExcluded : String → Bool)

/-- The nodes that are kept of an enumeration, as a sort leaves them. -/
def nodesBy (sort : List FunctionNode → List FunctionNode) (order : List FunctionNode) :
    List FunctionNode :=
  sort (order.filter fun n => !isExcluded n.function.path)

/-- The own constructs of nodes that come in this order. -/
def ownInOrder (order : List FunctionNode) : ConstructSet :=
  .ofList ((order.filter (·.function.isOwn)).map (·.function.construct))

/-- The graph and the own constructs are the same for every enumeration of the nodes and every
sort. -/
def Determined (nodes : List FunctionNode) : Prop :=
  ∀ sort order, SortsByName sort → order.Perm nodes →
    (graphInOrder isExcluded (nodesBy isExcluded sort order)).rows =
      (constructGraph isExcluded nodes).rows ∧
      ownInOrder (nodesBy isExcluded sort order) = ownConstructs isExcluded nodes

/-- The name is that of a node, or a node of a lesser name than the caller's calls it. -/
def KnownBefore (nodes : List FunctionNode) (caller callee : String) : Prop :=
  (∃ k ∈ keptNodes isExcluded nodes, k.name = callee) ∨
    ∃ k ∈ keptNodes isExcluded nodes, k.name < caller ∧
      ∃ c ∈ keptCallees isExcluded k, c.name = callee

/-- Two nodes of one name that may come in either order. -/
structure Agree (nodes : List FunctionNode) (n m : FunctionNode) : Prop where
  construct : n.function.construct = m.function.construct
  /-- The one calls what the other calls first. -/
  calls : (keptCallees isExcluded n).map (·.name) <+: (keptCallees isExcluded m).map (·.name) ∨
    (keptCallees isExcluded m).map (·.name) <+: (keptCallees isExcluded n).map (·.name)
  /-- No name becomes a vertex by both with different constructs. -/
  introduced : ∀ c ∈ keptCallees isExcluded n, ∀ d ∈ keptCallees isExcluded m, c.name = d.name →
    c = d ∨ KnownBefore isExcluded nodes n.name c.name

/-- Any two nodes that share a name agree. -/
def Agreeing (nodes : List FunctionNode) : Prop :=
  ∀ n ∈ keptNodes isExcluded nodes, ∀ m ∈ keptNodes isExcluded nodes, n.name = m.name →
    Agree isExcluded nodes n m

/-- An order of the nodes that are kept by their names. -/
structure Arrangement (nodes order : List FunctionNode) : Prop where
  perm : order.Perm (keptNodes isExcluded nodes)
  inOrder : InOrder FunctionNode.name order

variable {isExcluded} {nodes : List FunctionNode}

theorem SortsByName.arrangement {sort : List FunctionNode → List FunctionNode}
    (sorts : SortsByName sort) {order : List FunctionNode} (perm : order.Perm nodes) :
    Arrangement isExcluded nodes (nodesBy isExcluded sort order) where
  perm := ((sorts.perm _).trans (perm.filter _)).trans (List.mergeSort_perm _ _).symm
  inOrder := sorts.inOrder _

/-! ## Where the nodes of a name agree -/

theorem addCalls_comm {g : Digraph} {met : List Construct} {calls : List (String × String)}
    (grown : g.GrownBy met calls) {n m : FunctionNode} (agree : Agree isExcluded nodes n m)
    (known : ∀ name, KnownBefore isExcluded nodes n.name name → g.members.hasName name = true) :
    addCalls isExcluded (addCalls isExcluded g n) m =
      addCalls isExcluded (addCalls isExcluded g m) n := by
  have alike : ∀ c ∈ keptCallees isExcluded n, ∀ d ∈ keptCallees isExcluded m, c.name = d.name →
      c = d ∨ g.members.hasName c.name = true := fun c callee d callee' same =>
    (agree.introduced c callee d callee' same).imp_right (known c.name)
  simp only [addCalls, agree.construct, ← List.foldl_append]
  rcases agree.calls with begins | begins
  · obtain ⟨before, after⟩ := grown.addEdges_absorb begins alike
    rw [before, after]
  · have alike' : ∀ d ∈ keptCallees isExcluded m, ∀ c ∈ keptCallees isExcluded n, d.name = c.name →
        d = c ∨ g.members.hasName d.name = true := fun d callee' c callee same =>
      (alike c callee d callee' same.symm).imp Eq.symm fun known => same ▸ known
    obtain ⟨before, after⟩ := grown.addEdges_absorb begins alike'
    rw [before, after]

/-- At the turn of a node all is known that is known before its name. -/
theorem Arrangement.hasName_of_knownBefore {before after : List FunctionNode} {n : FunctionNode}
    (arranged : Arrangement isExcluded nodes (before ++ n :: after)) {g : Digraph}
    {calls : List (String × String)}
    (grown : g.GrownBy
      ((before ++ n :: after).map (·.function.construct) ++
        before.flatMap (callMentions isExcluded)) calls)
    {name : String} (known : KnownBefore isExcluded nodes n.name name) :
    g.members.hasName name = true := by
  rw [grown.hasName]
  rcases known with ⟨k, kept, same⟩ | ⟨k, kept, lesser, c, callee, same⟩
  · exact ⟨k.function.construct,
      List.mem_append_left _ (List.mem_map_of_mem (arranged.perm.mem_iff.2 kept)), same⟩
  · -- a node of a lesser name stands before
    have earlier : k ∈ before := by
      rcases List.mem_append.1 (arranged.perm.mem_iff.2 kept) with earlier | later
      · exact earlier
      · have order := (List.pairwise_append.1 arranged.inOrder).2.1
        rcases List.mem_cons.1 later with rfl | later
        · exact absurd lesser (String.lt_irrefl _)
        · exact absurd lesser (String.not_lt.2 ((List.pairwise_cons.1 order).1 k later))
    refine ⟨c, List.mem_append_right _ (List.mem_flatMap.2 ⟨k, earlier, ?_⟩), same⟩
    exact List.mem_flatMap.2 ⟨c, callee, by simp⟩

/-- The constructs of the nodes that a test picks are the same in every order. -/
theorem Agreeing.exchangeable_constructs (agreeing : Agreeing isExcluded nodes)
    (p : FunctionNode → Bool) :
    Exchangeable FunctionNode.name (keptNodes isExcluded nodes) fun order =>
      (order.filter p).map (·.function.construct) := by
  intro before a b after perm _ same
  have agree := agreeing a (perm.mem_iff.1 (by simp)) b (perm.mem_iff.1 (by simp)) same
  cases first : p a <;> cases second : p b <;> simp [first, second, agree.construct]

/-- The graph before any call is that of the constructs. -/
theorem vertices_congr {order order' : List FunctionNode}
    (same : order.map (·.function.construct) = order'.map (·.function.construct)) :
    order.foldl (fun g n => g.addVertex n.function.construct) Digraph.empty =
      order'.foldl (fun g n => g.addVertex n.function.construct) Digraph.empty := by
  have listed : ∀ order : List FunctionNode, order.foldl
      (fun g n => g.addVertex n.function.construct) Digraph.empty =
      (order.map (·.function.construct)).foldl Digraph.addVertex Digraph.empty :=
        fun order => List.foldl_map.symm
  rw [listed, listed, same]

theorem Agreeing.exchangeable (agreeing : Agreeing isExcluded nodes) :
    Exchangeable FunctionNode.name (keptNodes isExcluded nodes) (graphInOrder isExcluded) := by
  intro before a b after perm ordered same
  have agree := agreeing a (perm.mem_iff.1 (by simp)) b (perm.mem_iff.1 (by simp)) same
  have constructs : (before ++ b :: a :: after).map (·.function.construct) =
      (before ++ a :: b :: after).map (·.function.construct) := by simp [agree.construct]
  have grown := grownBy_foldl_addCalls isExcluded
    (grownBy_vertices (before ++ a :: b :: after)) before
  have arranged : Arrangement isExcluded nodes (before ++ a :: b :: after) := ⟨perm, ordered⟩
  have swap := addCalls_comm grown agree fun _ => arranged.hasName_of_knownBefore grown
  rw [graphInOrder, graphInOrder, vertices_congr constructs]
  generalize (before ++ a :: b :: after).foldl (fun g n => g.addVertex n.function.construct)
    Digraph.empty = g at swap ⊢
  simp only [List.foldl_append, List.foldl_cons, swap]

theorem Agreeing.determined (agreeing : Agreeing isExcluded nodes) :
    Determined isExcluded nodes := by
  intro sort order sorts perm
  have arranged : Arrangement isExcluded nodes (nodesBy isExcluded sort order) :=
    sorts.arrangement perm
  have ordered := sorted_keptNodes isExcluded nodes
  constructor
  · rw [eq_of_perm_of_inOrder agreeing.exchangeable ordered arranged.perm arranged.inOrder]
    rfl
  · have own := eq_of_perm_of_inOrder (agreeing.exchangeable_constructs (·.function.isOwn))
      ordered arranged.perm
      arranged.inOrder
    exact congrArg ConstructSet.ofList own


/-! ## Where the graph is determined -/

theorem keptNodes_of_inOrder
    (ordered : InOrder FunctionNode.name (nodes.filter fun n => !isExcluded n.function.path)) :
    keptNodes isExcluded nodes = nodes.filter fun n => !isExcluded n.function.path := by
  refine List.mergeSort_of_pairwise (ordered.imp fun le => ?_)
  simpa [Construct.nameLe, FunctionNode.name] using le

theorem sortsByName_mergeSort :
    SortsByName fun nodes => nodes.mergeSort fun a b =>
      Construct.nameLe a.function.construct b.function.construct where
  perm nodes := List.mergeSort_perm nodes _
  inOrder nodes := sorted_byName nodes

/-- Every order by name comes of an enumeration. -/
theorem Determined.rows_eq (determined : Determined isExcluded nodes) {order : List FunctionNode}
    (arranged : Arrangement isExcluded nodes order) :
    (graphInOrder isExcluded order).rows = (constructGraph isExcluded nodes).rows := by
  let kept (n : FunctionNode) : Bool := !isExcluded n.function.path
  let listed := order ++ nodes.filter fun n => !kept n
  have perm : listed.Perm nodes :=
    ((arranged.perm.trans (List.mergeSort_perm _ _)).append_right _).trans
      (List.filter_append_perm kept nodes)
  have among : ∀ n ∈ order, kept n = true := fun n member => by
    simpa [kept] using (mem_keptNodes.1 (arranged.perm.mem_iff.1 member)).2
  have filtered : listed.filter kept = order := by
    simp [listed, List.filter_append, List.filter_eq_self.2 among, List.filter_filter]
  have ordered : InOrder FunctionNode.name (listed.filter kept) := filtered.symm ▸ arranged.inOrder
  have sorted : keptNodes isExcluded listed = order := (keptNodes_of_inOrder ordered).trans filtered
  rw [← sorted]
  exact (determined _ listed sortsByName_mergeSort perm).1

/-- Each node may come first of its name. -/
theorem exists_arrangement {n : FunctionNode} (kept : n ∈ keptNodes isExcluded nodes) :
    ∃ before after, Arrangement isExcluded nodes (before ++ n :: after) ∧
      ∀ k ∈ before, k.name < n.name := by
  let isLess (k : FunctionNode) : Bool := decide (k.name < n.name)
  let before := (keptNodes isExcluded nodes).filter isLess
  let others := (keptNodes isExcluded nodes).filter fun k => !isLess k
  have less : ∀ k ∈ before, k.name < n.name :=
    fun k member => of_decide_eq_true (List.mem_filter.1 member).2
  have notLess : ∀ k ∈ others, n.name ≤ k.name := fun k member => by
    have refused : isLess k = false := by
      simpa only [Bool.not_eq_true'] using (List.mem_filter.1 member).2
    exact String.not_lt.1 (of_decide_eq_false refused)
  have other : n ∈ others := by
    have refused : isLess n = false := decide_eq_false (String.lt_irrefl n.name)
    exact List.mem_filter.2 ⟨kept, by rw [refused, Bool.not_false]⟩
  have ordered := sorted_keptNodes isExcluded nodes
  refine ⟨before, others.erase n, ⟨?_, ?_⟩, less⟩
  · exact ((List.perm_cons_erase other).symm.append_left before).trans
      (List.filter_append_perm isLess _)
  · have rest : ∀ k ∈ others.erase n, n.name ≤ k.name :=
      fun k member => notLess k (List.mem_of_mem_erase member)
    have ordered' : InOrder FunctionNode.name (others.erase n) :=
      (ordered.filter _).sublist List.erase_sublist
    refine List.pairwise_append.2 ⟨ordered.filter _, List.pairwise_cons.2 ⟨rest, ordered'⟩,
      fun k low l high => ?_⟩
    rcases List.mem_cons.1 high with rfl | high
    · exact Std.le_of_lt (less k low)
    · exact String.le_trans (Std.le_of_lt (less k low)) (rest l high)

end Program

namespace Digraph

theorem isFirst_of_split {before here after : List Construct} {c : Construct}
    (absent : ∀ x ∈ before, x.name ≠ c.name) (member : c ∈ here)
    (unique : ∀ x ∈ here, x.name = c.name → x = c) : IsFirst (before ++ (here ++ after)) c := by
  have nothing : before.find? (·.name == c.name) = none :=
    List.find?_eq_none.2 fun x earlier same => absent x earlier (by simpa using same)
  obtain ⟨x, found⟩ : ∃ x, here.find? (·.name == c.name) = some x :=
    Option.isSome_iff_exists.1 (List.find?_isSome.2 ⟨c, member, by simp⟩)
  have same : x = c :=
    unique x (List.mem_of_find?_eq_some found) (by simpa using List.find?_some found)
  rw [IsFirst, List.find?_append, nothing, Option.none_or, List.find?_append, found,
    Option.some_or, same]

theorem GrownBy.vertex?_of_isFirst {g : Digraph} {met : List Construct}
    {calls : List (String × String)} (grown : g.GrownBy met calls) {c : Construct}
    (first : IsFirst met c) : g.vertex? c.name = some c := by
  obtain ⟨v, found, same, also⟩ := grown.vertex? ⟨c, List.mem_of_find?_eq_some first, rfl⟩
  rw [IsFirst, same] at also
  rw [found, ← also, first]

theorem vertices_of_rows {g h : Digraph} (same : g.rows = h.rows) : g.vertices = h.vertices := by
  have first : ∀ g : Digraph, g.rows.map Prod.fst = g.vertices := fun g => by
    rw [rows, List.map_map]
    exact List.map_id _
  rw [← first g, same, first h]

theorem callees_of_rows {g h : Digraph} (same : g.rows = h.rows) {v : Construct}
    (vertex : v ∈ g.vertices) : g.callees v.name = h.callees v.name := by
  rw [rows, rows, ← vertices_of_rows same] at same
  exact (Prod.mk.inj (List.map_inj_left.1 same v vertex)).2

end Digraph

namespace Program

variable (isExcluded : String → Bool) {nodes before : List FunctionNode}
    (after : List FunctionNode) {n : FunctionNode}

theorem nodup_names_keptCallees (n : FunctionNode) :
    ((keptCallees isExcluded n).map (·.name)).Nodup :=
  List.nodup_iff_pairwise_ne.2 ((sorted_names_keptCallees isExcluded n).imp fun lt =>
    String.ne_of_lt lt)

theorem vertex?_of_first (less : ∀ k ∈ before, k.name < n.name) :
    (graphInOrder isExcluded (before ++ n :: after)).vertex? n.name =
      some n.function.construct := by
  refine (grownBy_graphInOrder isExcluded _).vertex?_of_isFirst (c := n.function.construct) ?_
  rw [List.map_append, List.append_assoc, List.map_cons, List.cons_append, ← List.singleton_append]
  refine Digraph.isFirst_of_split (fun x member => ?_) List.mem_cons_self fun x member _ =>
    List.mem_singleton.1 member
  obtain ⟨k, earlier, rfl⟩ := List.mem_map.1 member
  exact String.ne_of_lt (less k earlier)

/-- The callees of a name begin with those of its first node. -/
theorem prefix_callees (less : ∀ k ∈ before, k.name < n.name) :
    (keptCallees isExcluded n).map (·.name) <+:
      ((graphInOrder isExcluded (before ++ n :: after)).callees n.name).map (·.name) := by
  have distinct := nodup_names_keptCallees isExcluded n
  have none : (before.flatMap (callPairs isExcluded)).filter (·.1 == n.name) = [] := by
    refine List.filter_eq_nil_iff.2 fun e member => ?_
    obtain ⟨k, earlier, call⟩ := List.mem_flatMap.1 member
    simpa [← (mem_callPairs.1 call).1] using String.ne_of_lt (less k earlier)
  have own : (callPairs isExcluded n).filter (·.1 == n.name) = callPairs isExcluded n := by
    refine List.filter_eq_self.2 fun e call => ?_
    simp [← (mem_callPairs.1 call).1]
  have names : (callPairs isExcluded n).map (·.2) = (keptCallees isExcluded n).map (·.name) := by
    simp [callPairs]
  rw [(grownBy_graphInOrder isExcluded _).names_callees, Digraph.calleesGiven, List.flatMap_append,
    List.flatMap_cons,
    List.filter_append, List.filter_append, none, own, List.nil_append, List.map_append, names,
      List.eraseDups_append,
    eraseDups_of_nodup distinct]
  exact List.prefix_append _ _

variable {isExcluded after} in
/-- A callee that is new at the turn of a node becomes a vertex as the node has it. -/
theorem vertex?_of_callee {c : Construct}
    (arranged : Arrangement isExcluded nodes (before ++ n :: after))
    (less : ∀ k ∈ before, k.name < n.name) (callee : c ∈ keptCallees isExcluded n)
    (unknown : ¬ KnownBefore isExcluded nodes n.name c.name) :
    (graphInOrder isExcluded (before ++ n :: after)).vertex? c.name = some c := by
  have notNode : ∀ k ∈ before ++ n :: after, k.name ≠ c.name := fun k member same =>
    unknown (.inl ⟨k, arranged.perm.mem_iff.1 member, same⟩)
  have distinct := nodup_names_keptCallees isExcluded n
  have member : c ∈ callMentions isExcluded n := List.mem_flatMap.2 ⟨c, callee, by simp⟩
  refine (grownBy_graphInOrder isExcluded _).vertex?_of_isFirst ?_
  rw [List.flatMap_append, List.flatMap_cons, ← List.append_assoc]
  refine Digraph.isFirst_of_split (fun x place => ?_) member fun x place same => ?_
  · rcases List.mem_append.1 place with vertex | mention
    · obtain ⟨k, listed, rfl⟩ := List.mem_map.1 vertex
      exact notNode k listed
    · obtain ⟨k, earlier, mention⟩ := List.mem_flatMap.1 mention
      have listed : k ∈ before ++ n :: after := List.mem_append_left _ earlier
      rcases exists_of_mem_callMentions mention with rfl | call
      · exact notNode k listed
      · exact fun same =>
          unknown (.inr ⟨k, arranged.perm.mem_iff.1 listed, less k earlier, x, call, same⟩)
  · rcases exists_of_mem_callMentions place with rfl | call
    · exact absurd same (notNode n (by simp))
    · exact List.inj_on_of_nodup_map distinct call callee same

variable {isExcluded} in
theorem Determined.agreeing (determined : Determined isExcluded nodes) :
    Agreeing isExcluded nodes := by
  intro n kept m kept' same
  obtain ⟨before, after, arranged, less⟩ := exists_arrangement kept
  obtain ⟨before', after', arranged', less'⟩ := exists_arrangement kept'
  have rows := (determined.rows_eq arranged).trans (determined.rows_eq arranged').symm
  have vertex? : ∀ name, (graphInOrder isExcluded (before ++ n :: after)).vertex? name =
      (graphInOrder isExcluded (before' ++ m :: after')).vertex? name := fun name => by
    rw [Digraph.vertex?, Digraph.vertex?, Digraph.vertices_of_rows rows]
  have found := vertex?_of_first isExcluded after less
  refine ⟨?_, ?_, fun c callee d callee' equal => ?_⟩
  · have found' := vertex?_of_first isExcluded after' less'
    rw [vertex?, same, found'] at found
    exact (Option.some.inj found).symm
  · have callees : (graphInOrder isExcluded (before ++ n :: after)).callees n.name =
        (graphInOrder isExcluded (before' ++ m :: after')).callees n.name :=
      Digraph.callees_of_rows rows (List.mem_of_find?_eq_some found)
    have begins := prefix_callees isExcluded after less
    have begins' := prefix_callees isExcluded after' less'
    rw [← same, ← callees] at begins'
    exact List.prefix_or_prefix_of_prefix begins begins'
  · by_cases known : KnownBefore isExcluded nodes n.name c.name
    · exact .inr known
    · have first := vertex?_of_callee arranged less callee known
      have first' := vertex?_of_callee arranged' less' callee' (by rwa [← same, ← equal])
      rw [vertex?, equal, first'] at first
      exact .inl (Option.some.inj first).symm

/-! ## What no order changes -/

section Contents

variable {isExcluded : String → Bool} {nodes order order' : List FunctionNode}

theorem Arrangement.mem_iff (arranged : Arrangement isExcluded nodes order)
    (arranged' : Arrangement isExcluded nodes order') (n : FunctionNode) :
    n ∈ order ↔ n ∈ order' := by
  rw [arranged.perm.mem_iff, arranged'.perm.mem_iff]

end Contents

end Program

end Exposure
