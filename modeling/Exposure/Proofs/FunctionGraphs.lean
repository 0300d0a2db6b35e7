/-
# Proofs.FunctionGraphs — the graph of constructs says what the functions call

The graph of constructs is grown from a list of function nodes: their constructs
first, then their calls, node by node (`Program.graphInOrder`).  So it is known by
what was added (`Program.grownBy_graphInOrder`), whatever the order of the nodes.

Where every callee is a node itself, a call adds no vertex
(`Program.members_graphInOrder`), and the vertices stand in the order of the nodes.
With the nodes in the order of their names this gives all that there is to say of
the graph (`Program.constructGraph_exact`).  What is excluded is told by a list of
entries, for any reading of those that are patterns (`Program.Covers`).
-/
import Exposure.Program.Graph
import Exposure.Program.PackagePath
import Exposure.Proofs.Dicts
import Exposure.Proofs.Growth
import Exposure.Proofs.SyntheticParts

namespace Exposure

set_option autoImplicit false

/-! ## Sets and lists in order -/

/-- Texts in order are strictly so without the repetitions. -/
theorem pairwise_lt_eraseDups {names : List String} (ordered : names.Pairwise (· ≤ ·)) :
    names.eraseDups.Pairwise (· < ·) := by
  have apart := List.nodup_iff_pairwise_ne.1 (nodup_eraseDups names)
  refine ((ordered.sublist (eraseDups_sublist names)).and apart).imp fun ⟨le, ne⟩ => ?_
  exact Std.lt_of_le_of_ne le ne

/-- A set does not grow by constructs of names that it has. -/
theorem ConstructSet.ofList_append_of_known {cs more : List Construct}
    (known : ∀ d ∈ more, ∃ c ∈ cs, c.name = d.name) : ofList (cs ++ more) = ofList cs := by
  induction more using List.reverseRecOn with
  | nil => rw [List.append_nil]
  | append_singleton more d ih =>
      have taken : (ofList cs).has d = true := hasName_ofList.2 (known d (by simp))
      rw [← List.append_assoc, ofList_snoc, ih fun e member =>
        known e (List.mem_append_left _ member)]
      simp [add, taken]

/-- What a name calls are vertices. -/
theorem Digraph.GrownBy.mem_vertices_of_mem_callees {g : Digraph} {met : List Construct}
    {calls : List (String × String)} (grown : g.GrownBy met calls) {caller : String} {c : Construct}
    (callee : c ∈ g.callees caller) : c ∈ g.vertices := by
  have first := grown.isFirst_callee callee
  obtain ⟨v, vertex, same⟩ := grown.exists_vertex_iff.2 ⟨c, List.mem_of_find?_eq_some first, rfl⟩
  have also : met.find? (·.name == v.name) = some v := grown.isFirst_vertex vertex
  rw [same] at also
  exact Option.some.inj (first.symm.trans also) ▸ vertex

theorem Digraph.GrownBy.addEdges {g : Digraph} {met : List Construct}
    {calls : List (String × String)} (grown : g.GrownBy met calls) (caller : Construct)
    (cs : List Construct) :
    (cs.foldl (·.addEdge caller ·) g).GrownBy (met ++ cs.flatMap fun c => [caller, c])
      (calls ++ cs.map fun c => (caller.name, c.name)) := by
  induction cs generalizing g met calls with
  | nil => simpa using grown
  | cons c cs ih => simpa using ih (grown.addEdge caller c)

open Text

namespace Program

/-- The name that a node goes by. -/
def FunctionNode.name (n : FunctionNode) : String := n.function.construct.name

/-- The constructs of nodes have the names of the nodes. -/
theorem hasName_ofNodes {order : List FunctionNode} {name : String} :
    (ConstructSet.ofList (order.map (·.function.construct))).hasName name = true ↔
      ∃ n ∈ order, n.name = name := by
  rw [ConstructSet.hasName_ofList]
  simp [FunctionNode.name]

variable (isExcluded : String → Bool)

/-! ## The calls of a node -/

/-- A map of constructs by their names has the constructs it was given, under their names. -/
theorem mem_entries_byName {cs : List Construct} {e : String × Construct}
    (member : e ∈ (Dict.ofList (cs.map fun c => (c.name, c))).entries) :
    e.2 ∈ cs ∧ e.1 = e.2.name := by
  obtain ⟨key, value⟩ := e
  have found := Dict.mem_of_lookup
    ((Dict.get?_ofList _ _).symm.trans (Dict.get?_eq_some_iff.2 member))
  obtain ⟨c, listed, same⟩ := List.mem_map.1 (List.mem_reverse.1 found)
  obtain ⟨rfl, rfl⟩ := Prod.mk.inj same
  exact ⟨listed, rfl⟩

theorem names_byName (cs : List Construct) :
    (Dict.ofList (cs.map fun c => (c.name, c))).values.map (·.name) =
      (Dict.ofList (cs.map fun c => (c.name, c))).keys := by
  rw [Dict.values, List.map_map]
  exact List.map_congr_left fun e member => (mem_entries_byName member).2.symm

theorem sorted_names_keptCallees (n : FunctionNode) :
    ((keptCallees isExcluded n).map (·.name)).Pairwise (· < ·) := by
  rw [keptCallees, names_byName]
  exact Dict.sorted_keys _

variable {isExcluded} in
theorem exists_of_mem_keptCallees {n : FunctionNode} {c : Construct}
    (member : c ∈ keptCallees isExcluded n) :
    ∃ f ∈ n.callees, isExcluded f.path = false ∧ f.construct = c := by
  obtain ⟨e, entry, rfl⟩ := List.mem_map.1 member
  obtain ⟨f, kept, same⟩ := List.mem_map.1 (mem_entries_byName entry).1
  obtain ⟨callee, included⟩ := List.mem_filter.1 kept
  exact ⟨f, callee, by simpa using included, same⟩

variable {isExcluded} in
/-- A node calls what its callees are named. -/
theorem mem_names_keptCallees {n : FunctionNode} {name : String} :
    (∃ c ∈ keptCallees isExcluded n, c.name = name) ↔
      ∃ f ∈ n.callees, isExcluded f.path = false ∧ f.construct.name = name := by
  constructor
  · rintro ⟨c, member, rfl⟩
    obtain ⟨f, callee, included, rfl⟩ := exists_of_mem_keptCallees member
    exact ⟨f, callee, included, rfl⟩
  · rintro ⟨f, callee, included, rfl⟩
    rw [← List.mem_map, keptCallees, names_byName, Dict.mem_keys, ne_eq, Dict.get?_ofList_eq_none]
    intro absent
    refine absent (f.construct.name, f.construct) (List.mem_map.2 ⟨f.construct, ?_, rfl⟩) rfl
    exact List.mem_map_of_mem (List.mem_filter.2 ⟨callee, by simp [included]⟩)

/-! ## The graph of a list of nodes -/

/-- The graph of the constructs of nodes that come in this order. -/
def graphInOrder (order : List FunctionNode) : Digraph :=
  order.foldl (addCalls isExcluded)
    (order.foldl (fun g n => g.addVertex n.function.construct) Digraph.empty)

theorem constructGraph_eq (nodes : List FunctionNode) :
    constructGraph isExcluded nodes = graphInOrder isExcluded (keptNodes isExcluded nodes) := rfl

/-- The constructs that a node mentions with its calls. -/
def callMentions (n : FunctionNode) : List Construct :=
  (keptCallees isExcluded n).flatMap fun c => [n.function.construct, c]

/-- The calls of a node, by the names of their ends. -/
def callPairs (n : FunctionNode) : List (String × String) :=
  (keptCallees isExcluded n).map fun c => (n.name, c.name)

variable {isExcluded} in
theorem exists_of_mem_callMentions {n : FunctionNode} {c : Construct}
    (member : c ∈ callMentions isExcluded n) :
    c = n.function.construct ∨ c ∈ keptCallees isExcluded n := by
  obtain ⟨d, callee, place⟩ := List.mem_flatMap.1 member
  rcases List.mem_cons.1 place with same | same
  · exact .inl same
  · exact .inr (List.mem_singleton.1 same ▸ callee)

variable {isExcluded} in
theorem mem_callPairs {n : FunctionNode} {a b : String} :
    (a, b) ∈ callPairs isExcluded n ↔ n.name = a ∧ ∃ c ∈ keptCallees isExcluded n, c.name = b := by
  simp only [callPairs, List.mem_map, Prod.mk.injEq]
  constructor
  · rintro ⟨c, callee, caller, same⟩
    exact ⟨caller, c, callee, same⟩
  · rintro ⟨caller, c, callee, same⟩
    exact ⟨c, callee, caller, same⟩

/-- What the calls of a node add to a graph. -/
theorem grownBy_addCalls {g : Digraph} {met : List Construct} {calls : List (String × String)}
    (grown : g.GrownBy met calls) (n : FunctionNode) :
    (addCalls isExcluded g n).GrownBy (met ++ callMentions isExcluded n)
      (calls ++ callPairs isExcluded n) :=
  grown.addEdges n.function.construct (keptCallees isExcluded n)

theorem grownBy_foldl_addCalls {g : Digraph} {met : List Construct} {calls : List (String × String)}
    (grown : g.GrownBy met calls) (order : List FunctionNode) :
    (order.foldl (addCalls isExcluded) g).GrownBy (met ++ order.flatMap (callMentions isExcluded))
      (calls ++ order.flatMap (callPairs isExcluded)) := by
  induction order generalizing g met calls with
  | nil => simpa using grown
  | cons n order ih => simpa using ih (grownBy_addCalls isExcluded grown n)

/-- The graph before any call. -/
theorem grownBy_vertices (order : List FunctionNode) :
    (order.foldl (fun g n => g.addVertex n.function.construct) Digraph.empty).GrownBy
      (order.map (·.function.construct)) [] := by
  have grown := Digraph.GrownBy.nothing.addVertices (order.map (·.function.construct))
  rwa [List.foldl_map, List.nil_append] at grown

theorem grownBy_graphInOrder (order : List FunctionNode) :
    (graphInOrder isExcluded order).GrownBy
      (order.map (·.function.construct) ++ order.flatMap (callMentions isExcluded))
      (order.flatMap (callPairs isExcluded)) := by
  simpa [graphInOrder] using grownBy_foldl_addCalls isExcluded (grownBy_vertices order) order

/-- A name calls what the nodes of that name call. -/
theorem mem_callees_graphInOrder (order : List FunctionNode) (a b : String) :
    (∃ c ∈ (graphInOrder isExcluded order).callees a, c.name = b) ↔
      ∃ n ∈ order, n.name = a ∧ ∃ f ∈ n.callees, isExcluded f.path = false ∧
        f.construct.name = b := by
  simp only [(grownBy_graphInOrder isExcluded order).mem_callees, List.mem_flatMap, mem_callPairs,
    mem_names_keptCallees]

variable {isExcluded} in
/-- If the callees of the nodes have nodes, a call adds no vertex. -/
theorem members_graphInOrder {order : List FunctionNode}
    (known : ∀ n ∈ order, ∀ c ∈ keptCallees isExcluded n, ∃ m ∈ order, m.name = c.name) :
    (graphInOrder isExcluded order).members = .ofList (order.map (·.function.construct)) := by
  rw [(grownBy_graphInOrder isExcluded order).members]
  refine ConstructSet.ofList_append_of_known fun c mention => ?_
  obtain ⟨n, member, place⟩ := List.mem_flatMap.1 mention
  rcases exists_of_mem_callMentions place with rfl | callee
  · exact ⟨n.function.construct, List.mem_map_of_mem member, rfl⟩
  · obtain ⟨m, named, same⟩ := known n member c callee
    exact ⟨m.function.construct, List.mem_map_of_mem named, same⟩

variable {isExcluded} in
/-- With the nodes in the order of their names, the vertices stand in strict order. -/
theorem sorted_vertices_graphInOrder {order : List FunctionNode}
    (known : ∀ n ∈ order, ∀ c ∈ keptCallees isExcluded n, ∃ m ∈ order, m.name = c.name)
    (ordered : order.Pairwise fun a b => a.name ≤ b.name) :
    ((graphInOrder isExcluded order).vertices.map (·.name)).Pairwise (· < ·) := by
  rw [Digraph.vertices, members_graphInOrder known, ConstructSet.map_name_ofList, List.map_map]
  exact pairwise_lt_eraseDups (List.pairwise_map.2 ordered)

/-! ## The nodes that are kept -/

variable {isExcluded} in
theorem mem_keptNodes {nodes : List FunctionNode} {n : FunctionNode} :
    n ∈ keptNodes isExcluded nodes ↔ n ∈ nodes ∧ isExcluded n.function.path = false := by
  rw [keptNodes, List.mem_mergeSort, List.mem_filter]
  simp

/-- Sorting by name puts the names in order. -/
theorem sorted_byName (order : List FunctionNode) :
    (order.mergeSort fun a b => Construct.nameLe a.function.construct b.function.construct).Pairwise
      fun a b => a.name ≤ b.name := by
  have sorted : (order.mergeSort fun a b =>
      Construct.nameLe a.function.construct b.function.construct).Pairwise
      fun a b => Construct.nameLe a.function.construct b.function.construct = true := by
    apply List.pairwise_mergeSort
    · intro a b c first second
      simp only [Construct.nameLe, decide_eq_true_eq] at first second ⊢
      exact String.le_trans first second
    · intro a b
      simpa [Construct.nameLe]
        using String.le_total a.function.construct.name b.function.construct.name
  exact sorted.imp fun order => by simpa [Construct.nameLe, FunctionNode.name] using order

theorem sorted_keptNodes (nodes : List FunctionNode) :
    (keptNodes isExcluded nodes).Pairwise fun a b => a.name ≤ b.name := sorted_byName _

/-! ## What is excluded -/

/-- An entry covers a package: a pattern those that match it, any other entry the package of its
path, which may be written with a slash at its end, and what lies below. -/
inductive Covers (isMatch : String → String → Bool) (entry path : String) : Prop where
  | pattern (isPattern : Glob.isPattern entry = true) (here : isMatch entry path = true)
  | below (root : List Char) (plain : Glob.isPattern entry = false)
      (stem : entry.toList = root ++ ['/'] ∨ entry.toList = root ∧ root.getLast? ≠ some '/')
      (place : path.toList = root ∨ ∃ rest, path.toList = root ++ '/' :: rest)

/-- Whether one of several entries covers a package, with patterns read by `isMatch`. -/
def excludes (isMatch : String → String → Bool) (entries : List String) (path : String) : Bool :=
  entries.any fun entry => if Glob.isPattern entry then isMatch entry path
    else PackagePath.isAtOrBelow entry path

theorem isAtOrBelow_iff {entry path : String} {root : List Char}
    (stem : entry.toList = root ++ ['/'] ∨ entry.toList = root ∧ root.getLast? ≠ some '/') :
    PackagePath.isAtOrBelow entry path = true ↔ path.toList = root ∨
      ∃ rest, path.toList = root ++ '/' :: rest := by
  have dropped : (dropSuffix? ['/'] entry.toList).getD entry.toList = root := by
    rcases stem with slash | ⟨same, bare⟩
    · rw [dropSuffix?_eq_some_iff.2 slash, Option.getD_some]
    · cases drop : dropSuffix? ['/'] entry.toList with
      | none => exact same
      | some rest =>
          rw [← same, dropSuffix?_eq_some_iff.1 drop] at bare
          simp at bare
  simp only [PackagePath.isAtOrBelow, dropped, startsWith, Bool.or_eq_true, beq_iff_eq,
    List.isPrefixOf_iff_prefix, String.toList_append, String.toList_ofList, ← String.toList_inj]
  refine or_congr Iff.rfl (exists_congr fun rest => ?_)
  rw [eq_comm, List.append_assoc]
  rfl

theorem exists_stem (entry : List Char) :
    ∃ root, entry = root ++ ['/'] ∨ entry = root ∧ root.getLast? ≠ some '/' := by
  by_cases slash : entry.getLast? = some '/'
  · obtain ⟨root, same⟩ := List.getLast?_eq_some_iff.1 slash
    exact ⟨root, .inl same⟩
  · exact ⟨entry, .inr ⟨rfl, slash⟩⟩

theorem excludes_iff {isMatch : String → String → Bool} {entries : List String} {path : String} :
    excludes isMatch entries path = true ↔ ∃ entry ∈ entries, Covers isMatch entry path := by
  rw [excludes, List.any_eq_true]
  refine exists_congr fun entry => and_congr_right fun _ => ?_
  by_cases isPattern : Glob.isPattern entry = true
  · rw [if_pos isPattern]
    refine ⟨.pattern isPattern, fun covers => ?_⟩
    cases covers with
    | pattern _ here => exact here
    | below _ plain => exact absurd isPattern (by simp [plain])
  · rw [if_neg isPattern]
    constructor
    · intro within
      obtain ⟨root, stem⟩ := exists_stem entry.toList
      exact .below root (by simpa using isPattern) stem ((isAtOrBelow_iff stem).1 within)
    · intro covers
      cases covers with
      | pattern is _ => exact absurd is isPattern
      | below root _ stem place => exact (isAtOrBelow_iff stem).2 place

/-! ## The graph is exact -/

/-- Every callee of a node is the function of a node. -/
def Closed (nodes : List FunctionNode) : Prop :=
  ∀ n ∈ nodes, ∀ f ∈ n.callees, ∃ m ∈ nodes, m.function = f

instance (nodes : List FunctionNode) : Decidable (Closed nodes) := by unfold Closed; infer_instance

/-- No entry covers the package of a function. -/
def Kept (isMatch : String → String → Bool) (entries : List String) (f : Function) : Prop :=
  ¬ ∃ entry ∈ entries, Covers isMatch entry f.path

/-- What the graph and the own constructs of nodes are, by the functions that are kept. -/
structure Exact (isKept : Function → Prop) (nodes : List FunctionNode) (g : Digraph)
    (own : ConstructSet) : Prop where
  ordered : (g.vertices.map (·.name)).Pairwise (· < ·)
  names : ∀ name, (∃ v ∈ g.vertices, v.name = name) ↔ ∃ n ∈ nodes, isKept n.function ∧ n.name = name
  /-- A vertex is the construct of a function. -/
  vertex : ∀ v ∈ g.vertices, ∃ n ∈ nodes, isKept n.function ∧ n.function.construct = v
  calls : ∀ a b, (∃ c ∈ g.callees a, c.name = b) ↔
    ∃ n ∈ nodes, isKept n.function ∧ n.name = a ∧ ∃ f ∈ n.callees, isKept f ∧ f.construct.name = b
  /-- What a name calls are vertices, no two of one name. -/
  callees : ∀ a, (∀ c ∈ g.callees a, c ∈ g.vertices) ∧ ((g.callees a).map (·.name)).Nodup
  ownNames : ∀ name, own.hasName name = true ↔
    ∃ n ∈ nodes, isKept n.function ∧ n.function.isOwn = true ∧ n.name = name
  ownVertex : ∀ c ∈ own.members, ∃ n ∈ nodes, isKept n.function ∧ n.function.isOwn = true ∧
    n.function.construct = c

/-- What a node that is kept calls is the name of a node that is kept. -/
theorem Closed.exists_keptNode {nodes : List FunctionNode} (closed : Closed nodes) :
    ∀ n ∈ keptNodes isExcluded nodes, ∀ c ∈ keptCallees isExcluded n,
      ∃ m ∈ keptNodes isExcluded nodes, m.name = c.name := by
  intro n kept c callee
  obtain ⟨f, call, included, rfl⟩ := exists_of_mem_keptCallees callee
  obtain ⟨m, member, rfl⟩ := closed n (mem_keptNodes.1 kept).1 f call
  exact ⟨m, mem_keptNodes.2 ⟨member, included⟩, rfl⟩

theorem Closed.exact {nodes : List FunctionNode} (closed : Closed nodes) :
    Exact (fun f => isExcluded f.path = false) nodes (constructGraph isExcluded nodes)
      (ownConstructs isExcluded nodes) := by
  have grown := grownBy_graphInOrder isExcluded (keptNodes isExcluded nodes)
  have members := members_graphInOrder (closed.exists_keptNode isExcluded)
  rw [← constructGraph_eq] at grown members
  refine ⟨?_, fun name => ?_, fun v vertex => ?_, fun a b => ?_, fun a => ⟨fun c callee => ?_, ?_⟩,
    fun name => ?_, fun c member => ?_⟩
  · exact sorted_vertices_graphInOrder (closed.exists_keptNode isExcluded)
      (sorted_keptNodes isExcluded nodes)
  · rw [Digraph.vertices, members, ← ConstructSet.hasName_iff, hasName_ofNodes]
    simp only [mem_keptNodes, and_assoc]
  · rw [Digraph.vertices, members] at vertex
    obtain ⟨n, kept, same⟩ := List.mem_map.1 (ConstructSet.mem_of_mem_ofList vertex)
    exact ⟨n, (mem_keptNodes.1 kept).1, (mem_keptNodes.1 kept).2, same⟩
  · rw [constructGraph_eq, mem_callees_graphInOrder]
    simp only [mem_keptNodes, and_assoc]
  · exact grown.mem_vertices_of_mem_callees callee
  · rw [grown.names_callees]
    exact nodup_eraseDups _
  · rw [ownConstructs, hasName_ofNodes]
    simp only [List.mem_filter, mem_keptNodes, and_assoc]
  · obtain ⟨n, kept, same⟩ := List.mem_map.1 (ConstructSet.mem_of_mem_ofList member)
    obtain ⟨kept, isOwn⟩ := List.mem_filter.1 kept
    exact ⟨n, (mem_keptNodes.1 kept).1, (mem_keptNodes.1 kept).2, isOwn, same⟩

/-- **The graph of constructs is exact.**  Where every callee is a node, for every list of entries
and every reading of patterns, the vertices are the names of the functions that no entry covers, in
strict order.  One name calls another just if a function of the one that is kept calls a function of
the other that is kept, and the own constructs are named as the kept functions of the
application.  The entries of a build are read so, with the patterns of `Glob`. -/
theorem constructGraph_exact (isMatch : String → String → Bool) (entries : List String)
    (nodes : List FunctionNode) (closed : Closed nodes) :
    Exact (Kept isMatch entries) nodes (constructGraph (excludes isMatch entries) nodes)
        (ownConstructs (excludes isMatch entries) nodes) ∧
      PackagePath.isExcluded entries = excludes Glob.isMatch entries := by
  have kept : (fun f : Function => excludes isMatch entries f.path = false) =
      Kept isMatch entries := by
    funext f
    rw [Kept, ← excludes_iff, Bool.not_eq_true]
  exact ⟨kept ▸ closed.exact _, rfl⟩

/-- A program with two instances of one function, which share its name but not what they call, and
with calls into packages that are left out. -/
def twoInstances : List FunctionNode :=
  let entry : Function := ⟨⟨.go, .function, "app.main"⟩, "app", true⟩
  let each : Function := ⟨⟨.go, .function, "lib.Each"⟩, "lib", false⟩
  let log : Function := ⟨⟨.go, .function, "log.Print"⟩, "vendor/log", false⟩
  let stub : Function := ⟨⟨.go, .function, "stub.Run"⟩, "gen/stub", true⟩
  [⟨each, [entry, log]⟩, ⟨log, [each]⟩, ⟨entry, [each, stub]⟩, ⟨each, [each]⟩, ⟨stub, [log, entry]⟩]

theorem constructGraph_exact_twoInstances :
    Closed twoInstances ∧
      Exact (Kept (fun _ path => path == "gen/stub") ["vendor/", "gen/*"]) twoInstances
        (constructGraph (excludes (fun _ path => path == "gen/stub") ["vendor/", "gen/*"])
          twoInstances)
        (ownConstructs (excludes (fun _ path => path == "gen/stub") ["vendor/", "gen/*"])
          twoInstances) :=
  ⟨by decide, (constructGraph_exact _ ["vendor/", "gen/*"] twoInstances (by decide)).1⟩

end Program

end Exposure
