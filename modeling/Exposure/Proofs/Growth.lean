/-
# Proofs.Growth — graphs grown vertex by vertex and edge by edge

A graph is grown by adding vertices and edges in any order, with any repetitions.
What was added says by itself what the graph is: the constructs mentioned, and the
calls as pairs of names.  `Digraph.GrownBy` says that a graph has of the one the
first of every name and of the other each once, both in their order.  Adding a
vertex keeps it so, adding an edge keeps it so, and hence every row of additions
does (`Digraph.grownBy_grow`).

An import numbers the names of a raw graph and records its calls.  Counting both
(`Imported.size_eq`, `Imported.edgeCount_eq`) gives that a grown graph is imported
with all its vertices and edges and nothing else (`Digraph.grow_faithful`).
-/
import Exposure.Proofs.Import
import Mathlib.Algebra.BigOperators.Group.Finset.Sigma
import Mathlib.Data.Finset.Card

namespace Exposure

set_option autoImplicit false

/-! ## Counting what was imported -/

theorem length_eraseDups {α : Type} [BEq α] [LawfulBEq α] [DecidableEq α] (l : List α) :
    l.eraseDups.length = l.toFinset.card := by
  have same : l.eraseDups.toFinset = l.toFinset := by
    ext x
    rw [List.mem_toFinset, List.mem_toFinset, List.mem_eraseDups]
  rw [← same, List.toFinset_card_of_nodup (nodup_eraseDups l)]

namespace Callgraph

/-- A node has one name. -/
theorem reportedIndex?_inj {g : Callgraph} {u v : String} {i : Nat}
    (first : g.reportedIndex? u = some i) (second : g.reportedIndex? v = some i) : u = v := by
  obtain ⟨c, here, rfl⟩ := reportedIndex?_eq_some first
  obtain ⟨d, there, rfl⟩ := reportedIndex?_eq_some second
  rw [Option.some.inj (here.symm.trans there)]

namespace Imported

variable {g : Callgraph} {met : List Construct} {calls : List (String × String)}

/-- A construct that was met has a node of its name. -/
theorem exists_index (im : Imported g met calls) {c : Construct} (known : c ∈ met) :
    ∃ i d, g.index? c.name = some i ∧ g.identities[i]? = some d ∧ d.name = c.name := by
  have listed : (g.reportedIndex? c.name).isSome = true := by
    rw [reportedIndex?_isSome, im.identities, ← ConstructSet.hasName_iff,
      ConstructSet.hasName_ofList]
    exact ⟨c, known, rfl⟩
  obtain ⟨i, found⟩ := Option.isSome_iff_exists.1 listed
  obtain ⟨d, here, same⟩ := reportedIndex?_eq_some found
  exact ⟨i, d, by rw [index?, found, Option.some_or], here, same⟩

/-- There are as many nodes as names. -/
theorem size_eq (im : Imported g met calls) : g.size = (met.map (·.name)).toFinset.card := by
  have same : (met.map (·.name)).toFinset = (g.identities.map (·.name)).toFinset := by
    ext name
    rw [List.mem_toFinset, List.mem_toFinset, List.mem_map, List.mem_map, im.identities,
      ← ConstructSet.hasName_iff, ConstructSet.hasName_ofList]
  rw [same, List.toFinset_card_of_nodup im.distinct, List.length_map, length_identities]

/-- Both ends of a call have a number. -/
theorem exists_numbers (im : Imported g met calls) {e : String × String} (member : e ∈ calls) :
    ∃ i j, g.reportedIndex? e.1 = some i ∧ g.reportedIndex? e.2 = some j := by
  obtain ⟨source, target⟩ := im.ends e member
  obtain ⟨i, source⟩ := Option.isSome_iff_exists.1 source
  obtain ⟨j, target⟩ := Option.isSome_iff_exists.1 target
  exact ⟨i, j, source, target⟩

/-- There are as many recorded calls as pairs of names. -/
theorem edgeCount_eq (im : Imported g met calls) : g.edgeCount = calls.toFinset.card := by
  -- the pairs of nodes are the pairs of names, read as numbers
  let number (name : String) : Nat := (g.reportedIndex? name).getD 0
  let numbers (e : String × String) : Σ _ : Nat, Nat := ⟨number e.1, number e.2⟩
  let recorded := (Finset.range g.size).sigma fun i => (g.callees i).toFinset
  have numbered : recorded = calls.toFinset.image numbers := by
    ext ⟨i, j⟩
    simp only [recorded, Finset.mem_sigma, Finset.mem_range, List.mem_toFinset,
      Finset.mem_image, im.callees]
    constructor
    · rintro ⟨-, e, member, source, target⟩
      exact ⟨e, member, by simp [numbers, number, source, target]⟩
    · rintro ⟨e, member, same⟩
      obtain ⟨i', j', source, target⟩ := im.exists_numbers member
      simp only [numbers, number, source, target, Option.getD_some, Sigma.mk.injEq,
        heq_eq_eq] at same
      obtain ⟨rfl, rfl⟩ := same
      exact ⟨reportedIndex?_lt source, e, member, source, target⟩
  have injective : Set.InjOn numbers calls.toFinset := by
    intro e member e' member' same
    obtain ⟨i, j, source, target⟩ := im.exists_numbers (List.mem_toFinset.1 member)
    obtain ⟨i', j', source', target'⟩ := im.exists_numbers (List.mem_toFinset.1 member')
    simp only [numbers, number, source, target, source', target', Option.getD_some, Sigma.mk.injEq,
      heq_eq_eq] at same
    obtain ⟨rfl, rfl⟩ := same
    exact Prod.ext (reportedIndex?_inj source source') (reportedIndex?_inj target target')
  calc g.edgeCount
    _ = ∑ i ∈ Finset.range g.size, (g.callees i).length := im.callees_count
    _ = ∑ i ∈ Finset.range g.size, (g.callees i).toFinset.card :=
      Finset.sum_congr rfl fun i _ => (List.toFinset_card_of_nodup (im.callees_nodup i)).symm
    _ = recorded.card := (Finset.card_sigma _ _).symm
    _ = calls.toFinset.card := by rw [numbered, Finset.card_image_of_injOn injective]

end Imported

end Callgraph

/-! ## Additions -/

/-- The names of a set are those of the list, each where it first appears. -/
theorem ConstructSet.map_name_ofList (cs : List Construct) :
    (ofList cs).members.map (·.name) = (cs.map (·.name)).eraseDups := by
  induction cs using List.reverseRecOn with
  | nil => rfl
  | append_singleton cs c ih =>
      have taken : (ofList cs).hasName c.name = true ↔ c.name ∈ cs.map (·.name) := by
        rw [hasName_ofList, List.mem_map]
      rw [ofList_snoc, members_add, List.map_append, List.map_singleton, eraseDups_snoc, ← ih]
      by_cases known : c.name ∈ cs.map (·.name)
      · rw [if_pos (taken.2 known), if_pos known]
      · rw [if_neg (mt taken.1 known), if_neg known, List.map_append, List.map_singleton]

namespace Digraph

/-- One step of growing a graph. -/
inductive Addition where
  | vertex (v : Construct)
  | edge (caller callee : Construct)

/-- The graph with an addition. -/
def apply (g : Digraph) : Addition → Digraph
  | .vertex v => g.addVertex v
  | .edge caller callee => g.addEdge caller callee

/-- The graph grown by additions, in their order. -/
def grow (additions : List Addition) : Digraph := additions.foldl apply empty

/-- The constructs mentioned by an addition. -/
def Addition.mentions : Addition → List Construct
  | .vertex v => [v]
  | .edge caller callee => [caller, callee]

/-- The calls that an addition makes, by the names of their ends. -/
def Addition.calls : Addition → List (String × String)
  | .vertex _ => []
  | .edge caller callee => [(caller.name, callee.name)]

/-- The constructs mentioned, in order. -/
def mentioned (additions : List Addition) : List Construct := additions.flatMap Addition.mentions

/-- The calls added, in order. -/
def added (additions : List Addition) : List (String × String) := additions.flatMap Addition.calls

/-- The names that a name was given as callees, in order. -/
def calleesGiven (calls : List (String × String)) (caller : String) : List String :=
  (calls.filter (·.1 == caller)).map (·.2)

/-- Of the constructs mentioned the first one of this name. -/
def IsFirst (mentioned : List Construct) (c : Construct) : Prop :=
  mentioned.find? (·.name == c.name) = some c

theorem IsFirst.append {met : List Construct} {c : Construct} (first : IsFirst met c)
    (more : List Construct) : IsFirst (met ++ more) c := by
  rw [IsFirst, List.find?_append, show met.find? (·.name == c.name) = some c from first,
    Option.some_or]

/-- The graph has the first construct mentioned of every name and every call once, both in their
order. -/
structure GrownBy (g : Digraph) (met : List Construct) (calls : List (String × String)) : Prop where
  members : g.members = .ofList met
  edges : (g.edges.map fun e => (e.1, e.2.name)) = calls.eraseDups
  callees : ∀ e ∈ g.edges, IsFirst met e.2
  /-- Both ends of a call were mentioned. -/
  ends : ∀ e ∈ calls, (∃ c ∈ met, c.name = e.1) ∧ ∃ c ∈ met, c.name = e.2

theorem mem_mentions_toRaw {g : Digraph} {v : Construct} (vertex : v ∈ g.vertices) :
    v ∈ g.toRaw.mentions :=
  List.mem_flatMap.2 ⟨v, vertex, List.mem_cons_self⟩

namespace GrownBy

variable {g : Digraph} {met : List Construct} {calls : List (String × String)}

theorem nothing : Digraph.empty.GrownBy [] [] where
  members := rfl
  edges := rfl
  callees := by simp [Digraph.empty]
  ends := by simp

theorem addVertex (grown : g.GrownBy met calls) (v : Construct) :
    (g.addVertex v).GrownBy (met ++ [v]) calls where
  members := by rw [Digraph.addVertex, grown.members, ConstructSet.ofList_snoc]
  edges := grown.edges
  callees e member := (grown.callees e member).append [v]
  ends e member := by
    obtain ⟨⟨c, cMember, caller⟩, ⟨d, dMember, callee⟩⟩ := grown.ends e member
    exact ⟨⟨c, List.mem_append_left _ cMember, caller⟩, ⟨d, List.mem_append_left _ dMember, callee⟩⟩

theorem addVertices (grown : g.GrownBy met calls) (cs : List Construct) :
    (cs.foldl Digraph.addVertex g).GrownBy (met ++ cs) calls := by
  induction cs generalizing g met with
  | nil => simpa using grown
  | cons c cs ih => simpa using ih (grown.addVertex c)

/-- The vertex of a name that was mentioned is the first construct of that name. -/
theorem vertex? (grown : g.GrownBy met calls) {name : String} (known : ∃ c ∈ met, c.name = name) :
    ∃ v, g.vertex? name = some v ∧ v.name = name ∧ IsFirst met v := by
  obtain ⟨v, found⟩ : ∃ v, g.vertex? name = some v := by
    rw [← Option.isSome_iff_exists, Digraph.vertex?, List.find?_isSome]
    simpa [Digraph.vertices, grown.members, ConstructSet.hasName_iff]
      using ConstructSet.hasName_ofList.2 known
  have member : v ∈ (ConstructSet.ofList met).members :=
    grown.members ▸ List.mem_of_find?_eq_some found
  exact ⟨v, found, by simpa using List.find?_some found, ConstructSet.find?_of_mem_ofList member⟩

theorem hasEdge (grown : g.GrownBy met calls) (caller callee : String) :
    g.hasEdge caller callee = true ↔ (caller, callee) ∈ calls := by
  rw [← List.mem_eraseDups, ← grown.edges]
  simp [Digraph.hasEdge]

theorem addEdge (grown : g.GrownBy met calls) (caller callee : Construct) :
    (g.addEdge caller callee).GrownBy (met ++ [caller, callee])
      (calls ++ [(caller.name, callee.name)]) := by
  have both : ((g.addVertex caller).addVertex callee).GrownBy (met ++ [caller, callee]) calls := by
    simpa using (grown.addVertex caller).addVertex callee
  obtain ⟨v, found, name, first⟩ := both.vertex? ⟨callee, by simp, rfl⟩
  have edge := both.hasEdge caller.name callee.name
  unfold Digraph.addEdge
  simp only [found, Option.getD_some]
  generalize (g.addVertex caller).addVertex callee = g' at both edge ⊢
  have ends : ∀ e ∈ calls ++ [(caller.name, callee.name)],
      (∃ c ∈ met ++ [caller, callee], c.name = e.1) ∧
        ∃ c ∈ met ++ [caller, callee], c.name = e.2 := by
    intro e member
    rcases List.mem_append.1 member with old | new
    · exact both.ends e old
    · obtain rfl := List.mem_singleton.1 new
      exact ⟨⟨caller, by simp, rfl⟩, ⟨callee, by simp, rfl⟩⟩
  by_cases known : (caller.name, callee.name) ∈ calls
  · rw [if_pos (edge.2 known)]
    exact ⟨both.members, by rw [eraseDups_snoc, if_pos known, both.edges], both.callees, ends⟩
  · rw [if_neg (mt edge.1 known)]
    refine ⟨both.members, ?_, fun e member => ?_, ends⟩
    · rw [List.map_append, both.edges, eraseDups_snoc, if_neg known, List.map_singleton, name]
    · rcases List.mem_append.1 member with old | new
      · exact both.callees e old
      · obtain rfl := List.mem_singleton.1 new
        exact first

theorem apply (grown : g.GrownBy met calls) (a : Addition) :
    (g.apply a).GrownBy (met ++ a.mentions) (calls ++ a.calls) := by
  cases a with
  | vertex v =>
      rw [Addition.calls, List.append_nil]
      exact grown.addVertex v
  | edge caller callee => exact grown.addEdge caller callee

theorem foldl_apply (grown : g.GrownBy met calls) (additions : List Addition) :
    (additions.foldl Digraph.apply g).GrownBy (met ++ mentioned additions)
      (calls ++ added additions) := by
  induction additions generalizing g met calls with
  | nil => simpa [mentioned, added] using grown
  | cons a additions ih => simpa [mentioned, added] using ih (grown.apply a)

/-! ## What a grown graph says of itself -/

theorem names_vertices (grown : g.GrownBy met calls) :
    g.vertices.map (·.name) = (met.map (·.name)).eraseDups := by
  rw [Digraph.vertices, grown.members]
  exact ConstructSet.map_name_ofList met

theorem isFirst_vertex (grown : g.GrownBy met calls) {v : Construct} (vertex : v ∈ g.vertices) :
    IsFirst met v :=
  ConstructSet.find?_of_mem_ofList (grown.members ▸ vertex)

theorem names_callees (grown : g.GrownBy met calls) (caller : String) :
    (g.callees caller).map (·.name) = (calleesGiven calls caller).eraseDups := by
  have pairs : calls.filter (·.1 == caller) = (calleesGiven calls caller).map (caller, ·) := by
    rw [calleesGiven, List.map_map]
    refine (List.map_id _).symm.trans (List.map_congr_left fun e member => ?_)
    have same : e.1 = caller := by simpa using (List.mem_filter.1 member).2
    rw [Function.comp_apply, ← same]
    rfl
  have injective : Function.Injective fun callee : String => (caller, callee) :=
    fun _ _ same => (Prod.mk.inj same).2
  calc (g.callees caller).map (·.name)
    _ = ((g.edges.map fun e => (e.1, e.2.name)).filter (·.1 == caller)).map (·.2) := by
      rw [Digraph.callees, List.filter_map, List.map_map, List.map_map]
      rfl
    _ = (calls.filter (·.1 == caller)).eraseDups.map (·.2) := by rw [grown.edges, filter_eraseDups]
    _ = (calleesGiven calls caller).eraseDups := by
      rw [pairs, eraseDups_map injective, List.map_map]
      exact List.map_id _

theorem isFirst_callee (grown : g.GrownBy met calls) {caller : String} {c : Construct}
    (callee : c ∈ g.callees caller) : IsFirst met c := by
  obtain ⟨e, edge, rfl⟩ := List.mem_map.1 callee
  exact grown.callees e (List.mem_of_mem_filter edge)

theorem mem_callees (grown : g.GrownBy met calls) {caller callee : String} :
    (∃ c ∈ g.callees caller, c.name = callee) ↔ (caller, callee) ∈ calls := by
  rw [← List.mem_map, grown.names_callees, List.mem_eraseDups, calleesGiven]
  simp

theorem exists_vertex_iff (grown : g.GrownBy met calls) {name : String} :
    (∃ v ∈ g.vertices, v.name = name) ↔ ∃ c ∈ met, c.name = name := by
  rw [Digraph.vertices, grown.members, ← ConstructSet.hasName_iff, ConstructSet.hasName_ofList]

/-- The import meets the names that were mentioned. -/
theorem mem_names_toRaw (grown : g.GrownBy met calls) {name : String} :
    name ∈ g.toRaw.mentions.map (·.name) ↔ name ∈ met.map (·.name) := by
  rw [List.mem_map, List.mem_map, ← grown.exists_vertex_iff]
  constructor
  · rintro ⟨c, mention, rfl⟩
    obtain ⟨v, vertex, place⟩ := List.mem_flatMap.1 mention
    rcases List.mem_cons.1 place with rfl | callee
    · exact ⟨c, vertex, rfl⟩
    · exact grown.exists_vertex_iff.2
        ⟨c, List.mem_of_find?_eq_some (grown.isFirst_callee callee), rfl⟩
  · rintro ⟨v, vertex, rfl⟩
    exact ⟨v, mem_mentions_toRaw vertex, rfl⟩

/-- The import meets the calls that were added. -/
theorem mem_calls_toRaw (grown : g.GrownBy met calls) {caller callee : String} :
    (caller, callee) ∈ g.toRaw.calls ↔ (caller, callee) ∈ calls := by
  rw [RawGraph.mem_calls]
  constructor
  · rintro ⟨v, -, rfl, call⟩
    exact grown.mem_callees.1 call
  · intro call
    obtain ⟨v, vertex, rfl⟩ := grown.exists_vertex_iff.2 (grown.ends _ call).1
    exact ⟨v, vertex, rfl, grown.mem_callees.2 call⟩

end GrownBy

theorem grownBy_grow (additions : List Addition) :
    (grow additions).GrownBy (mentioned additions) (added additions) := by
  simpa [grow] using GrownBy.nothing.foldl_apply additions

/-- What a graph is by what was added to it. -/
structure Records (g : Digraph) (additions : List Addition) : Prop where
  /-- Every name is there once, in the order of first mention. -/
  names : g.vertices.map (·.name) = ((mentioned additions).map (·.name)).eraseDups
  /-- A vertex is the first construct mentioned of its name. -/
  first : ∀ v ∈ g.vertices, IsFirst (mentioned additions) v
  /-- The callees of a name are those it was given, each once, in the order of addition. -/
  calleeNames : ∀ caller, (g.callees caller).map (·.name) =
    (calleesGiven (added additions) caller).eraseDups
  firstCallee : ∀ caller, ∀ c ∈ g.callees caller, IsFirst (mentioned additions) c
  size : g.size = ((mentioned additions).map (·.name)).toFinset.card
  edgeCount : g.edgeCount = (added additions).toFinset.card

/-- The call graph has the vertices and the edges that were added. -/
structure ImportedAs (g : Digraph) (additions : List Addition) (graph : Callgraph) : Prop where
  size : graph.size = g.size
  edgeCount : graph.edgeCount = g.edgeCount
  /-- Between the nodes of two vertices there is a call just if one was added between their
  names. -/
  calls : ∀ v ∈ g.vertices, ∀ w ∈ g.vertices, ∃ i j, graph.index? v.name = some i ∧
    graph.index? w.name = some j ∧ (j ∈ graph.callees i ↔ (v.name, w.name) ∈ added additions) ∧
    (i ∈ graph.callers j ↔ (v.name, w.name) ∈ added additions)

theorem records_grow (additions : List Addition) : (grow additions).Records additions := by
  have grown := grownBy_grow additions
  refine ⟨grown.names_vertices, fun v => grown.isFirst_vertex, grown.names_callees, fun _ _ =>
    grown.isFirst_callee, ?_, ?_⟩
  · rw [← length_eraseDups, ← grown.names_vertices, List.length_map]
    rfl
  · rw [← length_eraseDups, ← grown.edges, List.length_map]
    rfl

/-- A grown graph is imported with its vertices and edges. -/
theorem importedAs_grow (additions : List Addition) (resolver : Resolver) :
    (grow additions).ImportedAs additions (.ofRaw (grow additions).toRaw resolver) := by
  have grown := grownBy_grow additions
  have records := records_grow additions
  have im := Callgraph.Imported.ofRaw (grow additions).toRaw resolver
  refine ⟨?_, ?_, fun v vertex w vertex' => ?_⟩
  · rw [im.size_eq, records.size]
    exact congrArg _ (Finset.ext fun name => by
      rw [List.mem_toFinset, List.mem_toFinset, grown.mem_names_toRaw])
  · rw [im.edgeCount_eq, records.edgeCount]
    exact congrArg _ (Finset.ext fun e => by
      rw [List.mem_toFinset, List.mem_toFinset, grown.mem_calls_toRaw])
  · obtain ⟨i, c, index, here, name⟩ := im.exists_index (mem_mentions_toRaw vertex)
    obtain ⟨j, d, index', there, name'⟩ := im.exists_index (mem_mentions_toRaw vertex')
    have call := im.mem_callees here there
    rw [name, name', grown.mem_calls_toRaw] at call
    exact ⟨i, j, index, index', call, (im.mem_callees_iff i j).symm.trans call⟩

/-- **A grown graph is what was added, and is imported as such.**  After any additions, in any order
and with any repetitions, its vertices and callees are those mentioned and added, without
repetition, in order and each as first mentioned.  Its call graph has as many nodes and edges, and a
call between two nodes just if it was added. -/
theorem grow_faithful (additions : List Addition) (resolver : Resolver) :
    (grow additions).Records additions ∧
      (grow additions).ImportedAs additions (.ofRaw (grow additions).toRaw resolver) :=
  ⟨records_grow additions, importedAs_grow additions resolver⟩

end Digraph

end Exposure
