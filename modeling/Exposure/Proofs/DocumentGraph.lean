/-
# Proofs.DocumentGraph — the call graph that a document declares

A document declares vertices and calls by name.  Read for itself, without any
graph, it says which vertices there are, in which order they are discovered,
which of them call which, and which vertex a name denotes (`Denotes`): the one of
that name, or else the first one discovered that has that name without its
synthetic parts.

The call graph imported from a built document says the same of its nodes.
`Grown` says it of the graph that is built, where a name stands for one construct
only, and `Mirrors` of the call graph: a node stands for the vertex whose name it
was reported under.
-/
import Exposure.Graph.Document
import Exposure.Proofs.BugSearch
import Exposure.Proofs.Growth
import Exposure.Proofs.Records

namespace Exposure

set_option autoImplicit false

/-- The identity that is reported of a construct: what is left of it without synthetic parts, if
anything is, and the construct itself otherwise. -/
def Construct.effective (c : Construct) : Construct :=
  match c.normalize with
  | some n => if n.isNameless then c else n
  | none => c

/-! ## What a document declares -/

namespace Document

/-- The calls that the edges declare, in order. -/
def calls (d : Document) : List (String × String) := d.edges.filterMap Edge.ofText?

/-- Some edge declares a call from `caller` to `callee`. -/
def Declares (d : Document) (caller callee : String) : Prop :=
  ∃ edge ∈ d.edges, Edge.ofText? edge = some (caller, callee)

/-- The vertices in the order in which they are mentioned: the listed ones, then the ends of the
calls. -/
def mentions (d : Document) : List String := d.vertexNames ++ d.calls.flatMap fun c => [c.1, c.2]

/-- The callees that are declared of a vertex, in order. -/
def calleesOf (d : Document) (caller : String) : List String :=
  (d.calls.filter fun c => c.1 == caller).map (·.2)

/-- The vertices in the order in which an import discovers them: every vertex, followed by its
callees. -/
def discovered (d : Document) : List String := d.mentions.flatMap fun v => v :: d.calleesOf v

/-- The vertex `v` as a construct. -/
def construct (d : Document) (v : String) : Construct := .ofName d.language v

/-- The vertex that a name denotes. -/
def Denotes (d : Document) (name v : String) : Prop :=
  if name ∈ d.mentions then v = name
  else d.discovered.find? (fun u => (d.construct u).normalName? == some name) = some v

/-- A chain of declared calls from `u` to `v`, along different vertices. -/
structure Chain (d : Document) (u v : String) (chain : List String) : Prop where
  head : chain.head? = some u
  last : chain.getLast? = some v
  calls : chain.IsChain d.Declares
  nodup : chain.Nodup

theorem mem_calls {d : Document} {caller callee : String} :
    (caller, callee) ∈ d.calls ↔ d.Declares caller callee :=
  List.mem_filterMap

theorem mem_mentions_of_declares {d : Document} {caller callee : String}
    (call : d.Declares caller callee) : caller ∈ d.mentions ∧ callee ∈ d.mentions := by
  have member := mem_calls.2 call
  constructor <;> refine List.mem_append_right _ (List.mem_flatMap.2 ⟨_, member, ?_⟩) <;> simp

end Document

/-! ## Graphs in the course of a build -/

/-- `g` has the vertices `names` and the calls `calls`, each of them once. -/
structure Digraph.Grown (g : Digraph) (lang : Lang) (names : List String)
    (calls : List (String × String)) : Prop where
  members : g.members = .ofNames lang names
  edges : g.edges = (calls.map fun c => (c.1, Construct.ofName lang c.2)).eraseDups

namespace Digraph.Grown

variable {g : Digraph} {lang : Lang} {names : List String} {calls : List (String × String)}

/-- A graph that was grown by names has for every name the construct that the name denotes. -/
theorem of_grownBy (grown : g.GrownBy (names.map (.ofName lang)) calls) :
    g.Grown lang names calls where
  members := grown.members
  edges := by
    have denoted : ∀ e ∈ g.edges, (e.1, Construct.ofName lang e.2.name) = e := by
      intro e edge
      obtain ⟨n, -, same⟩ := List.mem_map.1 (List.mem_of_find?_eq_some (grown.callees e edge))
      exact Prod.ext rfl (by rw [← same]; rfl)
    have injective : Function.Injective fun c : String × String =>
        (c.1, Construct.ofName lang c.2) := by
      rintro ⟨caller, callee⟩ ⟨caller', callee'⟩ same
      obtain ⟨rfl, same⟩ := Prod.mk.inj same
      obtain rfl : callee = callee' := congrArg Construct.name same
      rfl
    rw [eraseDups_map injective, ← grown.edges, List.map_map]
    exact (List.map_id _).symm.trans (List.map_congr_left fun e edge => (denoted e edge).symm)

theorem mem_edges (grown : g.Grown lang names calls) {e : String × Construct} :
    e ∈ g.edges ↔ ∃ c ∈ calls, e = (c.1, .ofName lang c.2) := by
  rw [grown.edges, List.mem_eraseDups, List.mem_map]
  simp [eq_comm]

theorem hasName (grown : g.Grown lang names calls) (name : String) :
    g.members.hasName name = true ↔ name ∈ names := by
  rw [grown.members, ConstructSet.ofNames, ConstructSet.hasName_ofList]
  simp [Construct.ofName]

/-- The vertex of a name is the construct that the name denotes. -/
theorem vertex? (grown : g.Grown lang names calls) {name : String} (known : name ∈ names) :
    g.vertex? name = some (.ofName lang name) := by
  obtain ⟨c, member, same⟩ := ConstructSet.hasName_iff.1 ((grown.hasName name).2 known)
  have found : (g.vertex? name).isSome = true := by
    rw [Digraph.vertex?, List.find?_isSome]
    exact ⟨c, member, by simp [same]⟩
  obtain ⟨v, here⟩ := Option.isSome_iff_exists.1 found
  have among : v ∈ (ConstructSet.ofNames lang names).members :=
    grown.members ▸ List.mem_of_find?_eq_some here
  obtain ⟨n, -, rfl⟩ := List.mem_map.1 (ConstructSet.mem_of_mem_ofList among)
  obtain rfl : n = name := by simpa [Construct.ofName] using List.find?_some here
  exact here

theorem mem_vertices (grown : g.Grown lang names calls) {c : Construct} :
    c ∈ g.vertices ↔ ∃ v ∈ names, c = .ofName lang v := by
  constructor
  · intro member
    have among : c ∈ (ConstructSet.ofNames lang names).members := grown.members ▸ member
    obtain ⟨v, known, rfl⟩ := List.mem_map.1 (ConstructSet.mem_of_mem_ofList among)
    exact ⟨v, known, rfl⟩
  · rintro ⟨v, known, rfl⟩
    exact List.mem_of_find?_eq_some (grown.vertex? known)

theorem mem_callees (grown : g.Grown lang names calls) {caller : String} {c : Construct} :
    c ∈ g.callees caller ↔ ∃ v, (caller, v) ∈ calls ∧ c = .ofName lang v := by
  simp only [Digraph.callees, List.mem_map, List.mem_filter, grown.mem_edges, beq_iff_eq]
  constructor
  · rintro ⟨_, ⟨⟨call, member, rfl⟩, rfl⟩, rfl⟩
    exact ⟨call.2, member, rfl⟩
  · rintro ⟨v, member, rfl⟩
    exact ⟨_, ⟨⟨_, member, rfl⟩, rfl⟩, rfl⟩

theorem find?_callees (grown : g.Grown lang names calls) (caller : String) (p : Construct → Bool) :
    (g.callees caller).find? p =
      (((calls.filter fun c => c.1 == caller).map (·.2)).map (Construct.ofName lang)).find? p := by
  simp only [Digraph.callees, grown.edges, List.find?_map, List.find?_filter, find?_eraseDups]
  simp [Function.comp_def]

end Digraph.Grown

/-! ## The graph of a document -/

/-- Adding edges succeeds only if each of them declares a call. -/
theorem Document.grownBy_addEdges {lang : Lang} :
    ∀ (es : List String) {i : Nat} {watch : Watch} {g g' : Digraph} {met : List Construct}
      {calls : List (String × String)}, g.GrownBy met calls → addEdges lang i watch g es = .ok g' →
      g'.GrownBy (met ++ (es.filterMap Edge.ofText?).flatMap fun c =>
        [.ofName lang c.1, .ofName lang c.2])
        (calls ++ es.filterMap Edge.ofText?)
  | [], _, _, g, g', met, calls, grown, added => by
      obtain rfl : g = g' := by simpa [addEdges] using added
      simpa using grown
  | e :: es, i, watch, g, g', met, calls, grown, added => by
      simp only [addEdges] at added
      generalize (if i % lookInterval = 0 then watch.look else (false, watch)) = looked at added
      obtain ⟨rings, watch⟩ := looked
      cases rings with
      | true => simp at added
      | false =>
        cases ends : Edge.ofText? e with
        | none => simp [Edge.read, ends] at added
        | some c =>
            simp only [Edge.read, ends] at added
            have added := grownBy_addEdges es
              (grown.addEdge (.ofName lang c.1) (.ofName lang c.2)) added
            simpa [ends, Construct.ofName] using added

/-- The graph of a document has the vertices and the calls that the document declares. -/
theorem Document.grown_graph {d : Document} {watch : Watch} {g : Digraph}
    (built : d.graph watch = .ok g) : g.Grown d.language d.mentions d.calls := by
  have listed := Digraph.GrownBy.nothing.addVertices (d.vertexNames.map (.ofName d.language))
  rw [List.foldl_map] at listed
  refine .of_grownBy ?_
  simpa [mentions, calls, List.map_flatMap] using grownBy_addEdges d.edges listed built

/-- What a document that builds is built into. -/
theorem Document.build_eq_ok {d : Document} {strict : Bool} {watch : Watch} {b : BuiltDocument}
    (built : d.build strict watch = .ok b) :
    b.graph.Grown d.language d.mentions d.calls ∧
      b.entries = .ofNames d.language (d.entryNames.filter b.graph.members.hasName) ∧
      b.apps = .ofNames d.language (d.app.map Text.trimmed) := by
  unfold build at built
  cases graph : d.graph watch with
  | error e => simp [graph] at built
  | ok g =>
      simp only [graph] at built
      split at built
      · cases built
      · cases built
        exact ⟨grown_graph graph, rfl, rfl⟩

/-- The constructs that an import of the graph meets are the vertices of the document. -/
theorem Document.mem_rawMentions {d : Document} {g : Digraph}
    (grown : g.Grown d.language d.mentions d.calls) {c : Construct} :
    c ∈ g.toRaw.mentions ↔ ∃ v ∈ d.mentions, c = d.construct v := by
  simp only [RawGraph.mentions, Digraph.toRaw, List.mem_flatMap, List.mem_cons, grown.mem_vertices]
  constructor
  · rintro ⟨_, ⟨u, known, rfl⟩, rfl | callee⟩
    · exact ⟨u, known, rfl⟩
    · obtain ⟨v, call, rfl⟩ := grown.mem_callees.1 callee
      exact ⟨v, (mem_mentions_of_declares (mem_calls.1 call)).2, rfl⟩
  · rintro ⟨v, known, rfl⟩
    exact ⟨_, ⟨v, known, rfl⟩, .inl rfl⟩

/-- Vertices of one name are the same. -/
theorem Document.congr_of_name {d : Document} {cs : List Construct}
    (vertices : ∀ c ∈ cs, ∃ v, c = d.construct v) {α : Type} (f : Construct → α) :
    ∀ a ∈ cs, ∀ b ∈ cs, a.name = b.name → f a = f b := by
  intro a aMember b bMember same
  obtain ⟨u, rfl⟩ := vertices a aMember
  obtain ⟨v, rfl⟩ := vertices b bMember
  obtain rfl : u = v := same
  rfl

/-- What an import meets first is what the document has first. -/
theorem Document.find?_rawMentions {d : Document} {g : Digraph}
    (grown : g.Grown d.language d.mentions d.calls) (p : Construct → Bool) :
    g.toRaw.mentions.find? p = (d.discovered.map d.construct).find? p := by
  have vertices : ∀ c ∈ d.mentions.map d.construct, ∃ v, c = d.construct v := by
    intro c member
    obtain ⟨v, -, rfl⟩ := List.mem_map.1 member
    exact ⟨v, rfl⟩
  calc g.toRaw.mentions.find? p
      = g.vertices.findSome? fun v => (v :: g.callees v.name).find? p := List.find?_flatMap
    _ = (d.mentions.map d.construct).findSome? fun v => (v :: g.callees v.name).find? p := by
        rw [Digraph.vertices, grown.members]
        exact ConstructSet.findSome?_ofList _ (congr_of_name vertices _)
    _ = d.mentions.findSome? fun v => ((v :: d.calleesOf v).map d.construct).find? p := by
        rw [List.findSome?_map]
        congr 1
        funext v
        simp only [Function.comp_apply, List.map_cons, List.find?_cons, grown.find?_callees]
        rfl
    _ = (d.discovered.map d.construct).find? p := by
        rw [discovered, List.map_flatMap, List.find?_flatMap]

/-! ## The call graph of a document -/

/-- The nodes of `g` stand for the vertices of the document, each under its name. -/
structure Document.Mirrors (d : Document) (g : Callgraph) : Prop where
  valid : g.adjacency.Valid
  vertex : ∀ v, (g.reportedIndex? v).isSome = true ↔ v ∈ d.mentions
  named : ∀ i < g.size, ∃ v, g.reportedIndex? v = some i
  effective : ∀ v i, g.reportedIndex? v = some i →
    (g.profile? i).map (·.effective) = some (d.construct v).effective
  calls : ∀ u v i j, g.reportedIndex? u = some i → g.reportedIndex? v = some j →
    (j ∈ g.callees i ↔ d.Declares u v)
  denotes : ∀ name i, g.index? name = some i ↔ ∃ v, d.Denotes name v ∧ g.reportedIndex? v = some i

section OfRaw

variable {d : Document} {g : Digraph}

/-- A node is reported as the vertex whose name it has. -/
theorem Document.construct_of_mem_identities (grown : g.Grown d.language d.mentions d.calls)
    {cg : Callgraph} {calls : List (String × String)}
    (imported : cg.Imported g.toRaw.mentions calls) {c : Construct} (member : c ∈ cg.identities) :
    c.name ∈ d.mentions ∧ c = d.construct c.name := by
  rw [imported.identities] at member
  obtain ⟨v, known, rfl⟩ := (mem_rawMentions grown).1 (ConstructSet.mem_of_mem_ofList member)
  exact ⟨known, rfl⟩

/-- The first node that has a name without synthetic parts stands for the first vertex that does. -/
theorem Document.normalizedIndex?_eq_some (grown : g.Grown d.language d.mentions d.calls)
    {cg : Callgraph} {calls : List (String × String)}
    (imported : cg.Imported g.toRaw.mentions calls) (name : String) (i : Nat) :
    cg.normalizedIndex? name = some i ↔
      ∃ v, d.discovered.find? (fun u => (d.construct u).normalName? == some name) = some v ∧
        cg.reportedIndex? v = some i := by
  have vertices : ∀ c ∈ g.toRaw.mentions, ∃ v, c = d.construct v := by
    intro c member
    obtain ⟨v, -, same⟩ := (mem_rawMentions grown).1 member
    exact ⟨v, same⟩
  have first : (d.discovered.find? fun u => (d.construct u).normalName? == some name) =
      ((cg.normalizedIndex? name).bind (cg.identities[·]?)).map (·.name) := by
    have found : cg.identities.find? (·.normalName? == some name) =
        (d.discovered.find? fun u => (d.construct u).normalName? == some name).map d.construct := by
      rw [imported.identities, List.find?_eq_findSome?_guard,
        ConstructSet.findSome?_ofList _ (congr_of_name vertices _), List.findSome?_guard,
        find?_rawMentions grown, List.find?_map]
      rfl
    rw [imported.normalizedIndex?_eq, ← List.find?_eq_bind_findIdx?_getElem?, found, Option.map_map]
    exact (Option.map_id' ..).symm
  rw [first]
  constructor
  · intro here
    have below : i < cg.identities.length := by
      rw [imported.normalizedIndex?_eq] at here
      exact (List.findIdx?_eq_some_iff_getElem.1 here).1
    exact ⟨cg.identities[i].name, by simp [here, List.getElem?_eq_getElem below],
      Callgraph.reportedIndex?_of_getElem? imported.distinct (List.getElem?_eq_getElem below)⟩
  · rintro ⟨v, found, here⟩
    obtain ⟨c, located, rfl⟩ := Option.map_eq_some_iff.1 found
    obtain ⟨j, normalized, atNode⟩ := Option.bind_eq_some_iff.1 located
    have same := Callgraph.reportedIndex?_of_getElem? imported.distinct atNode
    rw [normalized, ← same, here]

theorem Document.reportedIndex?_isSome (grown : g.Grown d.language d.mentions d.calls)
    {cg : Callgraph} {calls : List (String × String)}
    (imported : cg.Imported g.toRaw.mentions calls) (v : String) :
    (cg.reportedIndex? v).isSome = true ↔ v ∈ d.mentions := by
  rw [Callgraph.reportedIndex?_isSome]
  constructor
  · rintro ⟨c, member, rfl⟩
    exact (construct_of_mem_identities grown imported member).1
  · intro known
    have met : ∃ c ∈ g.toRaw.mentions, c.name = v :=
      ⟨_, (mem_rawMentions grown).2 ⟨v, known, rfl⟩, rfl⟩
    rw [imported.identities]
    exact ConstructSet.hasName_iff.1 (ConstructSet.hasName_ofList.2 met)

/-- **The call graph of a document mirrors it.** -/
theorem Document.mirrors_ofRaw (grown : g.Grown d.language d.mentions d.calls)
    (resolver : Resolver) : d.Mirrors (.ofRaw g.toRaw resolver) := by
  have imported := Callgraph.Imported.ofRaw g.toRaw resolver
  generalize Callgraph.ofRaw g.toRaw resolver = cg at imported
  have vertex := reportedIndex?_isSome grown imported
  refine ⟨imported.valid, vertex, fun i below => ?_, fun v i here => ?_,
    fun u v i j source target => ?_, fun name i => ?_⟩
  · have inside : i < cg.identities.length := by simpa using below
    exact ⟨_, Callgraph.reportedIndex?_of_getElem? imported.distinct
      (List.getElem?_eq_getElem inside)⟩
  · obtain ⟨c, atNode, rfl⟩ := Callgraph.reportedIndex?_eq_some here
    have same := (construct_of_mem_identities grown imported (List.mem_of_getElem? atNode)).2
    rw [Callgraph.getElem?_identities] at atNode
    obtain ⟨profile, known, rfl⟩ := Option.map_eq_some_iff.1 atNode
    rw [known, Option.map_some, Profile.effective, imported.described i profile known, ← same,
      Construct.effective, Provenance.normalForm]
    cases profile.reported.normalize <;> rfl
  · obtain ⟨c, atSource, rfl⟩ := Callgraph.reportedIndex?_eq_some source
    obtain ⟨e, atTarget, rfl⟩ := Callgraph.reportedIndex?_eq_some target
    have known := (construct_of_mem_identities grown imported (List.mem_of_getElem? atSource)).1
    rw [imported.mem_callees atSource atTarget, RawGraph.mem_calls, ← mem_calls]
    constructor
    · rintro ⟨_, -, named, _, callee, same⟩
      obtain ⟨v, call, rfl⟩ := grown.mem_callees.1 callee
      rwa [← named, ← same]
    · intro call
      exact ⟨_, grown.mem_vertices.2 ⟨_, known, rfl⟩, rfl, _, grown.mem_callees.2 ⟨_, call, rfl⟩,
        rfl⟩
  · unfold Callgraph.index?
    by_cases known : name ∈ d.mentions
    · obtain ⟨j, here⟩ := Option.isSome_iff_exists.1 ((vertex name).2 known)
      simp [Denotes, known, here]
    · have absent : cg.reportedIndex? name = none := by
        rw [← Option.not_isSome_iff_eq_none]
        exact mt (vertex name).1 known
      simp only [Denotes, known, if_false]
      rw [absent, Option.none_or, normalizedIndex?_eq_some grown imported]

end OfRaw

namespace Document.Mirrors

variable {d : Document} {g : Callgraph} {u v : String} {i j : Nat}

/-- Calls lead from node to node as declared calls lead from vertex to vertex. -/
theorem reaches_iff (mirrors : d.Mirrors g) (source : g.reportedIndex? u = some i)
    (target : g.reportedIndex? v = some j) :
    g.adjacency.Reaches i j ↔ Relation.ReflTransGen d.Declares u v := by
  constructor
  · intro reach
    induction reach generalizing v with
    | refl => rw [Callgraph.reportedIndex?_inj source target]
    | @tail k j first call ih =>
        have below : k < g.size :=
          mirrors.valid.reaches_lt (Callgraph.reportedIndex?_lt source) first
        obtain ⟨w, middle⟩ := mirrors.named k below
        exact (ih middle).tail ((mirrors.calls w v k j middle target).1 call)
  · intro reach
    induction reach generalizing j with
    | refl =>
        obtain rfl := Option.some.inj (source.symm.trans target)
        exact .refl
    | @tail w v _ call ih =>
        have known := (mirrors.vertex w).2 (mem_mentions_of_declares call).1
        obtain ⟨k, middle⟩ := Option.isSome_iff_exists.1 known
        exact (ih middle).tail ((mirrors.calls w v k j middle target).2 call)

/-- A path of nodes is reported as a chain of declared calls. -/
theorem exists_chain (mirrors : d.Mirrors g) {p : Path} (source : g.reportedIndex? u = some i)
    (target : g.reportedIndex? v = some j) (path : g.adjacency.IsPath i j p) :
    ∃ chain, d.Chain u v chain ∧
      p.map g.effective? = (chain.map fun w => (d.construct w).effective).map some := by
  have named : ∀ k, ∃ w, k < g.size → g.reportedIndex? w = some k := by
    intro k
    by_cases below : k < g.size
    · obtain ⟨w, here⟩ := mirrors.named k below
      exact ⟨w, fun _ => here⟩
    · exact ⟨"", fun inside => absurd inside below⟩
  choose vertexOf named using named
  have below : ∀ k ∈ p, k < g.size := path.lt mirrors.valid (Callgraph.reportedIndex?_lt source)
  refine ⟨p.map vertexOf, ⟨?_, ?_, ?_, ?_⟩, ?_⟩
  · rw [List.head?_map, path.head, Option.map_some,
      Callgraph.reportedIndex?_inj (named i (Callgraph.reportedIndex?_lt source)) source]
  · rw [List.getLast?_map, path.last, Option.map_some,
      Callgraph.reportedIndex?_inj (named j (Callgraph.reportedIndex?_lt target)) target]
  · rw [List.isChain_map]
    refine path.chain.imp_of_mem_imp fun k l kMember lMember call => ?_
    exact (mirrors.calls _ _ k l (named k (below k kMember)) (named l (below l lMember))).1 call
  · refine path.nodup.map_on fun k kMember l lMember same => ?_
    exact Option.some.inj
      ((named k (below k kMember)).symm.trans (same ▸ named l (below l lMember)))
  · rw [List.map_map, List.map_map]
    refine List.map_congr_left fun k member => ?_
    exact mirrors.effective _ k (named k (below k member))

end Document.Mirrors

end Exposure
