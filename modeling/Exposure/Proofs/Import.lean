/-
# Proofs.Import — the call graph of a raw graph represents it

An import meets the vertices of a raw graph and, after each, its callees.  It
numbers a construct at the first mention of its name and records a call at both
of its ends, unless it is recorded already.

`Imported g met calls` says what holds in the middle: `g` has the constructs of
`met`, and of the calls only those of `calls`, which are pairs of names.
Interning a construct adds a mention (`Imported.intern`), connecting two nodes
adds a call (`Imported.connect`), and everything else is folds of the two.

`Represents g raw` is what a finished import promises; `ofRaw_represents` is the
main result.
-/
import Exposure.Graph.Callgraph
import Exposure.Proofs.Sets
import Mathlib.Algebra.BigOperators.Intervals

namespace Exposure

set_option autoImplicit false

/-! ## What a raw graph says -/

namespace RawGraph

/-- The constructs that an import meets, in order: every vertex, followed by its callees. -/
def mentions (raw : RawGraph) : List Construct := raw.vertices.flatMap fun v => v :: raw.callees v

/-- The calls that an import meets, in order, by the names of their ends. -/
def calls (raw : RawGraph) : List (String × String) :=
  raw.vertices.flatMap fun v => (raw.callees v).map fun c => (v.name, c.name)

/-- Some vertex named `caller` calls a construct named `callee`. -/
def Calls (raw : RawGraph) (caller callee : String) : Prop :=
  ∃ v ∈ raw.vertices, v.name = caller ∧ ∃ c ∈ raw.callees v, c.name = callee

theorem mem_calls {raw : RawGraph} {caller callee : String} :
    (caller, callee) ∈ raw.calls ↔ raw.Calls caller callee := by
  simp only [calls, Calls, List.mem_flatMap, List.mem_map, Prod.mk.injEq]
  constructor
  · rintro ⟨v, member, c, cMember, rfl, rfl⟩
    exact ⟨v, member, rfl, c, cMember, rfl⟩
  · rintro ⟨v, member, rfl, c, cMember, rfl⟩
    exact ⟨v, member, c, cMember, rfl, rfl⟩

end RawGraph

/-- The name of a construct without its synthetic parts, if it has such parts and a name is
left without them. -/
def Construct.normalName? (c : Construct) : Option String :=
  c.normalize.bind fun n => if n.isNameless then none else some n.name

namespace Callgraph

/-- The constructs that the nodes were reported as. -/
def identities (g : Callgraph) : List Construct := g.nodes.toList.map (·.profile.reported)

@[simp] theorem length_identities (g : Callgraph) : g.identities.length = g.size := by
  simp [identities, size]

/-- **What the call graph of a raw graph promises.** -/
structure Represents (g : Callgraph) (raw : RawGraph) : Prop where
  /-- No two nodes have one name. -/
  distinct : (g.identities.map (·.name)).Nodup
  /-- Every construct met has a node of its name. -/
  covers : ∀ c ∈ raw.mentions, ∃ d ∈ g.identities, d.name = c.name
  /-- A node is reported as the first construct met of its name. -/
  first : ∀ d ∈ g.identities, raw.mentions.find? (·.name == d.name) = some d
  /-- Nodes are numbered in the order in which their names were first met. -/
  numbering : (g.identities.map fun d => ConstructSet.firstMention raw.mentions d.name).Pairwise
    (· < ·)
  /-- Looking up the construct of a node gives the node. -/
  index_identity : ∀ i : Nat, i < g.size → ∃ c, g.identity i = .ok c ∧ g.index? c.name = some i
  /-- A name denotes a node exactly if some node has it, with or without its synthetic parts. -/
  index_isSome : ∀ name, (g.index? name).isSome = true ↔
    ∃ c ∈ g.identities, c.name = name ∨ c.normalName? = some name
  callees_lt : ∀ i, ∀ j ∈ g.callees i, j < g.size
  callers_lt : ∀ j, ∀ i ∈ g.callers j, i < g.size
  /-- A call is recorded at both of its ends. -/
  mem_callees_iff : ∀ i j, j ∈ g.callees i ↔ i ∈ g.callers j
  callees_nodup : ∀ i, (g.callees i).Nodup
  callers_nodup : ∀ j, (g.callers j).Nodup
  /-- The calls are those of the raw graph, between the names of the nodes. -/
  calls : ∀ i j c d, g.identities[i]? = some c → g.identities[j]? = some d →
    (j ∈ g.callees i ↔ raw.Calls c.name d.name)
  edgeCount_callees : g.edgeCount = ∑ i ∈ Finset.range g.size, (g.callees i).length
  edgeCount_callers : g.edgeCount = ∑ j ∈ Finset.range g.size, (g.callers j).length

/-! ## Looking up names -/

theorem reportedIndex?_eq (g : Callgraph) (name : String) :
    g.reportedIndex? name = g.identities.findIdx? (·.name == name) := by
  rw [reportedIndex?, identities, List.findIdx?_map, ← List.findIdx?_toArray, Array.toArray_toList]
  rfl

theorem reportedIndex?_eq_some {g : Callgraph} {name : String} {i : Nat}
    (found : g.reportedIndex? name = some i) : ∃ c, g.identities[i]? = some c ∧ c.name = name := by
  rw [reportedIndex?_eq, List.findIdx?_eq_some_iff_getElem] at found
  obtain ⟨below, same, -⟩ := found
  exact ⟨_, List.getElem?_eq_getElem below, by simpa using same⟩

theorem reportedIndex?_lt {g : Callgraph} {name : String} {i : Nat}
    (found : g.reportedIndex? name = some i) : i < g.size := by
  obtain ⟨c, here, -⟩ := reportedIndex?_eq_some found
  simpa using (List.getElem?_eq_some_iff.1 here).1

theorem reportedIndex?_isSome {g : Callgraph} {name : String} :
    (g.reportedIndex? name).isSome = true ↔ ∃ c ∈ g.identities, c.name = name := by
  simp [reportedIndex?_eq]

/-- Where names are distinct, a node's own name leads back to it. -/
theorem reportedIndex?_of_getElem? {g : Callgraph} (distinct : (g.identities.map (·.name)).Nodup)
    {i : Nat} {c : Construct} (here : g.identities[i]? = some c) :
    g.reportedIndex? c.name = some i := by
  obtain ⟨below, rfl⟩ := List.getElem?_eq_some_iff.1 here
  rw [reportedIndex?_eq, List.findIdx?_eq_some_iff_getElem]
  refine ⟨below, by simp, fun j earlier same => ?_⟩
  have different := List.pairwise_iff_getElem.1 (List.pairwise_map.1 distinct) j i
    (Nat.lt_trans earlier below) below earlier
  exact different (by simpa using same)

theorem getElem?_identities (g : Callgraph) (i : Nat) :
    g.identities[i]? = (g.profile? i).map (·.reported) := by
  simp [identities, profile?, Function.comp_def]

theorem mem_identities {g : Callgraph} {c : Construct} :
    c ∈ g.identities ↔ ∃ i p, g.profile? i = some p ∧ p.reported = c := by
  simp only [List.mem_iff_getElem?, getElem?_identities, Option.map_eq_some_iff]

/-! ## One more construct -/

/-- A graph with one more node, which has no calls. -/
def withNode (g : Callgraph) (profile : Profile) (provenance : Provenance) : Callgraph :=
  { g with nodes := g.nodes.push ⟨profile, [], []⟩, provenance }

theorem identities_withNode (g : Callgraph) (profile : Profile) (provenance : Provenance) :
    (g.withNode profile provenance).identities = g.identities ++ [profile.reported] := by
  simp [identities, withNode]

theorem profile?_withNode (g : Callgraph) (profile : Profile) (provenance : Provenance) (i : Nat) :
    (g.withNode profile provenance).profile? i = if i = g.size then some profile
      else g.profile? i := by
  unfold profile? withNode size
  rw [Array.getElem?_push]
  split <;> rfl

theorem callees_withNode (g : Callgraph) (profile : Profile) (provenance : Provenance) (k : Nat) :
    (g.withNode profile provenance).callees k = g.callees k := by
  unfold callees withNode
  rw [Array.getElem?_push]
  split
  · rename_i last
    simp [last]
  · rfl

theorem callers_withNode (g : Callgraph) (profile : Profile) (provenance : Provenance) (k : Nat) :
    (g.withNode profile provenance).callers k = g.callers k := by
  unfold callers withNode
  rw [Array.getElem?_push]
  split
  · rename_i last
    simp [last]
  · rfl

theorem describe_reported (resolver : Resolver) (p : Provenance) (c : Construct) :
    (p.describe resolver c).1.reported = c := by
  unfold Provenance.describe
  split <;> rfl

theorem describe_normalized (resolver : Resolver) (p : Provenance) (c : Construct) :
    (p.describe resolver c).1.normalized = Provenance.normalForm c := by
  unfold Provenance.describe
  split <;> rfl

/-- A construct whose name is known keeps its node; any other gets the next number. -/
theorem intern_eq (resolver : Resolver) (g : Callgraph) (c : Construct) :
    g.intern resolver c = match g.reportedIndex? c.name with
      | some i => (i, g)
      | none => (g.size, g.withNode (g.provenance.describe resolver c).1
          (g.provenance.describe resolver c).2) := rfl

/-! ## One more call -/

section Connect

variable {g : Callgraph} {i j : Nat}

theorem connect_of_mem (known : j ∈ g.callees i) : g.connect i j = g := by
  simp [connect, known]

theorem profile?_connect (g : Callgraph) (i j k : Nat) :
    (g.connect i j).profile? k = g.profile? k := by
  unfold connect
  split
  · rfl
  · simp only [profile?, Array.getElem?_modify]
    by_cases hj : j = k <;> by_cases hi : i = k <;> simp [hi, hj, Function.comp_def]

theorem size_connect (g : Callgraph) (i j : Nat) : (g.connect i j).size = g.size := by
  unfold connect size
  split <;> simp

theorem identities_connect (g : Callgraph) (i j : Nat) :
    (g.connect i j).identities = g.identities := by
  refine List.ext_getElem? fun k => ?_
  rw [getElem?_identities, getElem?_identities, profile?_connect]

theorem reportedIndex?_connect (g : Callgraph) (i j : Nat) (name : String) :
    (g.connect i j).reportedIndex? name = g.reportedIndex? name := by
  rw [reportedIndex?_eq, reportedIndex?_eq, identities_connect]

theorem connect_of_not_mem (fresh : j ∉ g.callees i) :
    g.connect i j = { g with
      nodes := (g.nodes.modify i fun n => { n with callees := n.callees ++ [j] }).modify j
        fun n => { n with callers := n.callers ++ [i] }
      edgeCount := g.edgeCount + 1 } := by
  simp [connect, fresh]

theorem callees_connect (fresh : j ∉ g.callees i) (below : i < g.size) (k : Nat) :
    (g.connect i j).callees k = if k = i then g.callees i ++ [j] else g.callees k := by
  rw [connect_of_not_mem fresh]
  simp only [callees, Array.getElem?_modify]
  by_cases caller : i = k
  · subst caller
    have here : g.nodes[i]? = some g.nodes[i] := Array.getElem?_eq_getElem below
    simp only [here, if_true]
    split <;> simp
  · rw [if_neg caller, if_neg (Ne.symm caller)]
    split <;> simp [Function.comp_def]

theorem callers_connect (fresh : j ∉ g.callees i) (below : j < g.size) (k : Nat) :
    (g.connect i j).callers k = if k = j then g.callers j ++ [i] else g.callers k := by
  rw [connect_of_not_mem fresh]
  simp only [callers, Array.getElem?_modify]
  by_cases callee : j = k
  · subst callee
    have here : g.nodes[j]? = some g.nodes[j] := Array.getElem?_eq_getElem below
    simp only [here, if_true]
    split <;> simp
  · rw [if_neg callee, if_neg (Ne.symm callee)]
    split <;> simp [Function.comp_def]

theorem edgeCount_connect (fresh : j ∉ g.callees i) :
    (g.connect i j).edgeCount = g.edgeCount + 1 := by
  rw [connect_of_not_mem fresh]

end Connect

/-! ## In the middle of an import -/

/-- `g` has the constructs of `met` and the calls of `calls`. -/
structure Imported (g : Callgraph) (met : List Construct) (calls : List (String × String)) :
    Prop where
  identities : g.identities = (ConstructSet.ofList met).members
  described : ∀ i p, g.profile? i = some p → p.normalized = Provenance.normalForm p.reported
  ends : ∀ e ∈ calls, (g.reportedIndex? e.1).isSome = true ∧ (g.reportedIndex? e.2).isSome = true
  callees : ∀ i j, j ∈ g.callees i ↔
    ∃ e ∈ calls, g.reportedIndex? e.1 = some i ∧ g.reportedIndex? e.2 = some j
  callers : ∀ i j, i ∈ g.callers j ↔
    ∃ e ∈ calls, g.reportedIndex? e.1 = some i ∧ g.reportedIndex? e.2 = some j
  callees_nodup : ∀ i, (g.callees i).Nodup
  callers_nodup : ∀ j, (g.callers j).Nodup
  callees_count : g.edgeCount = ∑ i ∈ Finset.range g.size, (g.callees i).length
  callers_count : g.edgeCount = ∑ j ∈ Finset.range g.size, (g.callers j).length

namespace Imported

variable {g : Callgraph} {met : List Construct} {calls : List (String × String)}

theorem nothing : Imported empty [] [] where
  identities := rfl
  described i p h := by simp [empty, profile?] at h
  ends := by simp
  callees := by simp [empty, Callgraph.callees]
  callers := by simp [empty, Callgraph.callers]
  callees_nodup := by simp [empty, Callgraph.callees]
  callers_nodup := by simp [empty, Callgraph.callers]
  callees_count := by simp [empty, size]
  callers_count := by simp [empty, size]

/-- The numbers of the names that have one stay as a node is added. -/
theorem reportedIndex?_withNode {name : String} {i : Nat} (profile : Profile)
    (provenance : Provenance) (found : g.reportedIndex? name = some i) :
    (g.withNode profile provenance).reportedIndex? name = some i := by
  rw [reportedIndex?_eq] at found ⊢
  rw [identities_withNode, List.findIdx?_append, found, Option.some_or]

theorem reportedIndex?_withNode_self (profile : Profile) (provenance : Provenance)
    (fresh : g.reportedIndex? profile.reported.name = none) :
    (g.withNode profile provenance).reportedIndex? profile.reported.name = some g.size := by
  rw [reportedIndex?_eq] at fresh ⊢
  rw [identities_withNode, List.findIdx?_append, fresh]
  simp

/-- A construct is known to the graph exactly if its name was met. -/
theorem reportedIndex?_eq_none (im : Imported g met calls) {name : String} :
    g.reportedIndex? name = none ↔ (ConstructSet.ofList met).hasName name = false := by
  rw [← Option.not_isSome_iff_eq_none, ← Bool.not_eq_true, reportedIndex?_isSome, im.identities,
    ConstructSet.hasName_iff]

/-- The calls are between nodes that had their numbers before. -/
theorem call_withNode (im : Imported g met calls) (profile : Profile) (provenance : Provenance)
    (i j : Nat) :
    (∃ e ∈ calls, (g.withNode profile provenance).reportedIndex? e.1 = some i ∧
      (g.withNode profile provenance).reportedIndex? e.2 = some j) ↔
    ∃ e ∈ calls, g.reportedIndex? e.1 = some i ∧ g.reportedIndex? e.2 = some j := by
  refine exists_congr fun e => and_congr_right fun member => ?_
  obtain ⟨caller, callee⟩ := im.ends e member
  obtain ⟨i', hi⟩ := Option.isSome_iff_exists.1 caller
  obtain ⟨j', hj⟩ := Option.isSome_iff_exists.1 callee
  rw [reportedIndex?_withNode _ _ hi, reportedIndex?_withNode _ _ hj, hi, hj]

/-- A construct of a new name gets a node of its own, the last one. -/
theorem withNode (im : Imported g met calls) (resolver : Resolver) (c : Construct)
    (fresh : g.reportedIndex? c.name = none) :
    Imported (g.withNode (g.provenance.describe resolver c).1 (g.provenance.describe resolver c).2)
      (met ++ [c]) calls := by
  have reported := describe_reported resolver g.provenance c
  have normalized := describe_normalized resolver g.provenance c
  generalize g.provenance.describe resolver c = d at reported normalized
  have grown : (g.withNode d.1 d.2).size = g.size + 1 := by simp [Callgraph.withNode, size]
  refine ⟨?_, fun i p here => ?_, fun e member => ?_, fun i j => ?_, fun i j => ?_,
    fun i => ?_, fun j => ?_, ?_, ?_⟩
  · have absent := im.reportedIndex?_eq_none.1 fresh
    rw [ConstructSet.ofList_snoc, ConstructSet.members_add, absent, ← im.identities,
      identities_withNode, reported]
    rfl
  · rw [profile?_withNode] at here
    split at here
    · obtain rfl : d.1 = p := Option.some.inj here
      rw [normalized, reported]
    · exact im.described i p here
  · obtain ⟨caller, callee⟩ := im.ends e member
    obtain ⟨i, hi⟩ := Option.isSome_iff_exists.1 caller
    obtain ⟨j, hj⟩ := Option.isSome_iff_exists.1 callee
    simp [reportedIndex?_withNode _ _ hi, reportedIndex?_withNode _ _ hj]
  · rw [callees_withNode, im.call_withNode, im.callees]
  · rw [callers_withNode, im.call_withNode, im.callers]
  · rw [callees_withNode]
    exact im.callees_nodup i
  · rw [callers_withNode]
    exact im.callers_nodup j
  · have none : g.callees g.size = [] := by simp [Callgraph.callees, size]
    rw [grown, Finset.sum_range_succ]
    simp only [callees_withNode, none, List.length_nil, Nat.add_zero]
    exact im.callees_count
  · have none : g.callers g.size = [] := by simp [Callgraph.callers, size]
    rw [grown, Finset.sum_range_succ]
    simp only [callers_withNode, none, List.length_nil, Nat.add_zero]
    exact im.callers_count

/-! ### One of several lists gets longer by one -/

theorem mem_snoc {i x : Nat} {f f' : Nat → List Nat}
    (longer : ∀ k, f' k = if k = i then f i ++ [x] else f k) (k y : Nat) :
    y ∈ f' k ↔ y ∈ f k ∨ (i = k ∧ x = y) := by
  rw [longer]
  split
  · rename_i here
    simp [here, eq_comm]
  · rename_i elsewhere
    simp [Ne.symm elsewhere]

theorem nodup_snoc {i x : Nat} {f f' : Nat → List Nat}
    (longer : ∀ k, f' k = if k = i then f i ++ [x] else f k) (fresh : x ∉ f i)
    (nodup : ∀ k, (f k).Nodup) (k : Nat) : (f' k).Nodup := by
  rw [longer]
  split
  · exact (nodup i).append (List.nodup_singleton x) (by simpa using fresh)
  · exact nodup k

theorem sum_length_snoc {n i x : Nat} {f f' : Nat → List Nat} (below : i < n)
    (longer : ∀ k, f' k = if k = i then f i ++ [x] else f k) :
    ∑ k ∈ Finset.range n, (f' k).length = ∑ k ∈ Finset.range n, (f k).length + 1 := by
  have each : ∀ k, (f' k).length = (f k).length + if k = i then 1 else 0 := by
    intro k
    rw [longer]
    split
    · rename_i here
      simp [here]
    · simp
  simp only [each, Finset.sum_add_distrib, Finset.sum_ite_eq', Finset.mem_range, below, if_true]

/-! ### Interning and connecting -/

/-- Interning adds a mention, and its answer is the node of the construct's name. -/
theorem intern (im : Imported g met calls) (resolver : Resolver) (c : Construct) :
    Imported (g.intern resolver c).2 (met ++ [c]) calls ∧
      (g.intern resolver c).2.reportedIndex? c.name = some (g.intern resolver c).1 := by
  rw [intern_eq]
  cases found : g.reportedIndex? c.name with
  | some i =>
      have known : (ConstructSet.ofList met).hasName c.name = true := by
        rw [← Bool.not_eq_false, ← im.reportedIndex?_eq_none, found]
        simp
      have same : (ConstructSet.ofList (met ++ [c])).members =
          (ConstructSet.ofList met).members := by
        rw [ConstructSet.ofList_snoc, ConstructSet.members_add, if_pos known]
      exact ⟨{ im with identities := im.identities.trans same.symm }, found⟩
  | none =>
      refine ⟨im.withNode resolver c found, ?_⟩
      have reported := describe_reported resolver g.provenance c
      have own := reportedIndex?_withNode_self (g := g) (g.provenance.describe resolver c).1
        (g.provenance.describe resolver c).2 (by rw [reported]; exact found)
      rwa [reported] at own

/-- Names keep their numbers as constructs are interned. -/
theorem reportedIndex?_intern (resolver : Resolver) (c : Construct) {name : String} {i : Nat}
    (found : g.reportedIndex? name = some i) :
    (g.intern resolver c).2.reportedIndex? name = some i := by
  rw [intern_eq]
  split
  · exact found
  · exact reportedIndex?_withNode _ _ found

/-- Connecting the nodes of two names adds the call between them. -/
theorem connect (im : Imported g met calls) {caller callee : String} {i j : Nat}
    (source : g.reportedIndex? caller = some i) (target : g.reportedIndex? callee = some j) :
    Imported (g.connect i j) met (calls ++ [(caller, callee)]) := by
  have extended : ∀ k l, (∃ e ∈ calls ++ [(caller, callee)],
      g.reportedIndex? e.1 = some k ∧ g.reportedIndex? e.2 = some l) ↔
      l ∈ g.callees k ∨ (i = k ∧ j = l) := by
    intro k l
    simp only [List.mem_append, List.mem_singleton, or_and_right, exists_or, exists_eq_left,
      source, target, Option.some.injEq, im.callees]
  have mirrored : ∀ k l, k ∈ g.callers l ↔ l ∈ g.callees k := fun k l =>
    (im.callers k l).trans (im.callees k l).symm
  have ends : ∀ e ∈ calls ++ [(caller, callee)],
      (g.reportedIndex? e.1).isSome = true ∧ (g.reportedIndex? e.2).isSome = true := by
    intro e member
    rcases List.mem_append.1 member with old | new
    · exact im.ends e old
    · simp [List.mem_singleton.1 new, source, target]
  by_cases known : j ∈ g.callees i
  · rw [connect_of_mem known]
    have same : ∀ k l, (l ∈ g.callees k ∨ (i = k ∧ j = l)) ↔ l ∈ g.callees k := fun k l =>
      ⟨fun h => h.elim id fun ⟨rfl, rfl⟩ => known, .inl⟩
    refine { im with ends, callees := fun k l => ?_, callers := fun k l => ?_ }
    · rw [extended, same]
    · rw [extended, same, mirrored]
  · have unknown : i ∉ g.callers j := fun h => known ((mirrored i j).1 h)
    have longerCallees := callees_connect known (reportedIndex?_lt source)
    have longerCallers := callers_connect known (reportedIndex?_lt target)
    refine ⟨?_, fun k p here => ?_, fun e member => ?_, fun k l => ?_, fun k l => ?_,
      nodup_snoc longerCallees known im.callees_nodup,
        nodup_snoc longerCallers unknown im.callers_nodup, ?_, ?_⟩
    · rw [identities_connect]
      exact im.identities
    · exact im.described k p (by rwa [profile?_connect] at here)
    · simp only [reportedIndex?_connect]
      exact ends e member
    · simp only [reportedIndex?_connect]
      rw [extended, mem_snoc longerCallees]
    · simp only [reportedIndex?_connect]
      rw [extended, mem_snoc longerCallers, mirrored, and_comm]
    · rw [edgeCount_connect known, size_connect, im.callees_count]
      exact (sum_length_snoc (reportedIndex?_lt source) longerCallees).symm
    · rw [edgeCount_connect known, size_connect, im.callers_count]
      exact (sum_length_snoc (reportedIndex?_lt target) longerCallers).symm

/-- The callees of a vertex, one after the other. -/
theorem addCallees (resolver : Resolver) {caller : String} {i : Nat} (cs : List Construct) :
    ∀ {g : Callgraph} {met : List Construct} {calls : List (String × String)},
      Imported g met calls → g.reportedIndex? caller = some i →
      Imported (cs.foldl (addCallee resolver i) g) (met ++ cs)
        (calls ++ cs.map fun c => (caller, c.name)) := by
  induction cs with
  | nil =>
      intro g met calls im _
      simpa using im
  | cons c cs ih =>
      intro g met calls im source
      obtain ⟨interned, own⟩ := im.intern resolver c
      have kept := reportedIndex?_intern resolver c source
      have step := ih (interned.connect kept own) (by rw [reportedIndex?_connect]; exact kept)
      simpa [addCallee] using step

theorem addVertex (im : Imported g met calls) (raw : RawGraph) (resolver : Resolver)
    (v : Construct) :
    Imported (g.addVertex raw resolver v) (met ++ v :: raw.callees v)
      (calls ++ (raw.callees v).map fun c => (v.name, c.name)) := by
  obtain ⟨interned, own⟩ := im.intern resolver v
  simpa [Callgraph.addVertex] using addCallees resolver (raw.callees v) interned own

theorem addVertices (raw : RawGraph) (resolver : Resolver) (vs : List Construct) :
    ∀ {g : Callgraph} {met : List Construct} {calls : List (String × String)},
      Imported g met calls →
      Imported (vs.foldl (Callgraph.addVertex raw resolver) g)
        (met ++ vs.flatMap fun v => v :: raw.callees v)
        (calls ++ vs.flatMap fun v => (raw.callees v).map fun c => (v.name, c.name)) := by
  induction vs with
  | nil =>
      intro g met calls im
      simpa using im
  | cons v vs ih =>
      intro g met calls im
      simpa using ih (im.addVertex raw resolver v)

theorem ofRaw (raw : RawGraph) (resolver : Resolver) :
    Imported (Callgraph.ofRaw raw resolver) raw.mentions raw.calls := by
  simpa [Callgraph.ofRaw, RawGraph.mentions, RawGraph.calls] using
    addVertices raw resolver raw.vertices nothing

/-! ## What an import comes to -/

theorem distinct (im : Imported g met calls) : (g.identities.map (·.name)).Nodup := by
  rw [im.identities]
  exact (ConstructSet.ofList met).distinct

theorem mem_callees_iff (im : Imported g met calls) (i j : Nat) :
    j ∈ g.callees i ↔ i ∈ g.callers j :=
  (im.callees i j).trans (im.callers i j).symm

theorem callees_lt (im : Imported g met calls) {i j : Nat} (callee : j ∈ g.callees i) :
    j < g.size := by
  obtain ⟨e, -, -, target⟩ := (im.callees i j).1 callee
  exact reportedIndex?_lt target

theorem callers_lt (im : Imported g met calls) {i j : Nat} (caller : i ∈ g.callers j) :
    i < g.size := by
  obtain ⟨e, -, source, -⟩ := (im.callers i j).1 caller
  exact reportedIndex?_lt source

/-- Nodes call one another as the calls between their names say. -/
theorem mem_callees (im : Imported g met calls) {i j : Nat} {c d : Construct}
    (caller : g.identities[i]? = some c) (callee : g.identities[j]? = some d) :
    j ∈ g.callees i ↔ (c.name, d.name) ∈ calls := by
  have source := reportedIndex?_of_getElem? im.distinct caller
  have target := reportedIndex?_of_getElem? im.distinct callee
  rw [im.callees]
  constructor
  · rintro ⟨e, member, atSource, atTarget⟩
    obtain ⟨c', here, sameCaller⟩ := reportedIndex?_eq_some atSource
    obtain ⟨d', there, sameCallee⟩ := reportedIndex?_eq_some atTarget
    obtain rfl : c = c' := Option.some.inj (caller.symm.trans here)
    obtain rfl : d = d' := Option.some.inj (callee.symm.trans there)
    rw [sameCaller, sameCallee]
    exact member
  · intro member
    exact ⟨_, member, source, target⟩

theorem findIdx?_congr {α : Type} {p q : α → Bool} :
    ∀ {l : List α}, (∀ x ∈ l, p x = q x) → l.findIdx? p = l.findIdx? q
  | [], _ => rfl
  | x :: l, same => by
      rw [List.findIdx?_cons, List.findIdx?_cons, same x (by simp),
        findIdx?_congr fun y member => same y (List.mem_cons_of_mem x member)]

/-- The node that a name without synthetic parts denotes is found by the names that the
constructs have without theirs. -/
theorem normalizedIndex?_eq (im : Imported g met calls) (name : String) :
    g.normalizedIndex? name = g.identities.findIdx? (·.normalName? == some name) := by
  have onList : g.normalizedIndex? name = g.nodes.toList.findIdx? fun n =>
      !n.profile.normalized.isNameless && n.profile.normalized.name == name := by
    rw [← List.findIdx?_toArray, Array.toArray_toList]
    rfl
  rw [onList, Callgraph.identities, List.findIdx?_map]
  refine findIdx?_congr fun n member => ?_
  obtain ⟨i, below, rfl⟩ := List.mem_iff_getElem.1 member
  have described := im.described i g.nodes[i].profile (by simp at below; simp [profile?, below])
  simp only [Array.getElem_toList, Function.comp_apply, described, Construct.normalName?,
    Provenance.normalForm]
  cases g.nodes[i].profile.reported.normalize with
  | none => simp [Construct.nameless, Construct.isNameless]
  | some d => by_cases nameless : d.isNameless <;> simp [nameless]

end Imported

/-- **The call graph of a raw graph represents it.** -/
theorem ofRaw_represents (raw : RawGraph) (resolver : Resolver) :
    (ofRaw raw resolver).Represents raw := by
  have im := Imported.ofRaw raw resolver
  refine {
    distinct := im.distinct
    covers := fun c member => ?_
    first := fun d member => ?_
    numbering := ?_
    index_identity := fun i below => ?_
    index_isSome := fun name => ?_
    callees_lt := fun i j callee => im.callees_lt callee
    callers_lt := fun j i caller => im.callers_lt caller
    mem_callees_iff := im.mem_callees_iff
    callees_nodup := im.callees_nodup
    callers_nodup := im.callers_nodup
    calls := fun i j c d caller callee => ?_
    edgeCount_callees := im.callees_count
    edgeCount_callers := im.callers_count }
  · rw [im.identities, ← ConstructSet.hasName_iff, ConstructSet.hasName_ofList]
    exact ⟨c, member, rfl⟩
  · rw [im.identities] at member
    exact ConstructSet.find?_of_mem_ofList member
  · rw [im.identities]
    exact ConstructSet.firstMention_ofList raw.mentions
  · have inside : i < (ofRaw raw resolver).nodes.size := below
    have here : (ofRaw raw resolver).identities[i]? =
        some (ofRaw raw resolver).nodes[i].profile.reported := by
      simp [identities, inside]
    refine ⟨(ofRaw raw resolver).nodes[i].profile.reported, ?_, ?_⟩
    · simp [identity, node, inside, Except.map]
    · rw [index?, reportedIndex?_of_getElem? im.distinct here, Option.some_or]
  · rw [index?, Option.isSome_or, Bool.or_eq_true, reportedIndex?_isSome, im.normalizedIndex?_eq,
      List.findIdx?_isSome]
    simp only [List.any_eq_true, beq_iff_eq, and_or_left, exists_or]
  · rw [im.mem_callees caller callee, RawGraph.mem_calls]

end Callgraph

end Exposure
