/-
# Proofs.Scanning — what a scan reports

The sightings of a node do not depend on what was found before it, so a scan
that nothing interrupts adds the sightings of its nodes one after the other
(`scanFrom_eq`).  Since the ranges of a graph tile it, the findings of all of
them together are those of one scan (`merged_partitions`), also where nothing is
known of some nodes.

In an imported graph everything is known of every node and of its callees.  So a
scan leaves out no node, and `Reports` says what it finds: of each archive the
constructs that count, of several with one name the one with the highest number,
and the calls between the application and those constructs (`run_reports`).
-/
import Exposure.Proofs.Findings
import Exposure.Proofs.Import

namespace Exposure

set_option autoImplicit false

/-- The nodes of a range in increasing order. -/
def NodeRange.nodes (r : NodeRange) : List Nat := List.range' r.low.toNat r.length.toNat

/-! ## The ranges of a graph -/

/-- The ranges of a graph lie within it. -/
theorem mem_partitions {nodes : Nat} {parts : Int} {r : NodeRange}
    (member : r ∈ partitions nodes parts) : 0 ≤ r.low ∧ r.low ≤ r.high ∧ r.high ≤ nodes := by
  simp only [partitions, List.mem_map, List.mem_range] at member
  obtain ⟨i, below, rfl⟩ := member
  have size : (max (nodes : Int) 0).toNat = nodes := by omega
  simp only [size]
  generalize (max parts 1).toNat = k at *
  have last : (i + 1) * (nodes / k) ≤ nodes := by
    calc (i + 1) * (nodes / k) ≤ k * (nodes / k) := Nat.mul_le_mul_right _ below
      _ ≤ nodes := Nat.mul_div_le nodes k
  have mono : i * (nodes / k) ≤ (i + 1) * (nodes / k) := Nat.mul_le_mul_right _ (Nat.le_succ i)
  refine ⟨Int.natCast_nonneg _, ?_, ?_⟩
  · split <;> omega
  · split <;> omega

theorem nodes_ofNat (low high : Nat) :
    NodeRange.nodes ⟨low, high⟩ = List.range' low (high - low) := by
  simp only [NodeRange.nodes, NodeRange.length, Int.toNat_natCast]
  congr 1
  omega

/-- Ranges of one length, each beginning where the one before ends. -/
theorem flatMap_range' (count length : Nat) :
    (List.range count).flatMap (fun i => List.range' (i * length) length) =
      List.range (count * length) := by
  induction count with
  | zero => simp
  | succ count ih =>
      rw [List.range_succ, List.flatMap_append, ih, List.flatMap_singleton,
        List.range_eq_range', Nat.succ_mul,
        List.range_eq_range', ← List.range'_append_1, Nat.zero_add]

/-- The ranges of a graph have its nodes, each once and in order. -/
theorem nodes_partitions (nodes : Nat) (parts : Int) :
    (partitions nodes parts).flatMap NodeRange.nodes = List.range nodes := by
  have size : (max (nodes : Int) 0).toNat = nodes := by omega
  obtain ⟨k, positive⟩ : ∃ k, (max parts 1).toNat = k + 1 := ⟨(max parts 1).toNat - 1, by omega⟩
  simp only [partitions, size, positive, List.flatMap_map]
  generalize step : nodes / (k + 1) = length
  have fits : k * length ≤ nodes := by
    calc k * length ≤ (k + 1) * length := Nat.mul_le_mul_right _ (Nat.le_succ k)
      _ ≤ nodes := step ▸ Nat.mul_div_le nodes (k + 1)
  -- all ranges but the last have the same length
  have even : (List.range k).flatMap (fun i =>
      NodeRange.nodes ⟨(i * length : Nat), if i + 1 = k + 1 then (nodes : Nat)
        else ((i + 1) * length : Nat)⟩) =
        List.range (k * length) := by
    rw [← flatMap_range']
    refine List.flatMap_congr fun i member => ?_
    have below : i ≠ k := Nat.ne_of_lt (List.mem_range.1 member)
    rw [if_neg (by omega), nodes_ofNat]
    congr 1
    rw [Nat.succ_mul]
    omega
  have joined := List.range'_append_1 (s := 0) (m := k * length) (n := nodes - k * length)
  rw [Nat.zero_add, Nat.add_sub_cancel' fits] at joined
  rw [List.range_succ, List.flatMap_append, even, List.flatMap_singleton, if_pos rfl, nodes_ofNat,
    List.range_eq_range', joined, List.range_eq_range']

namespace Scanner

/-! ## Sightings -/

/-- The touch points among a node's calls, up to the first callee that nothing is known of. -/
def callSightings (c : Scanner) (g : ScanGraph) (fromLibrary : Bool) (caller : Profile) :
    List Nat → List Sighting
  | [] => []
  | j :: rest =>
    match g.profile j with
    | .error _ => []
    | .ok callee =>
      ((c.touchPoint? fromLibrary caller callee).map .touchPoint).toList
        ++ callSightings c g fromLibrary caller rest

/-- Why the calls of a node are left, if they are. -/
def unknownCallee? (g : ScanGraph) (callees : List Nat) : Option String :=
  callees.findSome? fun j =>
    match g.profile j with
    | .error reason => some reason
    | .ok _ => none

/-- What a scan comes upon at a node. -/
def sightings (c : Scanner) (g : ScanGraph) (i : Nat) : List Sighting :=
  match g.profile i with
  | .error _ => []
  | .ok p =>
    let library := c.apps.isLibrary p.name
    if library && c.blacklist.covers p.name then []
    else
      (if library then [.construct p] else [])
        ++ (if c.touchPoints then c.callSightings g library p (g.callees i) else [])

/-- Why a node is left, if it is. -/
def obstacle? (c : Scanner) (g : ScanGraph) (i : Nat) : Option String :=
  match g.profile i with
  | .error reason => some reason
  | .ok p =>
    if c.apps.isLibrary p.name && c.blacklist.covers p.name then none
    else if c.touchPoints then unknownCallee? g (g.callees i) else none

theorem addCalls_eq (c : Scanner) (g : ScanGraph) (fromLibrary : Bool) (caller : Profile) :
    ∀ (callees : List Nat) (f : Findings),
      c.addCalls g fromLibrary caller callees f =
        (f.seeAll (c.callSightings g fromLibrary caller callees), unknownCallee? g callees)
  | [], f => rfl
  | j :: rest, f => by
      rw [addCalls, callSightings, unknownCallee?, List.findSome?_cons]
      cases known : g.profile j with
      | error reason => simp
      | ok callee =>
          simp only [addCalls_eq c g fromLibrary caller rest, unknownCallee?]
          cases c.touchPoint? fromLibrary caller callee <;> simp [Findings.see]

/-- A node adds its sightings, whatever was found before. -/
theorem scanNode_eq (c : Scanner) (g : ScanGraph) (f : Findings) (i : Nat) :
    c.scanNode g f i = (f.seeAll (c.sightings g i), c.obstacle? g i) := by
  unfold scanNode sightings obstacle?
  cases g.profile i with
  | error reason => rfl
  | ok p =>
      simp only
      split
      · rfl
      · cases c.apps.isLibrary p.name <;> cases c.touchPoints <;>
          simp [addCalls_eq, Findings.see]

/-- A scan that nothing interrupts adds the sightings of its nodes one after the other. -/
theorem scanFrom_eq (c : Scanner) (g : ScanGraph) (range : NodeRange) :
    ∀ (left i : Nat) (o : Outcome), o.watch.quiet = none →
      c.scanFrom g range left i o =
        { o with
          findings := o.findings.seeAll ((List.range' i left).flatMap (c.sightings g))
          records := o.records ++ (List.range' i left).filterMap fun k =>
            (c.obstacle? g k).map (skipped range k) }
  | 0, _, _, _ => by simp [scanFrom]
  | left + 1, i, o, quiet => by
      have look : o.watch.look = (false, o.watch) := by simp [Watch.look, quiet]
      rw [scanFrom]
      simp only [look, ite_self, scanNode_eq, List.range'_succ, List.flatMap_cons,
        Findings.seeAll_append, List.filterMap_cons]
      cases c.obstacle? g i with
      | none => exact scanFrom_eq c g range left (i + 1) _ quiet
      | some reason =>
          simp only [Option.map_some]
          rw [scanFrom_eq c g range left (i + 1), List.append_assoc, List.singleton_append]
          exact quiet

/-- With a silent watch no scan is left early. -/
theorem failure_scanFrom (c : Scanner) (g : ScanGraph) (range : NodeRange) (left i : Nat)
    (o : Outcome) (quiet : o.watch.quiet = none) (complete : o.failure = none) :
    (c.scanFrom g range left i o).failure = none := by
  rw [scanFrom_eq c g range left i o quiet]
  exact complete

/-- The scan of a range within the graph that nothing interrupts. -/
theorem run_eq (c : Scanner) (g : ScanGraph) {range : NodeRange} (low : 0 ≤ range.low)
    (order : range.low ≤ range.high) (high : range.high ≤ g.size) :
    c.run g range .silent = .ok
      ⟨.seeAll .none (range.nodes.flatMap (c.sightings g)), none,
        range.nodes.filterMap fun k => (c.obstacle? g k).map (skipped range k), .silent⟩ := by
  have inside : ¬ (range.low < 0 ∨ range.high > g.size ∨ range.low > range.high) := by omega
  rw [run, if_neg inside, scanFrom_eq c g range _ _ _ rfl]
  rfl

/-! ## Ranges together -/

/-- **Dividing a graph changes nothing.** The scans of its ranges, put together in order, find what
one scan of the whole graph finds, whatever is not known of some of its nodes. -/
theorem merged_partitions (c : Scanner) (g : ScanGraph) (parts : Int) :
    ∃ (outcomes : List Outcome) (whole : Outcome),
      (partitions g.size parts).map (c.run g · .silent) = outcomes.map .ok ∧
        c.run g ⟨0, g.size⟩ .silent = .ok whole ∧
        (∀ o ∈ whole :: outcomes, o.failure = none) ∧
        (outcomes.map (·.findings)).foldl Findings.merge .none = whole.findings := by
  refine ⟨(partitions g.size parts).map fun range =>
    ⟨.seeAll .none (range.nodes.flatMap (c.sightings g)), none,
    range.nodes.filterMap fun k => (c.obstacle? g k).map (skipped range k), .silent⟩, _, ?_,
    c.run_eq g (Int.le_refl 0) (Int.natCast_nonneg _) (Int.le_refl _), ?_, ?_⟩
  · rw [List.map_map]
    refine List.map_congr_left fun range member => ?_
    obtain ⟨low, order, high⟩ := mem_partitions member
    exact c.run_eq g low order high
  · intro o member
    rcases List.mem_cons.1 member with rfl | member
    · rfl
    · obtain ⟨range, -, rfl⟩ := List.mem_map.1 member
      rfl
  · have whole : NodeRange.nodes ⟨0, g.size⟩ =
        (partitions g.size parts).flatMap NodeRange.nodes := by
      rw [nodes_partitions, List.range_eq_range']
      exact nodes_ofNat 0 g.size
    have rows : ((partitions g.size parts).map fun range => Findings.seeAll .none
        (range.nodes.flatMap (c.sightings g))) =
          ((partitions g.size parts).map fun range => range.nodes.flatMap (c.sightings g)).map
            (Findings.seeAll .none) := by
      rw [List.map_map]
      rfl
    rw [List.map_map, Function.comp_def, rows, Findings.foldl_merge_seeAll, whole,
      List.flatMap_assoc, List.flatMap_def]

/-! ## Imported graphs -/

/-- A library construct that is not blacklisted. -/
def counts (c : Scanner) (p : Profile) : Bool :=
  c.apps.isLibrary p.name && !c.blacklist.covers p.name

/-- A construct that counts and is listed under this digest and this name. -/
structure Lists (c : Scanner) (digest name : String) (p : Profile) : Prop where
  counts : c.counts p = true
  archive : p.digest = digest ∧ digest ≠ ""
  name : p.name = name

/-- A call between the application and a construct that counts, whose archive has this digest. -/
inductive Touches (c : Scanner) (digest : String) : TouchPoint → Prop where
  | intoLibrary {caller callee : Profile} (app : c.apps.isApp caller.name = true)
      (library : c.counts callee = true) (archive : callee.digest = digest ∧ digest ≠ "") :
      Touches c digest ⟨caller, callee, .appToLib⟩
  | outOfLibrary {caller callee : Profile} (library : c.counts caller = true)
      (archive : caller.digest = digest ∧ digest ≠ "") (app : c.apps.isApp callee.name = true) :
      Touches c digest ⟨caller, callee, .libToApp⟩

/-- **What a scan of a range is to report.** -/
structure Reports (c : Scanner) (g : Callgraph) (range : NodeRange) (f : Findings) : Prop where
  /-- Under a digest stand the names of the constructs that have it, each with the last of them. -/
  reachable : ∀ digest name p, f.constructAt? digest name = some p ↔
    ∃ i ∈ range.nodes, g.profile? i = some p ∧ c.Lists digest name p ∧
      ∀ j ∈ range.nodes, i < j → ∀ q, g.profile? j = some q → ¬ c.Lists digest name q
  /-- The constructs without a digest are counted. -/
  unattributed : f.unattributed =
    range.nodes.countP fun i => (g.profile? i).any fun p => c.counts p && p.digest == ""
  /-- Under a digest stand the calls from nodes of the range that touch its archive. -/
  touchPoints : c.touchPoints = true → ∀ digest t, t ∈ f.touchPointsAt digest ↔
    c.Touches digest t ∧ ∃ i ∈ range.nodes, ∃ j ∈ g.callees i,
      g.profile? i = some t.caller ∧ g.profile? j = some t.callee
  /-- Calls are left alone unless they are asked for. -/
  untouched : c.touchPoints = false → f.touchPoints = .empty
  /-- Nothing is listed in vain or twice. -/
  tidy : f.Tidy

theorem profile_scanGraph {g : Callgraph} {i : Nat} {p : Profile} :
    g.scanGraph.profile i = .ok p ↔ g.profile? i = some p := by
  show ((g.node (Int.ofNat i)).map (·.profile)).mapError (·.message) = .ok p ↔ _
  simp only [Callgraph.node, Callgraph.profile?]
  cases g.nodes[i]? <;> simp [Except.map, Except.mapError]

theorem isLibrary_eq_false {index : AppIndex} {name : String} :
    index.isLibrary name = false ↔ index.isApp name = true := by
  simp [AppIndex.isLibrary]

theorem counts_iff {c : Scanner} {p : Profile} :
    c.counts p = true ↔ c.apps.isLibrary p.name = true ∧ c.blacklist.covers p.name = false := by
  simp [counts]

theorem Touches.archive {c : Scanner} {digest : String} {t : TouchPoint}
    (touches : c.Touches digest t) : t.library.isResolved = true ∧ t.library.digest = digest := by
  cases touches with
  | intoLibrary _ _ archive =>
      have side : (Direction.appToLib = .libToApp) = False := by decide
      simp [TouchPoint.library, side, Profile.isResolved, archive]
  | outOfLibrary _ archive _ => simp [TouchPoint.library, Profile.isResolved, archive]

/-- The caller of a touch point is no blacklisted library construct. -/
theorem Touches.seen {c : Scanner} {digest : String} {t : TouchPoint}
    (touches : c.Touches digest t) :
    (c.apps.isLibrary t.caller.name && c.blacklist.covers t.caller.name) = false := by
  cases touches with
  | intoLibrary app _ _ => simp [isLibrary_eq_false.2 app]
  | outOfLibrary library _ _ => simp [counts_iff.1 library]

/-- The calls of a node that is not left out are tested for both of their directions. -/
theorem touchPoint?_eq_some {c : Scanner} {p q : Profile} {t : TouchPoint} {digest : String}
    (seen : (c.apps.isLibrary p.name && c.blacklist.covers p.name) = false) :
    c.touchPoint? (c.apps.isLibrary p.name) p q = some t ∧ t.library.isResolved = true ∧
        t.library.digest = digest ↔
      c.Touches digest t ∧ t.caller = p ∧ t.callee = q := by
  constructor
  · rintro ⟨found, resolved, rfl⟩
    have known : t.library.digest ≠ "" := by simpa [Profile.isResolved] using resolved
    unfold touchPoint? at found
    cases library : c.apps.isLibrary p.name with
    | true =>
        rw [library] at found seen
        obtain ⟨app, rfl⟩ : c.apps.isApp q.name = true ∧ _ = t := by simpa using found
        exact ⟨.outOfLibrary (counts_iff.2 ⟨library, by simpa using seen⟩) ⟨rfl, known⟩ app, rfl,
          rfl⟩
    | false =>
        rw [library] at found
        obtain ⟨counted, rfl⟩ : (c.apps.isLibrary q.name = true ∧
            c.blacklist.covers q.name = false) ∧ _ = t := by
          simpa using found
        exact ⟨.intoLibrary (isLibrary_eq_false.1 library) (counts_iff.2 counted) ⟨rfl, known⟩, rfl,
          rfl⟩
  · rintro ⟨touches, rfl, rfl⟩
    refine ⟨?_, touches.archive⟩
    cases touches with
    | intoLibrary app library _ =>
        simp [touchPoint?, isLibrary_eq_false.2 app, counts_iff.1 library]
    | outOfLibrary library _ app => simp [touchPoint?, counts_iff.1 library, app]

theorem profile_of_none {g : Callgraph} {i : Nat} (absent : g.profile? i = none) :
    ∃ reason, g.scanGraph.profile i = .error reason := by
  cases known : g.scanGraph.profile i with
  | error reason => exact ⟨reason, rfl⟩
  | ok p => simp [profile_scanGraph.1 known] at absent

/-! ### The sightings of a node -/

section Node

variable {c : Scanner} {g : Callgraph} {i : Nat} {p : Profile}

/-- Calls give touch points only. -/
theorem eq_touchPoint_of_mem {g : ScanGraph} {fromLibrary : Bool} {caller : Profile}
    {callees : List Nat}
    {x : Sighting} (member : x ∈ c.callSightings g fromLibrary caller callees) :
    ∃ t, x = .touchPoint t := by
  induction callees with
  | nil => simp [callSightings] at member
  | cons j rest ih =>
      rw [callSightings] at member
      cases known : g.profile j with
      | error reason => simp [known] at member
      | ok callee =>
          rw [known] at member
          rcases List.mem_append.1 member with first | later
          · obtain ⟨t, -, rfl⟩ : ∃ t, c.touchPoint? fromLibrary caller callee = some t ∧
                .touchPoint t = x := by
              simpa using first
            exact ⟨t, rfl⟩
          · exact ih later

theorem mem_callSightings {g : ScanGraph} {fromLibrary : Bool} {caller : Profile}
    {callees : List Nat} (known : ∀ j ∈ callees, ∃ q, g.profile j = .ok q) {t : TouchPoint} :
    .touchPoint t ∈ c.callSightings g fromLibrary caller callees ↔
      ∃ j ∈ callees, ∃ q, g.profile j = .ok q ∧ c.touchPoint? fromLibrary caller q = some t := by
  induction callees with
  | nil => simp [callSightings]
  | cons j rest ih =>
      obtain ⟨q, here⟩ := known j List.mem_cons_self
      rw [callSightings, here]
      simp only [List.mem_append, ih fun k member => known k (List.mem_cons_of_mem j member)]
      simp [here]

/-- A node is sighted itself if it counts, and then its calls are. -/
theorem sightings_eq (here : g.profile? i = some p) :
    ∃ calls, c.sightings g.scanGraph i = (if c.counts p then [.construct p] else []) ++ calls ∧
      ∀ x ∈ calls, ∃ t, x = .touchPoint t := by
  have touch : ∀ x ∈ (if c.touchPoints then c.callSightings g.scanGraph (c.apps.isLibrary p.name) p
      (g.scanGraph.callees i) else []), ∃ t, x = .touchPoint t := by
    intro x member
    split at member
    · exact eq_touchPoint_of_mem member
    · simp at member
  simp only [sightings, profile_scanGraph.2 here]
  cases covered : c.apps.isLibrary p.name && c.blacklist.covers p.name with
  | true =>
      obtain ⟨library, barred⟩ := Bool.and_eq_true_iff.1 covered
      exact ⟨[], by simp [counts, library, barred], by simp⟩
  | false =>
      refine ⟨_, ?_, touch⟩
      have same : c.counts p = c.apps.isLibrary p.name := by
        cases library : c.apps.isLibrary p.name <;> simp_all [counts]
      simp [same]

/-- The construct that is listed under a digest and a name by a node that is known. -/
def listed? (c : Scanner) (digest name : String) (p : Profile) : Option Profile :=
  if c.counts p then (Sighting.construct p).constructAt? digest name else none

theorem listed?_eq_some {digest name : String} {q : Profile} :
    c.listed? digest name p = some q ↔ p = q ∧ c.Lists digest name q := by
  simp only [listed?, Sighting.constructAt?, Option.ite_none_right_eq_some, Option.some.injEq]
  constructor
  · rintro ⟨counted, ⟨resolved, rfl, rfl⟩, rfl⟩
    exact ⟨rfl, counted, ⟨rfl, by simpa [Profile.isResolved] using resolved⟩, rfl⟩
  · rintro ⟨rfl, counted, ⟨rfl, known⟩, rfl⟩
    exact ⟨counted, ⟨by simpa [Profile.isResolved] using known, rfl, rfl⟩, rfl⟩

theorem filterMap_sightings (c : Scanner) (g : Callgraph) (digest name : String) (i : Nat) :
    (c.sightings g.scanGraph i).filterMap (·.constructAt? digest name) =
      ((g.profile? i).bind (c.listed? digest name)).toList := by
  cases here : g.profile? i with
  | none =>
      obtain ⟨reason, unknown⟩ := profile_of_none here
      simp [sightings, unknown]
  | some p =>
      obtain ⟨calls, eq, touch⟩ := sightings_eq (c := c) here
      have none : calls.filterMap (·.constructAt? digest name) = [] := by
        refine List.filterMap_eq_nil_iff.2 fun x member => ?_
        obtain ⟨t, rfl⟩ := touch x member
        rfl
      rw [eq, List.filterMap_append, none, List.append_nil, Option.bind_some, listed?]
      cases c.counts p with
      | false => rfl
      | true => cases listed : (Sighting.construct p).constructAt? digest name <;> simp [listed]

theorem countP_sightings (c : Scanner) (g : Callgraph) (i : Nat) :
    (c.sightings g.scanGraph i).countP (·.isUnattributed) =
      if (g.profile? i).any fun p => c.counts p && p.digest == "" then 1 else 0 := by
  cases here : g.profile? i with
  | none =>
      obtain ⟨reason, unknown⟩ := profile_of_none here
      simp [sightings, unknown]
  | some p =>
      obtain ⟨calls, eq, touch⟩ := sightings_eq (c := c) here
      have none : calls.countP (·.isUnattributed) = 0 := by
        refine List.countP_eq_zero.2 fun x member => ?_
        obtain ⟨t, rfl⟩ := touch x member
        simp [Sighting.isUnattributed]
      rw [eq, List.countP_append, none]
      cases counted : c.counts p <;> simp [counted, Sighting.isUnattributed, Profile.isResolved]

/-- The touch points sighted at a node are its calls that touch an archive. -/
theorem touchPoint_mem_sightings (known : ∀ j ∈ g.callees i, ∃ q, g.profile? j = some q)
    {t : TouchPoint} {digest : String} :
    .touchPoint t ∈ c.sightings g.scanGraph i ∧ t.library.isResolved = true ∧
      t.library.digest = digest ↔ c.touchPoints = true ∧ c.Touches digest t ∧
        ∃ j ∈ g.callees i, g.profile? i = some t.caller ∧ g.profile? j = some t.callee := by
  cases here : g.profile? i with
  | none =>
      obtain ⟨reason, unknown⟩ := profile_of_none here
      simp [sightings, unknown]
  | some p =>
      have callees : ∀ j ∈ g.scanGraph.callees i, ∃ q, g.scanGraph.profile j = .ok q :=
        fun j member =>
        (known j member).imp fun q there => profile_scanGraph.2 there
      have own : .touchPoint t ∉ if c.apps.isLibrary p.name then [Sighting.construct p]
          else [] := by
        split <;> simp
      simp only [sightings, profile_scanGraph.2 here]
      cases covered : c.apps.isLibrary p.name && c.blacklist.covers p.name with
      | true =>
          simp only [if_true, List.not_mem_nil, false_and, false_iff]
          rintro ⟨-, touches, j, -, same, -⟩
          have seen := touches.seen
          rw [← Option.some.inj same, covered] at seen
          cases seen
      | false =>
          cases asked : c.touchPoints with
          | false => simp [own]
          | true =>
              simp only [Bool.false_eq_true, if_false, if_true, List.mem_append, own,
                false_or, true_and, mem_callSightings callees]
              constructor
              · rintro ⟨⟨j, callee, q, there, found⟩, archive⟩
                obtain ⟨touches, rfl, rfl⟩ := (touchPoint?_eq_some covered).1 ⟨found, archive⟩
                exact ⟨touches, j, callee, rfl, profile_scanGraph.1 there⟩
              · rintro ⟨touches, j, callee, same, there⟩
                obtain ⟨found, archive⟩ := (touchPoint?_eq_some covered).2
                  ⟨touches, (Option.some.inj same).symm, rfl⟩
                exact ⟨⟨j, callee, t.callee, profile_scanGraph.2 there, found⟩, archive⟩

end Node

/-! ### All nodes of a range -/

/-- Of what nodes give one after the other, the last stays. -/
theorem getLast?_filterMap_range' {α : Type} (give : Nat → Option α) (low count : Nat) {x : α} :
    ((List.range' low count).filterMap give).getLast? = some x ↔
      ∃ i ∈ List.range' low count, give i = some x ∧ ∀ j ∈ List.range' low count, i < j →
        give j = none := by
  rw [List.getLast?_filterMap]
  induction count with
  | zero => simp
  | succ count ih =>
      rw [List.range'_1_concat, List.reverse_append, List.reverse_singleton, List.singleton_append,
        List.findSome?_cons]
      cases last : give (low + count) with
      | some y =>
          simp only [Option.some.injEq]
          constructor
          · rintro rfl
            refine ⟨low + count, by simp, last, fun j member later => ?_⟩
            simp only [List.mem_append, List.mem_range'_1, List.mem_singleton] at member
            omega
          · rintro ⟨i, member, given, nothing⟩
            simp only [List.mem_append, List.mem_range'_1, List.mem_singleton] at member
            by_cases here : i = low + count
            · simpa [here, last] using given
            · simp [nothing (low + count) (by simp) (by omega)] at last
      | none =>
          rw [ih]
          constructor
          · rintro ⟨i, member, given, nothing⟩
            refine ⟨i, List.mem_append_left _ member, given, fun j among later => ?_⟩
            rcases List.mem_append.1 among with before | here
            · exact nothing j before later
            · rwa [List.mem_singleton.1 here]
          · rintro ⟨i, member, given, nothing⟩
            rcases List.mem_append.1 member with before | here
            · exact ⟨i, before, given, fun j among later =>
                nothing j (List.mem_append_left _ among) later⟩
            · rw [List.mem_singleton.1 here, last] at given
              cases given

/-- The sightings of the nodes of a range are what the range is to report. -/
theorem reports_of_known (c : Scanner) {g : Callgraph}
    (known : ∀ i, ∀ j ∈ g.callees i, ∃ q, g.profile? j = some q) (range : NodeRange) :
    c.Reports g range (.seeAll .none (range.nodes.flatMap (c.sightings g.scanGraph))) := by
  have touchPoints {digest : String} {t : TouchPoint} :
      t ∈ (Findings.seeAll .none (range.nodes.flatMap (c.sightings g.scanGraph))).touchPointsAt
        digest ↔ c.touchPoints = true ∧ c.Touches digest t ∧ ∃ i ∈ range.nodes, ∃ j ∈ g.callees i,
          g.profile? i = some t.caller ∧ g.profile? j = some t.callee := by
    have nothing : t ∉ Findings.none.touchPointsAt digest := by
      simp [Findings.touchPointsAt, Findings.none]
    rw [Findings.mem_touchPointsAt_seeAll, or_iff_right nothing, List.mem_flatMap]
    constructor
    · rintro ⟨⟨i, member, sighted⟩, archive⟩
      obtain ⟨asked, touches, call⟩ := (touchPoint_mem_sightings (known i)).1 ⟨sighted, archive⟩
      exact ⟨asked, touches, i, member, call⟩
    · rintro ⟨asked, touches, i, member, call⟩
      obtain ⟨sighted, archive⟩ := (touchPoint_mem_sightings (known i)).2 ⟨asked, touches, call⟩
      exact ⟨⟨i, member, sighted⟩, archive⟩
  have tidy := Findings.tidy_seeAll Findings.tidy_none
    (range.nodes.flatMap (c.sightings g.scanGraph))
  refine ⟨fun digest name p => ?_, ?_, fun asked digest t => ?_, fun unasked => ?_, tidy⟩
  · have listed : ∀ i, (g.profile? i).bind (c.listed? digest name) = some p ↔
        g.profile? i = some p ∧ c.Lists digest name p := fun i => by
      simp [Option.bind_eq_some_iff, listed?_eq_some]
    have unlisted : ∀ j, (g.profile? j).bind (c.listed? digest name) = none ↔
        ∀ q, g.profile? j = some q → ¬ c.Lists digest name q := fun j => by
      cases g.profile? j with
      | none => simp
      | some q =>
          simp only [Option.bind_some, Option.some.injEq, forall_eq',
            Option.eq_none_iff_forall_ne_some, ne_eq, listed?_eq_some, not_and]
    have nothing : Findings.none.constructAt? digest name = none := rfl
    rw [Findings.constructAt?_seeAll, nothing, Option.or_none, List.filterMap_flatMap]
    simp only [filterMap_sightings]
    rw [← List.filterMap_eq_flatMap_toList, NodeRange.nodes, getLast?_filterMap_range']
    simp only [listed, unlisted, and_assoc]
  · rw [Findings.unattributed_seeAll]
    induction range.nodes with
    | nil => rfl
    | cons i rest ih =>
        rw [List.flatMap_cons, List.countP_append, countP_sightings, List.countP_cons, ← ih]
        omega
  · rw [touchPoints, and_iff_right asked]
  · apply Dict.ext_get?
    intro digest
    refine Option.eq_none_iff_forall_ne_some.2 fun points listed => ?_
    obtain ⟨t, member⟩ := List.exists_mem_of_ne_nil points (tidy.touchPoints digest points listed)
    have there : t ∈ (Findings.seeAll .none
        (range.nodes.flatMap (c.sightings g.scanGraph))).touchPointsAt digest := by
      simpa [Findings.touchPointsAt, listed] using member
    simp [(touchPoints.1 there).1] at unasked

/-- **A scan of an imported graph leaves out no node and reports what there is.** -/
theorem run_reports (raw : RawGraph) (resolver : Resolver) (c : Scanner) (range : NodeRange)
    (low : 0 ≤ range.low) (order : range.low ≤ range.high)
    (high : range.high ≤ (Callgraph.ofRaw raw resolver).size) :
    ∃ o, c.run (Callgraph.ofRaw raw resolver).scanGraph range .silent = .ok o ∧
      o.failure = none ∧ o.records = [] ∧
        c.Reports (Callgraph.ofRaw raw resolver) range o.findings := by
  have imported := Callgraph.Imported.ofRaw raw resolver
  generalize Callgraph.ofRaw raw resolver = g at *
  have profile : ∀ i < g.size, ∃ p, g.profile? i = some p := fun i below => by
    have inside : i < g.nodes.size := below
    simp [Callgraph.profile?, inside]
  have known : ∀ i, ∀ j ∈ g.callees i, ∃ q, g.profile? j = some q := fun i j callee =>
    profile j (imported.callees_lt callee)
  refine ⟨_, c.run_eq g.scanGraph low order high, rfl, ?_, reports_of_known c known range⟩
  refine List.filterMap_eq_nil_iff.2 fun i member => ?_
  have below : i < g.size := by
    simp only [NodeRange.nodes, NodeRange.length, List.mem_range'_1] at member
    omega
  obtain ⟨p, here⟩ := profile i below
  have free : unknownCallee? g.scanGraph (g.scanGraph.callees i) = none := by
    refine List.findSome?_eq_none_iff.2 fun j callee => ?_
    obtain ⟨q, there⟩ := known i j callee
    rw [profile_scanGraph.2 there]
  simp [obstacle?, profile_scanGraph.2 here, free]

/-! ### One construct under two names -/

/-- A function of the application calls a library function directly and through a value, and is
called back from there. -/
def callback : RawGraph where
  vertices := [⟨.go, .function, "app.main"⟩, ⟨.go, .function, "lib.F"⟩,
    ⟨.go, .function, "lib.F$bound"⟩]
  callees v :=
    if v.name = "app.main" then [⟨.go, .function, "lib.F"⟩, ⟨.go, .function, "lib.F$bound"⟩]
    else if v.name = "lib.F$bound" then [⟨.go, .function, "app.main"⟩] else []

/-- Everything comes from one archive. -/
def oneArchive : Resolver := ⟨fun _ => some "lib.zip", fun _ => .ok "1234"⟩

/-- A scan for touch points with `app.main`. -/
def aroundMain : Scanner := ⟨⟨[]⟩, ⟨#["app.main"]⟩, true⟩

theorem run_reports_callback : ∃ o,
    aroundMain.run (Callgraph.ofRaw callback oneArchive).scanGraph ⟨0, 3⟩ .silent = .ok o ∧
      o.failure = none ∧ o.records = [] ∧
        aroundMain.Reports (Callgraph.ofRaw callback oneArchive) ⟨0, 3⟩ o.findings ∧
      (o.findings.constructAt? "1234" "lib.F").map (·.reported.name) = some "lib.F$bound" ∧
      (o.findings.touchPointsAt "1234").length = 3 := by
  have size : (Callgraph.ofRaw callback oneArchive).size = 3 := by decide +kernel
  obtain ⟨o, ran, complete, all, reports⟩ :=
    run_reports callback oneArchive aroundMain ⟨0, 3⟩ (by decide) (by decide) (by rw [size]; decide)
  have found : ((aroundMain.run (Callgraph.ofRaw callback oneArchive).scanGraph
      ⟨0, 3⟩ .silent).toOption.map fun o =>
      ((o.findings.constructAt? "1234" "lib.F").map (·.reported.name),
        (o.findings.touchPointsAt "1234").length)) = some (some "lib.F$bound", 3) := by
    decide +kernel
  rw [ran] at found
  obtain ⟨last, three⟩ := Prod.mk.inj (Option.some.inj found)
  exact ⟨o, ran, complete, all, reports, last, three⟩

end Scanner

end Exposure
