/-
# Proofs.MergeOrder — what the order of ranges leaves behind

Findings of ranges are put together one after the other.  How they are grouped
shows nowhere (`merged_groups`).  The order in which they come shows in one
place: a construct takes the place of an earlier one of its archive and its name,
so of several ranges that list the same name the last one stays
(`constructAt?_merged`).  Names, touch points and numbers are those of the
sightings, whose order does not count (`agrees_of_perm`).

`merged_in_any_order` says all this of the ranges of an imported graph, and that
every order gives the same constructs just if no two ranges list the same name of
the same archive.
-/
import Exposure.Proofs.Scanning

namespace Exposure

set_option autoImplicit false

/-! ## Grouping -/

namespace Findings

theorem joinTouchPoints_append (known more last : List TouchPoint) :
    joinTouchPoints known (more ++ last) = joinTouchPoints (joinTouchPoints known more) last :=
  List.foldl_append

theorem joinTouchPoints_assoc (known more last : List TouchPoint) :
    joinTouchPoints (joinTouchPoints known more) last =
      joinTouchPoints known (joinTouchPoints more last) := by
  induction last using List.reverseRecOn with
  | nil => rfl
  | append_singleton last t ih =>
      rw [joinTouchPoints_append, ih, joinTouchPoints_append, joinTouchPoints_join]

/-- It makes no difference which findings are put together first. -/
theorem merge_assoc (f g h : Findings) : (f.merge g).merge h = f.merge (g.merge h) := by
  simp only [merge, Dict.mergeWith_assoc Dict.overlay_assoc,
    Dict.mergeWith_assoc joinTouchPoints_assoc, Nat.add_assoc]

theorem none_merge (f : Findings) : Findings.none.merge f = f := by
  simp [merge, none, Dict.empty_mergeWith]

/-- Findings put together one after the other. -/
def merged (fs : List Findings) : Findings := fs.foldl merge .none

theorem foldl_merge (fs : List Findings) (f : Findings) :
    fs.foldl merge f = f.merge (merged fs) := by
  induction fs generalizing f with
  | nil => exact (merge_none f).symm
  | cons g fs ih =>
      rw [merged, List.foldl_cons, List.foldl_cons, ih, ih (Findings.none.merge g),
        none_merge, merge_assoc]

/-- **Findings may be put together in groups.** -/
theorem merged_groups (groups : List (List Findings)) :
    merged (groups.map merged) = merged groups.flatten := by
  induction groups with
  | nil => rfl
  | cons fs groups ih =>
      calc merged ((fs :: groups).map merged)
        _ = (merged fs).merge (merged (groups.map merged)) := by
          rw [merged, List.map_cons, List.foldl_cons, none_merge, foldl_merge]
        _ = (merged fs).merge (merged groups.flatten) := by rw [ih]
        _ = merged (fs :: groups).flatten := by
          rw [← foldl_merge, List.flatten_cons, merged, merged, List.foldl_append]

/-! ## Order -/

/-- The same but for the constructs that stand for the names: the same names of the same archives,
the same touch points and as many constructs without an archive. -/
structure AgreesWith (f g : Findings) : Prop where
  archives : ∀ digest, f.reachable.contains digest = g.reachable.contains digest
  names : ∀ digest name, (f.constructAt? digest name).isSome = (g.constructAt? digest name).isSome
  touched : ∀ digest, f.touchPoints.contains digest = g.touchPoints.contains digest
  touchPoints : ∀ digest, (f.touchPointsAt digest).Perm (g.touchPointsAt digest)
  unattributed : f.unattributed = g.unattributed

namespace Tidy

variable {f g : Findings}

/-- An archive is listed if one of its constructs is. -/
theorem contains_reachable (tidy : f.Tidy) (digest : String) :
    f.reachable.contains digest = true ↔ ∃ name, (f.constructAt? digest name).isSome = true := by
  rw [Dict.contains]
  constructor
  · intro listed
    obtain ⟨constructs, found⟩ := Option.isSome_iff_exists.1 listed
    obtain ⟨name, some⟩ := tidy.reachable digest constructs found
    exact ⟨name, by simpa [constructAt?, found] using some⟩
  · rintro ⟨name, some⟩
    rw [constructAt?] at some
    exact Option.isSome_of_isSome_bind some

theorem contains_touchPoints (tidy : f.Tidy) (digest : String) :
    f.touchPoints.contains digest = true ↔ ∃ t, t ∈ f.touchPointsAt digest := by
  rw [Dict.contains, touchPointsAt]
  cases found : f.touchPoints.get? digest with
  | none => simp
  | some points =>
      simpa using List.exists_mem_of_ne_nil points (tidy.touchPoints digest points found)

/-- Findings that list the same construct for every name list the same. -/
theorem reachable_eq (tidy : f.Tidy) (other : g.Tidy)
    (same : ∀ digest name, f.constructAt? digest name = g.constructAt? digest name) :
    f.reachable = g.reachable := by
  apply Dict.ext_get?
  intro digest
  have listed : f.reachable.contains digest = g.reachable.contains digest := by
    rw [Bool.eq_iff_iff, tidy.contains_reachable, other.contains_reachable]
    simp only [same]
  simp only [Dict.contains] at listed
  simp only [constructAt?] at same
  cases here : f.reachable.get? digest <;> cases there : g.reachable.get? digest <;>
    simp [here, there] at listed
  · rfl
  · refine congrArg some (Dict.ext_get? fun name => ?_)
    simpa [here, there] using same digest name

end Tidy

theorem constructAt?_isSome_seeAll {xs : List Sighting} {digest name : String} :
    ((Findings.seeAll .none xs).constructAt? digest name).isSome = true ↔
      ∃ x ∈ xs, (x.constructAt? digest name).isSome = true := by
  have nothing : Findings.none.constructAt? digest name = Option.none := rfl
  rw [constructAt?_seeAll, nothing, Option.or_none, Option.isSome_iff_ne_none, ne_eq,
    List.getLast?_eq_none_iff, List.filterMap_eq_nil_iff]
  simp [Option.isSome_iff_ne_none]

/-- The order of sightings shows in the constructs only. -/
theorem agrees_of_perm {xs ys : List Sighting} (perm : xs.Perm ys) :
    (Findings.seeAll .none xs).AgreesWith (.seeAll .none ys) := by
  have tidy (zs : List Sighting) : (Findings.seeAll .none zs).Tidy := tidy_seeAll tidy_none zs
  have names (digest name : String) : ((Findings.seeAll .none xs).constructAt? digest name).isSome =
      ((Findings.seeAll .none ys).constructAt? digest name).isSome := by
    rw [Bool.eq_iff_iff, constructAt?_isSome_seeAll, constructAt?_isSome_seeAll]
    simp only [perm.mem_iff]
  have touch (digest : String) (t : TouchPoint) : t ∈
      (Findings.seeAll .none xs).touchPointsAt digest ↔
      t ∈ (Findings.seeAll .none ys).touchPointsAt digest := by
    simp only [mem_touchPointsAt_seeAll, perm.mem_iff]
  exact
    { archives := fun digest => by
        rw [Bool.eq_iff_iff, (tidy xs).contains_reachable, (tidy ys).contains_reachable]
        simp only [names]
      names
      touched := fun digest => by
        rw [Bool.eq_iff_iff, (tidy xs).contains_touchPoints, (tidy ys).contains_touchPoints]
        simp only [touch]
      touchPoints := fun digest =>
        (List.perm_ext_iff_of_nodup ((tidy xs).once digest) ((tidy ys).once digest)).2
          (touch digest)
      unattributed := by rw [unattributed_seeAll, unattributed_seeAll, perm.countP_eq] }

/-- The later findings answer first. -/
theorem constructAt?_merge (f later : Findings) (digest name : String) :
    (f.merge later).constructAt? digest name =
      (later.constructAt? digest name).or (f.constructAt? digest name) := by
  simp only [constructAt?, merge, Dict.get?_mergeWith]
  cases f.reachable.get? digest <;> cases later.reachable.get? digest <;> simp [Dict.get?_overlay]

/-- Of the constructs of an archive and a name, the one put in last stays. -/
theorem constructAt?_merged (fs : List Findings) (digest name : String) :
    (merged fs).constructAt? digest name =
      (fs.filterMap (·.constructAt? digest name)).getLast? := by
  induction fs using List.reverseRecOn with
  | nil => rfl
  | append_singleton fs f ih =>
      rw [merged, List.foldl_append, List.foldl_cons, List.foldl_nil,
        constructAt?_merge, ← merged, ih, List.filterMap_append]
      cases here : f.constructAt? digest name <;> simp [here]

end Findings

/-- The range lies within a graph of this size. -/
structure NodeRange.Within (r : NodeRange) (size : Nat) : Prop where
  low : 0 ≤ r.low
  order : r.low ≤ r.high
  high : r.high ≤ size

/-- The ranges have no node in common. -/
def NodeRange.Apart (r r' : NodeRange) : Prop := ∀ i ∈ r.nodes, i ∉ r'.nodes

instance : Std.Symm NodeRange.Apart := ⟨fun _ _ apart i second first => apart i first second⟩

namespace Scanner

open Findings (merged)

/-- What the scan of a range finds if nothing interrupts it. -/
def found (c : Scanner) (g : ScanGraph) (range : NodeRange) : Findings :=
  match c.run g range .silent with
  | .ok o => o.findings
  | .error _ => .none

theorem found_eq (c : Scanner) (g : ScanGraph) {range : NodeRange} (within : range.Within g.size) :
    c.found g range = .seeAll .none (range.nodes.flatMap (c.sightings g)) := by
  rw [found, c.run_eq g within.low within.order within.high]

/-- A node of the range is listed as `p` under a digest and a name. -/
def ListedIn (c : Scanner) (g : Callgraph) (range : NodeRange) (digest name : String)
    (p : Profile) : Prop :=
  ∃ i ∈ range.nodes, g.profile? i = some p ∧ c.Lists digest name p

/-- Two of the ranges have something to list under the same digest and name. -/
def Clash (c : Scanner) (g : Callgraph) (ranges : List NodeRange) : Prop :=
  ∃ r ∈ ranges, ∃ r' ∈ ranges, r ≠ r' ∧
    ∃ digest name p p', c.ListedIn g r digest name p ∧ c.ListedIn g r' digest name p'

section Range

variable {c : Scanner} {g : Callgraph} {range : NodeRange} {digest name : String} {p : Profile}

theorem listedIn_iff : c.ListedIn g range digest name p ↔
    p ∈ (range.nodes.flatMap (c.sightings g.scanGraph)).filterMap (·.constructAt? digest name) := by
  simp only [ListedIn, List.filterMap_flatMap, filterMap_sightings, List.mem_flatMap,
    Option.mem_toList,
    Option.bind_eq_some_iff, listed?_eq_some, ← and_assoc, exists_and_right, exists_eq_right]

theorem listedIn_of_found (within : range.Within g.size)
    (found : (c.found g.scanGraph range).constructAt? digest name = some p) :
    c.ListedIn g range digest name p := by
  have nothing : Findings.none.constructAt? digest name = none := rfl
  rw [found_eq c g.scanGraph within, Findings.constructAt?_seeAll, nothing, Option.or_none] at found
  exact listedIn_iff.2 (List.mem_of_getLast? found)

theorem found_of_listedIn (within : range.Within g.size)
    (listed : c.ListedIn g range digest name p) :
    ∃ q, (c.found g.scanGraph range).constructAt? digest name = some q := by
  rw [found_eq c g.scanGraph within, ← Option.isSome_iff_exists,
    Findings.constructAt?_isSome_seeAll]
  obtain ⟨x, member, same⟩ := List.mem_filterMap.1 (listedIn_iff.1 listed)
  exact ⟨x, member, by simp [same]⟩

/-- No two nodes of an imported graph are known as the same. -/
theorem node_unique {met : List Construct} {calls : List (String × String)}
    (imported : g.Imported met calls) {i j : Nat} (first : g.profile? i = some p)
    (second : g.profile? j = some p) : i = j := by
  have name {k : Nat} (here : g.profile? k = some p) : (g.identities.map (·.name))[k]? =
      some p.reported.name := by
    obtain ⟨node, at_, rfl⟩ := Option.map_eq_some_iff.1 here
    simp [Callgraph.identities, at_]
  have below : i < (g.identities.map (·.name)).length :=
    (List.getElem?_eq_some_iff.1 (name first)).1
  exact (List.getElem?_inj below imported.distinct).1 ((name first).trans (name second).symm)

end Range

/-- The findings of ranges, put together in this order. -/
def inOrder (c : Scanner) (g : Callgraph) (order : List NodeRange) : Findings :=
  merged (order.map (c.found g.scanGraph))

/-- What the order and the grouping of ranges have to do with the findings put together. -/
structure MergeLaws (c : Scanner) (g : Callgraph) (ranges : List NodeRange) : Prop where
  /-- The order shows nowhere but in the constructs that stand for the names. -/
  agrees : ∀ order : List NodeRange, order.Perm ranges →
    (c.inOrder g order).AgreesWith (c.inOrder g ranges)
  /-- Of the ranges that list a name of an archive, the last one stays. -/
  last : ∀ order : List NodeRange, order.Perm ranges → ∀ digest name,
    (c.inOrder g order).constructAt? digest name =
      (order.filterMap fun r => (c.found g.scanGraph r).constructAt? digest name).getLast?
  /-- The order shows at all just if two ranges list the same name of the same archive. -/
  same : (∀ order : List NodeRange, order.Perm ranges →
    (c.inOrder g order).reachable = (c.inOrder g ranges).reachable) ↔ ¬ c.Clash g ranges
  /-- The grouping shows nowhere. -/
  groups : ∀ groups : List (List NodeRange), merged (groups.map (c.inOrder g)) =
    c.inOrder g groups.flatten

section Ranges

variable {c : Scanner} {g : Callgraph} {order ranges : List NodeRange}

/-- Findings put together are those of the sightings of all ranges. -/
theorem inOrder_eq (within : ∀ r ∈ order, r.Within g.size) :
    c.inOrder g order = .seeAll .none
      ((order.flatMap NodeRange.nodes).flatMap (c.sightings g.scanGraph)) := by
  have rows : order.map (c.found g.scanGraph) =
      (order.map fun r => r.nodes.flatMap (c.sightings g.scanGraph)).map
        (Findings.seeAll .none) := by
    rw [List.map_map]
    exact List.map_congr_left fun r member => c.found_eq g.scanGraph (within r member)
  rw [inOrder, rows, merged, Findings.foldl_merge_seeAll, ← List.flatMap_def, List.flatMap_assoc]

theorem tidy_inOrder (within : ∀ r ∈ order, r.Within g.size) : (c.inOrder g order).Tidy := by
  rw [inOrder_eq within]
  exact Findings.tidy_seeAll Findings.tidy_none _

theorem constructAt?_inOrder (c : Scanner) (g : Callgraph) (order : List NodeRange)
    (digest name : String) :
    (c.inOrder g order).constructAt? digest name =
      (order.filterMap fun r => (c.found g.scanGraph r).constructAt? digest name).getLast? := by
  rw [inOrder, Findings.constructAt?_merged, List.filterMap_map]
  rfl

/-- A range that comes last has its constructs in the end. -/
theorem constructAt?_of_last {r : NodeRange} {digest name : String} {p : Profile}
    (found : (c.found g.scanGraph r).constructAt? digest name = some p) :
    (c.inOrder g (order ++ [r])).constructAt? digest name = some p := by
  rw [constructAt?_inOrder, List.filterMap_append]
  simp [found]

/-- A list in any order ends with the same element if its elements are all the same. -/
theorem getLast?_perm {α : Type} {xs ys : List α} (perm : xs.Perm ys)
    (alike : ∀ x ∈ xs, ∀ y ∈ xs, x = y) : xs.getLast? = ys.getLast? := by
  cases first : xs.getLast? with
  | none =>
      obtain rfl := List.getLast?_eq_none_iff.1 first
      rw [← perm.nil_eq, List.getLast?_nil]
  | some x =>
      cases second : ys.getLast? with
      | none =>
          obtain rfl := List.getLast?_eq_none_iff.1 second
          simp [perm.eq_nil] at first
      | some y =>
          exact congrArg some
            (alike x (List.mem_of_getLast? first) y (perm.mem_iff.2 (List.mem_of_getLast? second)))

/-- If no two ranges list the same name of the same archive, every order has the same constructs. -/
theorem constructAt?_perm (within : ∀ r ∈ ranges, r.Within g.size) (apart : ¬ c.Clash g ranges)
    (perm : order.Perm ranges) (digest name : String) :
    (c.inOrder g order).constructAt? digest name =
      (c.inOrder g ranges).constructAt? digest name := by
  rw [constructAt?_inOrder, constructAt?_inOrder]
  refine getLast?_perm (perm.filterMap _) fun p first q second => ?_
  obtain ⟨r, member, found⟩ := List.mem_filterMap.1 first
  obtain ⟨r', member', found'⟩ := List.mem_filterMap.1 second
  rw [perm.mem_iff] at member member'
  by_cases same : r = r'
  · subst same
    exact Option.some.inj (found.symm.trans found')
  · exact absurd ⟨r, member, r', member', same, digest, name, p, q,
      listedIn_of_found (within r member) found, listedIn_of_found (within r' member') found'⟩ apart

/-- If two ranges list the same name of the same archive, it matters which of them comes last. -/
theorem exists_order_of_clash {met : List Construct} {calls : List (String × String)}
    (imported : g.Imported met calls) (within : ∀ r ∈ ranges, r.Within g.size)
    (disjoint : ranges.Pairwise NodeRange.Apart) (clash : c.Clash g ranges) :
    ∃ order : List NodeRange, order.Perm ranges ∧
      (c.inOrder g order).reachable ≠ (c.inOrder g ranges).reachable := by
  obtain ⟨r, member, r', member', different, digest, name, p, p', listed, listed'⟩ := clash
  obtain ⟨q, found⟩ := found_of_listedIn (within r member) listed
  obtain ⟨q', found'⟩ := found_of_listedIn (within r' member') listed'
  -- the two constructs are those of different nodes
  have unlike : q ≠ q' := by
    rintro rfl
    obtain ⟨i, inside, here, -⟩ := listedIn_of_found (within r member) found
    obtain ⟨j, inside', there, -⟩ := listedIn_of_found (within r' member') found'
    obtain rfl := node_unique imported here there
    exact disjoint.forall member member' different i inside inside'
  have last {x : NodeRange} (among : x ∈ ranges) : (ranges.erase x ++ [x]).Perm ranges :=
    (List.perm_append_singleton x _).trans (List.perm_cons_erase among).symm
  by_cases same : (c.inOrder g (ranges.erase r ++ [r])).reachable = (c.inOrder g ranges).reachable
  · refine ⟨ranges.erase r' ++ [r'], last member', fun same' => unlike ?_⟩
    have ends : (c.inOrder g (ranges.erase r ++ [r])).constructAt? digest name = some q :=
      constructAt?_of_last found
    have ends' : (c.inOrder g (ranges.erase r' ++ [r'])).constructAt? digest name = some q' :=
      constructAt?_of_last found'
    rw [Findings.constructAt?, same, ← same', ← Findings.constructAt?, ends'] at ends
    exact (Option.some.inj ends).symm
  · exact ⟨ranges.erase r ++ [r], last member, same⟩

end Ranges

/-- **What order does to ranges put together.** Whatever ranges without a common node a graph is
divided into and in whatever order their findings are put together: the names, the touch points and
the numbers are the same, and grouping shows nowhere.  For a name that several ranges list, the
construct of the last of them stays, so every order gives the same just if there is no such name. -/
theorem merged_in_any_order (raw : RawGraph) (resolver : Resolver) (c : Scanner)
    (ranges : List NodeRange) (within : ∀ r ∈ ranges, r.Within (Callgraph.ofRaw raw resolver).size)
    (disjoint : ranges.Pairwise NodeRange.Apart) :
    (∀ r ∈ ranges, ∃ o, c.run (Callgraph.ofRaw raw resolver).scanGraph r .silent = .ok o ∧
      o.failure = none ∧ o.findings = c.found (Callgraph.ofRaw raw resolver).scanGraph r) ∧
      c.MergeLaws (Callgraph.ofRaw raw resolver) ranges := by
  have imported := Callgraph.Imported.ofRaw raw resolver
  generalize Callgraph.ofRaw raw resolver = g at *
  refine ⟨fun r member => ?_, ?_, fun order _ => c.constructAt?_inOrder g order, ⟨?_, ?_⟩,
    fun groups => ?_⟩
  · obtain ⟨low, order, high⟩ := within r member
    exact ⟨_, c.run_eq g.scanGraph low order high, rfl,
      (c.found_eq g.scanGraph ⟨low, order, high⟩).symm⟩
  · intro order perm
    rw [inOrder_eq fun r member => within r (perm.mem_iff.1 member), inOrder_eq within]
    exact Findings.agrees_of_perm ((perm.flatMap_right _).flatMap_right _)
  · intro same clash
    obtain ⟨order, perm, other⟩ := exists_order_of_clash imported within disjoint clash
    exact other (same order perm)
  · intro apart order perm
    exact (tidy_inOrder fun r member => within r (perm.mem_iff.1 member)).reachable_eq
      (tidy_inOrder within)
      (constructAt?_perm within apart perm)
  · rw [inOrder, List.map_flatten, ← Findings.merged_groups, List.map_map]
    rfl

/-! ### Two functions of one name -/

/-- The nodes of the callback in two ranges. -/
def halves : List NodeRange := [⟨0, 2⟩, ⟨2, 3⟩]

theorem merged_in_any_order_callback :
    (∀ r ∈ halves, r.Within (Callgraph.ofRaw callback oneArchive).size) ∧
      halves.Pairwise NodeRange.Apart ∧
      aroundMain.MergeLaws (Callgraph.ofRaw callback oneArchive) halves := by
  have size : (Callgraph.ofRaw callback oneArchive).size = 3 := by decide +kernel
  have within : ∀ r ∈ halves, r.Within (Callgraph.ofRaw callback oneArchive).size := by
    intro r member
    rw [size]
    rcases List.mem_cons.1 member with rfl | member
    · exact ⟨by decide, by decide, by decide⟩
    · obtain rfl := List.mem_singleton.1 member
      exact ⟨by decide, by decide, by decide⟩
  have disjoint : halves.Pairwise NodeRange.Apart := by
    refine List.pairwise_pair.2 ?_
    unfold NodeRange.Apart
    decide
  exact ⟨within, disjoint,
    (merged_in_any_order callback oneArchive aroundMain halves within disjoint).2⟩

/-- **Putting findings together does not commute.** The two ranges of the callback list the same
name, and each of them has the last word on it when it comes last. -/
theorem order_shows_in_callback :
    aroundMain.inOrder (Callgraph.ofRaw callback oneArchive) halves ≠
        aroundMain.inOrder (Callgraph.ofRaw callback oneArchive) halves.reverse ∧
      ((aroundMain.inOrder (Callgraph.ofRaw callback oneArchive) halves).constructAt?
        "1234" "lib.F").map
        (·.reported.name) = some "lib.F$bound" ∧
      ((aroundMain.inOrder (Callgraph.ofRaw callback oneArchive) halves.reverse).constructAt?
        "1234" "lib.F").map
        (·.reported.name) = some "lib.F" := by
  decide +kernel

end Scanner

end Exposure
