/-
# Proofs.TouchPointOrder — when the listing of touch points is determined

The touch points of an archive are a set.  They are listed by the names of their
two ends, in whatever order the set is gone through and by a sort that need not
keep the order of equals (`TouchPoint.Sorts`).  Names do not tell all calls
apart: a function and what is derived from it are different constructs under one
name.  So the listing is determined just if no two different calls that were
found have ends of the same names (`touchPoints_determined_iff`), and a stable
sort is of no help where there are such calls (`TouchPoint.eq_of_alike`).

Findings are those of any ranges, scanned to the end or interrupted, and put
together in any way (`Scanned`).  What they have of an archive are calls that touch
it, each of them once (`Scanned.touches`, `Scanned.nodup`).
-/
import Exposure.Proofs.Declared
import Exposure.Proofs.MergeOrder
import Exposure.Proofs.StableSort

namespace Exposure

set_option autoImplicit false

/-! ## The order of touch points -/

namespace TouchPoint

theorem eq_of_ends {t u : TouchPoint} (caller : t.caller = u.caller) (callee : t.callee = u.callee)
    (direction : t.direction = u.direction) : t = u := by
  cases t
  cases u
  simp_all

/-- The ends have the same names. -/
def Alike (t u : TouchPoint) : Prop := t.caller.name = u.caller.name ∧ t.callee.name = u.callee.name

instance (t u : TouchPoint) : Decidable (t.Alike u) := inferInstanceAs (Decidable (_ ∧ _))

variable {t u : TouchPoint}

theorem le_iff : le t u = true ↔
    t.caller.name < u.caller.name ∨ t.caller.name = u.caller.name ∧
      t.callee.name ≤ u.callee.name := by
  have below : compare t.caller.name u.caller.name = .lt ↔ t.caller.name < u.caller.name :=
    compareOfLessAndEq_eq_lt
  have same : compare t.caller.name u.caller.name = .eq ↔ t.caller.name = u.caller.name :=
    Std.compare_eq_iff_eq
  unfold le
  cases order : compare t.caller.name u.caller.name <;>
    simp only [order, reduceCtorEq, true_iff, false_iff] at below same <;> simp [below, same]

theorem le_trans (t u v : TouchPoint) (first : le t u = true) (second : le u v = true) :
    le t v = true := by
  rw [le_iff] at *
  rcases first with first | ⟨first, callee⟩ <;> rcases second with second | ⟨second, callee'⟩
  · exact .inl (String.lt_trans first second)
  · exact .inl (second ▸ first)
  · exact .inl (first ▸ second)
  · exact .inr ⟨first.trans second, String.le_trans callee callee'⟩

theorem le_total (t u : TouchPoint) : (le t u || le u t) = true := by
  rw [Bool.or_eq_true, le_iff, le_iff]
  grind

theorem le_self (t : TouchPoint) : le t t = true := by simpa using le_total t t

/-- Touch points that may stand in either order are alike. -/
theorem alike_iff : t.Alike u ↔ le t u = true ∧ le u t = true := by
  rw [Alike, le_iff, le_iff]
  constructor
  · rintro ⟨caller, callee⟩
    simp [caller, callee]
  · rintro ⟨below | ⟨caller, below⟩, above | ⟨caller', above⟩⟩
    · exact absurd above (String.lt_asymm below)
    · exact absurd below (caller' ▸ String.lt_irrefl _)
    · exact absurd above (caller ▸ String.lt_irrefl _)
    · exact ⟨caller, String.le_antisymm below above⟩

/-- A way to sort touch points, which may move those that are alike past one another. -/
structure Sorts (sort : List TouchPoint → List TouchPoint) : Prop where
  perm : ∀ points, (sort points).Perm points
  ordered : ∀ points, (sort points).Pairwise fun t u => le t u = true

theorem sorts_mergeSort : Sorts (·.mergeSort le) where
  perm points := List.mergeSort_perm points le
  ordered points := List.pairwise_mergeSort le_trans le_total points

/-- If no two touch points are alike, there is one way to sort them. -/
theorem Sorts.eq_of_perm {sort sort' : List TouchPoint → List TouchPoint} (sorts : Sorts sort)
    (sorts' : Sorts sort') {points points' : List TouchPoint} (perm : points.Perm points')
    (apart : ∀ t ∈ points, ∀ u ∈ points, t.Alike u → t = u) : sort points = sort' points' := by
  refine List.Perm.eq_of_pairwise (fun t u here there below above => ?_) (sorts.ordered points)
    (sorts'.ordered points') (((sorts.perm points).trans perm).trans (sorts'.perm points').symm)
  exact apart t ((sorts.perm points).mem_iff.1 here) u
    (perm.mem_iff.2 ((sorts'.perm points').mem_iff.1 there))
    (alike_iff.2 ⟨below, above⟩)

/-- Of touch points that are alike a stable sort shows which came first. -/
theorem eq_of_alike {points : List TouchPoint}
    (same : ∀ order : List TouchPoint, order.Perm points → order.mergeSort le = points.mergeSort le)
    (here : t ∈ points) (there : u ∈ points) (alike : t.Alike u) : t = u := by
  by_contra different
  obtain ⟨rest, split⟩ : ∃ rest, points.Perm (t :: u :: rest) :=
    ⟨_, (List.perm_cons_erase here).trans
      ((List.perm_cons_erase ((List.mem_erase_of_ne (Ne.symm different)).2 there)).cons t)⟩
  let pair (v : TouchPoint) : Bool := v = t ∨ v = u
  have kept (order : List TouchPoint) : (order.mergeSort le).filter pair = order.filter pair := by
    refine filter_mergeSort le_trans le_total fun v _ w _ first second => ?_
    obtain ⟨below, above⟩ := alike_iff.1 alike
    rcases of_decide_eq_true first with rfl | rfl <;> rcases of_decide_eq_true second with rfl | rfl
    exacts [le_self _, below, above, le_self _]
  have swapped : (u :: t :: rest).mergeSort le = (t :: u :: rest).mergeSort le :=
    (same _ ((List.Perm.swap t u rest).trans split.symm)).trans (same _ split.symm).symm
  have pairs := congrArg (List.filter pair) swapped
  rw [kept, kept] at pairs
  simp [pair, Ne.symm different] at pairs

end TouchPoint

/-! ## Calls -/

/-- The touch point is this call of the graph. -/
structure Callgraph.Makes (g : Callgraph) (call : Nat × Nat) (t : TouchPoint) : Prop where
  edge : call.2 ∈ g.callees call.1
  caller : g.profile? call.1 = some t.caller
  callee : g.profile? call.2 = some t.callee

/-- Two different calls are found to touch the archive, and their ends have the same names. -/
def Callgraph.SameNamedCalls (g : Callgraph) (f : Findings) (digest : String) : Prop :=
  ∃ t ∈ f.touchPointsAt digest, ∃ u ∈ f.touchPointsAt digest, t.Alike u ∧
    ∃ call call', g.Makes call t ∧ g.Makes call' u ∧ call ≠ call'

/-- **The listing depends on the set of touch points only.** Whatever is found to touch the archive
anywhere, if these are the same touch points, then they are listed the same, in whatever order they
are gone through and however they are sorted. -/
def Findings.Determined (f : Findings) (digest : String) : Prop :=
  ∀ (g : ScanGraph) (index : AppIndex) (f' : Findings), Scanned g index f' →
    (∀ t, t ∈ f'.touchPointsAt digest ↔ t ∈ f.touchPointsAt digest) →
    ∀ (sort : List TouchPoint → List TouchPoint) (order : List TouchPoint), TouchPoint.Sorts sort →
      order.Perm (f'.touchPointsAt digest) → sort order = f.touchPointsOf digest

/-- The name of the caller tells which way a call goes. -/
theorem Scanner.Touches.direction_eq {c : Scanner} {digest : String} {t : TouchPoint}
    (touches : c.Touches digest t) :
    t.direction = if c.apps.isApp t.caller.name then .appToLib else .libToApp := by
  cases touches with
  | intoLibrary app _ _ => rw [if_pos app]
  | outOfLibrary library _ _ =>
      have foreign := (counts_iff.1 library).1
      rw [if_neg]
      intro app
      rw [isLibrary_eq_false.2 app] at foreign
      cases foreign

/-- A touch point is no other call. -/
theorem Callgraph.Imported.makes_unique {g : Callgraph} {met : List Construct}
    {calls : List (String × String)} (imported : g.Imported met calls) {t : TouchPoint}
    {call call' : Nat × Nat} (first : g.Makes call t) (second : g.Makes call' t) : call = call' :=
  Prod.ext (Scanner.node_unique imported first.caller second.caller)
    (Scanner.node_unique imported first.callee second.callee)

namespace Scanned

variable {index : AppIndex} {f : Findings} {digest : String} {t u : TouchPoint}

theorem nodup {g : ScanGraph} (scanned : Scanned g index f) (digest : String) :
    (f.touchPointsAt digest).Nodup := by
  obtain ⟨xs, rfl, -⟩ := scanned.exists_sighted
  exact (Findings.tidy_seeAll Findings.tidy_none xs).once digest

/-- Names that tell the touch points apart determine the listing, and nothing else does. -/
theorem determined_iff {g : ScanGraph} (scanned : Scanned g index f) :
    f.Determined digest ↔
      ∀ t ∈ f.touchPointsAt digest, ∀ u ∈ f.touchPointsAt digest, t.Alike u → t = u := by
  constructor
  · intro determined t here u there
    refine TouchPoint.eq_of_alike (fun order perm => ?_) here there
    exact determined g index f scanned (fun _ => Iff.rfl) _ order TouchPoint.sorts_mergeSort perm
  · intro apart g' index' f' scanned' same sort order sorts perm
    have set : order.Perm (f.touchPointsAt digest) :=
      perm.trans ((List.perm_ext_iff_of_nodup (scanned'.nodup digest) (scanned.nodup digest)).2
        same)
    refine sorts.eq_of_perm TouchPoint.sorts_mergeSort set fun t here u there => ?_
    exact apart t (set.mem_iff.1 here) u (set.mem_iff.1 there)

/-- Ranges put together are scanned. -/
theorem inOrder (c : Scanner) (g : Callgraph) (order : List NodeRange) :
    Scanned g.scanGraph c.apps (c.inOrder g order) := by
  induction order using List.reverseRecOn with
  | nil => exact .nothing
  | append_singleton order range ih =>
      rw [Scanner.inOrder, Findings.merged, List.map_append, List.foldl_append]
      refine .merge ih ?_
      unfold Scanner.found
      split
      · rename_i ran
        exact .run c range .silent rfl ran
      · exact .nothing

variable {g : Callgraph} {met : List Construct} {calls : List (String × String)}

/-- What is found to touch an archive is a call that does. -/
theorem touches (scanned : Scanned g.scanGraph index f) (imported : g.Imported met calls)
    (member : t ∈ f.touchPointsAt digest) :
    (∃ c : Scanner, c.apps = index ∧ c.Touches digest t) ∧ ∃ call, g.Makes call t := by
  have known : ∀ i, ∀ j ∈ g.callees i, ∃ q, g.profile? j = some q := fun i j callee => by
    have inside : j < g.nodes.size := imported.callees_lt callee
    simp [Callgraph.profile?, inside]
  obtain ⟨xs, rfl, sighted⟩ := scanned.exists_sighted
  have nothing : t ∉ Findings.none.touchPointsAt digest := by
    simp [Findings.touchPointsAt, Findings.none]
  rw [Findings.mem_touchPointsAt_seeAll, or_iff_right nothing] at member
  obtain ⟨c, apps, i, here⟩ := sighted _ member.1
  obtain ⟨-, touches, j, edge, caller, callee⟩ :=
    (Scanner.touchPoint_mem_sightings (known i)).1 ⟨here, member.2⟩
  exact ⟨⟨c, apps, touches⟩, (i, j), edge, caller, callee⟩

/-- Touch points with the same names are told apart by their calls. -/
theorem sameNamedCalls_iff (scanned : Scanned g.scanGraph index f)
    (imported : g.Imported met calls) :
    g.SameNamedCalls f digest ↔
      ∃ t ∈ f.touchPointsAt digest, ∃ u ∈ f.touchPointsAt digest, t.Alike u ∧ t ≠ u := by
  constructor
  · rintro ⟨t, here, u, there, alike, call, call', makes, makes', different⟩
    refine ⟨t, here, u, there, alike, ?_⟩
    rintro rfl
    exact different (imported.makes_unique makes makes')
  · rintro ⟨t, here, u, there, alike, different⟩
    obtain ⟨⟨c, apps, touches⟩, call, makes⟩ := scanned.touches imported here
    obtain ⟨⟨c', apps', touches'⟩, call', makes'⟩ := scanned.touches imported there
    refine ⟨t, here, u, there, alike, call, call', makes, makes', ?_⟩
    rintro rfl
    -- the same call with the same direction is the same touch point
    have caller := Option.some.inj (makes.caller.symm.trans makes'.caller)
    have callee := Option.some.inj (makes.callee.symm.trans makes'.callee)
    have direction : t.direction = u.direction := by
      rw [touches.direction_eq, touches'.direction_eq, apps, apps', alike.1]
    exact different (TouchPoint.eq_of_ends caller callee direction)

end Scanned

/-- **The listing of touch points is determined just if names tell the calls apart.** Whatever scans
of an imported graph find to touch an archive is a call of the graph each.  The listing depends on
the set of these calls only just if no two of them have ends of the same names, and it takes no
unstable sort to show that.  It always does in a graph whose nodes all have different names. -/
theorem touchPoints_determined_iff (raw : RawGraph) (resolver : Resolver) (index : AppIndex)
    (f : Findings) (digest : String)
    (scanned : Scanned (Callgraph.ofRaw raw resolver).scanGraph index f) :
    (∀ t ∈ f.touchPointsAt digest, (∃ c : Scanner, c.apps = index ∧ c.Touches digest t) ∧
        ∃! call, (Callgraph.ofRaw raw resolver).Makes call t) ∧
      (f.Determined digest ↔ ¬ (Callgraph.ofRaw raw resolver).SameNamedCalls f digest) ∧
      ((∀ order : List TouchPoint, order.Perm (f.touchPointsAt digest) →
          order.mergeSort TouchPoint.le = f.touchPointsOf digest) ↔
        ¬ (Callgraph.ofRaw raw resolver).SameNamedCalls f digest) ∧
      ((∀ i j p q, (Callgraph.ofRaw raw resolver).profile? i = some p →
          (Callgraph.ofRaw raw resolver).profile? j = some q → p.name = q.name → i = j) →
        f.Determined digest) := by
  have imported := Callgraph.Imported.ofRaw raw resolver
  generalize Callgraph.ofRaw raw resolver = g at *
  have determined : f.Determined digest ↔ ¬ g.SameNamedCalls f digest := by
    rw [scanned.determined_iff, scanned.sameNamedCalls_iff imported]
    grind
  refine ⟨fun t member => ?_, determined, ⟨fun same => ?_, fun apart order perm => ?_⟩,
    fun distinct => ?_⟩
  · obtain ⟨touches, call, makes⟩ := scanned.touches imported member
    exact ⟨touches, call, makes, fun call' makes' => imported.makes_unique makes' makes⟩
  · rw [scanned.sameNamedCalls_iff imported]
    rintro ⟨t, here, u, there, alike, different⟩
    exact different (TouchPoint.eq_of_alike same here there alike)
  · exact determined.2 apart g.scanGraph index f scanned
      (fun _ => Iff.rfl) _ order TouchPoint.sorts_mergeSort perm
  · rw [determined]
    rintro ⟨t, -, u, -, alike, call, call', makes, makes', different⟩
    exact different (Prod.ext (distinct _ _ _ _ makes.caller makes'.caller alike.1)
      (distinct _ _ _ _ makes.callee makes'.callee alike.2))

/-! ### Two ways back -/

open Scanner (aroundMain oneArchive)

/-- A function of the application is called back from a library by two functions, and by a value
that stands for one of them. -/
def twoWaysBack : RawGraph where
  vertices := [⟨.go, .function, "app.main"⟩, ⟨.go, .function, "lib.F$bound"⟩,
    ⟨.go, .function, "lib.F"⟩, ⟨.go, .function, "lib.G"⟩]
  callees v := if v.name = "app.main" then [] else [⟨.go, .function, "app.main"⟩]

/-- What ranges of it show of touch points, put together in this order. -/
def waysBack (order : List NodeRange) : Findings :=
  aroundMain.inOrder (Callgraph.ofRaw twoWaysBack oneArchive) order

/-- Without the function itself what is found is listed in one way, with it in more than one. -/
theorem touchPoints_determined_iff_twoWaysBack :
    (∀ order, Scanned (Callgraph.ofRaw twoWaysBack oneArchive).scanGraph aroundMain.apps
      (waysBack order)) ∧ ((waysBack [⟨0, 2⟩, ⟨3, 4⟩]).touchPointsAt "1234").length = 2 ∧
      (waysBack [⟨0, 2⟩, ⟨3, 4⟩]).Determined "1234" ∧ ¬ (waysBack [⟨0, 4⟩]).Determined "1234" := by
  have scanned (order : List NodeRange) :
      Scanned (Callgraph.ofRaw twoWaysBack oneArchive).scanGraph aroundMain.apps (waysBack order) :=
    .inOrder aroundMain (Callgraph.ofRaw twoWaysBack oneArchive) order
  have imported := Callgraph.Imported.ofRaw twoWaysBack oneArchive
  have laws (order : List NodeRange) :=
    (touchPoints_determined_iff twoWaysBack oneArchive aroundMain.apps (waysBack order) "1234"
      (scanned order)).2.1
  refine ⟨scanned, by decide +kernel, ?_, ?_⟩
  · rw [laws, (scanned _).sameNamedCalls_iff imported]
    decide +kernel
  · rw [laws, (scanned _).sameNamedCalls_iff imported]
    decide +kernel

/-- **The listing is not determined by what it lists.** Ranges of the graph, put together one way
and another, have the same touch points and list them differently. -/
theorem listing_shows_order :
    (∀ t, t ∈ (waysBack [⟨0, 2⟩, ⟨2, 3⟩, ⟨3, 4⟩]).touchPointsAt "1234" ↔
      t ∈ (waysBack [⟨2, 3⟩, ⟨0, 2⟩, ⟨3, 4⟩]).touchPointsAt "1234") ∧
    ((waysBack [⟨0, 2⟩, ⟨2, 3⟩, ⟨3, 4⟩]).touchPointsOf "1234").map (·.caller.reported.name) =
      ["lib.F$bound", "lib.F", "lib.G"] ∧
    ((waysBack [⟨2, 3⟩, ⟨0, 2⟩, ⟨3, 4⟩]).touchPointsOf "1234").map (·.caller.reported.name) =
      ["lib.F", "lib.F$bound", "lib.G"] := by
  have asFound {order : List NodeRange}
      (ordered : ((waysBack order).touchPointsAt "1234").Pairwise fun t u =>
        TouchPoint.le t u = true) :
      (waysBack order).touchPointsOf "1234" = (waysBack order).touchPointsAt "1234" :=
    List.mergeSort_of_pairwise ordered
  refine ⟨fun t => List.Perm.mem_iff (by decide +kernel), ?_, ?_⟩
  · rw [asFound (by decide +kernel)]
    decide +kernel
  · rw [asFound (by decide +kernel)]
    decide +kernel

end Exposure
