/-
# Proofs.Declared — declared application code is not reported as library

A scan adds the sightings of some first nodes of its range: of all of them, or
of those before it was interrupted (`findings_scanFrom`).  The library side of a
sighting has a library name (`isLibrary_of_mem_sightings`), so this is true of
whatever scans find, put together in any way (`Scanned.exists_sightings`).

A node that was declared as application code has no library name
(`AppIndex.isApp_name`), and `declared_not_reported` follows.
-/
import Exposure.Proofs.AppNames
import Exposure.Proofs.Scanning

namespace Exposure

set_option autoImplicit false

/-- The library side of a sighting. -/
def Sighting.library : Sighting → Profile
  | .construct p => p
  | .touchPoint t => t.library

namespace Scanner

variable {c : Scanner} {g : ScanGraph}

/-! ## Sightings have a library side -/

theorem isLibrary_of_touchPoint? {caller callee : Profile} {t : TouchPoint}
    (found : c.touchPoint? (c.apps.isLibrary caller.name) caller callee = some t) :
    c.apps.isLibrary t.library.name = true := by
  unfold touchPoint? at found
  cases library : c.apps.isLibrary caller.name with
  | true =>
      rw [library] at found
      obtain ⟨-, rfl⟩ : c.apps.isApp callee.name = true ∧ _ = t := by simpa using found
      exact library
  | false =>
      rw [library] at found
      obtain ⟨⟨counted, -⟩, rfl⟩ :
          (c.apps.isLibrary callee.name = true ∧ c.blacklist.covers callee.name = false) ∧
            _ = t := by
        simpa using found
      exact counted

theorem isLibrary_of_mem_callSightings {caller : Profile} {callees : List Nat} {x : Sighting}
    (member : x ∈ c.callSightings g (c.apps.isLibrary caller.name) caller callees) :
    c.apps.isLibrary x.library.name = true := by
  induction callees with
  | nil => cases member
  | cons j rest ih =>
      rw [callSightings] at member
      cases known : g.profile j with
      | error reason => simp [known] at member
      | ok callee =>
          rw [known] at member
          rcases List.mem_append.1 member with first | later
          · obtain ⟨t, found, rfl⟩ : ∃ t, c.touchPoint? (c.apps.isLibrary caller.name) caller
                callee = some t ∧ .touchPoint t = x := by simpa using first
            exact isLibrary_of_touchPoint? found
          · exact ih later

theorem isLibrary_of_mem_sightings {i : Nat} {x : Sighting} (member : x ∈ c.sightings g i) :
    c.apps.isLibrary x.library.name = true := by
  unfold sightings at member
  cases known : g.profile i with
  | error reason => simp [known] at member
  | ok p =>
      simp only [known] at member
      split at member
      · cases member
      rcases List.mem_append.1 member with own | call
      · split at own
        · rename_i library
          obtain rfl := List.mem_singleton.1 own
          exact library
        · cases own
      · split at call
        · exact isLibrary_of_mem_callSightings call
        · cases call

/-! ## Interrupted scans -/

/-- A scan adds the sightings of the nodes that it came to. -/
theorem findings_scanFrom (c : Scanner) (g : ScanGraph) (range : NodeRange) :
    ∀ (left i : Nat) (o : Outcome), ∃ count ≤ left,
      (c.scanFrom g range left i o).findings =
        o.findings.seeAll ((List.range' i count).flatMap (c.sightings g))
  | 0, _, _ => ⟨0, Nat.le_refl 0, rfl⟩
  | left + 1, i, o => by
      -- one node, and then the rest of the range
      have further : ∀ o' : Outcome, o'.findings = o.findings.seeAll (c.sightings g i) →
          ∃ count ≤ left + 1, (c.scanFrom g range left (i + 1) o').findings =
            o.findings.seeAll ((List.range' i count).flatMap (c.sightings g)) := by
        intro o' node
        obtain ⟨count, within, rest⟩ := findings_scanFrom c g range left (i + 1) o'
        refine ⟨count + 1, by omega, ?_⟩
        rw [rest, node, List.range'_succ, List.flatMap_cons, Findings.seeAll_append]
      rw [scanFrom]
      simp only [scanNode_eq]
      split
      · cases look : o.watch.look with
        | mk interrupted watch =>
            cases interrupted with
            | true => exact ⟨0, Nat.zero_le _, rfl⟩
            | false =>
                refine further _ ?_
                cases c.obstacle? g i <;> rfl
      · refine further _ ?_
        cases c.obstacle? g i <;> rfl

end Scanner

/-! ## Findings of any scans -/

/-- What scans of a graph find for the application names of an index: one scan of any range and with
any blacklist, to its end or not, and any such findings put together. -/
inductive Scanned (g : ScanGraph) (index : AppIndex) : Findings → Prop where
  | nothing : Scanned g index .none
  | run (c : Scanner) (range : NodeRange) (watch : Watch) {o : Scanner.Outcome}
      (apps : c.apps = index)
      (ran : c.run g range watch = .ok o) : Scanned g index o.findings
  | merge {f later : Findings} (first : Scanned g index f) (second : Scanned g index later) :
      Scanned g index (f.merge later)

/-- Findings are those of sightings at nodes of the graph. -/
theorem Scanned.exists_sighted {g : ScanGraph} {index : AppIndex} {f : Findings}
    (scanned : Scanned g index f) :
    ∃ xs, f = .seeAll .none xs ∧ ∀ x ∈ xs, ∃ c : Scanner, c.apps = index ∧
      ∃ i, x ∈ c.sightings g i := by
  induction scanned with
  | nothing => exact ⟨[], rfl, by simp⟩
  | run c range watch apps ran =>
      unfold Scanner.run at ran
      split at ran
      · cases ran
      obtain rfl := Except.ok.inj ran
      obtain ⟨count, -, eq⟩ :=
        c.findings_scanFrom g range range.length.toNat range.low.toNat ⟨.none, none, [], watch⟩
      refine ⟨_, eq, fun x member => ?_⟩
      obtain ⟨i, -, sighted⟩ := List.mem_flatMap.1 member
      exact ⟨c, apps, i, sighted⟩
  | merge _ _ first second =>
      obtain ⟨xs, rfl, sighted⟩ := first
      obtain ⟨ys, rfl, sighted'⟩ := second
      refine ⟨xs ++ ys, ?_, fun x member => ?_⟩
      · rw [← Findings.merge_seeAll, Findings.merge_none, Findings.seeAll_append]
      · exact (List.mem_append.1 member).elim (sighted x) (sighted' x)

/-- Findings are those of sightings whose library sides have library names. -/
theorem Scanned.exists_sightings {g : ScanGraph} {index : AppIndex} {f : Findings}
    (scanned : Scanned g index f) :
    ∃ xs, f = .seeAll .none xs ∧ ∀ x ∈ xs, index.isLibrary x.library.name = true := by
  obtain ⟨xs, all, sighted⟩ := scanned.exists_sighted
  refine ⟨xs, all, fun x member => ?_⟩
  obtain ⟨c, rfl, i, here⟩ := sighted x member
  exact Scanner.isLibrary_of_mem_sightings here

/-- A reachable construct is listed under its own name, which is a library name. -/
theorem Scanned.isLibrary_of_constructAt? {g : ScanGraph} {index : AppIndex} {f : Findings}
    (scanned : Scanned g index f) {digest name : String} {q : Profile}
    (found : f.constructAt? digest name = some q) :
    q.name = name ∧ index.isLibrary name = true := by
  obtain ⟨xs, rfl, library⟩ := scanned.exists_sightings
  have empty : Findings.none.constructAt? digest name = none := by
    simp [Findings.none, Findings.constructAt?]
  rw [Findings.constructAt?_seeAll, empty, Option.or_none] at found
  obtain ⟨x, member, listed⟩ := List.mem_filterMap.1 (List.mem_of_getLast? found)
  cases x with
  | touchPoint t => cases listed
  | construct p =>
      simp only [Sighting.constructAt?, Option.ite_none_right_eq_some, Option.some.injEq] at listed
      obtain ⟨⟨-, -, rfl⟩, rfl⟩ := listed
      have named := library _ member
      exact ⟨rfl, named⟩

/-- The library side of a touch point has a library name. -/
theorem Scanned.isLibrary_of_touchPoint {g : ScanGraph} {index : AppIndex} {f : Findings}
    (scanned : Scanned g index f) {digest : String} {t : TouchPoint}
    (member : t ∈ f.touchPointsAt digest) : index.isLibrary t.library.name = true := by
  obtain ⟨xs, rfl, library⟩ := scanned.exists_sightings
  rcases Findings.mem_touchPointsAt_seeAll.1 member with before | ⟨sighted, -⟩
  · simp [Findings.none, Findings.touchPointsAt] at before
  · exact library (.touchPoint t) sighted

/-- **Declared application code is never reported as library.**  A node whose reported name is in
the application set belongs to the application by its effective name, whatever synthetic parts were
removed from it.  No findings list that name or that node among the reachable constructs of an
archive, or have it as the library side of a touch point. -/
theorem declared_not_reported (raw : RawGraph) (resolver : Resolver) (apps : ConstructSet) {i : Nat}
    {p : Profile} (node : (Callgraph.ofRaw raw resolver).profile? i = some p)
    (declared : apps.hasName p.reported.name = true) :
    (AppIndex.ofSet apps).isApp p.name = true ∧
      ∀ f, Scanned (Callgraph.ofRaw raw resolver).scanGraph (.ofSet apps) f → ∀ digest,
        f.constructAt? digest p.name = none ∧ (∀ name, f.constructAt? digest name ≠ some p) ∧
          ∀ t ∈ f.touchPointsAt digest, t.library.name ≠ p.name ∧ t.library ≠ p := by
  have described := (Callgraph.Imported.ofRaw raw resolver).described i p node
  have app := AppIndex.isApp_name described declared
  have noLibrary : ¬ (AppIndex.ofSet apps).isLibrary p.name = true := by
    simp [AppIndex.isLibrary, app]
  refine ⟨app, fun f scanned digest => ⟨?_, fun name listed => ?_, fun t member => ?_⟩⟩
  · cases found : f.constructAt? digest p.name with
    | none => rfl
    | some q => exact absurd (scanned.isLibrary_of_constructAt? found).2 noLibrary
  · obtain ⟨rfl, library⟩ := scanned.isLibrary_of_constructAt? listed
    exact noLibrary library
  · have library := scanned.isLibrary_of_touchPoint member
    refine ⟨fun same => noLibrary (same ▸ library), ?_⟩
    rintro rfl
    exact noLibrary library

/-- A library that makes an object of a nested class, whose constructor has the enclosing object as
a synthetic parameter. -/
def nestedCall : RawGraph where
  vertices := [⟨.java, .method, "lib.Pool.run()"⟩]
  callees _ := [⟨.java, .constructor, "app.Outer$Inner(app.Outer,int)"⟩]

/-- The constructor is declared with its synthetic parameter. -/
def declaredInner : ConstructSet :=
  .ofList [⟨.java, .constructor, "app.Outer$Inner(app.Outer,int)"⟩]

/-- A scan for touch points with the constructor. -/
def aroundInner : Scanner := ⟨⟨[]⟩, .ofSet declaredInner, true⟩

theorem declared_not_reported_nested : ∃ p o,
    (Callgraph.ofRaw nestedCall Scanner.oneArchive).profile? 1 = some p ∧
      p.reported.name = "app.Outer$Inner(app.Outer,int)" ∧ p.name = "app.Outer$Inner(int)" ∧
      aroundInner.run (Callgraph.ofRaw nestedCall Scanner.oneArchive).scanGraph
        ⟨0, 2⟩ .silent = .ok o ∧
      (o.findings.constructAt? "1234" "lib.Pool.run()").isSome = true ∧
      (o.findings.touchPointsAt "1234").length = 1 ∧
      o.findings.constructAt? "1234" "app.Outer$Inner(int)" = none ∧
      ∀ t ∈ o.findings.touchPointsAt "1234", t.library.name ≠ "app.Outer$Inner(int)" := by
  have node : ((Callgraph.ofRaw nestedCall Scanner.oneArchive).profile? 1).map
      (fun p => (p.reported.name, p.name)) =
      some ("app.Outer$Inner(app.Outer,int)", "app.Outer$Inner(int)") := by decide +kernel
  obtain ⟨p, here, names⟩ := Option.map_eq_some_iff.1 node
  obtain ⟨reported, name⟩ := Prod.mk.inj names
  have scan : ((aroundInner.run (Callgraph.ofRaw nestedCall Scanner.oneArchive).scanGraph
      ⟨0, 2⟩ .silent).toOption.map
      fun o => ((o.findings.constructAt? "1234" "lib.Pool.run()").isSome,
        (o.findings.touchPointsAt "1234").length)) = some (true, 1) := by decide +kernel
  obtain ⟨-, never⟩ := declared_not_reported nestedCall Scanner.oneArchive declaredInner here
    (by rw [reported]; decide +kernel)
  cases ran : aroundInner.run (Callgraph.ofRaw nestedCall Scanner.oneArchive).scanGraph
    ⟨0, 2⟩ .silent with
  | error e =>
      rw [ran] at scan
      cases scan
  | ok o =>
      rw [ran] at scan
      obtain ⟨listed, points⟩ := Prod.mk.inj (Option.some.inj scan)
      obtain ⟨absent, -, sides⟩ := never o.findings (.run aroundInner _ _ rfl ran) "1234"
      rw [name] at absent
      exact ⟨p, o, here, reported, name, rfl, listed, points, absent, fun t member =>
        name ▸ (sides t member).1⟩

end Exposure
