/-
# Proofs.Findings — findings are known by what was sighted

A scan comes upon reachable constructs and touch points, one after the other.
These are its sightings, and its findings are what comes of adding them all.
Two facts about `seeAll` carry what follows:

* findings put together are those of the sightings of both, the later ones last
  (`foldl_merge_seeAll`), so a row of sightings may be cut anywhere;
* every answer of the findings is an answer about the sightings: the last
  construct of an archive and a name (`constructAt?_seeAll`), the touch points of
  an archive (`mem_touchPointsAt_seeAll`) and the number of constructs without
  one (`unattributed_seeAll`).
-/
import Exposure.Proofs.Dicts
import Exposure.Scan

namespace Exposure

set_option autoImplicit false

/-- Something that a scan comes upon. -/
inductive Sighting where
  | construct (p : Profile)
  | touchPoint (t : TouchPoint)

namespace Sighting

/-- The construct of this name that an archive has by a sighting. -/
def constructAt? (digest name : String) : Sighting → Option Profile
  | .construct p => if p.isResolved ∧ p.digest = digest ∧ p.name = name then some p else none
  | .touchPoint _ => none

/-- A construct without an archive. -/
def isUnattributed : Sighting → Bool
  | .construct p => !p.isResolved
  | .touchPoint _ => false

end Sighting

namespace Findings

/-- The findings with one more sighting. -/
def see (f : Findings) : Sighting → Findings
  | .construct p => f.addReachable p
  | .touchPoint t => f.addTouchPoint t

/-- The findings with several more sightings, in their order. -/
def seeAll (f : Findings) (sightings : List Sighting) : Findings := sightings.foldl see f

@[simp] theorem seeAll_nil (f : Findings) : f.seeAll [] = f := rfl

@[simp] theorem seeAll_cons (f : Findings) (x : Sighting) (xs : List Sighting) :
    f.seeAll (x :: xs) = (f.see x).seeAll xs := rfl

theorem seeAll_append (f : Findings) (xs ys : List Sighting) :
    f.seeAll (xs ++ ys) = (f.seeAll xs).seeAll ys := List.foldl_append

/-! ## Putting findings together -/

theorem mem_joinTouchPoints {known more : List TouchPoint} {t : TouchPoint} :
    t ∈ joinTouchPoints known more ↔ t ∈ known ∨ t ∈ more := by
  induction more generalizing known with
  | nil => simp [joinTouchPoints]
  | cons first more ih =>
      have rest : joinTouchPoints known (first :: more) =
          joinTouchPoints (if known.contains first then known else known ++ [first]) more := rfl
      rw [rest, ih, List.mem_cons]
      by_cases old : first ∈ known
      · have among : t = first → t ∈ known := fun same => same ▸ old
        simp only [List.contains_eq_mem, old, decide_true, if_true]
        grind
      · simp [old, or_assoc]

theorem joinTouchPoints_singleton (known : List TouchPoint) (t : TouchPoint) :
    joinTouchPoints known [t] = if t ∈ known then known else known ++ [t] := by
  simp [joinTouchPoints]

/-- A touch point added last is added to the later list. -/
theorem joinTouchPoints_join (known more : List TouchPoint) (t : TouchPoint) :
    joinTouchPoints (joinTouchPoints known more) [t] =
      joinTouchPoints known (joinTouchPoints more [t]) := by
  rw [joinTouchPoints_singleton more]
  split
  case isTrue old => rw [joinTouchPoints_singleton, if_pos (mem_joinTouchPoints.2 (.inr old))]
  case isFalse => simp [joinTouchPoints]

theorem merge_none (f : Findings) : f.merge .none = f := by
  have reachable : f.reachable.mergeWith Dict.overlay .empty = f.reachable := rfl
  have touchPoints : f.touchPoints.mergeWith joinTouchPoints .empty = f.touchPoints := rfl
  simp [merge, none, reachable, touchPoints]

/-- A reachable construct added last is added to the later findings. -/
theorem merge_addReachable (f later : Findings) (p : Profile) :
    (f.merge later).addReachable p = f.merge (later.addReachable p) := by
  unfold addReachable
  split
  case isFalse => simp [merge, Nat.add_assoc]
  case isTrue =>
      simp only [merge, mk.injEq, and_true]
      apply Dict.ext_get?
      intro digest
      simp only [Dict.get?_alter, Dict.get?_mergeWith]
      split
      case isFalse => rfl
      case isTrue here =>
          subst here
          have upper (old new : Dict Profile) :
              (old.overlay new).insert p.name p = old.overlay (new.insert p.name p) := by
            apply Dict.ext_get?
            intro name
            simp only [Dict.get?_insert, Dict.get?_overlay]
            split <;> simp
          have alone (old : Dict Profile) : old.insert p.name p =
              old.overlay (Dict.empty.insert p.name p) := by
            rw [← upper]
            rfl
          cases f.reachable.get? p.digest <;> cases later.reachable.get? p.digest <;>
            simp [upper, ← alone]

/-- A touch point added last is added to the later findings. -/
theorem merge_addTouchPoint (f later : Findings) (t : TouchPoint) :
    (f.merge later).addTouchPoint t = f.merge (later.addTouchPoint t) := by
  unfold addTouchPoint
  split
  case isFalse => rfl
  case isTrue =>
      simp only [merge, mk.injEq, and_true, true_and]
      apply Dict.ext_get?
      intro digest
      simp only [Dict.get?_alter, Dict.get?_mergeWith]
      split
      case isFalse => rfl
      case isTrue here =>
          subst here
          have alone (known : List TouchPoint) :
              joinTouchPoints known [t] = joinTouchPoints known (joinTouchPoints [] [t]) :=
            joinTouchPoints_join known [] t
          cases f.touchPoints.get? t.library.digest <;>
            cases later.touchPoints.get? t.library.digest <;>
            simp [joinTouchPoints_join, ← alone]

theorem merge_seeAll (f later : Findings) (xs : List Sighting) :
    (f.merge later).seeAll xs = f.merge (later.seeAll xs) := by
  induction xs generalizing later with
  | nil => rfl
  | cons x xs ih =>
      rw [seeAll_cons, seeAll_cons, ← ih]
      cases x with
      | construct p => exact congrArg (seeAll · xs) (merge_addReachable f later p)
      | touchPoint t => exact congrArg (seeAll · xs) (merge_addTouchPoint f later t)

/-- **Findings of several rows of sightings, put together in order, are those of one row.** -/
theorem foldl_merge_seeAll (rows : List (List Sighting)) (f : Findings) :
    (rows.map (seeAll .none)).foldl merge f = f.seeAll rows.flatten := by
  induction rows generalizing f with
  | nil => rfl
  | cons row rows ih =>
      rw [List.map_cons, List.foldl_cons, ih, ← merge_seeAll, merge_none, List.flatten_cons,
        seeAll_append]

/-! ## What findings answer -/

/-- The reachable construct of this name that an archive has. -/
def constructAt? (f : Findings) (digest name : String) : Option Profile :=
  (f.reachable.get? digest).bind (·.get? name)

/-- The touch points of an archive. -/
def touchPointsAt (f : Findings) (digest : String) : List TouchPoint :=
  (f.touchPoints.get? digest).getD []

/-- A new construct takes the place of an older one of its archive and name. -/
theorem constructAt?_see (f : Findings) (x : Sighting) (digest name : String) :
    (f.see x).constructAt? digest name =
      (x.constructAt? digest name).or (f.constructAt? digest name) := by
  cases x with
  | touchPoint t =>
      have kept : (f.addTouchPoint t).reachable = f.reachable := by
        unfold addTouchPoint
        split <;> rfl
      simp [see, constructAt?, Sighting.constructAt?, kept]
  | construct p =>
      cases resolved : p.isResolved with
      | false => simp [see, addReachable, constructAt?, Sighting.constructAt?, resolved]
      | true =>
          simp only [see, addReachable, constructAt?, Sighting.constructAt?, resolved,
            if_true, true_and, Dict.get?_alter]
          by_cases archive : p.digest = digest
          · subst archive
            by_cases same : p.name = name <;>
              cases f.reachable.get? p.digest <;> simp [Dict.get?_insert, same]
          · simp [archive]

/-- The last construct sighted of an archive and a name stays. -/
theorem constructAt?_seeAll (f : Findings) (xs : List Sighting) (digest name : String) :
    (f.seeAll xs).constructAt? digest name =
      (xs.filterMap (·.constructAt? digest name)).getLast?.or (f.constructAt? digest name) := by
  induction xs generalizing f with
  | nil => rfl
  | cons x xs ih =>
      rw [seeAll_cons, ih, constructAt?_see, List.filterMap_cons]
      cases x.constructAt? digest name with
      | none => rfl
      | some p =>
          cases later : xs.filterMap (·.constructAt? digest name) <;> simp [List.getLast?_cons]

theorem mem_touchPointsAt_see {f : Findings} {x : Sighting} {digest : String} {t : TouchPoint} :
    t ∈ (f.see x).touchPointsAt digest ↔
      t ∈ f.touchPointsAt digest ∨
        x = .touchPoint t ∧ t.library.isResolved = true ∧ t.library.digest = digest := by
  cases x with
  | construct p =>
      have kept : (f.addReachable p).touchPoints = f.touchPoints := by
        unfold addReachable
        split <;> rfl
      simp [see, touchPointsAt, kept]
  | touchPoint u =>
      cases resolved : u.library.isResolved with
      | false =>
          have other : u = t → t.library.isResolved = false := fun same => same ▸ resolved
          simp only [see, addTouchPoint, resolved, Bool.false_eq_true, if_false,
            Sighting.touchPoint.injEq]
          grind
      | true =>
          simp only [see, addTouchPoint, touchPointsAt, resolved, if_true, Dict.get?_alter,
            Sighting.touchPoint.injEq]
          by_cases archive : u.library.digest = digest
          · subst archive
            simp only [if_true, Option.getD_some, mem_joinTouchPoints, List.mem_singleton]
            grind
          · simp only [archive, if_false]
            grind

/-- The touch points sighted of an archive are there. -/
theorem mem_touchPointsAt_seeAll {f : Findings} {xs : List Sighting} {digest : String}
    {t : TouchPoint} :
    t ∈ (f.seeAll xs).touchPointsAt digest ↔
      t ∈ f.touchPointsAt digest ∨
        .touchPoint t ∈ xs ∧ t.library.isResolved = true ∧ t.library.digest = digest := by
  induction xs generalizing f with
  | nil => simp
  | cons x xs ih =>
      rw [seeAll_cons, ih, mem_touchPointsAt_see, List.mem_cons,
        eq_comm (a := Sighting.touchPoint t)]
      grind

theorem unattributed_seeAll (f : Findings) (xs : List Sighting) :
    (f.seeAll xs).unattributed = f.unattributed + xs.countP (·.isUnattributed) := by
  induction xs generalizing f with
  | nil => rfl
  | cons x xs ih =>
      have one : (f.see x).unattributed = f.unattributed + if x.isUnattributed then 1 else 0 := by
        cases x with
        | construct p => cases resolved : p.isResolved <;> simp [see, addReachable,
            Sighting.isUnattributed, resolved]
        | touchPoint t =>
            cases resolved : t.library.isResolved <;>
              simp [see, addTouchPoint, Sighting.isUnattributed, resolved]
      rw [seeAll_cons, ih, one, List.countP_cons]
      omega

/-- The digests are those of either map. -/
theorem mem_digests_iff {f : Findings} {digest : String} :
    digest ∈ f.digests ↔ digest ∈ f.reachable.keys ∨ digest ∈ f.touchPoints.keys := by
  rw [digests, Dict.mem_keys_insertAll, Dict.keys_mapValues]

/-! ## Nothing is listed in vain or twice -/

/-- Every archive listed has something, and no touch point stands twice. -/
structure Tidy (f : Findings) : Prop where
  reachable : ∀ digest constructs, f.reachable.get? digest = some constructs →
    ∃ name, (constructs.get? name).isSome = true
  touchPoints : ∀ digest points, f.touchPoints.get? digest = some points → points ≠ []
  once : ∀ digest, (f.touchPointsAt digest).Nodup

theorem tidy_none : Tidy .none where
  reachable := by simp [none]
  touchPoints := by simp [none]
  once := by simp [touchPointsAt, none]

theorem Tidy.addReachable {f : Findings} (tidy : f.Tidy) (p : Profile) :
    (f.addReachable p).Tidy := by
  unfold Findings.addReachable
  split
  case isFalse => exact ⟨tidy.reachable, tidy.touchPoints, tidy.once⟩
  case isTrue =>
      refine ⟨fun digest constructs found => ?_, tidy.touchPoints, tidy.once⟩
      simp only [Dict.get?_alter] at found
      split at found
      case isTrue =>
          obtain rfl := Option.some.inj found
          exact ⟨p.name, by simp⟩
      case isFalse => exact tidy.reachable digest constructs found

theorem Tidy.addTouchPoint {f : Findings} (tidy : f.Tidy) (t : TouchPoint) :
    (f.addTouchPoint t).Tidy := by
  unfold Findings.addTouchPoint
  split
  case isFalse => exact tidy
  case isTrue =>
      refine ⟨tidy.reachable, fun digest points found => ?_, fun digest => ?_⟩
      · simp only [Dict.get?_alter] at found
        split at found
        case isTrue =>
            obtain rfl := Option.some.inj found
            exact List.ne_nil_of_mem (mem_joinTouchPoints.2 (.inr List.mem_cons_self))
        case isFalse => exact tidy.touchPoints digest points found
      · simp only [touchPointsAt, Dict.get?_alter]
        split
        case isTrue =>
            have before := tidy.once t.library.digest
            rw [touchPointsAt] at before
            rw [Option.getD_some, joinTouchPoints_singleton]
            split
            case isTrue => exact before
            case isFalse fresh =>
                refine List.nodup_append.2 ⟨before, by simp, fun u member v last same => fresh ?_⟩
                rwa [same, List.mem_singleton.1 last] at member
        case isFalse => exact tidy.once digest

theorem tidy_seeAll {f : Findings} (tidy : f.Tidy) (xs : List Sighting) : (f.seeAll xs).Tidy := by
  induction xs generalizing f with
  | nil => exact tidy
  | cons x xs ih =>
      cases x with
      | construct p => exact ih (tidy.addReachable p)
      | touchPoint t => exact ih (tidy.addTouchPoint t)

end Findings

end Exposure
