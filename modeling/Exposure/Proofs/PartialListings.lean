/-
# Proofs.PartialListings — what a cancelled enumeration has found

An enumeration looks at its watch at every 4096th node it visits, and fails at the
first look that finds the watch gone off.  Whether it comes to that look is a matter
of how many nodes it visits when nothing disturbs it (`Enumerator.visits`), since up
to the look it goes the same way (`Progress.Paced`).  So an enumeration that does not
fail lists what it lists undisturbed, and one whose watch has gone off beforehand
fails exactly if there are 4096 nodes to visit.

What it has found when it fails is a beginning of the paths that the walk meets, and
fewer than the limit, which would have ended the walk otherwise
(`Progress.Gathered`).  `cancelled_listing` puts this together.
-/
import Exposure.Proofs.Enumeration

namespace Exposure

set_option autoImplicit false

/-! ## The walk of an enumeration -/

namespace Progress

/-- A walk that has not begun. -/
def start (watch : Watch) : Progress := ⟨[], 0, false, watch, none⟩

end Progress

namespace Enumerator

/-- The progress that an enumeration makes; there is none from a source that does not reach the
target, if that is known beforehand. -/
def progress (e : Enumerator) (a : Adjacency) (source target : Nat) (watch : Watch) : Progress :=
  match e.strategy with
  | .direct => walk a (fun _ => true) target e.limit (a.size + 1) [] source (.start watch)
  | .pruned =>
    if (backwardClosure a target).contains source then
      walk a (backwardClosure a target).contains target e.limit (a.size + 1) [] source
        (.start watch)
    else .start watch

/-- The number of nodes that an undisturbed enumeration visits. -/
def visits (e : Enumerator) (a : Adjacency) (source target : Nat) : Nat :=
  (e.progress a source target .silent).visits

theorem paths_eq_listing (e : Enumerator) (a : Adjacency) (source target : Nat) (watch : Watch) :
    e.paths a source target watch =
      ((e.progress a source target watch).listing, (e.progress a source target watch).watch) := by
  unfold paths progress
  cases e.strategy with
  | direct => rfl
  | pruned =>
      simp only
      split
      · rfl
      · simp [Progress.start, Progress.listing]

end Enumerator

/-! ## Walks under a watch -/

namespace Progress

/-- The walk `p` under a watch beside the undisturbed walk `q`.  The two go together until a look
finds the watch gone off, which is not before `q` has visited the node of that look. -/
inductive Paced (watch : Watch) (p q : Progress) : Prop where
  | interrupted {quiet : Nat} (looks : watch.quiet = some quiet)
      (stopped : p.stopped = some watch.cause)
      (done : p.done = true) (far : lookInterval * (quiet + 1) ≤ q.visits)
  | together (same : q = { p with watch := .silent }) (running : p.stopped = none)
      (looks : p.watch = ⟨watch.quiet.map (· - p.visits / lookInterval), watch.cause⟩)
      (near : ∀ quiet, watch.quiet = some quiet → p.visits < lookInterval * (quiet + 1))

namespace Paced

variable {watch : Watch} {p q : Progress}

theorem start (watch : Watch) : Paced watch (.start watch) (.start .silent) := by
  refine .together rfl rfl ?_ fun quiet _ => ?_
  · obtain ⟨quiet, cause⟩ := watch
    cases quiet <;> simp [Progress.start]
  · simp [Progress.start, lookInterval]

theorem visit_silent (p : Progress) :
    ({ p with watch := .silent } : Progress).visit =
      { p with watch := .silent, visits := p.visits + 1 } := by
  rcases visit_cases { p with watch := .silent } with ⟨-, loud, -⟩ | ⟨-, -, eq⟩ | ⟨-, eq⟩
  · cases loud
  · exact eq
  · exact eq

/-- The walks visit a node together, unless the watch has gone off. -/
theorem visit (running : p.stopped = none)
    (looks : p.watch = ⟨watch.quiet.map (· - p.visits / lookInterval), watch.cause⟩)
    (near : ∀ quiet, watch.quiet = some quiet → p.visits < lookInterval * (quiet + 1)) :
    Paced watch p.visit { p with watch := .silent, visits := p.visits + 1 } := by
  have cases := visit_cases p
  simp only [lookInterval] at cases looks near
  rcases cases with ⟨due, loud, eq⟩ | ⟨due, calm, eq⟩ | ⟨idle, eq⟩ <;> rw [eq]
  · -- all looks that find the watch quiet are behind
    rw [looks] at loud
    obtain ⟨quiet, known, none⟩ := Option.map_eq_some_iff.1 loud
    refine .interrupted known (by rw [looks]) rfl ?_
    show 4096 * (quiet + 1) ≤ p.visits + 1
    omega
  · refine .together rfl running ?_ fun quiet known => ?_
    · cases known : watch.quiet with
      | none => simp [looks, known]
      | some quiet =>
          have one : quiet - p.visits / 4096 - 1 = quiet - (p.visits + 1) / 4096 := by omega
          simp [looks, known, lookInterval, one]
    · have before := near quiet known
      have more : quiet - p.visits / 4096 ≠ 0 := fun none => calm (by simp [looks, known, none])
      show p.visits + 1 < 4096 * (quiet + 1)
      omega
  · refine .together rfl running ?_ fun quiet known => ?_
    · have same : (p.visits + 1) / 4096 = p.visits / 4096 := by omega
      show p.watch = ⟨watch.quiet.map (· - (p.visits + 1) / 4096), watch.cause⟩
      rw [same]
      exact looks
    · have before := near quiet known
      show p.visits + 1 < 4096 * (quiet + 1)
      omega

theorem enter (paced : Paced watch p q) (target : Nat) (limit : Int) (stack : List Nat) :
    Paced watch (p.enter target limit stack) (q.enter target limit stack) := by
  cases paced with
  | interrupted looks stopped done far =>
      rw [enter_of_done done]
      refine .interrupted looks stopped done (Nat.le_trans far ?_)
      cases qDone : q.done with
      | true => rw [enter_of_done qDone]
      | false => rw [visits_enter qDone]; exact Nat.le_succ _
  | together same running looks near =>
      have alike : q.done = p.done := by rw [same]
      by_cases done : p.done = true
      · rw [enter_of_done done, enter_of_done (alike.trans done)]
        exact .together same running looks near
      have isOpen : p.done = false := Bool.eq_false_iff.2 done
      have qVisit : q.visit = { p with watch := .silent, visits := p.visits + 1 } := by
        rw [same, visit_silent]
      rcases visit running looks near with ⟨known, stopped, doneNow, far⟩ |
        ⟨both, running, looks, near⟩
      · have stays : p.enter target limit stack = p.visit := by
          simp [Progress.enter, isOpen, doneNow]
        have count : (q.enter target limit stack).visits = p.visits + 1 := by
          rw [visits_enter (alike.trans isOpen), same]
        rw [stays]
        exact .interrupted known stopped doneNow (far.trans_eq count.symm)
      · have together : q.visit = { p.visit with watch := .silent } := qVisit.trans both
        simp only [Progress.enter, alike, isOpen, together, Bool.false_eq_true, if_false]
        split
        · exact .together rfl running looks near
        split
        · exact .together rfl running looks near
        · exact .together rfl running looks near

theorem walk (paced : Paced watch p q) {a : Adjacency} {allowed : Nat → Bool} {target : Nat}
    {limit : Int} (fuel : Nat) (stack : List Nat) (n : Nat) :
    Paced watch (walk a allowed target limit fuel stack n p)
      (walk a allowed target limit fuel stack n q) := by
  rw [walk_eq_foldl, walk_eq_foldl]
  generalize trail a allowed target fuel stack n = row
  induction row generalizing p q with
  | nil => exact paced
  | cons stack row ih => exact ih (paced.enter target limit stack)

end Paced

end Progress

/-! ## What has been found -/

namespace Progress

/-- Of the paths met a beginning has been found, all of them unless the walk is done.  A walk that
goes on or was interrupted has found fewer than its limit. -/
structure Gathered (limit : Int) (met : List Path) (p : Progress) : Prop where
  found : p.found.reverse <+: met
  all : p.done = false → p.found.reverse = met
  halted : p.stopped ≠ none → p.done = true
  few : p.done = false ∨ p.stopped ≠ none → 0 < limit → (p.found.length : Int) < limit

namespace Gathered

variable {limit : Int} {met : List Path} {p : Progress}

theorem start (limit : Int) (watch : Watch) : Gathered limit [] (.start watch) where
  found := by simp [Progress.start]
  all _ := rfl
  halted stopped := absurd rfl stopped
  few _ positive := positive

/-- A walk that is done has found what it has, whatever else there is to meet. -/
theorem append_of_done (gathered : p.Gathered limit met) (done : p.done = true) (more : List Path) :
    p.Gathered limit (met ++ more) where
  found := gathered.found.trans (List.prefix_append met more)
  all isOpen := by simp [done] at isOpen
  halted := gathered.halted
  few := gathered.few

theorem visit (gathered : p.Gathered limit met) (isOpen : p.done = false) :
    p.visit.Gathered limit met := by
  have unbroken : p.stopped = none := by
    by_contra stopped
    simp [gathered.halted stopped] at isOpen
  have few := gathered.few (.inl isOpen)
  rcases visit_cases p with ⟨-, -, eq⟩ | ⟨-, -, eq⟩ | ⟨-, eq⟩ <;> rw [eq]
  · exact ⟨gathered.found, fun isOpen => Bool.noConfusion isOpen, fun _ => rfl, fun _ => few⟩
  · exact ⟨gathered.found, gathered.all, gathered.halted, fun _ => few⟩
  · exact ⟨gathered.found, gathered.all, gathered.halted, fun _ => few⟩

theorem record (gathered : p.Gathered limit met) (isOpen : p.done = false) (path : Path) :
    (p.record limit path).Gathered limit (met ++ [path]) := by
  have all : (p.record limit path).found.reverse = met ++ [path] := by
    rw [Progress.record, List.reverse_cons, gathered.all isOpen]
  have unbroken : p.stopped = none := by
    by_contra stopped
    simp [gathered.halted stopped] at isOpen
  refine ⟨all ▸ List.prefix_refl _, fun _ => all, fun stopped => absurd unbroken stopped,
    fun goesOn positive => ?_⟩
  rcases goesOn with still | stopped
  · simp only [Progress.record, isOpen, Bool.false_or, Bool.and_eq_false_iff,
      decide_eq_false_iff_not] at still
    exact Int.not_le.1 (still.resolve_left (not_not_intro positive))
  · exact absurd unbroken stopped

theorem enter (gathered : p.Gathered limit met) {target : Nat} (stack : List Nat) :
    (p.enter target limit stack).Gathered limit (met ++ metAt target [stack]) := by
  rcases p.enter_cases target limit stack with
    ⟨done, eq⟩ | ⟨isOpen, done, eq⟩ | ⟨isOpen, stillOpen, top, eq⟩ |
    ⟨isOpen, -, other, eq⟩ <;> rw [eq]
  · exact gathered.append_of_done done _
  · exact (gathered.visit isOpen).append_of_done done _
  · rw [metAt_cons_of_top top]
    exact (gathered.visit isOpen).record stillOpen _
  · rw [metAt_cons_of_not_top other, List.append_nil]
    exact gathered.visit isOpen

end Gathered

end Progress

/-! ## Listings -/

namespace Enumerator

variable {a : Adjacency} {source target : Nat}

theorem paced (e : Enumerator) (a : Adjacency) (source target : Nat) (watch : Watch) :
    (e.progress a source target watch).Paced watch (e.progress a source target .silent) := by
  have begun := Progress.Paced.start watch
  unfold progress
  cases e.strategy with
  | direct => exact begun.walk _ _ _
  | pruned =>
      simp only
      split
      · exact begun.walk _ _ _
      · exact begun

/-- An enumeration that is not interrupted makes the progress of the undisturbed one. -/
theorem progress_silent {e : Enumerator} {watch : Watch}
    (unbroken : (e.progress a source target watch).stopped = none) :
    e.progress a source target .silent =
      { e.progress a source target watch with watch := .silent } := by
  cases e.paced a source target watch with
  | interrupted looks stopped done far =>
      rw [unbroken] at stopped
      cases stopped
  | together same running looks near => exact same

/-- An enumeration is interrupted exactly if undisturbed it comes to a look that finds the watch
gone off. -/
theorem interrupted_iff (e : Enumerator) (watch : Watch) :
    (e.progress a source target watch).stopped ≠ none ↔
      ∃ quiet, watch.quiet = some quiet ∧
        Progress.lookInterval * (quiet + 1) ≤ e.visits a source target := by
  cases e.paced a source target watch with
  | interrupted looks stopped done far =>
      exact ⟨fun _ => ⟨_, looks, far⟩, fun _ => by simp [stopped]⟩
  | together same running looks near =>
      refine ⟨fun stopped => absurd running stopped, fun ⟨quiet, known, far⟩ => ?_⟩
      have before := near quiet known
      rw [visits, same] at far
      exact absurd before (Nat.not_lt.2 far)

theorem stopped_eq (e : Enumerator) (watch : Watch)
    (stopped : (e.progress a source target watch).stopped ≠ none) :
    (e.progress a source target watch).stopped = some watch.cause := by
  cases e.paced a source target watch with
  | interrupted looks stopped done far => exact stopped
  | together same running looks near => exact absurd running stopped

theorem gathered (e : Enumerator) (valid : a.Valid) (sourceBelow : source < a.size)
    (targetBelow : target < a.size) (watch : Watch) :
    (e.progress a source target watch).Gathered e.limit (simplePaths a source target) := by
  have walked (allowed : Nat → Bool) :
      (walk a allowed target e.limit (a.size + 1) [] source (.start watch)).Gathered e.limit
        (pathsFrom a allowed target (a.size + 1) [] source) := by
    rw [← List.nil_append (pathsFrom a allowed target (a.size + 1) [] source)]
    exact walk_meets (motive := fun met p => p.Gathered e.limit met)
      (fun _ _ stack gathered => gathered.enter stack) _ _ _
      (Progress.Gathered.start e.limit watch)
  unfold progress
  cases e.strategy with
  | direct => exact walked _
  | pruned =>
      simp only
      split
      · rw [simplePaths, ← pathsFrom_backwardClosure valid targetBelow sourceBelow]
        exact walked _
      · rename_i unmarked
        have apart : ¬ a.Reaches source target :=
          mt (mem_backwardClosure valid sourceBelow targetBelow).2 (by simpa using unmarked)
        rw [simplePaths, pathsFrom_eq_nil_of_not_reaches apart]
        exact .start e.limit watch

/-- What is found under any watch is a part of what there is. -/
theorem subperm_unlimited (e : Enumerator) (valid : a.Valid) (sourceBelow : source < a.size)
    (targetBelow : target < a.size) (watch : Watch) {unlimited : Enumerator}
    (free : unlimited.limit ≤ 0) :
    (e.progress a source target watch).listing.paths.Subperm
      (unlimited.allPaths a source target .silent).paths := by
  have everything : keptOf unlimited.limit (simplePaths a source target) =
      simplePaths a source target := by
    rw [keptOf, if_neg (Int.not_lt.2 free)]
  have beginning := (e.gathered valid sourceBelow targetBelow watch).found.sublist
  rw [allPaths_eq unlimited valid sourceBelow targetBelow rfl, everything]
  have mine : (e.progress a source target watch).listing.paths.Perm
      (e.progress a source target watch).found.reverse :=
    (List.mergeSort_perm _ _).trans (List.reverse_perm _).symm
  have whole : ((simplePaths a source target).reverse.mergeSort Path.le).Perm
      (simplePaths a source target) :=
    (List.mergeSort_perm _ _).trans (List.reverse_perm _)
  exact mine.subperm.trans (beginning.subperm.trans whole.symm.subperm)

end Enumerator

/-- **A cancelled enumeration lists a sound part.**  Whatever the watch: without a failure the
listing is that of the undisturbed enumeration.  With a failure, which is what the watch says, it is
a sorted part of what there is to list without a limit, and has fewer paths than the limit.  The
enumeration fails exactly if undisturbed it visits the node at which the watch is first found gone
off; if it has gone off beforehand, that is the 4096th. -/
theorem cancelled_listing (e : Enumerator) {a : Adjacency} {source target : Nat} (valid : a.Valid)
    (sourceBelow : source < a.size) (targetBelow : target < a.size) (watch : Watch) :
    ((e.allPaths a source target watch).failure = none →
      e.allPaths a source target watch = e.allPaths a source target .silent) ∧
    ((e.allPaths a source target watch).failure ≠ none →
      (e.allPaths a source target watch).failure = some (.interrupted watch.cause) ∧
      ((e.allPaths a source target watch).paths.Pairwise fun p q => p = q ∨ List.Lex (· < ·) p q) ∧
      (∀ unlimited : Enumerator, unlimited.limit ≤ 0 →
        (e.allPaths a source target watch).paths.Subperm
          (unlimited.allPaths a source target .silent).paths) ∧
      (0 < e.limit → ((e.allPaths a source target watch).paths.length : Int) < e.limit)) ∧
    ((e.allPaths a source target watch).failure ≠ none ↔
      ∃ quiet, watch.quiet = some quiet ∧ 4096 * (quiet + 1) ≤ e.visits a source target) ∧
    ∀ cause, (e.allPaths a source target (.ringing cause)).failure ≠ none ↔
      4096 ≤ e.visits a source target := by
  have listed (watch : Watch) : e.allPaths a source target watch =
      (e.progress a source target watch).listing := by
    rw [e.allPaths_of_lt sourceBelow targetBelow, e.paths_eq_listing]
  have fails (watch : Watch) : (e.allPaths a source target watch).failure ≠ none ↔
      (e.progress a source target watch).stopped ≠ none := by
    rw [listed, Progress.listing, ne_eq, Option.map_eq_none_iff]
  refine ⟨fun unbroken => ?_, fun failed => ⟨?_, ?_, fun unlimited free => ?_, fun positive => ?_⟩,
    ?_, fun cause => ?_⟩
  · have whole := Enumerator.progress_silent
      (not_not.1 (mt (fails watch).2 (not_not_intro unbroken)))
    rw [listed, listed, whole]
    rfl
  · rw [listed, Progress.listing, e.stopped_eq watch ((fails watch).1 failed)]
    rfl
  · rw [listed]
    exact Path.sorted_mergeSort _
  · rw [listed]
    exact e.subperm_unlimited valid sourceBelow targetBelow watch free
  · have few := (e.gathered valid sourceBelow targetBelow watch).few
      (.inr ((fails watch).1 failed)) positive
    rwa [listed, Progress.listing, List.length_mergeSort]
  · rw [fails, e.interrupted_iff]
    rfl
  · rw [fails, e.interrupted_iff]
    simp [Watch.ringing, Progress.lookInterval]

/-- A chain in which every node but the first calls the next one twice. -/
def doubledChain : Adjacency :=
  .ofLists [[1], [2, 2], [3, 3], [4, 4], [5, 5], [6, 6], [7, 7], [8, 8], [9, 9], [10, 10],
    [11, 11], [12, 12], []]

/-- From the first node of the chain there are 4096 nodes to visit, from the second one there is one
less. -/
theorem cancelled_listing_doubledChain :
    doubledChain.Valid ∧
      (Enumerator.allPaths ⟨.direct, 0⟩ doubledChain (0 : Nat) (12 : Nat)
        (.ringing .cancelled)).failure =
        some (.interrupted .cancelled) ∧
      (Enumerator.allPaths ⟨.direct, 0⟩ doubledChain (0 : Nat) (12 : Nat)
        (.ringing .cancelled)).paths.Subperm
        (Enumerator.allPaths ⟨.pruned, 0⟩ doubledChain (0 : Nat) (12 : Nat) .silent).paths ∧
      Enumerator.allPaths ⟨.direct, 0⟩ doubledChain (1 : Nat) (12 : Nat) (.ringing .cancelled) =
        Enumerator.allPaths ⟨.direct, 0⟩ doubledChain (1 : Nat) (12 : Nat) .silent := by
  have valid : doubledChain.Valid := valid_ofLists (by decide)
  have enough : Enumerator.visits ⟨.direct, 0⟩ doubledChain 0 12 = 4096 := by decide +kernel
  have oneLess : Enumerator.visits ⟨.direct, 0⟩ doubledChain 1 12 = 4095 := by decide +kernel
  obtain ⟨-, partly, -, fails⟩ :=
    cancelled_listing ⟨.direct, 0⟩ valid (by decide : 0 < 13) (by decide : 12 < 13)
      (.ringing .cancelled)
  obtain ⟨wholly, -, -, fails'⟩ :=
    cancelled_listing ⟨.direct, 0⟩ valid (by decide : 1 < 13) (by decide : 12 < 13)
      (.ringing .cancelled)
  obtain ⟨failure, -, inside, -⟩ := partly ((fails .cancelled).2 (Nat.le_of_eq enough.symm))
  refine ⟨valid, failure, inside ⟨.pruned, 0⟩ (by decide),
    wholly (not_not.1 (mt (fails' .cancelled).1 ?_))⟩
  rw [oneLess]
  decide

end Exposure
