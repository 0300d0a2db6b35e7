/-
# Proofs.Shortest — what the search for shortest paths meets

The search goes backward from the target, level by level.  Whatever it has met
has a simple path to the target that goes on along the path of a node met before
(`Sound`).  A level meets the callers of its nodes and gives them paths of one
more node (`shortestLevel_spec`).  So between two levels (`Levelled`) no path met
has more nodes than those of the level, and a node with a shorter path has all
its callers met, with paths longer by at most one.  Following a walk backward
from the target, this bounds the path of its first node (`Levelled.near`).

The search is over when a level is empty or has a node to stop at (`Settled`).
The main results are `isPath_of_mem_shortestPathsTo`, `length_le_of_isWalk`, that
no walk is shorter than the path met, and `exists_stop_shortestPathsTo`: of the
nodes to stop at, one is met exactly if one reaches the target.
-/
import Exposure.Path.Shortest
import Exposure.Proofs.Reach

namespace Exposure

set_option autoImplicit false

/-- A node has been met. -/
def Met (known : List (Nat × Path)) (c : Nat) : Prop := (known.lookup c).isSome = true

/-- Every node met has a simple path to the target through nodes met, which goes on as the path of
its second node does. -/
structure Sound (a : Adjacency) (target : Nat) (known : List (Nat × Path)) : Prop where
  path : ∀ c p, known.lookup c = some p → a.IsPath c target p
  within : ∀ c p, known.lookup c = some p → ∀ x ∈ p, Met known x
  tail : ∀ c p, known.lookup c = some p → c ≠ target → ∃ n q, p = c :: n :: q ∧
    known.lookup n = some (n :: q)
  below : ∀ c, Met known c → c < a.size
  keys : (known.map (·.1)).Nodup

section Level

variable {a : Adjacency} {target : Nat} {stops : Nat → Bool}

theorem mem_keys_iff {known : List (Nat × Path)} {c : Nat} : c ∈ known.map (·.1) ↔ Met known c := by
  simp only [Met, List.lookup_isSome_iff, List.mem_map, beq_iff_eq]
  exact ⟨fun ⟨e, member, same⟩ => ⟨e, member, same.symm⟩, fun ⟨e, member, same⟩ =>
    ⟨e, member, same.symm⟩⟩

theorem Sound.length_le {known : List (Nat × Path)} (sound : Sound a target known) :
    known.length ≤ a.size := by
  have nodes := length_le_of_lt sound.keys fun c member => sound.below c (mem_keys_iff.1 member)
  simpa using nodes

theorem lookup_snoc {known : List (Nat × Path)} {c : Nat} (fresh : ¬ Met known c) (path : Path)
    (x : Nat) : (known ++ [(c, path)]).lookup x = if x = c then some path else known.lookup x := by
  rw [List.lookup_append]
  by_cases here : x = c
  · subst here
    have unmet : known.lookup x = none := Option.not_isSome_iff_eq_none.1 fresh
    simp [unmet]
  · have other : (x == c) = false := by simpa using here
    simp [here, List.lookup_cons, other]

/-- Whatever is known stays known. -/
theorem lookup_snoc_of_eq_some {known : List (Nat × Path)} {c x : Nat} (fresh : ¬ Met known c)
    (path : Path) {p : Path} (found : known.lookup x = some p) :
    (known ++ [(c, path)]).lookup x = some p := by
  have other : ¬ x = c := by
    rintro rfl
    exact fresh (by simp [Met, found])
  rw [lookup_snoc fresh, if_neg other]
  exact found

theorem met_snoc {known : List (Nat × Path)} {c : Nat} (fresh : ¬ Met known c) (path : Path)
    (x : Nat) : Met (known ++ [(c, path)]) x ↔ Met known x ∨ x = c := by
  unfold Met
  rw [lookup_snoc fresh]
  by_cases here : x = c <;> simp [here]

/-- A caller that was not met gets a path of its own. -/
theorem Sound.snoc (valid : a.Valid) {known : List (Nat × Path)} {n c : Nat} {path : Path}
    (sound : Sound a target known) (here : known.lookup n = some path) (caller : c ∈ a.callers n)
    (fresh : ¬ Met known c) : Sound a target (known ++ [(c, c :: path)]) := by
  have nMet : Met known n := by simp [Met, here]
  have nBelow := sound.below n nMet
  have cBelow := valid.callers_lt n nBelow c caller
  have call : a.Calls c n := (valid.transposed c cBelow n nBelow).2 caller
  refine ⟨fun x p found => ?_, fun x p found y member => ?_, fun x p found other => ?_,
    fun x met => ?_, ?_⟩
  · rw [lookup_snoc fresh] at found
    split at found
    · rename_i same
      obtain rfl := Option.some.inj found
      rw [same]
      exact (sound.path n path here).cons call fun member =>
        fresh (sound.within n path here c member)
    · exact sound.path x p found
  · rw [met_snoc fresh]
    rw [lookup_snoc fresh] at found
    split at found
    · obtain rfl := Option.some.inj found
      rcases List.mem_cons.1 member with rfl | member
      · exact .inr rfl
      · exact .inl (sound.within n path here y member)
    · exact .inl (sound.within x p found y member)
  · rw [lookup_snoc fresh] at found
    split at found
    · rename_i same
      obtain rfl := Option.some.inj found
      obtain ⟨q, rfl⟩ := (sound.path n path here).exists_eq_cons
      exact ⟨n, q, by rw [same], lookup_snoc_of_eq_some fresh _ here⟩
    · obtain ⟨m, q, longer, rest⟩ := sound.tail x p found other
      exact ⟨m, q, longer, lookup_snoc_of_eq_some fresh _ rest⟩
  · rcases (met_snoc fresh _ x).1 met with met | rfl
    · exact sound.below x met
    · exact cBelow
  · rw [List.map_append, List.nodup_append]
    refine ⟨sound.keys, by simp, fun x member y new => ?_⟩
    obtain rfl : y = c := by simpa using new
    rintro rfl
    exact fresh (mem_keys_iff.1 member)

/-! ## One level -/

/-- The search in the middle of level `d`, which began with `known`. -/
structure Growing (a : Adjacency) (target : Nat) (stops : Nat → Bool) (d : Nat)
    (known : List (Nat × Path)) (f : Frontier) : Prop where
  sound : Sound a target f.known
  met : ∀ x, Met f.known x ↔ Met known x ∨ x ∈ f.next
  halted : f.halted = true ↔ ∃ x ∈ f.next, stops x = true
  count : f.known.length = known.length + f.next.length
  stays : ∀ x p, known.lookup x = some p → f.known.lookup x = some p
  deep : ∀ x ∈ f.next, ∃ p, f.known.lookup x = some p ∧ p.length = d + 2

variable {d : Nat}

/-- What is known after part of a level was known before, or it is new and one node longer. -/
theorem Growing.lookup_cases {known : List (Nat × Path)} {f : Frontier}
    (growing : Growing a target stops d known f) {x : Nat} {p : Path}
    (found : f.known.lookup x = some p) :
    known.lookup x = some p ∨ x ∈ f.next ∧ p.length = d + 2 := by
  rcases (growing.met x).1 (by simp [Met, found]) with old | new
  · obtain ⟨q, before⟩ := Option.isSome_iff_exists.1 old
    obtain rfl := Option.some.inj ((growing.stays x q before).symm.trans found)
    exact .inl before
  · obtain ⟨q, now, depth⟩ := growing.deep x new
    obtain rfl := Option.some.inj (now.symm.trans found)
    exact .inr ⟨new, depth⟩

/-- A level before its first node. -/
theorem Growing.start {known : List (Nat × Path)} (sound : Sound a target known) :
    Growing a target stops d known ⟨[], known, false⟩ :=
  ⟨sound, by simp, by simp, by simp, fun _ _ found => found, by simp⟩

theorem Growing.meet (valid : a.Valid) {known : List (Nat × Path)} {f : Frontier} {n c : Nat}
    {path : Path} (growing : Growing a target stops d known f) (here : f.known.lookup n = some path)
    (depth : path.length = d + 1) (caller : c ∈ a.callers n) :
    Growing a target stops d known (f.meet stops path c) ∧
      (∀ x p, f.known.lookup x = some p → (f.meet stops path c).known.lookup x = some p) ∧
      Met (f.meet stops path c).known c := by
  unfold Frontier.meet
  split
  · rename_i met
    exact ⟨growing, fun _ _ found => found, met⟩
  · rename_i fresh
    have stays : ∀ x p, f.known.lookup x = some p →
        (f.known ++ [(c, c :: path)]).lookup x = some p :=
      fun x p => lookup_snoc_of_eq_some fresh _
    refine ⟨⟨growing.sound.snoc valid here caller fresh, fun x => ?_, ?_, ?_, ?_, fun x new => ?_⟩,
      stays, ?_⟩
    · rw [met_snoc fresh, growing.met]
      simp [or_assoc]
    · simp only [Bool.or_eq_true, growing.halted, List.mem_append, List.mem_singleton, or_and_right,
        exists_or, exists_eq_left]
    · simp [growing.count, Nat.add_assoc]
    · exact fun x p found => stays x p (growing.stays x p found)
    · rcases List.mem_append.1 new with old | now
      · obtain ⟨p, found, deep⟩ := growing.deep x old
        exact ⟨p, stays x p found, deep⟩
      · obtain rfl := List.mem_singleton.1 now
        exact ⟨x :: path, by simp [lookup_snoc fresh], by simp [depth]⟩
    · exact (met_snoc fresh _ c).2 (.inr rfl)

/-- All callers of one node of the level. -/
theorem Growing.meetAll (valid : a.Valid) {known : List (Nat × Path)} {n : Nat} {path : Path}
    (depth : path.length = d + 1) :
    ∀ (cs : List Nat), (∀ c ∈ cs, c ∈ a.callers n) → ∀ {f : Frontier},
      Growing a target stops d known f → f.known.lookup n = some path →
      Growing a target stops d known (cs.foldl (Frontier.meet stops path) f) ∧
        (∀ x p, f.known.lookup x = some p →
          (cs.foldl (Frontier.meet stops path) f).known.lookup x = some p) ∧
        ∀ c ∈ cs, Met (cs.foldl (Frontier.meet stops path) f).known c
  | [], _, f, growing, _ => ⟨growing, fun _ _ found => found, by simp⟩
  | c :: cs, callers, f, growing, here => by
      obtain ⟨grown, stays, met⟩ := growing.meet valid here depth (callers c List.mem_cons_self)
      obtain ⟨final, staysMore, metMore⟩ := meetAll valid depth cs
        (fun x hx => callers x (List.mem_cons_of_mem c hx)) grown (stays n path here)
      refine ⟨final, fun x p found => staysMore x p (stays x p found), fun x hx => ?_⟩
      rcases List.mem_cons.1 hx with rfl | hx
      · obtain ⟨p, found⟩ := Option.isSome_iff_exists.1 met
        simp [Met, staysMore x p found]
      · exact metMore x hx

/-- The search after the callers of one node. -/
def Frontier.meetCallers (a : Adjacency) (stops : Nat → Bool) (f : Frontier) (n : Nat) : Frontier :=
  (a.callers n).foldl (Frontier.meet stops ((f.known.lookup n).getD [])) f

theorem Growing.meetCallers (valid : a.Valid) {known : List (Nat × Path)} {f : Frontier} {n : Nat}
    {path : Path} (growing : Growing a target stops d known f) (here : known.lookup n = some path)
    (depth : path.length = d + 1) :
    Growing a target stops d known (f.meetCallers a stops n) ∧
      (∀ x, Met f.known x → Met (f.meetCallers a stops n).known x) ∧
      ∀ c ∈ a.callers n, Met (f.meetCallers a stops n).known c := by
  have now := growing.stays n path here
  obtain ⟨grown, stays, metCallers⟩ := growing.meetAll valid depth (a.callers n) (fun _ h => h) now
  simp only [Frontier.meetCallers, now, Option.getD_some]
  refine ⟨grown, fun x metX => ?_, metCallers⟩
  obtain ⟨p, found⟩ := Option.isSome_iff_exists.1 metX
  simp [Met, stays x p found]

/-- The nodes of the level, one after the other. -/
theorem Growing.meetLevel (valid : a.Valid) {known : List (Nat × Path)} :
    ∀ (level : List Nat) {f : Frontier}, Growing a target stops d known f →
      (∀ n ∈ level, ∃ path, known.lookup n = some path ∧ path.length = d + 1) →
      Growing a target stops d known (level.foldl (Frontier.meetCallers a stops) f) ∧
        (∀ x, Met f.known x → Met (level.foldl (Frontier.meetCallers a stops) f).known x) ∧
        ∀ n ∈ level, ∀ c ∈ a.callers n, Met (level.foldl (Frontier.meetCallers a stops) f).known c
  | [], f, growing, _ => ⟨growing, fun _ met => met, by simp⟩
  | n :: level, f, growing, depths => by
      obtain ⟨path, here, depth⟩ := depths n List.mem_cons_self
      obtain ⟨grown, stays, metCallers⟩ := growing.meetCallers valid here depth
      obtain ⟨final, staysMore, metMore⟩ := grown.meetLevel valid level fun x hx =>
        depths x (List.mem_cons_of_mem n hx)
      rw [List.foldl_cons]
      refine ⟨final, fun x metX => staysMore x (stays x metX), fun x hx c caller => ?_⟩
      rcases List.mem_cons.1 hx with rfl | hx
      · exact staysMore c (metCallers c caller)
      · exact metMore x hx c caller

/-- A whole level: it meets the callers of its nodes and nothing else. -/
theorem shortestLevel_spec (valid : a.Valid) (stops : Nat → Bool) {known : List (Nat × Path)}
    {level : List Nat} (sound : Sound a target known)
    (depths : ∀ n ∈ level, ∃ path, known.lookup n = some path ∧ path.length = d + 1) :
    Growing a target stops d known (shortestLevel a stops level known) ∧
      ∀ n ∈ level, ∀ c ∈ a.callers n, Met (shortestLevel a stops level known).known c := by
  obtain ⟨grown, -, metCallers⟩ := (Growing.start sound).meetLevel valid level depths
  exact ⟨grown, metCallers⟩

/-! ## Level after level -/

/-- The search between two levels; the nodes of level `d` have paths of `d` calls. -/
structure Levelled (a : Adjacency) (target : Nat) (stops : Nat → Bool) (d : Nat) (level : List Nat)
    (known : List (Nat × Path)) : Prop where
  sound : Sound a target known
  start : known.lookup target = some [target]
  shallow : ∀ c p, known.lookup c = some p → p.length ≤ d + 1
  front : ∀ c p, known.lookup c = some p → (c ∈ level ↔ p.length = d + 1)
  level_met : ∀ c ∈ level, Met known c
  closed : ∀ c p, known.lookup c = some p → c ∉ level → ∀ x ∈ a.callers c,
    ∃ q, known.lookup x = some q ∧ q.length ≤ p.length + 1
  unstopped : ∀ c, Met known c → c ∉ level → stops c = false

namespace Levelled

variable {level : List Nat} {known : List (Nat × Path)}

theorem depths (levelled : Levelled a target stops d level known) :
    ∀ n ∈ level, ∃ path, known.lookup n = some path ∧ path.length = d + 1 := by
  intro n member
  obtain ⟨path, here⟩ := Option.isSome_iff_exists.1 (levelled.level_met n member)
  exact ⟨path, here, (levelled.front n path here).1 member⟩

/-- What a walk no longer than the level, or any walk once a level is empty, says of its first
node. -/
theorem near (valid : a.Valid) (levelled : Levelled a target stops d level known) :
    ∀ {q : Path} {x : Nat}, a.IsWalk x target q → x < a.size → (level = [] ∨ q.length ≤ d + 1) →
      ∃ p, known.lookup x = some p ∧ p.length ≤ q.length
  | [], x, walk, _, _ => by simpa using walk.head
  | [y], x, walk, _, _ => by
      obtain rfl : y = x := by simpa using walk.head
      obtain rfl : y = target := by simpa using walk.last
      exact ⟨[y], levelled.start, Nat.le_refl _⟩
  | z :: y :: q, x, walk, below, reach => by
      obtain rfl : z = x := by simpa using walk.head
      obtain ⟨call, chain⟩ := List.isChain_cons_cons.1 walk.chain
      have yBelow := valid.callees_lt z below y call
      have rest : a.IsWalk y target (y :: q) := ⟨rfl, by simpa using walk.last, chain⟩
      obtain ⟨p, here, short⟩ := near valid levelled rest yBelow (reach.imp_right (by simp; omega))
      have inner : y ∉ level := by
        intro member
        rcases reach with rfl | within
        · cases member
        · have depth := (levelled.front y p here).1 member
          simp only [List.length_cons] at within short
          omega
      obtain ⟨p', there, longer⟩ :=
        levelled.closed y p here inner z ((valid.transposed z below y yBelow).1 call)
      refine ⟨p', there, ?_⟩
      simp only [List.length_cons] at short ⊢
      omega

/-- No walk is shorter than the path met. -/
theorem least (valid : a.Valid) (levelled : Levelled a target stops d level known) {x : Nat}
    {p q : Path} (found : known.lookup x = some p) (walk : a.IsWalk x target q) :
    p.length ≤ q.length := by
  by_cases within : q.length ≤ d + 1
  · obtain ⟨p', there, short⟩ :=
      levelled.near valid walk (levelled.sound.below x (by simp [Met, found])) (.inr within)
    obtain rfl := Option.some.inj (there.symm.trans found)
    exact short
  · have shallow := levelled.shallow x p found
    omega

/-- The next level, if there is nothing to stop at in this one. -/
theorem nextLevel (valid : a.Valid) (levelled : Levelled a target stops d level known)
    (going : ∀ n ∈ level, stops n = false) :
    Levelled a target stops (d + 1) (shortestLevel a stops level known).next
      (shortestLevel a stops level known).known := by
  obtain ⟨grown, metCallers⟩ := shortestLevel_spec valid stops levelled.sound levelled.depths
  have shallow : ∀ c p, (shortestLevel a stops level known).known.lookup c = some p →
      p.length ≤ d + 2 := by
    intro c p found
    rcases grown.lookup_cases found with old | ⟨-, depth⟩
    · have before := levelled.shallow c p old
      omega
    · omega
  refine ⟨grown.sound, grown.stays _ _ levelled.start, shallow, fun c p found => ?_,
    fun c new => ?_, fun c p found inner x caller => ?_, fun c met inner => ?_⟩
  · rcases grown.lookup_cases found with old | ⟨new, depth⟩
    · have before := levelled.shallow c p old
      refine ⟨fun new => ?_, fun depth => by omega⟩
      obtain ⟨p', now, deep⟩ := grown.deep c new
      obtain rfl := Option.some.inj (now.symm.trans found)
      exact deep
    · exact ⟨fun _ => depth, fun _ => new⟩
  · exact (grown.met c).2 (.inr new)
  · have old := (grown.lookup_cases found).resolve_right fun new => inner new.1
    by_cases now : c ∈ level
    · have depth := (levelled.front c p old).1 now
      obtain ⟨q, there⟩ := Option.isSome_iff_exists.1 (metCallers c now x caller)
      have deep := shallow x q there
      exact ⟨q, there, by omega⟩
    · obtain ⟨q, there, longer⟩ := levelled.closed c p old now x caller
      exact ⟨q, grown.stays x q there, longer⟩
  · have old := ((grown.met c).1 met).resolve_right inner
    by_cases now : c ∈ level
    · exact going c now
    · exact levelled.unstopped c old now

/-- After a level without a node to stop at, there is fuel for the levels that are left. -/
theorem goes_on (valid : a.Valid) (levelled : Levelled a target stops d level known) {fuel : Nat}
    (further : ¬ (shortestLevel a stops level known).halted = true)
    (enough : a.size - known.length ≤ fuel) :
    (∀ n ∈ (shortestLevel a stops level known).next, stops n = false) ∧
      a.size - (shortestLevel a stops level known).known.length +
        (if (shortestLevel a stops level known).next = [] then 0 else 1) ≤ fuel := by
  obtain ⟨grown, -⟩ := shortestLevel_spec valid stops levelled.sound levelled.depths
  constructor
  · intro x new
    by_contra isStop
    exact further (grown.halted.2 ⟨x, new, by simpa using isStop⟩)
  · have room := grown.sound.length_le
    have count := grown.count
    split
    · omega
    · rename_i more
      have := List.length_pos_iff.2 more
      omega

end Levelled

/-- A finished search: its last level is empty or has a node to stop at. -/
structure Settled (a : Adjacency) (target : Nat) (stops : Nat → Bool) (d : Nat) (level : List Nat)
    (known : List (Nat × Path)) : Prop extends Levelled a target stops d level known where
  ended : level = [] ∨ ∃ s ∈ level, stops s = true

/-- The levels end with everything settled: each one but the last meets a new node. -/
theorem Levelled.shortestLevels (valid : a.Valid) :
    ∀ (fuel d : Nat) (level : List Nat) (known : List (Nat × Path)),
      Levelled a target stops d level known → (∀ n ∈ level, stops n = false) →
      a.size - known.length + (if level = [] then 0 else 1) ≤ fuel →
      ∃ d' last, Settled a target stops d' last (shortestLevels a stops fuel level known)
  | 0, d, level, known, levelled, _, enough => by
      obtain rfl : level = [] := by
        by_contra some
        simp [some] at enough
      exact ⟨d, [], levelled, .inl rfl⟩
  | _ + 1, d, [], known, levelled, _, _ => ⟨d, [], levelled, .inl rfl⟩
  | fuel + 1, d, n :: level, known, levelled, going, enough => by
      obtain ⟨grown, -⟩ := shortestLevel_spec valid stops levelled.sound levelled.depths
      have next := levelled.nextLevel valid going
      simp only [Exposure.shortestLevels]
      split
      · rename_i halted
        exact ⟨d + 1, _, next, .inr (grown.halted.1 halted)⟩
      · rename_i further
        simp only [reduceCtorEq, if_false] at enough
        obtain ⟨goingOn, enoughLeft⟩ :=
          levelled.goes_on valid further (Nat.le_of_succ_le_succ enough)
        exact shortestLevels valid fuel (d + 1) _ _ next goingOn enoughLeft

end Level

/-- The search before its first level. -/
theorem Levelled.start_target {a : Adjacency} {target : Nat} (below : target < a.size)
    (stops : Nat → Bool) : Levelled a target stops 0 [target] [(target, [target])] := by
  have here : ∀ x p, [(target, [target])].lookup x = some p ↔ x = target ∧ p = [target] := by
    intro x p
    have only := lookup_snoc (by simp [Met] : ¬ Met [] target) [target] x
    simp only [List.nil_append, List.lookup_nil] at only
    rw [only]
    split
    · rename_i same
      simp [same, eq_comm]
    · rename_i other
      simp [other]
  have met : ∀ x, Met [(target, [target])] x → x = target := by
    intro x met
    obtain ⟨p, found⟩ := Option.isSome_iff_exists.1 met
    exact ((here x p).1 found).1
  have sound : Sound a target [(target, [target])] := by
    refine ⟨fun c p found => ?_, fun c p found x member => ?_, fun c p found other => ?_,
      fun c isMet => ?_, by simp⟩
    · obtain ⟨rfl, rfl⟩ := (here c p).1 found
      exact .single c
    · obtain ⟨rfl, rfl⟩ := (here c p).1 found
      obtain rfl := List.mem_singleton.1 member
      simp [Met, found]
    · exact absurd ((here c p).1 found).1 other
    · rw [met c isMet]
      exact below
  refine ⟨sound, (here _ _).2 ⟨rfl, rfl⟩, fun c p found => ?_, fun c p found => ?_,
    fun c member => ?_, fun c p found outside => ?_, fun c isMet outside => ?_⟩
  · obtain ⟨-, rfl⟩ := (here c p).1 found
    exact Nat.le_refl _
  · obtain ⟨rfl, rfl⟩ := (here c p).1 found
    simp
  · obtain rfl := List.mem_singleton.1 member
    simp [Met]
  · obtain ⟨rfl, -⟩ := (here c p).1 found
    exact absurd (List.mem_singleton_self c) outside
  · exact absurd (List.mem_singleton.2 (met c isMet)) outside

theorem settled_shortestPathsTo {a : Adjacency} (valid : a.Valid) {target : Nat}
    (below : target < a.size) (stops : Nat → Bool) :
    ∃ d level, Settled a target stops d level (shortestPathsTo a target stops) := by
  have levelled := Levelled.start_target below stops
  unfold shortestPathsTo
  simp only
  split
  · rename_i isStop
    exact ⟨0, [target], levelled, .inr ⟨target, List.mem_singleton_self _, isStop⟩⟩
  · rename_i going
    refine levelled.shortestLevels valid _ _ _ _ (by simpa using going) ?_
    simp only [List.length_singleton, List.cons_ne_nil, if_false]
    omega

/-- Every path of the search is a simple path to the target. -/
theorem isPath_of_mem_shortestPathsTo {a : Adjacency} (valid : a.Valid) {target n : Nat} {p : Path}
    {stops : Nat → Bool} (below : target < a.size)
    (found : (shortestPathsTo a target stops).lookup n = some p) : a.IsPath n target p := by
  obtain ⟨d, level, settled⟩ := settled_shortestPathsTo valid below stops
  exact settled.sound.path n p found

/-- No walk to the target is shorter than the path of the search. -/
theorem length_le_of_isWalk {a : Adjacency} (valid : a.Valid) {target n : Nat} {p q : Path}
    {stops : Nat → Bool} (below : target < a.size)
    (found : (shortestPathsTo a target stops).lookup n = some p) (walk : a.IsWalk n target q) :
    p.length ≤ q.length := by
  obtain ⟨d, level, settled⟩ := settled_shortestPathsTo valid below stops
  exact settled.least valid found walk

/-- Of the nodes to stop at, one is met exactly if one reaches the target. -/
theorem exists_stop_shortestPathsTo {a : Adjacency} (valid : a.Valid) {target : Nat}
    {stops : Nat → Bool} (below : target < a.size) (stopsBelow : ∀ s, stops s = true → s < a.size) :
    (∃ s, stops s = true ∧ ((shortestPathsTo a target stops).lookup s).isSome = true) ↔
      ∃ s, stops s = true ∧ a.Reaches s target := by
  obtain ⟨d, level, settled⟩ := settled_shortestPathsTo valid below stops
  constructor
  · rintro ⟨s, isStop, met⟩
    obtain ⟨p, found⟩ := Option.isSome_iff_exists.1 met
    exact ⟨s, isStop, (settled.sound.path s p found).reaches⟩
  · rintro ⟨s, isStop, reach⟩
    rcases settled.ended with finished | ⟨s', member, isStop'⟩
    · obtain ⟨q, path⟩ := Adjacency.reaches_iff_exists_isPath.1 reach
      obtain ⟨p, found, -⟩ := settled.near valid path.isWalk (stopsBelow s isStop) (.inl finished)
      exact ⟨s, isStop, by simp [found]⟩
    · exact ⟨s', isStop', settled.level_met s' member⟩

/-- With nothing to stop at, the search meets what reaches the target. -/
theorem isSome_shortestPathsTo {a : Adjacency} (valid : a.Valid) {target n : Nat}
    (below : target < a.size) (nBelow : n < a.size) :
    ((shortestPathsTo a target fun _ => false).lookup n).isSome = true ↔ a.Reaches n target := by
  obtain ⟨d, level, settled⟩ := settled_shortestPathsTo valid below fun _ => false
  constructor
  · intro met
    obtain ⟨p, found⟩ := Option.isSome_iff_exists.1 met
    exact (settled.sound.path n p found).reaches
  · intro reach
    obtain ⟨q, path⟩ := Adjacency.reaches_iff_exists_isPath.1 reach
    have finished : level = [] := by simpa using settled.ended
    obtain ⟨p, found, -⟩ := settled.near valid path.isWalk nBelow (.inl finished)
    simp [found]

end Exposure
