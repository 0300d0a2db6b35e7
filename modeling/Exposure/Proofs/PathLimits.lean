/-
# Proofs.PathLimits — what is kept of the paths of a bug

A limit keeps a block of records for every target, in the order in which the
targets first appear.  A block (`IsBlock`) is all records of its target if these
are few enough; otherwise it is the beginning of their stable sort by the number
of calls, so that nothing that is dropped is shorter than what is kept.  Keeping
again changes nothing (`capPaths_keeps_shortest`).

There is an answer as long as the room that is set aside does not come out
negative.  That room is a product of sixty-four bits, and of the limits that a
configuration may have some are too large as soon as there are two targets
(`capPaths_returns_iff`, `accepted_limit_overflows`).
-/
import Exposure.Proofs.Sets
import Exposure.Proofs.Settings
import Exposure.Proofs.StableSort
import Exposure.Upload.Basic
import Mathlib.Algebra.Group.Int.Defs
import Mathlib.Algebra.Group.Nat.Defs

namespace Exposure

set_option autoImplicit false

/-! ## Targets -/

/-- The targets are the different names among those of the records. -/
theorem targetNames_eq (rs : List PathRecord) :
    targetNames rs = (rs.map (·.target.name)).eraseDups := by
  induction rs with
  | nil => rfl
  | cons r rs ih =>
      rw [targetNames, ih, List.map_cons, List.eraseDups_cons, filter_eraseDups]
      rfl

theorem mem_targetNames (rs : List PathRecord) {name : String} :
    name ∈ targetNames rs ↔ ∃ r ∈ rs, r.target.name = name := by
  rw [targetNames_eq, List.mem_eraseDups, List.mem_map]

theorem nodup_targetNames (rs : List PathRecord) : (targetNames rs).Nodup := by
  rw [targetNames_eq]
  exact nodup_eraseDups _

/-! ## Blocks -/

/-- What is kept of the records of one target. -/
structure IsBlock (limit : Nat) (group block : List PathRecord) : Prop where
  whole : group.length ≤ limit → block = group
  /-- The first ones of the stable sort by the number of calls. -/
  shortest : limit < group.length → ∃ sorted, StableSort PathRecord.calls group sorted ∧
    block = sorted.take limit
  length : limit < group.length → block.length = limit
  /-- Nothing is lost but records that are no shorter than those that are kept. -/
  dropped : ∃ rest, (block ++ rest).Perm group ∧
    ∀ kept ∈ block, ∀ lost ∈ rest, kept.calls ≤ lost.calls

theorem isBlock_shortestOf (limit : Nat) (group : List PathRecord) :
    IsBlock limit group (shortestOf limit group) := by
  by_cases many : limit < group.length
  · have sort : StableSort PathRecord.calls group (group.mergeSort PathRecord.callsLe) :=
      StableSort.mergeSort PathRecord.calls group
    have same : shortestOf limit group = (group.mergeSort PathRecord.callsLe).take limit :=
      if_pos many
    rw [same]
    refine ⟨fun few => absurd many (Nat.not_lt.2 few), fun _ => ⟨_, sort, rfl⟩, fun _ => ?_, ?_⟩
    · rw [List.length_take, List.length_mergeSort]
      omega
    · refine ⟨(group.mergeSort PathRecord.callsLe).drop limit, ?_, ?_⟩
      · rw [List.take_append_drop]
        exact List.mergeSort_perm _ _
      · have ordered := sort.ordered
        rw [← List.take_append_drop limit (group.mergeSort PathRecord.callsLe)] at ordered
        exact (List.pairwise_append.1 ordered).2.2
  · have same : shortestOf limit group = group := if_neg many
    rw [same]
    refine ⟨fun _ => rfl, fun more => absurd more many, fun more => absurd more many, [], ?_, ?_⟩
    · rw [List.append_nil]
    · intro kept _ lost member
      cases member

namespace IsBlock

variable {limit : Nat} {group block : List PathRecord}

theorem subset (kept : IsBlock limit group block) : block ⊆ group := by
  obtain ⟨rest, perm, -⟩ := kept.dropped
  intro r member
  exact perm.mem_iff.1 (List.mem_append_left _ member)

theorem length_le (kept : IsBlock limit group block) : block.length ≤ limit := by
  by_cases many : limit < group.length
  · exact Nat.le_of_eq (kept.length many)
  · rw [kept.whole (Nat.not_lt.1 many)]
    exact Nat.not_lt.1 many

theorem ne_nil (kept : IsBlock limit group block) (positive : 0 < limit) (some : group ≠ []) :
    block ≠ [] := by
  by_cases many : limit < group.length
  · intro nothing
    have length := kept.length many
    rw [nothing] at length
    exact absurd length (Nat.ne_of_lt positive)
  · rw [kept.whole (Nat.not_lt.1 many)]
    exact some

end IsBlock

/-! ## Blocks of targets one after the other -/

section Blocks

variable {targets : List String} {block : String → List PathRecord}
  (own : ∀ t ∈ targets, ∀ r ∈ block t, r.target.name = t) (distinct : targets.Nodup)
include own distinct

/-- The records of a target are its block. -/
theorem recordsTo_flatMap {t : String} (known : t ∈ targets) :
    recordsTo t (targets.flatMap block) = block t := by
  induction targets with
  | nil => cases known
  | cons u targets ih =>
      obtain ⟨fresh, distinct⟩ := List.nodup_cons.1 distinct
      have rest : ∀ t ∈ targets, ∀ r ∈ block t, r.target.name = t := fun t member =>
        own t (List.mem_cons_of_mem _ member)
      have head := own u List.mem_cons_self
      rw [List.flatMap_cons, recordsTo, List.filter_append]
      rcases List.mem_cons.1 known with rfl | later
      · have all : (block t).filter (·.target.name == t) = block t :=
          List.filter_eq_self.2 fun r member => by simp [head r member]
        have none : (targets.flatMap block).filter (·.target.name == t) = [] := by
          refine List.filter_eq_nil_iff.2 fun r member here => ?_
          obtain ⟨v, among, inside⟩ := List.mem_flatMap.1 member
          obtain rfl : v = t := (rest v among r inside).symm.trans (by simpa using here)
          exact fresh among
        rw [all, none, List.append_nil]
      · have none : (block u).filter (·.target.name == t) = [] := by
          refine List.filter_eq_nil_iff.2 fun r member here => ?_
          obtain rfl : u = t := (head r member).symm.trans (by simpa using here)
          exact fresh later
        rw [none, List.nil_append]
        exact ih rest distinct later

/-- The targets appear in the order of their blocks. -/
theorem targetNames_flatMap (filled : ∀ t ∈ targets, block t ≠ []) :
    targetNames (targets.flatMap block) = targets := by
  rw [targetNames_eq]
  induction targets with
  | nil => rfl
  | cons u targets ih =>
      obtain ⟨fresh, distinct⟩ := List.nodup_cons.1 distinct
      have rest : ∀ t ∈ targets, ∀ r ∈ block t, r.target.name = t := fun t member =>
        own t (List.mem_cons_of_mem _ member)
      have head := own u List.mem_cons_self
      obtain ⟨r, rs, split⟩ := List.exists_cons_of_ne_nil (filled u List.mem_cons_self)
      rw [split] at head
      -- the first record of the block shows its target, and the others of the block repeat it
      have repeated : (rs.map (·.target.name)).filter (fun t => !t == u) = [] := by
        refine List.filter_eq_nil_iff.2 fun t member => ?_
        obtain ⟨s, among, rfl⟩ := List.mem_map.1 member
        simp [head s (List.mem_cons_of_mem _ among)]
      have others : ((targets.flatMap block).map (·.target.name)).filter (fun t => !t == u) =
          (targets.flatMap block).map (·.target.name) := by
        refine List.filter_eq_self.2 fun t member => ?_
        obtain ⟨s, among, rfl⟩ := List.mem_map.1 member
        obtain ⟨v, listed, inside⟩ := List.mem_flatMap.1 among
        have apart : v ≠ u := fun same => fresh (same ▸ listed)
        simpa [rest v listed s inside] using apart
      rw [List.flatMap_cons, split, List.cons_append, List.map_cons, head r List.mem_cons_self,
        List.eraseDups_cons, List.map_append, List.filter_append, repeated, others, List.nil_append,
        ih rest distinct fun t member => filled t (List.mem_cons_of_mem _ member)]

end Blocks

theorem mem_recordsTo {t : String} {rs : List PathRecord} {r : PathRecord} :
    r ∈ recordsTo t rs ↔ r ∈ rs ∧ r.target.name = t := by
  simp [recordsTo]

/-! ## The room for what is kept -/

theorem keptRoom_neg_iff {limit : Int} {rs : List PathRecord} :
    keptRoom limit rs < 0 ↔ Number.wrap (limit * (targetNames rs).length) < 0 := by
  rw [keptRoom]
  omega

/-- What a positive limit keeps. -/
theorem capPaths_eq {bug : String} {limit : Int} {rs : List PathRecord} (positive : 1 ≤ limit) :
    capPaths bug limit rs =
      if Number.wrap (limit * (targetNames rs).length) < 0 then none
      else some ((targetNames rs).flatMap fun t => shortestOf limit.toNat (recordsTo t rs),
        (targetNames rs).filterMap fun t =>
          if limit.toNat < (recordsTo t rs).length then
            some (droppedRecord bug t (recordsTo t rs).length limit.toNat)
          else none) := by
  rw [capPaths, if_neg (by omega)]
  simp only [keptRoom_neg_iff]

/-- **A limit keeps the shortest records of every target.**  What is kept are blocks, one for every
target in the order of first appearance; no target loses all its records; and keeping again changes
nothing. -/
theorem capPaths_keeps_shortest {bug : String} {limit : Int} {rs kept : List PathRecord}
    {notes : List Log.Record} (positive : 1 ≤ limit)
    (returns : capPaths bug limit rs = some (kept, notes)) :
    (∃ block : String → List PathRecord, kept = (rs.map (·.target.name)).eraseDups.flatMap block ∧
      ∀ t ∈ rs.map (·.target.name), IsBlock limit.toNat
        (rs.filter (·.target.name == t)) (block t)) ∧
    (∀ r ∈ rs, ∃ k ∈ kept, k.target.name = r.target.name) ∧
    capPaths bug limit kept = some (kept, []) := by
  rw [capPaths_eq positive] at returns
  split at returns
  · cases returns
  rename_i room
  obtain ⟨rfl, -⟩ := Prod.mk.inj (Option.some.inj returns)
  let block := fun t => shortestOf limit.toNat (recordsTo t rs)
  have isBlock : ∀ t, IsBlock limit.toNat (recordsTo t rs) (block t) :=
    fun t => isBlock_shortestOf _ _
  have own : ∀ t ∈ targetNames rs, ∀ r ∈ block t, r.target.name = t := fun t _ r member =>
    (mem_recordsTo.1 ((isBlock t).subset member)).2
  have filled : ∀ t ∈ targetNames rs, block t ≠ [] := by
    intro t known
    obtain ⟨r, member, same⟩ := (mem_targetNames rs).1 known
    exact (isBlock t).ne_nil (by omega) (List.ne_nil_of_mem (mem_recordsTo.2 ⟨member, same⟩))
  refine ⟨⟨block, by rw [← targetNames_eq], fun t _ => isBlock t⟩, fun r member => ?_, ?_⟩
  · have known := (mem_targetNames rs).2 ⟨r, member, rfl⟩
    obtain ⟨k, among⟩ := List.exists_mem_of_ne_nil _ (filled _ known)
    exact ⟨k, List.mem_flatMap.2 ⟨_, known, among⟩, own _ known k among⟩
  · -- the blocks are found again, and each of them is short enough
    have distinct := nodup_targetNames rs
    have again : ∀ t ∈ targetNames rs, recordsTo t ((targetNames rs).flatMap block) = block t :=
      fun t known =>
      recordsTo_flatMap own distinct known
    rw [capPaths_eq positive, targetNames_flatMap own distinct filled, if_neg room]
    refine congrArg some (Prod.ext ?_ ?_)
    · refine List.flatMap_congr fun t known => ?_
      rw [again t known]
      exact if_neg (Nat.not_lt.2 (isBlock t).length_le)
    · refine List.filterMap_eq_nil_iff.2 fun t known => ?_
      rw [again t known, if_neg (Nat.not_lt.2 (isBlock t).length_le)]

/-- The record of a chain of classes. -/
def chainRecord (names : List String) : PathRecord :=
  let chain : List Construct := names.map fun n => ⟨.java, .class, n⟩
  ⟨"X", chain.headD .nameless, chain.getLastD .nameless, chain⟩

/-- Two targets in turn; the first one has two records of one call and two of two calls. -/
def interleaved : List PathRecord :=
  [chainRecord ["A", "C", "T"], chainRecord ["A", "U"], chainRecord ["A", "T"],
    chainRecord ["B", "C", "T"], chainRecord ["B", "T"]]

/-- Three records of the first target, of the two longer ones the first, and that of the other
target. -/
def interleavedKept : List PathRecord :=
  [chainRecord ["A", "T"], chainRecord ["B", "T"], chainRecord ["A", "C", "T"],
    chainRecord ["A", "U"]]

theorem capPaths_keeps_shortest_interleaved :
    ∃ notes, capPaths "X" 3 interleaved = some (interleavedKept, notes) ∧
    capPaths "X" 3 interleavedKept = some (interleavedKept, []) := by
  have room : capPaths "X" 3 interleaved ≠ none := by
    rw [capPaths_eq (by decide), if_neg (by decide +kernel)]
    simp
  obtain ⟨⟨kept, notes⟩, returns⟩ := Option.ne_none_iff_exists'.1 room
  obtain ⟨⟨block, blocks, isBlock⟩, -, again⟩ := capPaths_keeps_shortest (by decide) returns
  have targets : (interleaved.map (·.target.name)).eraseDups = ["T", "U"] := by decide +kernel
  have group : interleaved.filter (·.target.name == "T") =
      [chainRecord ["A", "C", "T"], chainRecord ["A", "T"],
    chainRecord ["B", "C", "T"], chainRecord ["B", "T"]] := by decide +kernel
  have known : StableSort PathRecord.calls (interleaved.filter (·.target.name == "T"))
      (interleavedKept.take 3 ++ [chainRecord ["B", "C", "T"]]) := by
    refine ⟨by decide +kernel, fun k => ?_⟩
    rw [group]
    rcases k with _ | _ | _ | k <;> rfl
  have first : block "T" = interleavedKept.take 3 := by
    obtain ⟨sorted, sort, same⟩ := (isBlock "T" (by decide +kernel)).shortest (by decide +kernel)
    rw [same, sort.unique known]
    rfl
  have second : block "U" = interleavedKept.drop 3 := by
    rw [(isBlock "U" (by decide +kernel)).whole (by decide +kernel)]
    decide +kernel
  obtain rfl : kept = interleavedKept := by
    rw [blocks, targets, List.flatMap_cons, List.flatMap_singleton, first, second,
      List.take_append_drop]
  exact ⟨notes, returns, again⟩

/-! ## Limits that a configuration may have -/

/-- There is an answer as long as the product has a sign bit of zero. -/
theorem capPaths_ne_none_iff {bug : String} {limit : Int} {rs : List PathRecord}
    (nonneg : 0 ≤ limit) :
    capPaths bug limit rs ≠ none ↔ limit * (targetNames rs).length % 2 ^ 64 < 2 ^ 63 := by
  by_cases positive : 1 ≤ limit
  · have sign := Number.wrap_neg_iff (n := limit * (targetNames rs).length)
    rw [capPaths_eq positive]
    split
    · rename_i negative
      simpa using sign.1 negative
    · rename_i enough
      simpa using mt sign.2 enough
  · obtain rfl : limit = 0 := by omega
    simp [capPaths]

/-- There is room for what is kept if the product of the limit and the targets is not too large. -/
theorem capPaths_ne_none {bug : String} {limit : Int} {rs : List PathRecord} {n : Nat}
    (few : (targetNames rs).length ≤ n) (room : limit * n < 2 ^ 63) :
    capPaths bug limit rs ≠ none := by
  by_cases negative : limit < 0
  · simp [capPaths, show limit < 1 by omega]
  · have nonneg : 0 ≤ limit * (targetNames rs).length :=
      Int.mul_nonneg (by omega) (Int.natCast_nonneg _)
    have below : limit * (targetNames rs).length ≤ limit * n :=
      Int.mul_le_mul_of_nonneg_left (by omega) (by omega)
    rw [capPaths_ne_none_iff (by omega)]
    omega

/-- A limit is accepted or not whatever the other settings are. -/
theorem Config.check_withLimit {c : Config} {limit : Int} (accepted : c.check = .ok ())
    (nonneg : 0 ≤ limit) : { c with maxPathsPerTarget := limit }.check = .ok () :=
  check_eq_ok_iff.2 { check_eq_ok_iff.1 accepted with maxPaths := nonneg }

/-- A limit of sixty-four bits that some configuration passes its check with. -/
def AcceptedLimit (limit : Int) : Prop :=
  limit < 2 ^ 63 ∧ ∃ c : Config, c.check = .ok () ∧ c.maxPathsPerTarget = limit

theorem acceptedLimit_iff {limit : Int} : AcceptedLimit limit ↔ 0 ≤ limit ∧ limit < 2 ^ 63 := by
  constructor
  · rintro ⟨fits, c, accepted, rfl⟩
    exact ⟨(Config.check_eq_ok_iff.1 accepted).maxPaths, fits⟩
  · rintro ⟨nonneg, fits⟩
    exact ⟨fits, _, Config.check_withLimit Config.check_defaults nonneg, rfl⟩

/-- With two targets or more some accepted limit is too large. -/
theorem exists_overflowing {n : Nat} (several : 2 ≤ n) (fits : n < 2 ^ 63) :
    ∃ limit : Nat, limit < 2 ^ 63 ∧ 2 ^ 63 ≤ limit * n ∧ limit * n < 2 ^ 64 := by
  refine ⟨(2 ^ 63 + n - 1) / n, ?_, ?_, ?_⟩
  · have half : (2 ^ 63 + n - 1) / n ≤ (2 ^ 63 + n - 1) / 2 :=
      Nat.div_le_div_left several (by omega)
    omega
  · have least : 2 ^ 63 + n - 1 < (2 ^ 63 + n - 1) / n * n + n := Nat.lt_div_mul_add (by omega)
    omega
  · have most : (2 ^ 63 + n - 1) / n * n ≤ 2 ^ 63 + n - 1 := Nat.div_mul_le_self _ _
    omega

/-- **When there is an answer.**  At a limit that a configuration may have there is one exactly if
the product of the limit and the number of targets, in sixty-four bits, is not negative.  Only a
list with at most one target has one at all these limits. -/
theorem capPaths_returns_iff (bug : String) (rs : List PathRecord) :
    (∀ limit, AcceptedLimit limit → (capPaths bug limit rs ≠ none ↔
      limit * (rs.map (·.target.name)).eraseDups.length % 2 ^ 64 < 2 ^ 63)) ∧
    ((rs.map (·.target.name)).eraseDups.length < 2 ^ 63 →
      ((∀ limit, AcceptedLimit limit → capPaths bug limit rs ≠ none) ↔
        (rs.map (·.target.name)).eraseDups.length ≤ 1)) := by
  rw [← targetNames_eq]
  have condition : ∀ limit, AcceptedLimit limit → (capPaths bug limit rs ≠ none ↔
      limit * (targetNames rs).length % 2 ^ 64 < 2 ^ 63) := fun limit accepted =>
    capPaths_ne_none_iff (acceptedLimit_iff.1 accepted).1
  refine ⟨condition, fun fits => ⟨fun returns => ?_, fun few limit accepted => ?_⟩⟩
  · by_contra several
    obtain ⟨limit, small, least, most⟩ := exists_overflowing (Nat.not_le.1 several) fits
    have accepted : AcceptedLimit limit := acceptedLimit_iff.2 ⟨by omega, by exact_mod_cast small⟩
    have negative := (condition limit accepted).1 (returns limit accepted)
    have product : ((limit * (targetNames rs).length : Nat) : Int) = limit *
        (targetNames rs).length := by simp
    omega
  · obtain ⟨nonneg, small⟩ := acceptedLimit_iff.1 accepted
    exact capPaths_ne_none few (by omega)

/-- A list with two targets. -/
def twoTargets : List PathRecord := [chainRecord ["A", "T"], chainRecord ["A", "U"]]

theorem capPaths_returns_iff_twoTargets :
    (AcceptedLimit 10 ∧ capPaths "X" 10 twoTargets ≠ none) ∧
      ¬ ∀ limit, AcceptedLimit limit → capPaths "X" limit twoTargets ≠ none := by
  obtain ⟨condition, always⟩ := capPaths_returns_iff "X" twoTargets
  have accepted : AcceptedLimit 10 := acceptedLimit_iff.2 (by decide)
  refine ⟨⟨accepted, (condition 10 accepted).2 (by decide +kernel)⟩, ?_⟩
  rw [always (by decide +kernel)]
  decide +kernel

/-- Both records could stay, but there is no answer: the room for them comes out negative. -/
theorem accepted_limit_overflows :
    AcceptedLimit (2 ^ 62) ∧ keptRoom (2 ^ 62) twoTargets < 0 ∧
      capPaths "X" (2 ^ 62) twoTargets = none := by
  have accepted : AcceptedLimit (2 ^ 62) := acceptedLimit_iff.2 (by decide)
  refine ⟨accepted, by decide +kernel, ?_⟩
  rw [← Option.isNone_iff_eq_none]
  decide +kernel

end Exposure
