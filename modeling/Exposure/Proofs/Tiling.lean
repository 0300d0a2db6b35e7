/-
# Proofs.Tiling — ranges that lie end to end

The ranges of a graph are given by two numbers, the nodes and the parts.  All but
the last have one length, and the last has what remains (`partitions_eq`).  From
this shape follows that they tile the nodes for every pair of numbers, also for
negative ones and for more parts than nodes (`partitions_tiling`).

The bounds are products, computed in sixty-four bits before the end of the last
range is put in its place (`wrappedPartitions`).  No product is larger than the
number of nodes, so none of them is cut (`partitions_tile`).
-/
import Exposure.Proofs.Settings
import Exposure.Scan
import Mathlib.Data.List.ModifyLast

namespace Exposure

set_option autoImplicit false

namespace NodeRange

/-! ## Tilings -/

/-- The ranges lie end to end from `low` to `high`, and none of them runs backwards. -/
def Tile : Int → List NodeRange → Int → Prop
  | low, [], high => low = high
  | low, r :: rest, high => r.low = low ∧ 0 ≤ r.length ∧ Tile r.high rest high

theorem Tile.append {low middle high : Int} {first rest : List NodeRange}
    (left : Tile low first middle) (right : Tile middle rest high) :
    Tile low (first ++ rest) high := by
  induction first generalizing low with
  | nil =>
      obtain rfl : low = middle := left
      exact right
  | cons r first ih =>
      obtain ⟨start, forwards, further⟩ := left
      exact ⟨start, forwards, ih further⟩

theorem Tile.snoc {low middle : Int} {first : List NodeRange} {last : NodeRange}
    (left : Tile low first middle) (start : last.low = middle) (forwards : 0 ≤ last.length) :
    Tile low (first ++ [last]) last.high :=
  left.append ⟨start, forwards, rfl⟩

/-- Ranges of one length, from zero on. -/
def even (count size : Nat) : List NodeRange :=
  (List.range count).map fun i => ⟨(i * size : Nat), ((i + 1) * size : Nat)⟩

theorem even_succ (count size : Nat) :
    even (count + 1) size = even count size ++
      [⟨(count * size : Nat), ((count + 1) * size : Nat)⟩] := by
  rw [even, List.range_succ, List.map_append, List.map_singleton, even]

theorem length_of_mem_even {count size : Nat} {r : NodeRange} (member : r ∈ even count size) :
    r.length = size := by
  obtain ⟨i, -, rfl⟩ := List.mem_map.1 member
  simp only [length, Nat.succ_mul]
  omega

theorem tile_even (count size : Nat) : Tile 0 (even count size) (count * size : Nat) := by
  induction count with
  | zero => exact (Nat.zero_mul size).symm ▸ rfl
  | succ count ih =>
      rw [even_succ]
      refine ih.snoc rfl ?_
      simp only [length, Nat.succ_mul]
      omega

end NodeRange

/-! ## The ranges of a graph -/

/-- What the ranges for a number of nodes and a number of parts have to be. -/
structure Tiling (nodes parts : Int) (ranges : List NodeRange) : Prop where
  /-- There is one part at least. -/
  count : (ranges.length : Int) = max parts 1
  tile : NodeRange.Tile 0 ranges (max nodes 0)
  /-- All parts but the last are equal. -/
  even : ∀ r ∈ ranges.dropLast, r.length = max nodes 0 / max parts 1
  last : ∀ r ∈ ranges.getLast?, max nodes 0 / max parts 1 ≤ r.length

/-- Ranges of one length, and one more up to the end. -/
theorem partitions_eq {nodes parts : Int} {n k : Nat} (size : max nodes 0 = n)
    (count : max parts 1 = (k + 1 : Nat)) :
    partitions nodes parts = NodeRange.even k (n / (k + 1)) ++
      [⟨(k * (n / (k + 1)) : Nat), n⟩] := by
  simp only [partitions, size, count, Int.toNat_natCast, List.range_succ, List.map_append,
    List.map_singleton, if_true, NodeRange.even]
  congr 1
  refine List.map_congr_left fun i member => ?_
  have below : i < k := List.mem_range.1 member
  rw [if_neg (by omega)]

/-- The numbers that `partitions` works with. -/
theorem exists_natCast_sizes (nodes parts : Int) :
    ∃ n k : Nat, max nodes 0 = n ∧ max parts 1 = (k + 1 : Nat) :=
  ⟨(max nodes 0).toNat, (max parts 1).toNat - 1, by omega, by omega⟩

theorem partitions_tiling (nodes parts : Int) : Tiling nodes parts (partitions nodes parts) := by
  obtain ⟨n, k, size, count⟩ := exists_natCast_sizes nodes parts
  rw [partitions_eq size count]
  have quotient : max nodes 0 / max parts 1 = (n / (k + 1) : Nat) := by
    rw [size, count, Int.natCast_ediv]
  -- what is left for the last range is at least as much as the others have
  have room : (k + 1) * (n / (k + 1)) ≤ n := Nat.mul_div_le n (k + 1)
  generalize n / (k + 1) = step at *
  have left : (step : Int) ≤ n - (k * step : Nat) := by
    rw [Nat.succ_mul] at room
    omega
  refine ⟨?_, ?_, fun r member => ?_, fun r member => ?_⟩
  · rw [count, List.length_append, NodeRange.even, List.length_map, List.length_range,
      List.length_singleton]
  · rw [size]
    exact (NodeRange.tile_even k step).snoc rfl (Int.le_trans (Int.natCast_nonneg step) left)
  · rw [List.dropLast_concat] at member
    rw [quotient, NodeRange.length_of_mem_even member]
  · obtain rfl : _ = r := by simpa using member
    rw [quotient]
    exact left

/-! ## Sixty-four bits -/

/-- The ranges as sixty-four bits compute them: all of one length at first, every bound by a
product, and then with another end of the last. -/
def wrappedPartitions (nodes parts : Int) : List NodeRange :=
  let k := max parts 1
  let n := max nodes 0
  let size := Number.wrap (n.tdiv k)
  let equal := (List.range k.toNat).map fun (i : Nat) =>
    { low := Number.wrap (i * size), high := Number.wrap (Number.wrap (i + 1) * size) : NodeRange }
  equal.modifyLast ({ · with high := n })

/-- A multiple of the length of a part is no larger than the whole. -/
theorem mul_div_le_of_le {n k i : Nat} (within : i ≤ k) : i * (n / k) ≤ n :=
  (Nat.mul_le_mul_right _ within).trans (Nat.mul_div_le n k)

theorem wrappedPartitions_eq {nodes parts : Int} (nodesFit : nodes < 2 ^ 63)
    (partsFit : parts < 2 ^ 63) : wrappedPartitions nodes parts = partitions nodes parts := by
  obtain ⟨n, k, size, count⟩ := exists_natCast_sizes nodes parts
  have kept {m : Nat} (within : (m : Int) < 2 ^ 63) : Number.wrap m = m :=
    Number.wrap_eq_self_iff.2 (by omega)
  have few : (n : Int) < 2 ^ 63 := by omega
  have step : Number.wrap ((n : Int).tdiv (k + 1 : Nat)) = (n / (k + 1) : Nat) := by
    have := Nat.div_le_self n (k + 1)
    rw [← Int.ofNat_tdiv, kept (by omega)]
  have product {i : Nat} (within : i ≤ k + 1) :
      Number.wrap (i * (n / (k + 1) : Nat)) = (i * (n / (k + 1)) : Nat) := by
    have := mul_div_le_of_le (n := n) within
    rw [← Int.natCast_mul, kept (by omega)]
  have bounds : ((List.range (k + 1)).map fun i : Nat => ({
      low := Number.wrap (i * (n / (k + 1) : Nat))
      high := Number.wrap (Number.wrap (i + 1) * (n / (k + 1) : Nat)) } : NodeRange)) =
        NodeRange.even (k + 1) (n / (k + 1)) := by
    refine List.map_congr_left fun i member => ?_
    have below : i < k + 1 := List.mem_range.1 member
    rw [product (by omega), show (i : Int) + 1 = (i + 1 : Nat) from rfl, kept (by omega),
      product below]
  rw [partitions_eq size count]
  simp only [wrappedPartitions, size, count, step, Int.toNat_natCast, bounds, NodeRange.even_succ,
    List.modifyLast_concat]

/-- **The ranges tile the nodes.** For any two numbers of sixty-four bits there are as many ranges
as parts, or one, and they lie end to end from zero to the number of nodes.  All but the last have
the length that division gives, and the last no less.  No bound on the way is too large for
sixty-four bits, so that these compute the same ranges. -/
theorem partitions_tile (nodes parts : Int) (nodesFit : -2 ^ 63 ≤ nodes ∧ nodes < 2 ^ 63)
    (partsFit : -2 ^ 63 ≤ parts ∧ parts < 2 ^ 63) :
    Tiling nodes parts (partitions nodes parts) ∧
      (∀ i : Int, 0 ≤ i → i ≤ max parts 1 →
        0 ≤ i * (max nodes 0 / max parts 1) ∧ i * (max nodes 0 / max parts 1) < 2 ^ 63) ∧
      wrappedPartitions nodes parts = partitions nodes parts := by
  refine ⟨partitions_tiling nodes parts, fun i positive within => ?_,
    wrappedPartitions_eq nodesFit.2 partsFit.2⟩
  obtain ⟨n, k, size, count⟩ := exists_natCast_sizes nodes parts
  obtain ⟨m, rfl⟩ := Int.eq_ofNat_of_zero_le positive
  have bound := mul_div_le_of_le (n := n) (show m ≤ k + 1 by omega)
  rw [size, count, ← Int.natCast_ediv, ← Int.natCast_mul]
  omega

/-- The largest number of nodes in three parts, and fewer nodes than parts. -/
theorem partitions_tile_largest :
    Tiling (2 ^ 63 - 1) 3 [⟨0, 3074457345618258602⟩, ⟨3074457345618258602, 6148914691236517204⟩,
        ⟨6148914691236517204, 2 ^ 63 - 1⟩] ∧
      Tiling 2 3 [⟨0, 0⟩, ⟨0, 0⟩, ⟨0, 2⟩] ∧
      wrappedPartitions (2 ^ 63 - 1) 3 = partitions (2 ^ 63 - 1) 3 := by
  have largest := partitions_tile (2 ^ 63 - 1) 3 (by decide) (by decide)
  have few := partitions_tile 2 3 (by decide) (by decide)
  exact ⟨largest.1, few.1, largest.2.2⟩

end Exposure
