/-
# Proofs.Means — how the mean of numbers is written

A mean is a quotient that is rounded twice: to a number of double precision, and
then to hundredths.  For means of less than 2^43 the two together are off by
less than one hundredth (`exists_hundredths_ofRatio`), and what is written is that
number of hundredths with a point before its last two digits.
-/
import Exposure.Number.Binary64
import Mathlib.Tactic.Linarith

namespace Exposure.Number

set_option autoImplicit false

/-! ## Rounding -/

/-- A rounded quotient is off by half a unit at most. -/
theorem roundQuotient_near (n : Nat) {d : Nat} (positive : 0 < d) :
    2 * n ≤ 2 * (d * roundQuotient n d) + d ∧ 2 * (d * roundQuotient n d) ≤ 2 * n + d := by
  have parts := Nat.div_add_mod n d
  have below := Nat.mod_lt n positive
  have above : d * (n / d + 1) = d * (n / d) + d := Nat.mul_succ d (n / d)
  unfold roundQuotient
  simp only
  split
  · omega
  · split
    · omega
    · split <;> omega

namespace Binary64

theorem scaled_neg (n d e : Nat) : scaled n d (-(e : Int)) = roundQuotient (n * 2 ^ e) d := by
  cases e with
  | zero => simp [scaled]
  | succ e =>
      rw [scaled, if_neg (by omega)]
      simp

/-- The power of two of a quotient of less than 2^43 leaves ten binary places at least. -/
theorem exists_exponent {n d : Nat} (filled : 0 < n) (small : n < 2 ^ 43 * d) :
    ∃ e : Nat, 10 ≤ e ∧ max ((Nat.log2 n : Int) - Nat.log2 d - 53) leastExponent = -(e : Int) := by
  have wide : n < 2 ^ (Nat.log2 d + 44) := by
    calc n < 2 ^ 43 * d := small
      _ ≤ 2 ^ 43 * 2 ^ (Nat.log2 d + 1) := Nat.mul_le_mul_left _ Nat.lt_log2_self.le
      _ = 2 ^ (Nat.log2 d + 44) := by rw [← Nat.pow_add]; congr 1; omega
  have logs : Nat.log2 n < Nat.log2 d + 44 := (Nat.log2_lt filled.ne').2 wide
  refine ⟨(-max ((Nat.log2 n : Int) - Nat.log2 d - 53) leastExponent).toNat, ?_, ?_⟩ <;>
    simp only [leastExponent] <;> omega

/-- A quotient of less than 2^43 in double precision is off by less than one unit of its last binary
place, of which there are eight at least. -/
theorem exists_finite_ofRatio {n d : Nat} (filled : 0 < n) (positive : 0 < d)
    (small : n < 2 ^ 43 * d) :
    ∃ m e : Nat, ofRatio false n d = .finite false m (-(e : Int)) ∧ 8 ≤ e ∧
      4 * (n * 2 ^ e) ≤ 4 * (d * m) + 3 * d ∧ 4 * (d * m) ≤ 4 * (n * 2 ^ e) + 3 * d := by
  obtain ⟨e, places, exponent⟩ := exists_exponent filled small
  obtain ⟨e, rfl⟩ : ∃ k, e = k + 2 := ⟨e - 2, by omega⟩
  have next : -((e + 2 : Nat) : Int) + 1 = -((e + 1 : Nat) : Int) := by omega
  have last : -((e + 1 : Nat) : Int) + 1 = -(e : Int) := by omega
  have inRange (k : Nat) : ¬ -(k : Int) > largestExponent := by simp only [largestExponent]; omega
  have near (k : Nat) := roundQuotient_near (n * 2 ^ k) positive
  unfold ofRatio
  rw [if_neg (by omega)]
  simp only [exponent, next, scaled_neg]
  by_cases fits : roundQuotient (n * 2 ^ (e + 2)) d < Nat.pow 2 53
  · have := near (e + 2)
    refine ⟨roundQuotient (n * 2 ^ (e + 2)) d, e + 2, ?_, by omega, by omega, by omega⟩
    simp only [if_pos fits, if_neg (inRange (e + 2))]
  · by_cases fitsNext : roundQuotient (n * 2 ^ (e + 1)) d < Nat.pow 2 53
    · have := near (e + 1)
      refine ⟨roundQuotient (n * 2 ^ (e + 1)) d, e + 1, ?_, by omega, by omega, by omega⟩
      simp only [if_neg fits, if_pos fitsNext, if_neg (inRange (e + 1))]
    · have := near (e + 1)
      have doubled : n * 2 ^ (e + 1) = 2 * (n * 2 ^ e) := by
        rw [Nat.pow_succ, ← Nat.mul_assoc, Nat.mul_comm]
      generalize roundQuotient (n * 2 ^ (e + 1)) d = m at this fitsNext ⊢
      have halves : d * m = 2 * (d * (m / 2)) + d * (m % 2) := by
        conv_lhs => rw [← Nat.div_add_mod m 2, Nat.mul_add, Nat.mul_left_comm]
      have odd : d * (m % 2) ≤ d * 1 := Nat.mul_le_mul_left d (by omega)
      refine ⟨m / 2, e, ?_, by omega, by omega, by omega⟩
      simp only [if_neg fits, if_neg fitsNext, last, if_neg (inRange e)]

/-! ## Two places -/

/-- A number of hundredths, with a point before the last two digits. -/
def hundredths (k : Nat) : String :=
  Nat.repr (k / 100) ++ String.ofList ['.', Nat.digitChar (k / 10 % 10), Nat.digitChar (k % 10)]

theorem padFront_repr (k : Nat) : padFront 3 '0' (Nat.repr k).toList =
    (Nat.repr (k / 100)).toList ++ [Nat.digitChar (k / 10 % 10), Nat.digitChar (k % 10)] := by
  simp only [Nat.repr_eq_ofList_toDigits, String.toList_ofList]
  rcases Nat.lt_or_ge k 10 with one | more
  · have none : k / 100 = 0 ∧ k / 10 = 0 := by omega
    rw [Nat.toDigits_of_lt_base one, none.1, none.2, Nat.mod_eq_of_lt one]
    rfl
  · rw [Nat.toDigits_of_base_le (by decide) more]
    rcases Nat.lt_or_ge k 100 with two | three
    · have tens : k / 10 < 10 ∧ k / 100 = 0 := by omega
      rw [Nat.toDigits_of_lt_base tens.1, tens.2, Nat.mod_eq_of_lt tens.1]
      rfl
    · have tens : 10 ≤ k / 10 ∧ k / 10 / 10 = k / 100 := by omega
      have length : 0 < (Nat.toDigits 10 (k / 100)).length := Nat.length_toDigits_pos
      rw [Nat.toDigits_of_base_le (by decide) tens.1, tens.2, List.append_assoc, padFront,
        List.length_append, Nat.sub_eq_zero_of_le (by simp; omega)]
      rfl

theorem twoPlaces_finite (m : Nat) {e : Nat} (places : 0 < e) :
    twoPlaces (.finite false m (-(e : Int))) = hundredths (roundQuotient (m * 100) (2 ^ e)) := by
  have binary : ratio m (-(e : Int)) = (m, 2 ^ e) := by
    rw [ratio, if_neg (by omega)]
    simp
  simp only [twoPlaces, binary, padFront_repr, hundredths]
  simp [String.ofList_append, Nat.repr_eq_ofList_toDigits]

/-- **A quotient is written with two places**, less than one hundredth away from what it is. -/
theorem exists_hundredths_ofRatio (n : Nat) {d : Nat} (positive : 0 < d) (small : n < 2 ^ 43 * d) :
    ∃ k, (ofRatio false n d).twoPlaces = hundredths k ∧ 100 * n < d * k + d ∧
      d * k < 100 * n + d := by
  rcases Nat.eq_zero_or_pos n with rfl | filled
  · exact ⟨0, by simp [ofRatio]; decide +kernel, by omega, by omega⟩
  · obtain ⟨m, e, finite, places, above, below⟩ := exists_finite_ofRatio filled positive small
    have rounded := roundQuotient_near (m * 100) (Nat.two_pow_pos e)
    rw [finite, twoPlaces_finite m (by omega)]
    refine ⟨_, rfl, ?_⟩
    generalize roundQuotient (m * 100) (2 ^ e) = k at rounded ⊢
    have wide : 256 ≤ 2 ^ e := Nat.pow_le_pow_right (n := 2) (by decide) places
    generalize 2 ^ e = unit at *
    constructor
    · refine Nat.lt_of_mul_lt_mul_left (a := unit) ?_
      nlinarith
    · refine Nat.lt_of_mul_lt_mul_left (a := unit) ?_
      nlinarith

example : (ofRatio false 5 3).twoPlaces = "1.67" ∧ (ofRatio false 1 8).twoPlaces = "0.12" := by
  decide +kernel

end Binary64

end Exposure.Number
