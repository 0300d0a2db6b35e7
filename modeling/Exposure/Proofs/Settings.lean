/-
# Proofs.Settings — configurations that pass their check

The check goes through the settings in a fixed order and stops at the first that
is wrong.  What it asks can be said of every setting for itself
(`Config.check_eq_ok_iff`), so that one setting may be replaced without looking at
the others.  A configuration that passes has options (`Config.exists_options`).

A timeout is given in minutes and kept in nanoseconds, in sixty-four bits.  It is
honoured up to some 292 years (`Config.timeout_honoured`); above that what the
bits keep of the product may be anything (`Config.long_timeouts_wrap`).
-/
import Exposure.Config.Basic
import Mathlib.Algebra.Group.Int.Defs
import Mathlib.Algebra.Group.Nat.Defs
import Mathlib.Data.Int.GCD

namespace Exposure

set_option autoImplicit false

/-! ## Sixty-four bits -/

namespace Number

theorem wrap_emod (n : Int) : wrap n % 2 ^ 64 = n % 2 ^ 64 := Int.bmod_emod

theorem wrap_bounds (n : Int) : -2 ^ 63 ≤ wrap n ∧ wrap n < 2 ^ 63 := by
  have size : ((Nat.pow 2 64 : Nat) : Int) = 2 ^ 64 := rfl
  rw [wrap, Int.bmod, size]
  split <;> omega

/-- A number is kept as it is if it fits. -/
theorem wrap_eq_self_iff {n : Int} : wrap n = n ↔ -2 ^ 63 ≤ n ∧ n < 2 ^ 63 := by
  have bounds := wrap_bounds n
  have same := wrap_emod n
  omega

theorem wrap_neg_iff {n : Int} : wrap n < 0 ↔ 2 ^ 63 ≤ n % 2 ^ 64 := by
  have bounds := wrap_bounds n
  have same := wrap_emod n
  omega

theorem wrap_pos_iff {n : Int} : 0 < wrap n ↔ 0 < n % 2 ^ 64 ∧ n % 2 ^ 64 < 2 ^ 63 := by
  have bounds := wrap_bounds n
  have same := wrap_emod n
  omega

theorem wrap_eq_zero_iff {n : Int} : wrap n = 0 ↔ 2 ^ 64 ∣ n := by
  have bounds := wrap_bounds n
  have same := wrap_emod n
  omega

end Number

namespace Config

/-! ## What passes the check -/

/-- Every setting is in order. -/
structure Accepted (c : Config) : Prop where
  lang : c.lang = .go ∨ c.lang = .java
  timeout : 0 ≤ c.timeoutMinutes
  maxPaths : 0 ≤ c.maxPathsPerTarget
  pathLimit : 0 ≤ c.pathLimit
  workers : ∃ w, Workers.ofText c.workers = .ok w
  strategy : ∃ s, Strategy.ofName c.strategy = .ok s
  algorithm : Algorithm.ofName? c.go.algorithm ≠ none
  exclude : c.badExclude? = none
  uploadRate : c.uploadRate.isNegative = false
  entryRegex : c.entryRegex = "" ∨ ∃ r, Regex.ofPattern c.entryRegex = .ok r

theorem check_eq_ok_iff {c : Config} : c.check = .ok () ↔ c.Accepted := by
  constructor
  · intro passed
    unfold check at passed
    simp only [bind, Except.bind, throw, throwThe, MonadExceptOf.throw, pure, Except.pure] at passed
    split at passed
    · cases passed
    rename_i lang
    split at passed
    · cases passed
    rename_i timeout
    split at passed
    · cases passed
    rename_i limits
    split at passed
    · cases passed
    rename_i w workers
    split at passed
    · cases passed
    rename_i s strategy
    split at passed
    · cases passed
    rename_i algorithm
    split at passed
    · cases passed
    rename_i exclude
    split at passed
    · cases passed
    rename_i rate
    have regex : c.entryRegex = "" ∨ ∃ r, Regex.ofPattern c.entryRegex = .ok r := by
      split at passed
      · split at passed
        · cases passed
        · exact .inr ⟨_, ‹_›⟩
      · rename_i empty
        exact .inl (by simpa using empty)
    simp only [Bool.or_eq_true, decide_eq_true_eq, not_or, Int.not_lt] at limits
    exact ⟨Decidable.or_iff_not_imp_left.2 (by simpa using lang), Int.not_lt.1 timeout, limits.1,
      limits.2, ⟨w, workers⟩,
      ⟨s, strategy⟩, by simpa using algorithm, exclude, by simpa using rate, regex⟩
  · intro ok
    obtain ⟨w, workers⟩ := ok.workers
    obtain ⟨s, strategy⟩ := ok.strategy
    have lang : (c.lang != .go && c.lang != .java) = false := by
      rcases ok.lang with same | same <;> simp [same]
    have algorithm : (Algorithm.ofName? c.go.algorithm).isNone = false := by
      simpa [Option.isSome_iff_ne_none] using ok.algorithm
    unfold check
    simp only [bind, Except.bind, throw, throwThe, MonadExceptOf.throw, pure, Except.pure, lang,
      workers, strategy,
      algorithm, ok.exclude, ok.uploadRate, Int.not_lt.2 ok.timeout, Int.not_lt.2 ok.maxPaths,
      Int.not_lt.2 ok.pathLimit, decide_false, Bool.or_false, Bool.false_eq_true, if_false]
    rcases ok.entryRegex with empty | ⟨r, regex⟩
    · simp [empty]
    · simp [regex]

/-- A configuration that passes its check has options. -/
theorem exists_options {c : Config} (passed : c.check = .ok ()) (lang : Lang) :
    ∃ o w, c.options lang = .ok o ∧ Workers.ofText c.workers = .ok w ∧
      o.timeout = Number.wrap (c.timeoutMinutes * minute) ∧ o.workers = w.count ∧
        o.workerFactor = w.factor := by
  have ok := check_eq_ok_iff.1 passed
  obtain ⟨w, workers⟩ := ok.workers
  obtain ⟨s, strategy⟩ := ok.strategy
  simp only [options, bind, Except.bind, pure, Except.pure, passed, workers, strategy,
    Except.mapError]
  by_cases unfiltered : c.entryRegex = ""
  · simp only [unfiltered, beq_self_eq_true, if_true]
    exact ⟨_, w, rfl, rfl, rfl, rfl, rfl⟩
  · obtain ⟨r, regex⟩ := ok.entryRegex.resolve_left unfiltered
    simp only [beq_iff_eq, unfiltered, if_false, EntryFilter.ofPattern, regex,
      Except.map, Functor.map]
    exact ⟨_, w, rfl, rfl, rfl, rfl, rfl⟩

theorem check_defaults : ({} : Config).check = .ok () :=
  check_eq_ok_iff.2 ⟨.inl rfl, by
    decide, by decide, by decide, ⟨⟨0, 1⟩, by rfl⟩, ⟨.pruned, by rfl⟩, by decide, by rfl, by rfl,
    .inl rfl⟩

/-- A configuration whose check is passed with another timeout. -/
theorem check_withTimeout {c : Config} {minutes : Int} (passed : c.check = .ok ())
    (nonneg : 0 ≤ minutes) : { c with timeoutMinutes := minutes }.check = .ok () :=
  check_eq_ok_iff.2 { check_eq_ok_iff.1 passed with timeout := nonneg }

/-! ## Timeouts -/

/-- The nanoseconds of a minute are an odd number times `2 ^ 11`. -/
theorem dvd_minutes_iff {minutes : Int} : 2 ^ 64 ∣ minutes * 60000000000 ↔ 2 ^ 53 ∣ minutes := by
  have parts : minutes * 60000000000 = minutes * 29296875 * 2 ^ 11 := by omega
  have size : (2 : Int) ^ 64 = 2 ^ 53 * 2 ^ 11 := by decide
  rw [parts, size, Int.mul_dvd_mul_iff_right (by decide)]
  exact ⟨fun whole => Int.dvd_of_dvd_mul_left_of_gcd_one whole (by decide), fun whole =>
    Int.dvd_mul_of_dvd_left whole⟩

/-- **A timeout is honoured up to 153722867 minutes.**  The options have it in nanoseconds, exactly
as long as it is not longer than that; and then a longer timeout never comes out shorter.  Of any
timeout they have what sixty-four bits keep of the product, which is nothing at all if the minutes
are a multiple of `2 ^ 53`. -/
theorem timeout_honoured (c : Config) (lang : Lang) (passed : c.check = .ok ())
    (fits : c.timeoutMinutes < 2 ^ 63) :
    ∃ o, c.options lang = .ok o ∧
      (o.timeout = c.timeoutMinutes * 60000000000 ↔ c.timeoutMinutes ≤ 153722867) ∧
      (c.timeoutMinutes ≤ 153722867 → (0 < c.timeoutMinutes → 0 < o.timeout) ∧
        ∀ (d : Config) (other : Lang) (p : Options), d.check = .ok () → d.options other = .ok p →
          d.timeoutMinutes ≤ c.timeoutMinutes → p.timeout ≤ o.timeout) ∧
      (o.timeout % 2 ^ 64 = c.timeoutMinutes * 60000000000 % 2 ^ 64 ∧ -2 ^ 63 ≤ o.timeout ∧
        o.timeout < 2 ^ 63) ∧
      (o.timeout = 0 ↔ 2 ^ 53 ∣ c.timeoutMinutes) := by
  have nonneg := (check_eq_ok_iff.1 passed).timeout
  obtain ⟨o, -, made, -, timeout, -, -⟩ := exists_options passed lang
  rw [minute] at timeout
  have exact : o.timeout = c.timeoutMinutes * 60000000000 ↔ c.timeoutMinutes ≤ 153722867 := by
    rw [timeout, Number.wrap_eq_self_iff]
    omega
  refine ⟨o, made, exact, fun short => ⟨fun positive => ?_, ?_⟩, ?_, ?_⟩
  · rw [exact.2 short]
    omega
  · intro d other p accepted asked less
    obtain ⟨q, -, again, -, shorter, -, -⟩ := exists_options accepted other
    obtain rfl : q = p := Except.ok.inj (again.symm.trans asked)
    have below := (check_eq_ok_iff.1 accepted).timeout
    rw [exact.2 short, shorter, minute, Number.wrap_eq_self_iff.2 (by omega)]
    omega
  · rw [timeout]
    exact ⟨Number.wrap_emod _, Number.wrap_bounds _⟩
  · rw [timeout, Number.wrap_eq_zero_iff]
    exact dvd_minutes_iff

/-- The defaults with a timeout. -/
def within (minutes : Int) : Config := { timeoutMinutes := minutes }

theorem check_within {minutes : Int} (nonneg : 0 ≤ minutes) : (within minutes).check = .ok () :=
  check_withTimeout check_defaults nonneg

theorem timeout_honoured_longest : (within 153722867).check = .ok () ∧
    ∃ o, (within 153722867).options .go = .ok o ∧ o.timeout = 9223372020000000000 := by
  have passed : (within 153722867).check = .ok () := check_within (by decide)
  obtain ⟨o, made, exact, -⟩ := timeout_honoured (within 153722867) .go passed (by decide)
  exact ⟨passed, o, made, exact.2 (by decide)⟩

/-- One minute more than the longest timeout that is honoured, and there is none at all; with twice
as many minutes a run is given up after half a minute. -/
theorem long_timeouts_wrap :
    (∃ o, (within 153722868).check = .ok () ∧ (within 153722868).options .go = .ok o ∧
      o.timeout < 0) ∧
    (∃ o, (within 307445735).check = .ok () ∧ (within 307445735).options .go = .ok o ∧
      o.timeout = 26290448384) := by
  have wraps : ∀ minutes : Int, 0 ≤ minutes → ∃ o, (within minutes).check = .ok () ∧
      (within minutes).options .go = .ok o ∧ o.timeout = Number.wrap (minutes * minute) := by
    intro minutes nonneg
    obtain ⟨o, -, made, -, timeout, -, -⟩ := exists_options (check_within nonneg) .go
    exact ⟨o, check_within nonneg, made, timeout⟩
  obtain ⟨o, passed, made, timeout⟩ := wraps 153722868 (by decide)
  obtain ⟨p, accepted, asked, shorter⟩ := wraps 307445735 (by decide)
  exact ⟨⟨o, passed, made, timeout ▸ by decide⟩, p, accepted, asked, shorter ▸ by decide⟩

end Config

end Exposure
