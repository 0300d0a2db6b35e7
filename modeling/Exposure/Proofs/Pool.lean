/-
# Proofs.Pool — how many workers a configuration asks for

A pool size is written as a count, or as a factor for every processor
(`Workers.ofText_cases`).  A count is the size of the pool.  A factor is
multiplied in sixty-four bits, so that the pool may have any size if the factor
is large (`pool_of_workers`): on a machine with one processor there is always a
worker, on any other some factor comes out negative, and some factor comes out
as zero exactly if the processors are a multiple of four.

A negative size is no limit.  A pool of size zero takes no work, and a run with
something to do is never done (`RunState.not_returned_of_empty_pool`).
-/
import Exposure.Proofs.Cuts
import Exposure.Proofs.PathLimits
import Exposure.Proofs.Return

namespace Exposure

set_option autoImplicit false

/-! ## Numbers in texts -/

namespace Number

theorem readSigned_bounds {base : Nat} {s : List Char} {n : Int}
    (read : readSigned base s = .ok n) : -2 ^ 63 ≤ n ∧ n < 2 ^ 63 := by
  have size : signedEnd = 2 ^ 63 := rfl
  unfold readSigned at read
  split at read
  split at read
  · cases read
  split at read
  · split at read
    · cases read
      omega
    · cases read
  · split at read
    · cases read
      omega
    · cases read

theorem le_ofDigitChars (s : List Char) (acc : Nat) : acc ≤ Nat.ofDigitChars 10 s acc := by
  induction s generalizing acc with
  | nil => exact Nat.le_refl _
  | cons c s ih =>
      rw [Nat.ofDigitChars_cons]
      have more := ih (10 * acc + (c.toNat - '0'.toNat))
      omega

/-- Digits are read as the number they write, as long as that is not too large. -/
theorem readDigits_eq {s : List Char} (digits : ∀ c ∈ s, c.isDigit = true) {acc : Nat}
    (fits : Nat.ofDigitChars 10 s acc ≤ unsignedMax) :
    readDigits 10 false acc s = .ok (Nat.ofDigitChars 10 s acc) := by
  induction s generalizing acc with
  | nil => rfl
  | cons c s ih =>
      obtain ⟨digit, digits⟩ := List.forall_mem_cons.1 digits
      have range : 48 ≤ c.toNat ∧ c.toNat ≤ 57 := Char.isDigit_iff_toNat.1 digit
      have value : Text.digitValue c = c.toNat - 48 := by
        rw [Text.digitValue, if_pos]
        exact digit
      have same : acc * 10 + Text.digitValue c = 10 * acc + (c.toNat - '0'.toNat) := by
        rw [value, Nat.mul_comm]
        rfl
      rw [Nat.ofDigitChars_cons] at fits ⊢
      have least := le_ofDigitChars s (10 * acc + (c.toNat - '0'.toNat))
      simp only [readDigits, Bool.false_and, Bool.false_eq_true, if_false, same]
      rw [if_neg (by omega), if_neg (by omega)]
      exact ih digits fits

/-- A number written out is read back. -/
theorem readSigned_toDigits {n : Nat} (fits : n < 2 ^ 63) :
    readSigned 10 (Nat.toDigits 10 n) = .ok n := by
  have digits : ∀ c ∈ Nat.toDigits 10 n, c.isDigit = true :=
    fun c => Nat.isDigit_of_mem_toDigits (by decide) (by decide)
  have whole : Nat.ofDigitChars 10 (Nat.toDigits 10 n) 0 = n :=
    Nat.ofDigitChars_toDigits (by decide) (by decide)
  have read : readUnsigned 10 (Nat.toDigits 10 n) = .ok n := by
    have filled : (Nat.toDigits 10 n).isEmpty = false := by simp [Nat.toDigits_ne_nil]
    have limit : n ≤ unsignedMax := Nat.le_trans (Nat.le_of_lt fits) (by decide)
    have value := readDigits_eq digits (whole.symm ▸ limit)
    rw [whole] at value
    simp [readUnsigned, filled, value]
  have positive : n < signedEnd := fits
  unfold readSigned
  split
  rename_i negative rest signs
  split at signs
  · rename_i eq
    exact absurd (digits '-' (eq ▸ List.mem_cons_self)) (by decide)
  · rename_i eq
    exact absurd (digits '+' (eq ▸ List.mem_cons_self)) (by decide)
  · obtain ⟨rfl, rfl⟩ := Prod.mk.inj signs
    simp only [read, Bool.false_eq_true, if_false, if_pos positive]

end Number

/-! ## Pool sizes in texts -/

namespace Workers

theorem bounds_of_positive? {s : List Char} {n : Int} (read : positive? s = some n) :
    1 ≤ n ∧ n < 2 ^ 63 := by
  unfold positive? at read
  split at read
  · rename_i m number
    split at read
    · cases read
      exact ⟨‹_›, (Number.readSigned_bounds number).2⟩
    · cases read
  · cases read

/-- A text asks for a factor, or for a count. -/
theorem ofText_cases {text : String} {w : Workers} (read : ofText text = .ok w) :
    w.count = 0 ∧ 1 ≤ w.factor ∧ w.factor < 2 ^ 63 ∨ 1 ≤ w.count ∧ w.count < 2 ^ 63 := by
  unfold ofText at read
  simp only at read
  split at read
  · cases read
    exact .inl ⟨rfl, by decide⟩
  split at read
  · split at read
    · rename_i f factor
      cases read
      exact .inl ⟨rfl, bounds_of_positive? factor⟩
    · cases read
  · split at read
    · rename_i n count
      cases read
      exact .inr (bounds_of_positive? count)
    · cases read

/-- Every positive number of sixty-four bits can be asked for as a factor. -/
theorem ofText_factor {f : Nat} (positive : 1 ≤ f) (fits : f < 2 ^ 63) :
    ofText ("auto:" ++ Nat.repr f) = .ok ⟨0, f⟩ := by
  have text : ("auto:" ++ Nat.repr f).toList = "auto:".toList ++ Nat.toDigits 10 f := by
    rw [String.toList_append, Nat.toList_repr]
  have trimmed : Text.trimmed ("auto:" ++ Nat.repr f) = "auto:" ++ Nat.repr f := by
    rw [Text.trimmed, Text.trim_eq_self, String.ofList_toList]
    · intro c first
      rw [text] at first
      obtain rfl : 'a' = c := Option.some.inj first
      decide
    · intro c last
      rw [text, List.getLast?_append_of_ne_nil _ Nat.toDigits_ne_nil] at last
      exact Text.isBlank_of_isDigit
        (Nat.isDigit_of_mem_toDigits (by decide) (by decide) (List.mem_of_getLast? last))
  have longer : ∀ word : String, word.toList.length < 5 →
      ("auto:" ++ Nat.repr f == word) = false := by
    intro word short
    refine beq_eq_false_iff_ne.2 fun same => ?_
    have length := congrArg (fun s => s.toList.length) same
    simp only [text, List.length_append] at length
    have five : "auto:".toList.length = 5 := by decide
    omega
  have starts : Text.startsWith "auto:" ("auto:" ++ Nat.repr f) = true := by
    rw [Text.startsWith, text, List.isPrefixOf_iff_prefix]
    exact List.prefix_append _ _
  have rest : ("auto:" ++ Nat.repr f).toList.drop 5 = Nat.toDigits 10 f := by
    rw [text]
    rfl
  have factor : positive? (Nat.toDigits 10 f) = some (f : Int) := by
    simp only [positive?, Number.readSigned_toDigits fits]
    exact if_pos (by omega)
  simp only [ofText, trimmed, longer "" (by decide), longer "auto" (by decide), starts, rest,
    factor, Bool.or_self, Bool.false_eq_true, if_false, if_true]

/-- The size of the pool that a text asks for on a machine. -/
def poolSize (w : Workers) (processors : Nat) : Int :=
  if w.count = 0 then Number.wrap (w.factor * processors) else w.count

end Workers

/-! ## Pool sizes on a machine -/

theorem Config.check_withWorkers {c : Config} {text : String} {w : Workers}
    (passed : c.check = .ok ()) (read : Workers.ofText text = .ok w) :
    { c with workers := text }.check = .ok () :=
  check_eq_ok_iff.2 { check_eq_ok_iff.1 passed with workers := ⟨w, read⟩ }

/-- The options of a configuration have the pool size that its text asks for. -/
theorem Config.poolSize_options {c : Config} {w : Workers} (passed : c.check = .ok ())
    (read : Workers.ofText c.workers = .ok w) (lang : Lang) :
    ∃ o, c.options lang = .ok o ∧ ∀ processors, o.poolSize processors = w.poolSize processors := by
  obtain ⟨o, v, made, again, -, count, factor⟩ := exists_options passed lang
  obtain rfl : v = w := Except.ok.inj (again.symm.trans read)
  refine ⟨o, made, fun processors => ?_⟩
  rw [Options.poolSize, Workers.poolSize, count, factor]
  rcases Workers.ofText_cases read with ⟨none, positive, -⟩ | ⟨positive, -⟩
  · rw [if_neg (by omega), if_pos none, Int.max_eq_left positive]
  · rw [if_pos (by omega), if_neg (by omega)]

/-- Some configuration that passes its check asks for a pool of this size. -/
def PoolAsked (processors : Nat) (size : Int) : Prop :=
  ∃ (c : Config) (lang : Lang) (o : Options), c.check = .ok () ∧ c.options lang = .ok o ∧
    o.poolSize processors = size

theorem poolAsked_iff {processors : Nat} {size : Int} :
    PoolAsked processors size ↔ ∃ text w, Workers.ofText text = .ok w ∧
      w.poolSize processors = size := by
  constructor
  · rintro ⟨c, lang, o, passed, made, rfl⟩
    obtain ⟨w, read⟩ := (Config.check_eq_ok_iff.1 passed).workers
    obtain ⟨p, again, same⟩ := Config.poolSize_options passed read lang
    obtain rfl : p = o := Except.ok.inj (again.symm.trans made)
    exact ⟨c.workers, w, read, (same processors).symm⟩
  · rintro ⟨text, w, read, rfl⟩
    have passed := Config.check_withWorkers Config.check_defaults read
    obtain ⟨o, made, same⟩ := Config.poolSize_options passed read .go
    exact ⟨_, .go, o, passed, made, same processors⟩

/-- A pool of the product of a factor and the processors, as sixty-four bits have it. -/
theorem poolAsked_factor {f : Nat} (positive : 1 ≤ f) (fits : f < 2 ^ 63) (processors : Nat) :
    PoolAsked processors (Number.wrap (f * processors)) :=
  poolAsked_iff.2 ⟨_, _, Workers.ofText_factor positive fits, if_pos rfl⟩

/-- An odd number has no part in the divisibility by a power of two. -/
theorem pow_two_dvd_of_odd {k f q : Nat} (odd : q % 2 = 1) (whole : 2 ^ k ∣ f * q) : 2 ^ k ∣ f := by
  have coprime : Nat.Coprime 2 q := by
    rw [Nat.coprime_iff_gcd_eq_one, Nat.gcd_rec, odd]
    rfl
  exact (coprime.pow_left k).dvd_of_dvd_mul_right whole

/-- A factor of sixty-four bits leaves two halvings to the processors. -/
theorem four_dvd_of_wraps {f p : Nat} (positive : 1 ≤ f) (fits : f < 2 ^ 63)
    (wraps : 2 ^ 64 ∣ f * p) : 4 ∣ p := by
  have small : ¬ 2 ^ 63 ∣ f := fun whole => absurd (Nat.le_of_dvd positive whole) (by omega)
  by_contra few
  by_cases odd : p % 2 = 1
  · have whole : 2 ^ 64 ∣ f := pow_two_dvd_of_odd odd wraps
    exact small (Nat.dvd_trans (Nat.pow_dvd_pow 2 (by decide)) whole)
  · obtain ⟨q, rfl⟩ : 2 ∣ p := by omega
    have half : 2 ^ 63 * 2 ∣ f * q * 2 := by
      rw [Nat.mul_assoc, Nat.mul_comm q 2]
      exact wraps
    exact small (pow_two_dvd_of_odd (by omega) (Nat.dvd_of_mul_dvd_mul_right (by decide) half))

/-- A pool without workers can be asked for where the processors are a multiple of four. -/
theorem poolAsked_zero_iff {p : Nat} : PoolAsked p 0 ↔ 4 ∣ p := by
  rw [poolAsked_iff]
  constructor
  · rintro ⟨text, w, read, size⟩
    rw [Workers.poolSize] at size
    rcases Workers.ofText_cases read with ⟨none, positive, below⟩ | ⟨positive, -⟩
    · rw [if_pos none, Number.wrap_eq_zero_iff] at size
      obtain ⟨f, factor⟩ := Int.eq_ofNat_of_zero_le (show 0 ≤ w.factor by omega)
      rw [factor] at size positive below
      exact four_dvd_of_wraps (f := f) (by omega) (by omega) (by exact_mod_cast size)
    · rw [if_neg (by omega)] at size
      omega
  · rintro ⟨q, rfl⟩
    have product : ((2 ^ 62 : Nat) : Int) * (4 * q : Nat) = 2 ^ 64 * q := by
      push_cast
      omega
    refine ⟨_, _, Workers.ofText_factor (f := 2 ^ 62) (by decide) (by decide), ?_⟩
    rw [Workers.poolSize, if_pos rfl, Number.wrap_eq_zero_iff, product]
    exact Int.dvd_mul_right _ _

/-- With two processors or more some factor comes out negative. -/
theorem exists_poolAsked_neg {p : Nat} (several : 2 ≤ p) (fits : p < 2 ^ 63) :
    ∃ size < 0, PoolAsked p size := by
  -- about half of all numbers, divided among the processors
  obtain ⟨f, small, least, most⟩ := exists_overflowing several fits
  have positive : 1 ≤ f := by
    rcases Nat.eq_zero_or_pos f with rfl | positive
    · omega
    · exact positive
  have product : ((f * p : Nat) : Int) = f * p := by simp
  refine ⟨_, Number.wrap_neg_iff.2 ?_, poolAsked_factor positive small p⟩
  omega

/-- With one processor there is a worker. -/
theorem one_le_of_poolAsked_one {size : Int} (asked : PoolAsked 1 size) : 1 ≤ size := by
  obtain ⟨text, w, read, rfl⟩ := poolAsked_iff.1 asked
  rw [Workers.poolSize]
  rcases Workers.ofText_cases read with ⟨none, positive, below⟩ | ⟨positive, -⟩
  · rw [if_pos none, Number.wrap_eq_self_iff.2 (by omega)]
    omega
  · rw [if_neg (by omega)]
    exact positive

/-- **What pool a configuration gets.**  A count is the size of the pool.  A factor is multiplied
with the number of processors, and there is a worker exactly if sixty-four bits keep a positive
number of the product, as they do if it is below `2 ^ 63`.  Only a machine with one processor has a
worker for every configuration, and a pool without any can be asked for exactly where the processors
are a multiple of four. -/
theorem pool_of_workers (p : Nat) (atLeast : 1 ≤ p) (fits : p < 2 ^ 63) :
    (∀ (text : String) (w : Workers), Workers.ofText text = .ok w → ∀ (c : Config) (lang : Lang),
      c.check = .ok () → ∃ o, { c with workers := text }.options lang = .ok o ∧
        (w.count ≠ 0 → 1 ≤ o.poolSize p ∧ o.poolSize p = w.count) ∧
        (w.count = 0 → (w.factor * p < 2 ^ 63 → 1 ≤ o.poolSize p ∧ o.poolSize p = w.factor * p) ∧
          (1 ≤ o.poolSize p ↔ 0 < w.factor * p % 2 ^ 64 ∧ w.factor * p % 2 ^ 64 < 2 ^ 63))) ∧
    ((∀ size, PoolAsked p size → 1 ≤ size) ↔ p = 1) ∧ (PoolAsked p 0 ↔ 4 ∣ p) := by
  refine ⟨?_, ⟨fun always => ?_, ?_⟩, poolAsked_zero_iff⟩
  · intro text w read c lang passed
    obtain ⟨o, made, same⟩ :=
      Config.poolSize_options (Config.check_withWorkers passed read) read lang
    refine ⟨o, made, ?_⟩
    rw [same p, Workers.poolSize]
    rcases Workers.ofText_cases read with ⟨none, positive, -⟩ | ⟨positive, -⟩
    · rw [if_pos none]
      have product : 0 < w.factor * p := Int.mul_pos (by omega) (by omega)
      refine ⟨fun fixed => absurd none fixed, fun _ => ⟨fun below => ?_, Number.wrap_pos_iff⟩⟩
      rw [Number.wrap_eq_self_iff.2 ⟨by omega, below⟩]
      exact ⟨product, rfl⟩
    · rw [if_neg (by omega)]
      exact ⟨fun _ => ⟨positive, rfl⟩, fun none => by omega⟩
  · by_contra several
    obtain ⟨size, negative, asked⟩ := exists_poolAsked_neg (p := p) (by omega) fits
    have positive := always size asked
    omega
  · rintro rfl size asked
    exact one_le_of_poolAsked_one asked

theorem pool_of_workers_four_processors :
    (∃ o, { ({} : Config) with workers := "auto:2" }.options .go = .ok o ∧ o.poolSize 4 = 8) ∧
    (∃ o, { ({} : Config) with workers := " 3 " }.options .go = .ok o ∧ o.poolSize 4 = 3) ∧
      PoolAsked 4 0 := by
  obtain ⟨asked, -, empty⟩ := pool_of_workers 4 (by decide) (by decide)
  refine ⟨?_, ?_, empty.2 (by decide)⟩
  · obtain ⟨o, made, -, factor⟩ := asked "auto:2" ⟨0, 2⟩ (by rfl) {} .go Config.check_defaults
    exact ⟨o, made, ((factor rfl).1 (by decide)).2⟩
  · obtain ⟨o, made, count, -⟩ := asked " 3 " ⟨3, 1⟩ (by rfl) {} .go Config.check_defaults
    exact ⟨o, made, (count (by decide)).2⟩

/-! ## An empty pool -/

/-- A run with an entry point does not return of itself if its pool takes no work. -/
theorem RunState.not_returned_of_empty_pool {a : Analysis} {bugs : Dict ConstructSet} {b : Built}
    {outbox : Outbox} {schedule : Nat → Move} (idle : poolSize a = 0)
    (built : a.builder.build a.options.strict .silent = .built b)
    (entry : (Prepared.ofBuilt a b).entries ≠ [])
    (undisturbed : ∀ n, (schedule n).isDisturbance = false) (n : Nat) (r : RunResult) :
    (after a bugs schedule { outbox } n).front ≠ .returned r := by
  intro returned
  have completes := completes_of_returned undisturbed returned
  rw [built] at completes
  rcases completes with bare | ⟨pool, -⟩
  · exact entry bare
  · exact pool idle

/-- A factor that is accepted and leaves a machine with four processors without a worker.  Nothing
but an interruption ends a run there. -/
theorem accepted_factor_empties_pool :
    Workers.ofText "auto:4611686018427387904" = .ok ⟨0, 4611686018427387904⟩ ∧
    ∃ o, { ({} : Config) with workers := "auto:4611686018427387904" }.options .go = .ok o ∧
      o.poolSize 4 = 0 ∧
      ∀ (a : Analysis) (bugs : Dict ConstructSet) (b : Built) (outbox : Outbox)
        (schedule : Nat → Move),
        a.options = o → a.processors = 4 → a.builder.build o.strict .silent = .built b →
        (Prepared.ofBuilt a b).entries ≠ [] → (∀ n, (schedule n).isDisturbance = false) →
        ∀ n r, (RunState.after a bugs schedule { outbox } n).front ≠ .returned r := by
  have read : Workers.ofText "auto:4611686018427387904" = .ok ⟨0, 4611686018427387904⟩ := by rfl
  have passed := Config.check_withWorkers Config.check_defaults read
  obtain ⟨o, made, same⟩ := Config.poolSize_options passed read .go
  have empty : o.poolSize 4 = 0 := (same 4).trans (by decide)
  refine ⟨read, o, made, empty, ?_⟩
  rintro a bugs b outbox schedule rfl processors built entry undisturbed n r
  have idle : RunState.poolSize a = 0 := by rwa [RunState.poolSize, processors]
  exact RunState.not_returned_of_empty_pool idle built entry undisturbed n r

end Exposure
