/-
# Number.Binary64 — numbers of double precision

A finite number is a sign, a significand below 2^53 and a power of two not
below -1074.  `ofRatio` rounds a quotient to the nearest such number, a tie to
the even significand, and overflows to infinity.  `shortest` is the fewest
decimal digits that read back as the number, and of those the nearest to it, a
tie to the even digit.
-/
import Exposure.Text.Cut

namespace Exposure.Number

set_option autoImplicit false

/-- A number of double precision. -/
inductive Binary64 where
  | nan
  | infinity (negative : Bool)
  /-- The value `significand * 2 ^ exponent`, with a sign. -/
  | finite (negative : Bool) (significand : Nat) (exponent : Int)
  deriving DecidableEq, Repr, Inhabited

/-- The quotient rounded to the nearest whole number, a tie to the even one. -/
def roundQuotient (n d : Nat) : Nat :=
  let q := n / d
  let r := n % d
  if 2 * r < d then q
  else if d < 2 * r then q + 1
  else if q % 2 = 0 then q else q + 1

namespace Binary64

/-- The least power of two. -/
def leastExponent : Int := -1074

/-- The largest power of two. -/
def largestExponent : Int := 971

def zero : Binary64 := .finite false 0 0

/-- The quotient `n / d` divided by `2 ^ q`, rounded. -/
def scaled (n d : Nat) (q : Int) : Nat :=
  if 0 ≤ q then roundQuotient n (d * Nat.pow 2 q.toNat)
  else roundQuotient (n * Nat.pow 2 (-q).toNat) d

/-- The number nearest to `n / d`. -/
def ofRatio (negative : Bool) (n d : Nat) : Binary64 :=
  if n = 0 ∨ d = 0 then .finite negative 0 0
  else
    -- n / d lies between 2 ^ (guess + 52) and 2 ^ (guess + 54)
    let guess : Int := (Nat.log2 n : Int) - Nat.log2 d - 53
    let q := max guess leastExponent
    let m := scaled n d q
    let (m, q) := if m < Nat.pow 2 53 then (m, q) else (scaled n d (q + 1), q + 1)
    let (m, q) := if m < Nat.pow 2 53 then (m, q) else (m / 2, q + 1)
    if q > largestExponent then .infinity negative else .finite negative m q

/-- The number nearest to `digits * 10 ^ exponent`; beyond four hundred places either
way the answer is known. -/
def ofDecimal (negative : Bool) (digits : Nat) (exponent : Int) : Binary64 :=
  if digits = 0 then .finite negative 0 0
  else
    let places : Int := (Nat.repr digits).length + exponent
    if places > 400 then .infinity negative
    else if places < -400 then .finite negative 0 0
    else if 0 ≤ exponent then ofRatio negative (digits * Nat.pow 10 exponent.toNat) 1
    else ofRatio negative digits (Nat.pow 10 (-exponent).toNat)

/-- A whole number, rounded. -/
def ofInt (n : Int) : Binary64 := ofRatio (n < 0) n.natAbs 1

def isNegative : Binary64 → Bool
  | .finite negative m _ => negative && m != 0
  | .infinity negative => negative
  | .nan => false

def isPositive : Binary64 → Bool
  | .finite negative m _ => !negative && m != 0
  | .infinity negative => !negative
  | .nan => false

/-- The quotient that a finite number is: numerator and denominator. -/
def ratio (m : Nat) (q : Int) : Nat × Nat :=
  if 0 ≤ q then (m * Nat.pow 2 q.toNat, 1) else (m, Nat.pow 2 (-q).toNat)

/-- The whole part of a finite number. -/
def truncated : Binary64 → Int
  | .finite negative m q =>
    let (n, d) := ratio m q
    let whole : Int := (n / d : Nat)
    if negative then -whole else whole
  | _ => 0

/-- The product of two numbers that are not negative, rounded. -/
def timesNonneg : Binary64 → Binary64 → Binary64
  | .finite _ m q, .finite _ m' q' =>
    let (n, d) := ratio m q
    let (n', d') := ratio m' q'
    ofRatio false (n * n') (d * d')
  | _, _ => .nan

/-- Whether two numbers have one value. -/
def sameValue : Binary64 → Binary64 → Bool
  | .finite s m q, .finite s' m' q' =>
    let (n, d) := ratio m q
    let (n', d') := ratio m' q'
    n * d' == n' * d && (s == s' || n == 0)
  | .infinity s, .infinity s' => s == s'
  | _, _ => false

/-! ## Fewest digits -/

/-- The number of decimal places before the point of `n / d`: the least `k` with
`n / d < 10 ^ k`, searched upward from a bound below it. -/
def placesFrom (n d : Nat) : Nat → Int → Int
  | 0, k => k
  | fuel + 1, k =>
    let below := if 0 ≤ k then n < d * Nat.pow 10 k.toNat else n * Nat.pow 10 (-k).toNat < d
    if below then k else placesFrom n d fuel (k + 1)

/-- The whole numbers next to `n / d * 10 ^ s`: the one below or at it, the one above. -/
def gridNeighbours (n d : Nat) (s : Int) : Nat × Nat :=
  let low := if 0 ≤ s then n * Nat.pow 10 s.toNat / d else n / (d * Nat.pow 10 (-s).toNat)
  (low, low + 1)

/-- The distance of `k * 10 ^ -s` from `n / d`, in a unit that does not hang on `k`. -/
def gridDistance (n d : Nat) (s : Int) (k : Nat) : Nat :=
  let (a, b) :=
    if 0 ≤ s then (n * Nat.pow 10 s.toNat, d * k) else (n, d * Nat.pow 10 (-s).toNat * k)
  (a - b) + (b - a)

/-- The first grid that holds a decimal which reads back, from the one of `count` digits
upward: the decimal is `k * 10 ^ -s`. -/
def shortestFrom (m : Nat) (q : Int) (n d : Nat) (place : Int) : Nat → Nat → Nat × Int
  | 0, count =>
    let s : Int := (count : Int) - place
    ((gridNeighbours n d s).1, s)
  | fuel + 1, count =>
    let s : Int := (count : Int) - place
    let (low, high) := gridNeighbours n d s
    let reads (k : Nat) : Bool := sameValue (ofDecimal false k (-s)) (.finite false m q)
    match reads low, reads high with
    | true, true =>
      let below := gridDistance n d s low
      let above := gridDistance n d s high
      if below < above || (below == above && low % 2 == 0) then (low, s) else (high, s)
    | true, false => (low, s)
    | false, true => (high, s)
    | false, false => shortestFrom m q n d place fuel (count + 1)

/-- The fewest digits of a positive number, without trailing zeros, and the place of the
point before them. -/
def shortest (m : Nat) (q : Int) : List Char × Int :=
  let (n, d) := ratio m q
  let guess : Int := ((Nat.log2 n : Int) - Nat.log2 d) * 30103 / 100000 - 1
  let place := placesFrom n d 6 guess
  let (k, s) := shortestFrom m q n d place 17 1
  let digits := (Nat.repr k).toList
  ((digits.reverse.dropWhile (· == '0')).reverse, (digits.length : Int) - s)

/-! ## Text -/

/-- A list of characters padded at its front. -/
def padFront (width : Nat) (c : Char) (s : List Char) : List Char :=
  List.replicate (width - s.length) c ++ s

/-- The exponent of a scientific text: a sign and at least two digits. -/
def exponentText (e : Int) : List Char :=
  'e' :: (if e < 0 then '-' else '+') :: padFront 2 '0' (Nat.repr e.natAbs).toList

/-- Digits with the point at `place`, positional when the first digit stands for a power
of ten from the minus fourth to the fifth, scientific otherwise. -/
def generalDigits (digits : List Char) (place : Int) : List Char :=
  let e := place - 1
  if e < -4 ∨ 6 ≤ e then
    match digits with
    | [] => ['0']
    | [c] => c :: exponentText e
    | c :: rest => c :: '.' :: rest ++ exponentText e
  else if place ≤ 0 then '0' :: '.' :: List.replicate (-place).toNat '0' ++ digits
  else
    let whole := digits.take place.toNat
    let rest := digits.drop place.toNat
    whole ++ List.replicate (place.toNat - whole.length) '0' ++
      if rest.isEmpty then [] else '.' :: rest

/-- The shortest text that reads back as the number. -/
def text : Binary64 → String
  | .nan => "NaN"
  | .infinity false => "+Inf"
  | .infinity true => "-Inf"
  | .finite negative m q =>
    let sign := if negative then ['-'] else []
    if m = 0 then String.ofList (sign ++ ['0'])
    else
      let (digits, place) := shortest m q
      String.ofList (sign ++ generalDigits digits place)

/-- The text of a finite number with two decimal places, a tie to the even digit. -/
def twoPlaces : Binary64 → String
  | .finite negative m q =>
    let (n, d) := ratio m q
    let k := roundQuotient (n * 100) d
    let digits := padFront 3 '0' (Nat.repr k).toList
    let cut := digits.length - 2
    String.ofList ((if negative then ['-'] else []) ++ digits.take cut ++ '.' :: digits.drop cut)
  | x => x.text

end Binary64

end Exposure.Number
