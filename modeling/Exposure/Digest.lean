/-
# Digest — SHA-256 and its text

A message is padded to blocks of sixty-four bytes: one bit, zeros, and its
length in bits.  Every block is mixed into eight words of thirty-two bits, which
are the digest in the end.  Digests are written in hexadecimal, or in base 64
with its padding.
-/
import Exposure.Text.Quoted

namespace Exposure.Digest

set_option autoImplicit false

/-! ## Blocks -/

/-- The constants of the rounds: parts of the cube roots of the first primes. -/
def roundConstants : Array UInt32 := #[
  0x428a2f98, 0x71374491, 0xb5c0fbcf, 0xe9b5dba5, 0x3956c25b, 0x59f111f1, 0x923f82a4, 0xab1c5ed5,
  0xd807aa98, 0x12835b01, 0x243185be, 0x550c7dc3, 0x72be5d74, 0x80deb1fe, 0x9bdc06a7, 0xc19bf174,
  0xe49b69c1, 0xefbe4786, 0x0fc19dc6, 0x240ca1cc, 0x2de92c6f, 0x4a7484aa, 0x5cb0a9dc, 0x76f988da,
  0x983e5152, 0xa831c66d, 0xb00327c8, 0xbf597fc7, 0xc6e00bf3, 0xd5a79147, 0x06ca6351, 0x14292967,
  0x27b70a85, 0x2e1b2138, 0x4d2c6dfc, 0x53380d13, 0x650a7354, 0x766a0abb, 0x81c2c92e, 0x92722c85,
  0xa2bfe8a1, 0xa81a664b, 0xc24b8b70, 0xc76c51a3, 0xd192e819, 0xd6990624, 0xf40e3585, 0x106aa070,
  0x19a4c116, 0x1e376c08, 0x2748774c, 0x34b0bcb5, 0x391c0cb3, 0x4ed8aa4a, 0x5b9cca4f, 0x682e6ff3,
  0x748f82ee, 0x78a5636f, 0x84c87814, 0x8cc70208, 0x90befffa, 0xa4506ceb, 0xbef9a3f7, 0xc67178f2]

/-- The words before the first block: parts of the square roots of the first primes. -/
def initialWords : List UInt32 :=
  [0x6a09e667, 0xbb67ae85, 0x3c6ef372, 0xa54ff53a, 0x510e527f, 0x9b05688c, 0x1f83d9ab, 0x5be0cd19]

/-- A word turned to the right. -/
def turn (x : UInt32) (n : UInt32) : UInt32 := (x >>> n) ||| (x <<< (32 - n))

/-- The bytes of a number, the highest first. -/
def bigEndian : Nat → Nat → List UInt8
  | 0, _ => []
  | width + 1, n => UInt8.ofNat (n / Nat.pow 256 width) :: bigEndian width n

/-- The message with its padding. -/
def padded (message : List UInt8) : List UInt8 :=
  let zeros := (119 - message.length % 64) % 64
  message ++ 128 :: List.replicate zeros 0 ++ bigEndian 8 (8 * message.length)

/-- The words of a block, four bytes each. -/
def words : List UInt8 → List UInt32
  | a :: b :: c :: d :: rest =>
    (a.toUInt32 <<< 24 ||| b.toUInt32 <<< 16 ||| c.toUInt32 <<< 8 ||| d.toUInt32) :: words rest
  | _ => []

/-- `n` more words of the schedule; `recent` has the words so far, the latest first. -/
def extend : Nat → List UInt32 → List UInt32
  | 0, recent => recent
  | n + 1, recent =>
    let word (k : Nat) : UInt32 := recent.getD (k - 1) 0
    let s0 := turn (word 15) 7 ^^^ turn (word 15) 18 ^^^ (word 15 >>> 3)
    let s1 := turn (word 2) 17 ^^^ turn (word 2) 19 ^^^ (word 2 >>> 10)
    extend n ((word 16 + s0 + word 7 + s1) :: recent)

/-- The sixty-four words that a block is mixed in with. -/
def wordSchedule (block : List UInt8) : List UInt32 := (extend 48 (words block).reverse).reverse

/-- One round: the eight words after a word of the schedule and a constant. -/
def mix (state : List UInt32) (w k : UInt32) : List UInt32 :=
  match state with
  | [a, b, c, d, e, f, g, h] =>
    let s1 := turn e 6 ^^^ turn e 11 ^^^ turn e 25
    let choice := (e &&& f) ^^^ ((~~~e) &&& g)
    let t1 := h + s1 + choice + k + w
    let s0 := turn a 2 ^^^ turn a 13 ^^^ turn a 22
    let majority := (a &&& b) ^^^ (a &&& c) ^^^ (b &&& c)
    [t1 + s0 + majority, a, b, c, d + t1, e, f, g]
  | other => other

/-- The eight words after a block. -/
def compress (state : List UInt32) (block : List UInt8) : List UInt32 :=
  let mixed := ((wordSchedule block).zip roundConstants.toList).foldl
    (fun s (w, k) => mix s w k) state
  state.zipWith (· + ·) mixed

/-- The words after `n` blocks. -/
def blocks : Nat → List UInt32 → List UInt8 → List UInt32
  | 0, state, _ => state
  | n + 1, state, bytes => blocks n (compress state (bytes.take 64)) (bytes.drop 64)

/-- The digest of a message: thirty-two bytes. -/
def sha256 (message : List UInt8) : List UInt8 :=
  let bytes := padded message
  (blocks (bytes.length / 64) initialWords bytes).flatMap fun w => bigEndian 4 w.toNat

/-! ## Text -/

/-- Two digits for every byte. -/
def hexadecimal (bytes : List UInt8) : String :=
  String.ofList (bytes.flatMap fun b => Text.hexPadded 2 b.toNat)

/-- The sixty-four digits of base 64. -/
def base64Digit (n : Nat) : Char :=
  if n < 26 then Char.ofNat (65 + n)
  else if n < 52 then Char.ofNat (97 + n - 26)
  else if n < 62 then Char.ofNat (48 + n - 52)
  else if n = 62 then '+'
  else '/'

/-- Four digits for every three bytes; the last ones may be padding. -/
def base64Chars : List UInt8 → List Char
  | a :: b :: c :: rest =>
    let n := a.toNat * 65536 + b.toNat * 256 + c.toNat
    base64Digit (n / 262144) :: base64Digit (n / 4096 % 64) :: base64Digit (n / 64 % 64)
      :: base64Digit (n % 64) :: base64Chars rest
  | [a, b] =>
    let n := a.toNat * 1024 + b.toNat * 4
    [base64Digit (n / 4096), base64Digit (n / 64 % 64), base64Digit (n % 64), '=']
  | [a] =>
    let n := a.toNat * 16
    [base64Digit (n / 64), base64Digit (n % 64), '=', '=']
  | [] => []

def base64 (bytes : List UInt8) : String := String.ofList (base64Chars bytes)

/-- The bytes of a text. -/
def bytesOf (s : String) : List UInt8 := s.toUTF8.toList

end Exposure.Digest
