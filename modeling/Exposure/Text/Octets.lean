/-
# Text.Octets — bytes as text

Bytes that encode a character become that character.  A byte that belongs to
no character is kept as a stand-in, a character of the private use planes that
has the byte in its number, so that different bytes stay different texts.
Where a text is shown, a stand-in is a replacement character.
-/

namespace Exposure.Text

set_option autoImplicit false

/-- The stand-in of a byte. -/
def standIn (b : UInt8) : Char := Char.ofNat (0x10E000 + b.toNat)

/-- The byte that a character stands in for. -/
def strayByte? (c : Char) : Option Nat :=
  if 0x10E080 ≤ c.toNat && c.toNat ≤ 0x10E0FF then some (c.toNat - 0x10E000) else none

/-- Whether a text has bytes that belong to no character. -/
def hasStray (s : String) : Bool := s.toList.any fun c => (strayByte? c).isSome

/-- The character to show for a character. -/
def shownChar (c : Char) : Char := if (strayByte? c).isSome then '�' else c

/-- A text as it is shown. -/
def shown (s : String) : String := String.ofList (s.toList.map shownChar)

/-- The length of the first character of `bytes`, if they start with one. -/
def charLength? (bytes : List UInt8) : Option Nat :=
  [1, 2, 3, 4].find? fun n =>
    n ≤ bytes.length && (String.fromUTF8? (ByteArray.mk (bytes.take n).toArray)).isSome

/-- The text of at most `n` characters that bytes start with. -/
def ofBytes : Nat → List UInt8 → String
  | 0, _ => ""
  | _, [] => ""
  | n + 1, b :: bs =>
    match charLength? (b :: bs) with
    | some k =>
      (String.fromUTF8? (ByteArray.mk ((b :: bs).take k).toArray)).getD ""
        ++ ofBytes n ((b :: bs).drop k)
    | none => String.singleton (standIn b) ++ ofBytes n bs

/-- The text of bytes. -/
def ofOctets (bytes : List UInt8) : String := ofBytes bytes.length bytes

end Exposure.Text
