import DocExamples.Text.Utf8

/-!
How the bytes of a JSON text stand for characters.

A mark in front of the text says so. Without one the text starts with two characters of ASCII, so
the bytes of them that are zero tell the width of a character and the order of its bytes.
-/

namespace DocExamples.Json

/-- How bytes stand for characters; `big` says that the high byte of a unit comes first. -/
inductive Encoding where
  | utf8
  | utf16 (big : Bool)
  | utf32 (big : Bool)
  deriving DecidableEq, Repr

namespace Encoding

/-- The encoding that a mark in front of the bytes tells, and the bytes behind the mark. -/
def marked? : List Nat → Option (Encoding × List Nat)
  | 0xFF :: 0xFE :: 0 :: 0 :: rest => some (utf32 false, rest)
  | 0 :: 0 :: 0xFE :: 0xFF :: rest => some (utf32 true, rest)
  | 0xFF :: 0xFE :: rest => some (utf16 false, rest)
  | 0xFE :: 0xFF :: rest => some (utf16 true, rest)
  | 0xEF :: 0xBB :: 0xBF :: rest => some (utf8, rest)
  | _ => none

/-- The encoding that the zeros among the first bytes tell. -/
def ofZeros : List Nat → Encoding
  | a :: b :: c :: d :: _ =>
    if a = 0 then (if b = 0 then utf32 true else utf16 true)
    else if b = 0 then (if c = 0 ∧ d = 0 then utf32 false else utf16 false)
    else utf8
  | [a, b] => if a = 0 then utf16 true else if b = 0 then utf16 false else utf8
  | _ => utf8

/-- Units of two bytes. -/
def units (big : Bool) : List Nat → Option (List Nat)
  | [] => some []
  | [_] => none
  | a :: b :: rest => (units big rest).map ((if big then 256 * a + b else a + 256 * b) :: ·)

/-- The characters of units, where two that are halves of a pair are one. A half alone stands for
no character and leaves its mark. -/
def ofUnits : List Nat → List Char
  | [] => []
  | [a] => [if a.isValidChar then Char.ofNat a else Char.ofNat 0xFFFD]
  | a :: b :: rest =>
    if 0xD800 ≤ a ∧ a < 0xDC00 ∧ 0xDC00 ≤ b ∧ b < 0xE000 then
      Char.ofNat (0x10000 + 1024 * (a - 0xD800) + (b - 0xDC00)) :: ofUnits rest
    else (if a.isValidChar then Char.ofNat a else Char.ofNat 0xFFFD) :: ofUnits (b :: rest)

/-- The characters of groups of four bytes. -/
def ofWords (big : Bool) : List Nat → Option (List Char)
  | [] => some []
  | a :: b :: c :: d :: rest =>
    let value := if big then 256 * (256 * (256 * a + b) + c) + d
      else a + 256 * (b + 256 * (c + 256 * d))
    if value < 0x110000 then
      (ofWords big rest).map
        ((if value.isValidChar then Char.ofNat value else Char.ofNat 0xFFFD) :: ·)
    else none
  | _ => none

/-- The characters of bytes. -/
def decode (bytes : List Nat) : Encoding → Option (List Char)
  | utf8 => (Utf8.decode (bytes.map UInt8.ofNat)).toOption
  | utf16 big => (units big bytes).map ofUnits
  | utf32 big => ofWords big bytes

end Encoding

/-- The characters of the bytes of a JSON text. -/
def textOfBytes? (bytes : List UInt8) : Option (List Char) :=
  let bytes := bytes.map (·.toNat)
  match Encoding.marked? bytes with
  | some (encoding, rest) => encoding.decode rest
  | none => (Encoding.ofZeros bytes).decode bytes

end DocExamples.Json
