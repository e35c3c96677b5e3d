/-!
Bytes written with letters.

Each letter stands for six bits, so four letters write three bytes. What is no letter of the
alphabet is passed over. A last group of two or three letters has to be filled up with signs of
padding; what follows those is not read.
-/

namespace DocExamples.Text.Base64

/-- The six bits that a letter stands for. -/
def letterValue? (c : Char) : Option Nat :=
  if c.isUpper then some (c.toNat - 'A'.toNat)
  else if c.isLower then some (c.toNat - 'a'.toNat + 26)
  else if c.isDigit then some (c.toNat - '0'.toNat + 52)
  else if c = '+' then some 62
  else if c = '/' then some 63
  else none

/-- The values of the letters up to the end or to full padding, and whether the last group is
filled. So far there were `count` letters, and `pads` signs of padding after the last of them. -/
def values (count pads : Nat) : List Char → List Nat × Bool
  | [] => ([], count % 4 == 0)
  | c :: rest =>
    if c = '=' then
      if count % 4 < 2 then values count pads rest
      else if 4 ≤ count % 4 + pads + 1 then ([], true)
      else values count (pads + 1) rest
    else match letterValue? c with
      | none => values count pads rest
      | some v => (v :: (values (count + 1) 0 rest).1, (values (count + 1) 0 rest).2)

/-- The bytes that groups of six bits make up. Bits that fill no byte are dropped. -/
def bytes : List Nat → List UInt8
  | a :: b :: c :: d :: rest =>
    (4 * a + b / 16).toUInt8 :: (16 * (b % 16) + c / 4).toUInt8 :: (64 * (c % 4) + d).toUInt8 ::
      bytes rest
  | [a, b, c] => [(4 * a + b / 16).toUInt8, (16 * (b % 16) + c / 4).toUInt8]
  | [a, b] => [(4 * a + b / 16).toUInt8]
  | _ => []

/-- The bytes that a text writes; `none` if its last group is not filled. -/
def decode? (s : List Char) : Option (List UInt8) :=
  match values 0 0 s with
  | (vs, true) => some (bytes vs)
  | (_, false) => none

end DocExamples.Text.Base64
