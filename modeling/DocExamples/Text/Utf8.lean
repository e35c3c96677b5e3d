import DocExamples.Text.Quoted

/-!
Decoding UTF-8.

The decoder is strict: it accepts the shortest form of each code point only, and no halves of
surrogate pairs. A fault names the bytes that cannot be decoded and says why.
-/

namespace DocExamples.Utf8

/-- Why bytes cannot be decoded. -/
inductive Reason where
  | startByte
  | continuationByte
  | endOfData
  deriving DecidableEq, Repr

/-- The words for a reason. -/
def Reason.message : Reason → String
  | startByte => "invalid start byte"
  | continuationByte => "invalid continuation byte"
  | endOfData => "unexpected end of data"

/-- Bytes that cannot be decoded: the first of them, where it stands, and how many there are. -/
structure Fault where
  byte : Nat
  position : Nat
  length : Nat
  reason : Reason
  deriving DecidableEq, Repr

/-- The words for a fault. -/
def Fault.message (f : Fault) : String :=
  let place :=
    if f.length = 1 then
      " byte 0x" ++ String.ofList (Text.hexText 2 f.byte) ++ " in position " ++ toString f.position
    else " bytes in position " ++ toString f.position ++ "-" ++
      toString (f.position + f.length - 1)
  "'utf-8' codec can't decode" ++ place ++ ": " ++ f.reason.message

/-- Holds of a byte that continues a code point. -/
def isContinuation (b : Nat) : Bool := 0x80 ≤ b && b < 0xC0

/-- Holds of the second bytes that may follow a first byte of three or four. -/
def mayFollow (first second : Nat) : Bool :=
  isContinuation second &&
    !(first == 0xE0 && second < 0xA0) && !(first == 0xED && 0xA0 ≤ second) &&
    !(first == 0xF0 && second < 0x90) && !(first == 0xF4 && 0x90 ≤ second)

/-- How many bytes a code point with the given first byte takes; none starts with other bytes. -/
def sizeOf? (first : Nat) : Option Nat :=
  if first < 0x80 then some 1
  else if first < 0xC2 then none
  else if first < 0xE0 then some 2
  else if first < 0xF0 then some 3
  else if first < 0xF5 then some 4
  else none

/-- The bits of a first byte that belong to the code point. -/
def leadBits (size first : Nat) : Nat :=
  match size with
  | 1 => first
  | 2 => first - 0xC0
  | 3 => first - 0xE0
  | _ => first - 0xF0

/-- Takes `n` continuation bytes; `taken` bytes of the code point came before. -/
def takeContinuations (first taken value : Nat) : Nat → List Nat → Except (Nat × Reason) (Nat × List Nat)
  | 0, rest => .ok (value, rest)
  | _ + 1, [] => .error (taken, .endOfData)
  | n + 1, b :: rest =>
    if (if taken = 1 then mayFollow first b else isContinuation b) then
      takeContinuations first (taken + 1) (64 * value + (b - 0x80)) n rest
    else .error (taken, .continuationByte)

/-- Takes one code point off bytes, or says how many bytes are at fault and why. -/
def takeChar (first : Nat) (rest : List Nat) : Except (Nat × Reason) (Char × List Nat) :=
  match sizeOf? first with
  | none => .error (1, .startByte)
  | some size =>
    (takeContinuations first 1 (leadBits size first) (size - 1) rest).map fun (value, rest) =>
      (Char.ofNat value, rest)

/-- Decodes bytes from a position on; each round takes at least one byte. -/
def decodeFrom (fuel position : Nat) (bytes : List Nat) : Except Fault (List Char) :=
  match fuel, bytes with
  | 0, _ => .ok []
  | _ + 1, [] => .ok []
  | fuel + 1, first :: rest =>
    match takeChar first rest with
    | .error (length, reason) => .error ⟨first, position, length, reason⟩
    | .ok (c, more) =>
      (decodeFrom fuel (position + 1 + (rest.length - more.length)) more).map (c :: ·)

/-- Decodes bytes. -/
def decode (bytes : List UInt8) : Except Fault (List Char) :=
  decodeFrom bytes.length 0 (bytes.map (·.toNat))

end DocExamples.Utf8
