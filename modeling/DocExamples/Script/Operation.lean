import DocExamples.Script.Coercion
import DocExamples.Script.Term

/-!
Operations on values: what the operators of terms compute.
-/

namespace DocExamples.Script

namespace Value

/-- Holds of two texts when the first comes before the second, by their units. -/
def textBefore (s t : String) : Bool :=
  decide (PatternCheck.units s.toList < PatternCheck.units t.toList)

/-- Holds of values that are the same without regard to the sign of zero. An undefined number is not
even itself. -/
def strictlyEqual (a b : Value) : Bool :=
  match a, b with
  | number x, number y => x.isEqual y
  | a, b => same a b

/-- An operation on two numbers. -/
def numeric : Binary → Number.Double → Number.Double → Number.Double
  | .subtract, x, y => x.add y.negate
  | .multiply, x, y => x.multiply y
  | .divide, x, y => x.divide y
  | .remainder, x, y => x.remainder y
  | .power, x, y => x.raise y
  | .shiftLeft, x, y => .ofSignedWord (x.toWord * 2 ^ (y.toWord % 32) % 2 ^ 32)
  | .shiftRight, x, y =>
    let n : Int := if x.toWord < 2 ^ 31 then x.toWord else (x.toWord : Int) - 2 ^ 32
    .ofInt (Int.fdiv n (2 ^ (y.toWord % 32)))
  | .shiftWord, x, y => .ofInt (x.toWord / 2 ^ (y.toWord % 32) : Nat)
  | .bitAnd, x, y => .ofSignedWord (x.toWord &&& y.toWord)
  | .bitXor, x, y => .ofSignedWord (x.toWord ^^^ y.toWord)
  | .bitOr, x, y => .ofSignedWord (x.toWord ||| y.toWord)
  | _, x, y => x.add y

/-- The greatest exponent and the greatest shift of whole numbers of any size that are covered. -/
def greatestShift : Nat := 65536

/-- An operation on two whole numbers of any size. -/
def whole (op : Binary) (a b : Int) : Except Thrown Int :=
  match op with
  | .subtract => .ok (a - b)
  | .multiply => .ok (a * b)
  | .divide => if b = 0 then .error (.misuse .zeroDivision) else .ok (a.tdiv b)
  | .remainder => if b = 0 then .error (.misuse .zeroDivision) else .ok (a.tmod b)
  | .power =>
    if b < 0 then .error (.misuse .negativeExponent)
    else if greatestShift < b then .error .overflow
    else .ok (a ^ b.toNat)
  | .shiftLeft => shifted a b
  | .shiftRight => shifted a (-b)
  | .shiftWord => .error (.misuse .wordBigint)
  | .bitAnd => .ok (bits (· && ·) a b)
  | .bitOr => .ok (bits (· || ·) a b)
  | .bitXor => .ok (bits (· != ·) a b)
  | _ => .ok (a + b)
where
  /-- A whole number shifted to the left, or to the right by a negative number of bits. -/
  shifted (a n : Int) : Except Thrown Int :=
    if greatestShift < n then if a = 0 then .ok 0 else .error .overflow
    else if 0 ≤ n then .ok (a * 2 ^ n.toNat)
    else .ok (Int.fdiv a (2 ^ (min n.natAbs greatestShift)))
  /-- Two whole numbers joined bit by bit, where a negative one has ones without end in front. -/
  bits (f : Bool → Bool → Bool) (a b : Int) : Int :=
    let width := max a.natAbs.log2 b.natAbs.log2 + 2
    let word (n : Int) : Nat := (n % 2 ^ width).toNat
    let joined := Nat.bitwise f (word a) (word b)
    if joined.testBit (width - 1) then (joined : Int) - 2 ^ width else joined

/-- An operation on two values that are no objects. -/
def arithmetic (op : Binary) (a b : Value) : Except Thrown Value :=
  match a, b with
  | bigint m, bigint n => (whole op m n).map bigint
  | bigint _, symbol .. | symbol .., _ | _, symbol .. => .error .symbolNumber
  | bigint _, _ | _, bigint _ => .error .mixedBigint
  | a, b => do return number (numeric op (← a.toNumber) (← b.toNumber))

/-- The sum of two values that are no objects: with a text, the two texts together. -/
def sum (a b : Value) : Except Thrown Value :=
  match a, b with
  | text s, b => b.plainText.map fun t => text (s ++ String.ofList t)
  | a, text t => a.plainText.map fun s => text (String.ofList s ++ t)
  | a, b => arithmetic .add a b

/-- The number by which a value that is no object is compared. -/
def magnitude : Value → Except Thrown Number.Double
  | bigint n => .ok (.ofInt n)
  | v => v.toNumber

/-- Holds of two values that are no objects when the first is smaller. -/
def less (a b : Value) : Except Thrown Bool :=
  match a, b with
  | text s, text t => .ok (textBefore s t)
  | bigint m, bigint n => .ok (decide (m < n))
  | a, b => do return (← a.magnitude).isLess (← b.magnitude)

/-- Holds of two values that are no objects when the first is smaller or equal. -/
def atMost (a b : Value) : Except Thrown Bool :=
  match a, b with
  | text s, text t => .ok (!textBefore t s)
  | bigint m, bigint n => .ok (decide (m ≤ n))
  | a, b => do
    let x ← a.magnitude
    let y ← b.magnitude
    return x.isLess y || x.isEqual y

/-- Holds of two values that are no objects when they are alike after becoming numbers. -/
def alikeAsNumbers (a b : Value) : Bool :=
  match a.toNumber.toOption, b.toNumber.toOption, a, b with
  | some x, some y, _, _ => x.isEqual y
  | some x, none, _, bigint n => x.toInt? = some n
  | none, some y, bigint m, _ => y.toInt? = some m
  | _, _, _, _ => false

/-- Holds of two values that are no objects when they are alike. -/
def alike (a b : Value) : Bool :=
  let missing (v : Value) : Bool := match v with
    | undefined | null => true
    | _ => false
  if missing a || missing b then missing a && missing b
  else if a.typeName == b.typeName then strictlyEqual a b
  else alikeAsNumbers a b

end Value

namespace Session

open Value (number bool text)

/-- An operation on two numbers or texts that values become. -/
def onPrimitives (call : Caller) (hint : Hint) (op : Value → Value → Except Thrown Value)
    (a b : Value) : Act Value := do
  let a ← primitive call hint a
  let b ← primitive call hint b
  take (op a b)

/-- Holds of two values that are alike. -/
def alike (call : Caller) (a b : Value) : Act Bool := do
  if a.isPrimitive == b.isPrimitive then
    return if a.isPrimitive then a.alike b else a.same b
  else return (← primitive call .any a).alike (← primitive call .any b)

/-- The value of an operation on one value. -/
def unary (call : Caller) (op : Unary) (v : Value) : Act Value := do
  match op with
  | .negate =>
    match ← primitive call .number v with
    | .bigint n => return .bigint (-n)
    | v => return number (← take v.toNumber).negate
  | .toNumber =>
    match ← primitive call .number v with
    | .bigint _ => refuse .plusBigint
    | v => return number (← take v.toNumber)
  | .not => return bool (!v.isTrue)
  | .complement =>
    match ← primitive call .number v with
    | .bigint n => return .bigint (-n - 1)
    | v => return number (.ofSignedWord (2 ^ 32 - 1 - (← take v.toNumber).toWord))
  | .typeName => return text v.typeName
  | .void => return .undefined

/-- Holds of an object that inherits from another, by the number of that. The first argument bounds
how many objects may inherit from one another. -/
def inherits (ancestors : List (Nat × Value)) : Nat → Value → Nat → Bool
  | 0, _, _ => false
  | fuel + 1, v, id =>
    match v with
    | .object _ (.other ancestor) _ =>
      ancestor == id ||
        (ancestors.lookup ancestor).any fun w => w.id? == some id || inherits ancestors fuel w id
    | _ => false

/-- Holds of an object that a function made, or that inherits from what such an object inherits
from. -/
def isInstance (v f : Value) : Act Bool := do
  let direct ← take (v.isInstance f)
  let ancestors := (← get).ancestors
  match f with
  | .function id .. => return direct || inherits ancestors (ancestors.length + 1) v (Value.heirId id)
  | .native name =>
    return direct || inherits ancestors (ancestors.length + 1) v (Standard.ancestorId name)
  | _ => return direct

/-- The value of an operation on two values, both of which are there. -/
def binary (call : Caller) (op : Binary) (a b : Value) : Act Value := do
  match op with
  | .add => onPrimitives call .any Value.sum a b
  | .less => onPrimitives call .number (fun a b => (a.less b).map bool) a b
  | .greater => onPrimitives call .number (fun a b => (b.less a).map bool) a b
  | .atMost => onPrimitives call .number (fun a b => (a.atMost b).map bool) a b
  | .atLeast => onPrimitives call .number (fun a b => (b.atMost a).map bool) a b
  | .instanceOf => return bool (← isInstance a b)
  | .isIn =>
    if b.isPrimitive then refuse .noNames
    else return bool (← storedMember? b (String.ofList (← spelling call a))).isSome
  | .alike => return bool (← alike call a b)
  | .unlike => return bool (!(← alike call a b))
  | .same => return bool (a.strictlyEqual b)
  | .different => return bool (!a.strictlyEqual b)
  | op => onPrimitives call .number (Value.arithmetic op) a b

end Session

end DocExamples.Script
