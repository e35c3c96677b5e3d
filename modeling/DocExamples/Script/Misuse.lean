/-!
What can be wrong with the values that an operation or a function of the start is given.
-/

namespace DocExamples.Script

/-- Why an operation refuses a value. -/
inductive Misuse where
  /-- A class that is called and not asked to make an object. -/
  | classCall
  /-- A function of the start that is called and not asked to make an object. -/
  | needsNew
  /-- A value that gives no items one after the other. -/
  | notIterable
  /-- A value in the place of a list of arguments. -/
  | noList
  /-- A name in a value that can have no members. -/
  | noNames
  | emptyArray
  /-- A value that a function of another kind of values is called on. -/
  | notA (kind : String)
  /-- A value that is to be an object of a kind. -/
  | expected (kind : String)
  /-- Nothing, in the place of a value that becomes an object. -/
  | noObject
  /-- Nothing, in the place of a value that becomes a text. -/
  | forbidden
  | noAncestor
  | repeatCount
  | digitCount
  | radix
  | codePoint
  | escapeMark
  | escapeDigits
  | escapeBytes
  | arrayLength
  | moment
  | wholeBigint
  | finiteBigint
  | bigintLiteral
  | noBigint
  | plusBigint
  | wordBigint
  | zeroDivision
  | negativeExponent
  deriving DecidableEq, Repr

/-- The words for a misuse. -/
def Misuse.message : Misuse → String
  | classCall => "TypeError: class constructors must be invoked with 'new'"
  | needsNew => "TypeError: must be called with new"
  | notIterable => "TypeError: value is not iterable"
  | noList => "TypeError: not a object"
  | noNames => "TypeError: invalid 'in' operand"
  | emptyArray => "TypeError: empty array"
  | notA kind => "TypeError: not a " ++ kind
  | expected kind => "TypeError: " ++ kind ++ " object expected"
  | noObject => "TypeError: cannot convert to object"
  | forbidden => "TypeError: null or undefined are forbidden"
  | noAncestor => "TypeError: not a prototype"
  | repeatCount => "RangeError: invalid repeat count"
  | digitCount => "RangeError: invalid number of digits"
  | radix => "RangeError: radix must be between 2 and 36"
  | codePoint => "RangeError: invalid code point"
  | escapeMark => "URIError: expecting %"
  | escapeDigits => "URIError: expecting hex digit"
  | escapeBytes => "URIError: malformed UTF-8"
  | arrayLength => "RangeError: invalid array length"
  | moment => "RangeError: Date value is NaN"
  | wholeBigint => "RangeError: cannot convert to bigint: not an integer"
  | finiteBigint => "RangeError: cannot convert NaN or Infinity to bigint"
  | bigintLiteral => "SyntaxError: invalid bigint literal"
  | noBigint => "TypeError: cannot convert to bigint"
  | plusBigint => "TypeError: bigint argument with unary +"
  | wordBigint => "TypeError: bigint operands are forbidden for >>>"
  | zeroDivision => "RangeError: division by zero"
  | negativeExponent => "RangeError: invalid operation"

end DocExamples.Script
