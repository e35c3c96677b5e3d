import DocExamples.Sandbox.Prelude
import DocExamples.Text.Lines

/-!
What every session has from the start: the names of its variables, the names of the functions that
values of each kind have, and the text that a function of the start shows.

A function of the start is known by a path: its name, after the names of what holds it.
-/

namespace DocExamples.Script.Standard

/-- The functions that make objects, and those that make errors among them. -/
def errorNames : List String := [
  "Error", "EvalError", "RangeError", "ReferenceError", "SyntaxError", "TypeError", "URIError",
  "InternalError", "AggregateError"]

/-- The functions that can make objects. -/
def constructors : List String := errorNames ++ [
  "Object", "Function", "Array", "Number", "Boolean", "String", "Date", "RegExp", "Proxy", "Map",
  "Set", "WeakMap", "WeakSet", "ArrayBuffer", "SharedArrayBuffer", "Uint8ClampedArray",
  "Int8Array", "Uint8Array", "Int16Array", "Uint16Array", "Int32Array", "Uint32Array",
  "BigInt64Array", "BigUint64Array", "Float32Array", "Float64Array", "DataView", "Promise"]

/-- The functions that stand under their own names. -/
def functions : List String := constructors ++ [
  "parseInt", "parseFloat", "isNaN", "isFinite", "decodeURI", "decodeURIComponent", "encodeURI",
  "encodeURIComponent", "escape", "unescape", "eval", "Symbol", "BigInt", "__date_clock"]

/-- The functions that hand something on to what they make, or to what they stand for. -/
def makers : List String := constructors ++ ["Symbol", "BigInt"]

/-- The functions whose objects say by which one they were made. -/
def tagging : List String := [
  "Symbol", "BigInt", "Map", "Set", "WeakMap", "WeakSet", "ArrayBuffer", "SharedArrayBuffer",
  "DataView", "Promise"]

/-- The objects that only hold functions and numbers. -/
def holders : List String := ["Math", "JSON", "Reflect", "Atomics"]

/-- The name of an object that only holds functions and numbers, by its number. -/
def holderName? (id : Nat) : Option String := if id = 0 then none else holders[id - 1]?

/-- The number of the first object that others inherit from; the others follow it. -/
def firstAncestor : Nat := 100

/-- The number of the object that what a function makes inherits from. -/
def ancestorId (maker : String) : Nat :=
  firstAncestor + (makers.findIdx? (· == maker)).getD 0

/-- The function whose objects inherit from an object, by the number of that. -/
def makerOf? (id : Nat) : Option String :=
  if id < firstAncestor then none else makers[id - firstAncestor]?

/-- The functions that the host gives. -/
def hostFunctions : List String :=
  ["__hostRequire", "__hostLog", "__hostNextOutput", "__hostFormatOutput", "__hostPendingOutput"]

/-- The functions that the first script of a session gives, each with the words in front of its
source. -/
def givenFunctions : List (String × String) := [
  ("require", "global.require = "), ("__nextOutput", "global.__nextOutput = "),
  ("__formatOutput", "global.__formatOutput = "),
  ("__assertOutputDrained", "global.__assertOutputDrained = "),
  ("__deepStrictEqual", "global.__deepStrictEqual = ")]

/-- The names that are listed of the object that holds all variables, as they were set. -/
def listedNames : List String :=
  hostFunctions ++ ["require", "console", "__nextOutput", "__formatOutput",
    "__assertOutputDrained", "__deepStrictEqual"]

/-- The functions that all objects have. -/
def objectMethods : List String := [
  "toString", "toLocaleString", "valueOf", "hasOwnProperty", "isPrototypeOf",
  "propertyIsEnumerable", "__defineGetter__", "__defineSetter__", "__lookupGetter__",
  "__lookupSetter__"]

/-- The functions that all values of a kind have, by the function that makes them. -/
def methods : List (String × List String) := [
  ("Object", objectMethods),
  ("Function", ["call", "apply", "bind", "toString"]),
  ("Error", ["toString"]),
  ("Array", ["concat", "every", "some", "forEach", "map", "filter", "reduce", "reduceRight",
    "fill", "find", "findIndex", "indexOf", "lastIndexOf", "includes", "join", "toString",
    "toLocaleString", "pop", "push", "shift", "unshift", "reverse", "sort", "slice", "splice",
    "copyWithin", "flatMap", "flat", "values", "keys", "entries"]),
  ("String", ["charCodeAt", "charAt", "concat", "codePointAt", "indexOf", "lastIndexOf",
    "includes", "endsWith", "startsWith", "match", "matchAll", "search", "split", "substring",
    "substr", "slice", "repeat", "replace", "replaceAll", "padEnd", "padStart", "trim", "trimEnd",
    "trimRight", "trimStart", "trimLeft", "toString", "valueOf", "__quote", "localeCompare",
    "toLowerCase", "toUpperCase", "toLocaleLowerCase", "toLocaleUpperCase", "anchor", "big",
    "blink", "bold", "fixed", "fontcolor", "fontsize", "italics", "link", "small", "strike", "sub",
    "sup", "normalize"]),
  ("Number", ["toExponential", "toFixed", "toPrecision", "toString", "toLocaleString", "valueOf"]),
  ("Boolean", ["toString", "valueOf"]),
  ("Symbol", ["toString", "valueOf"]),
  ("BigInt", ["toString", "valueOf"]),
  ("Date", ["valueOf", "toString", "toUTCString", "toGMTString", "toISOString", "toDateString",
    "toTimeString", "toLocaleString", "toLocaleDateString", "toLocaleTimeString",
    "getTimezoneOffset", "getTime", "getYear", "getFullYear", "getUTCFullYear", "getMonth",
    "getUTCMonth", "getDate", "getUTCDate", "getHours", "getUTCHours", "getMinutes",
    "getUTCMinutes", "getSeconds", "getUTCSeconds", "getMilliseconds", "getUTCMilliseconds",
    "getDay", "getUTCDay", "setTime", "setMilliseconds", "setUTCMilliseconds", "setSeconds",
    "setUTCSeconds", "setMinutes", "setUTCMinutes", "setHours", "setUTCHours", "setDate",
    "setUTCDate", "setMonth", "setUTCMonth", "setYear", "setFullYear", "setUTCFullYear", "toJSON"]),
  ("RegExp", ["exec", "compile", "test", "toString"]),
  ("Map", ["set", "get", "has", "delete", "clear", "forEach", "values", "keys", "entries"]),
  ("Set", ["add", "has", "delete", "clear", "forEach", "values", "keys", "entries"])]

/-- The functions that stand in other functions and in the objects that hold functions. -/
def members : List (String × List String) := [
  ("Object", ["create", "getPrototypeOf", "setPrototypeOf", "defineProperty", "defineProperties",
    "getOwnPropertyNames", "getOwnPropertySymbols", "keys", "values", "entries", "isExtensible",
    "preventExtensions", "getOwnPropertyDescriptor", "getOwnPropertyDescriptors", "is", "assign",
    "seal", "freeze", "isSealed", "isFrozen", "__getClass", "fromEntries"]),
  ("Array", ["isArray", "from", "of"]),
  ("String", ["fromCharCode", "fromCodePoint", "raw"]),
  ("Number", ["isNaN", "isFinite", "isInteger", "isSafeInteger"]),
  ("Symbol", ["for", "keyFor"]),
  ("BigInt", ["asUintN", "asIntN", "tdiv", "fdiv", "cdiv", "ediv", "tdivrem", "fdivrem", "cdivrem",
    "edivrem", "sqrt", "sqrtrem", "floorLog2", "ctz"]),
  ("Date", ["now", "parse", "UTC"]),
  ("ArrayBuffer", ["isView"]),
  ("Promise", ["resolve", "reject", "all", "allSettled", "any", "race"]),
  ("Proxy", ["revocable"]),
  ("Math", ["min", "max", "abs", "floor", "ceil", "round", "sqrt", "acos", "asin", "atan", "atan2",
    "cos", "exp", "log", "pow", "sin", "tan", "trunc", "sign", "cosh", "sinh", "tanh", "acosh",
    "asinh", "atanh", "expm1", "log1p", "log2", "log10", "cbrt", "hypot", "random", "fround",
    "imul", "clz32"]),
  ("JSON", ["parse", "stringify"]),
  ("Reflect", ["apply", "construct", "defineProperty", "deleteProperty", "get",
    "getOwnPropertyDescriptor", "getPrototypeOf", "has", "isExtensible", "ownKeys",
    "preventExtensions", "set", "setPrototypeOf"]),
  ("Atomics", ["add", "and", "or", "sub", "xor", "exchange", "compareExchange", "load", "store",
    "isLockFree", "wait", "notify"])]

/-- Holds of a name that is listed for a maker or a holder. -/
def has (table : List (String × List String)) (owner name : String) : Bool :=
  ((table.lookup owner).getD []).contains name

/-- What functions inherit from is a function without a name. -/
def bareFunction : String := "Function.prototype"

/-- The name of a function, which ends its path. -/
def lastName (path : String) : String :=
  if path = bareFunction then "" else String.ofList ((Text.splitAt '.' path.toList).getLastD [])

/-- The rest of a text after the first place where some words stand. -/
def after? (words : List Char) : List Char → Option (List Char)
  | [] => none
  | c :: rest =>
    if words.isPrefixOf (c :: rest) then some ((c :: rest).drop words.length)
    else after? words rest

/-- A text up to the first line that only closes a function, with that line. -/
def throughClose : List Char → List Char
  | '\n' :: ' ' :: ' ' :: '\x7d' :: _ => ['\n', ' ', ' ', '\x7d']
  | c :: rest => c :: throughClose rest
  | [] => []

/-- The source of a function that the first script of a session gives, from the words in
front of it. -/
def givenSource (mark : String) : List Char :=
  match after? mark.toList Prelude.source.toList with
  | some rest => throughClose rest
  | none => []

/-- The function behind the console, which has a name of its own. -/
def consoleSource : List Char := "function log".toList ++ givenSource "function log"

/-- The text that a function of the start shows. -/
def functionText (path : String) : List Char :=
  if path = "log" then consoleSource
  else match givenFunctions.lookup path with
  | some mark => givenSource mark
  | none =>
    let name := if hostFunctions.contains path then "" else lastName path
    "function ".toList ++ name.toList ++ "() \x7b\n    [native code]\n\x7d".toList

end DocExamples.Script.Standard
