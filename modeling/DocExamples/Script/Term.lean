import DocExamples.Script.Value

/-!
Terms and statements: the part of the script language that is evaluated. Every evaluation of a term
for an array, an object or another value with an identity makes a new one; only variables, members
and calls can give what is already there.
-/

namespace DocExamples.Script

/-- An operation on one value. -/
inductive Unary where
  | negate
  | toNumber
  | not
  | complement
  | typeName
  | void
  deriving DecidableEq, Repr

/-- An operation on two values. The last three need not look at the second. -/
inductive Binary where
  | add
  | subtract
  | multiply
  | divide
  | remainder
  | power
  | shiftLeft
  | shiftRight
  | shiftWord
  | less
  | greater
  | atMost
  | atLeast
  | instanceOf
  | isIn
  | alike
  | unlike
  | same
  | different
  | bitAnd
  | bitXor
  | bitOr
  | and
  | or
  | orElse
  deriving DecidableEq, Repr

mutual

/-- An expression. -/
inductive Term where
  | undefined
  | null
  | bool (b : Bool)
  | number (x : Number.Double)
  | bigint (n : Int)
  | text (s : String)
  | pattern (source flags : String)
  /-- What a function was called on. -/
  | self
  | name (x : String)
  | function (source : String)
  /-- Items by position; there may be positions without an item. -/
  | array (items : List (Option Term))
  /-- An object with what it inherits from, if the term says so, and with members as they are set
  one after the other. -/
  | object (ancestor : Option Term) (fields : List Field)
  /-- An object that inherits from nothing. -/
  | bare (fields : List Field)
  /-- An object that holds itself under one more name. -/
  | looped (fields : List Field) (name : String)
  | member (t : Term) (name : String)
  | item (t key : Term)
  | call (f : Term) (arguments : List Term)
  | create (f : Term) (arguments : List Term)
  | unary (op : Unary) (t : Term)
  | binary (op : Binary) (a b : Term)
  | choose (condition a b : Term)
  /-- The second of two terms, after the first. -/
  | both (a b : Term)
  /-- The texts of terms, one behind the other. -/
  | joined (parts : List Term)
  /-- Sets what a term stands for, or first joins what is there to the new value. -/
  | set (target : Term) (op : Option Binary) (t : Term)
  /-- Counts up or down. The flag tells that the number before it is the value of the term. -/
  | count (target : Term) (up before : Bool)
  /-- Takes a member away. -/
  | remove (t : Term)
  /-- All items of a value, among other items or arguments. -/
  | spread (t : Term)
  /-- What a term makes of a value that stands under a name, unless the value is missing. -/
  | ifThere (t : Term) (name : String) (rest : Term)

/-- A member of an object that is written down. -/
inductive Field where
  | named (name : String) (t : Term)
  | keyed (key t : Term)
  /-- All members of a value. -/
  | spread (t : Term)
  /-- A member that a function computes when it is read. -/
  | computed (name : String) (source : String)

end

instance : Inhabited Term := ⟨.undefined⟩

/-- An array of at least a length with terms at some positions; a later term at a position counts. -/
def Term.sparse (length : Nat) (items : List (Nat × Term)) : Term :=
  let length := items.foldl (fun n i => max n (i.1 + 1)) length
  .array ((List.range length).map fun i => items.reverse.lookup i)

/-- Where a declared variable can be seen. -/
inductive Reach where
  /-- In the whole function. -/
  | function
  /-- In the block. -/
  | block
  deriving DecidableEq, Repr

/-- A step of a function. -/
inductive Statement where
  | run (t : Term)
  | give (t : Term)
  | raise (t : Term)
  /-- Declares the variables of a target, and sets them. -/
  | declare (reach : Reach) (target : Term) (t : Option Term)
  /-- Declares a function under its name. -/
  | define (name source : String)
  | block (steps : List Statement)
  | choose (condition : Term) (a b : List Statement)
  /-- Repeats steps as long as a condition holds, with something to do after each round. The flag
  tells that the first round needs no condition. -/
  | loop (start : List Statement) (condition : Option Term) (after : Option Term) (atOnce : Bool)
      (body : List Statement)
  /-- Repeats steps for each item of a value, or for each of its names. -/
  | each (reach : Option Reach) (target : Term) (names : Bool) (t : Term) (body : List Statement)
  /-- Takes the steps behind the first case that is the same, or behind the one without a term. -/
  | select (t : Term) (cases : List (Option Term × List Statement))
  /-- Takes steps; what they throw can be handled, under a target, and the last steps are taken in
  any event. -/
  | attempt (body : List Statement) (handler : Option (Option Term × List Statement))
      (last : List Statement)
  /-- Leaves the loop or the choice around. -/
  | leave
  /-- Goes on with the next round of the loop around. -/
  | next
  deriving Inhabited

/-- A function that a script wrote. -/
structure Routine where
  /-- The name under which the function finds itself. -/
  name : Option String
  /-- The targets that take the arguments. -/
  parameters : List Term
  /-- The target that takes all further arguments. -/
  more : Option Term
  body : List Statement
  /-- Whether the function has what it is called on from where it was written. -/
  arrow : Bool

/-- A part of a class: a method, or a field with the term that it starts with. -/
inductive ClassPart where
  | method (name source : String)
  | computed (name source : String)
  | field (name : String) (t : Term)

end DocExamples.Script
