import DocExamples.Number.Layout
import DocExamples.Script.Group

/-!
Reading expressions.

The term of a function keeps its source, which is read again when the function is called. So a
reader only has to know where the body of a function ends, and it is told how to find that.
-/

namespace DocExamples.Script.Reader

/-- A term and what follows it, or the fault. -/
abbrev Reading : Type := Except SourceFault (Term × List Char)

/-- Reads a pattern after the slash that opens it. -/
def pattern (s : List Char) : Reading := do
  let (inside, rest) ← patternInside false s
  let flags := rest.takeWhile Token.isNamePart
  match PatternCheck.fault? inside flags with
  | some f => throw (.pattern f.message)
  | none =>
    return (.pattern (String.ofList inside) (String.ofList flags),
      rest.dropWhile Token.isNamePart)

/-! ## Operators -/

/-- The operators between two terms, by how closely they bind. -/
def binary? : Token → Option (Nat × Binary)
  | .mark "*" => some (10, .multiply)
  | .mark "/" => some (10, .divide)
  | .mark "%" => some (10, .remainder)
  | .mark "+" => some (9, .add)
  | .mark "-" => some (9, .subtract)
  | .mark "<<" => some (8, .shiftLeft)
  | .mark ">>" => some (8, .shiftRight)
  | .mark ">>>" => some (8, .shiftWord)
  | .mark "<" => some (7, .less)
  | .mark ">" => some (7, .greater)
  | .mark "<=" => some (7, .atMost)
  | .mark ">=" => some (7, .atLeast)
  | .word "instanceof" => some (7, .instanceOf)
  | .word "in" => some (7, .isIn)
  | .mark "==" => some (6, .alike)
  | .mark "!=" => some (6, .unlike)
  | .mark "===" => some (6, .same)
  | .mark "!==" => some (6, .different)
  | .mark "&" => some (5, .bitAnd)
  | .mark "^" => some (4, .bitXor)
  | .mark "|" => some (3, .bitOr)
  | .mark "&&" => some (2, .and)
  | .mark "||" => some (1, .or)
  | _ => none

/-- The operators in front of a term. -/
def unary? : Token → Option Unary
  | .mark "-" => some .negate
  | .mark "+" => some .toNumber
  | .mark "!" => some .not
  | .mark "~" => some .complement
  | .word "typeof" => some .typeName
  | .word "void" => some .void
  | _ => none

/-- The marks that set what stands in front of them, each with the operator that joins the new value
to the old one. -/
def settingMarks : List (String × Option Binary) := [
  ("=", none), ("*=", some .multiply), ("/=", some .divide), ("%=", some .remainder),
  ("+=", some .add), ("-=", some .subtract), ("<<=", some .shiftLeft), (">>=", some .shiftRight),
  (">>>=", some .shiftWord), ("&=", some .bitAnd), ("|=", some .bitOr), ("^=", some .bitXor),
  ("**=", some .power), ("&&=", some .and), ("||=", some .or), ("??=", some .orElse)]

/-- Holds of a term that holds a value which can be set. -/
def isPlace : Term → Bool
  | .name _ | .member .. | .item .. => true
  | _ => false

/-- Holds of a term that values can be taken apart into. -/
def isTarget : Term → Bool
  | .array _ | .object .. => true
  | t => isPlace t

/-- A number as the name of a member. -/
def numberName (n : Numeral) : String :=
  String.ofList (match n with
    | .number x => Number.Layout.script.text x
    | .bigint n => Number.natText n)

/-- The name of a member, if a token is one. -/
def memberName? : Token → Option String
  | .name x | .word x | .disguised x | .text x => some x
  | .numeral n => some (numberName n)
  | _ => none

/-- Holds when a word in front of the name of a member is that name itself. -/
def isWholeName (s : List Char) : Bool :=
  [":", ",", "(", "\x7d", "=", ";"].any fun mark => markNext mark s

/-- The hidden name of a value that may be missing. -/
def heldName : String := "?"

/-! ## Expressions -/

section

/- The readers are told how to find the end of the body of a function. -/
variable (body : List Char → Rest)

/-- Takes the body of a function. One that is not covered is skipped. -/
def covered (s : List Char) : Rest :=
  match body s with
  | .error .uncovered => group "\x7b" s
  | found => found

mutual

/-- Reads an expression. The first argument of each reader bounds how deep they call each other. -/
def expression : Nat → List Char → Reading
  | 0, _ => .error .uncovered
  | fuel + 1, s => do
    let (t, rest) ← assignment fuel s
    furtherTerms fuel t rest

/-- Reads the further terms of an expression; the last one counts. -/
def furtherTerms : Nat → Term → List Char → Reading
  | 0, _, _ => .error .uncovered
  | fuel + 1, t, s => do
    match ← Token.read s with
    | (.mark ",", rest) =>
      let (u, rest) ← assignment fuel rest
      furtherTerms fuel (.both t u) rest
    | _ => return (t, s)

/-- Reads a term that no comma divides. -/
def assignment : Nat → List Char → Reading
  | 0, _ => .error .uncovered
  | fuel + 1, s => do
    let s ← Token.skip s
    if startsArrow s then arrow fuel s s
    else
      match ← Token.read s with
      | (.name "async", rest) =>
        match ← Token.read rest with
        | (.word "function", _) =>
          let rest ← group "\x7b" (← group "(" (rest.dropWhile (· != '(')))
          return (.function (slice s rest), rest)
        | _ => if startsArrow rest then delayed fuel s rest else setting fuel s
      | _ => setting fuel s

/-- Reads a term, and what it is set to. -/
def setting : Nat → List Char → Reading
  | 0, _ => .error .uncovered
  | fuel + 1, s => do
    let (t, rest) ← conditional fuel s
    match ← Token.read rest with
    | (.mark m, after) =>
      match settingMarks.lookup m with
      | some op =>
        if isPlace t || (op.isNone && isTarget t) then
          let (u, after) ← assignment fuel after
          return (.set t op u, after)
        else throw .notAssignable
      | none => return (t, rest)
    | _ => return (t, rest)

/-- Reads an arrow function from its parameters on; its source starts where it is said to. -/
def arrow : Nat → List Char → List Char → Reading
  | 0, _, _ => .error .uncovered
  | fuel + 1, start, s => do
    let rest ← match ← Token.read s with
      | (.name _, rest) => pure rest
      | (_, rest) => do
        let (_, rest) ← parameters fuel [] rest
        pure rest
    let inside ← Token.expect "=>" rest
    if markNext "\x7b" inside then
      let rest ← covered body inside
      return (.function (slice start rest), rest)
    else
      let (_, rest) ← assignment fuel inside
      return (.function (slice start rest), rest)

/-- Reads an arrow function that is delayed, of which the body is only skipped. -/
def delayed : Nat → List Char → List Char → Reading
  | 0, _, _ => .error .uncovered
  | fuel + 1, start, s => do
    let rest ← match ← Token.read s with
      | (.name _, rest) => pure rest
      | _ => group "(" s
    let inside ← Token.expect "=>" rest
    if markNext "\x7b" inside then
      let rest ← group "\x7b" inside
      return (.function (slice start rest), rest)
    else
      let (_, rest) ← assignment fuel inside
      return (.function (slice start rest), rest)

/-- Reads a term that can be a choice between two. -/
def conditional : Nat → List Char → Reading
  | 0, _ => .error .uncovered
  | fuel + 1, s => do
    let (t, rest) ← coalesced fuel s
    match ← Token.read rest with
    | (.mark "?", after) =>
      let (a, after) ← assignment fuel after
      let (b, after) ← assignment fuel (← Token.expect ":" after)
      return (.choose t a b, after)
    | _ => return (t, rest)

/-- Reads terms of which the first one that is there counts, or terms joined by other operators. -/
def coalesced : Nat → List Char → Reading
  | 0, _ => .error .uncovered
  | fuel + 1, s => do
    let (t, rest) ← binary fuel 3 s
    if markNext "??" rest then furtherChoices fuel t rest
    else
      let (u, after) ← furtherOperands fuel 1 t rest
      if (markNext "&&" rest || markNext "||" rest) && markNext "??" after then throw .mixed
      return (u, after)

/-- Reads what stands in place of a term that is missing. -/
def furtherChoices : Nat → Term → List Char → Reading
  | 0, _, _ => .error .uncovered
  | fuel + 1, t, s => do
    match ← Token.read s with
    | (.mark "??", rest) =>
      let (u, rest) ← binary fuel 3 rest
      furtherChoices fuel (.binary .orElse t u) rest
    | _ => return (t, s)

/-- Reads terms joined by operators that bind at least so closely. -/
def binary : Nat → Nat → List Char → Reading
  | 0, _, _ => .error .uncovered
  | fuel + 1, level, s => do
    let (t, rest) ← signed fuel false s
    furtherOperands fuel level t rest

/-- Reads what operators that bind at least so closely join to a term. -/
def furtherOperands : Nat → Nat → Term → List Char → Reading
  | 0, _, _, _ => .error .uncovered
  | fuel + 1, level, t, s => do
    let (token, rest) ← Token.read s
    match binary? token with
    | some (own, op) =>
      if level ≤ own then
        let (u, rest) ← binary fuel (own + 1) rest
        furtherOperands fuel level (.binary op t u) rest
      else return (t, s)
    | none => return (t, s)

/-- Reads a term with operators in front, or a power. The flag holds behind an operator, where no
power may follow. -/
def signed : Nat → Bool → List Char → Reading
  | 0, _, _ => .error .uncovered
  | fuel + 1, inner, s => do
    let (token, rest) ← Token.read s
    let (t, rest, inner) ← match unary? token with
      | some op => do
        let (t, rest) ← signed fuel true rest
        pure (Term.unary op t, rest, true)
      | none => do
        if token = .mark "++" ∨ token = .mark "--" then
          let (t, rest) ← signed fuel false rest
          if !isPlace t then throw .notCountable
          pure (Term.count t (token = .mark "++") false, rest, inner)
        else if token = .word "delete" then
          let (t, rest) ← signed fuel true rest
          pure (Term.remove t, rest, true)
        else
          let (t, rest) ← counted fuel s
          pure (t, rest, inner)
    match ← Token.read rest with
    | (.mark "**", after) =>
      if inner then throw .signedPower
      else
        let (u, after) ← signed fuel false after
        return (.binary .power t u, after)
    | _ => return (t, rest)

/-- Reads a term that can be counted up or down behind it. -/
def counted : Nat → List Char → Reading
  | 0, _ => .error .uncovered
  | fuel + 1, s => do
    let (t, rest) ← chain fuel s
    if endsLine rest then return (t, rest)
    match ← Token.read rest with
    | (.mark "++", after) =>
      if isPlace t then return (.count t true true, after) else throw .notCountable
    | (.mark "--", after) =>
      if isPlace t then return (.count t false true, after) else throw .notCountable
    | _ => return (t, rest)

/-- Reads a term with members and calls behind it. -/
def chain : Nat → List Char → Reading
  | 0, _ => .error .uncovered
  | fuel + 1, s => do
    let (t, rest) ← operand fuel s
    links fuel true t rest

/-- Reads members and, where the flag allows them, calls behind a term. -/
def links : Nat → Bool → Term → List Char → Reading
  | 0, _, _, _ => .error .uncovered
  | fuel + 1, calls, t, s => do
    match ← Token.read s with
    | (.mark ".", rest) =>
      match ← Token.read rest with
      | (.name x, rest) | (.word x, rest) | (.disguised x, rest) =>
        links fuel calls (.member t x) rest
      | _ => throw .fieldName
    | (.mark "[", rest) =>
      let (key, rest) ← expression fuel rest
      links fuel calls (.item t key) (← Token.expect "]" rest)
    | (.mark "(", rest) =>
      if calls then
        let (args, rest) ← arguments fuel [] rest
        links fuel calls (.call t args) rest
      else return (t, s)
    | (.mark "?.", rest) =>
      let held := Term.name heldName
      match ← Token.read rest with
      | (.mark "(", inside) =>
        let (args, rest) ← arguments fuel [] inside
        let (u, rest) ← links fuel calls (.call held args) rest
        return (.ifThere t heldName u, rest)
      | (.mark "[", inside) =>
        let (key, rest) ← expression fuel inside
        let (u, rest) ← links fuel calls (.item held key) (← Token.expect "]" rest)
        return (.ifThere t heldName u, rest)
      | (.name x, rest) | (.word x, rest) | (.disguised x, rest) =>
        let (u, rest) ← links fuel calls (.member held x) rest
        return (.ifThere t heldName u, rest)
      | _ => throw .fieldName
    | (.mark m, _) =>
      if m = String.singleton Token.backquote then throw .uncovered else return (t, s)
    | _ => return (t, s)

/-- Reads arguments up to the closing bracket; those read so far are held in reverse. -/
def arguments : Nat → List Term → List Char → Except SourceFault (List Term × List Char)
  | 0, _, _ => .error .uncovered
  | fuel + 1, acc, s => do
    match ← Token.read s with
    | (.mark ")", rest) => return (acc.reverse, rest)
    | (token, rest) =>
      let (t, rest) ← if token = .mark "..." then do
          let (t, rest) ← assignment fuel rest
          pure (Term.spread t, rest)
        else assignment fuel s
      match ← Token.read rest with
      | (.mark ")", rest) => return ((t :: acc).reverse, rest)
      | _ => arguments fuel (t :: acc) (← Token.expect "," rest)

/-- Reads a term without operators. -/
def operand : Nat → List Char → Reading
  | 0, _ => .error .uncovered
  | fuel + 1, s => do
    let s ← Token.skip s
    let (token, rest) ← Token.readHere s
    match token with
    | .numeral (.number x) => return (.number x, rest)
    | .numeral (.bigint n) => return (.bigint n, rest)
    | .text x => return (.text x, rest)
    | .name x => return (.name x, rest)
    | .disguised x => throw (.reserved x)
    | .word "null" => return (.null, rest)
    | .word "true" => return (.bool true, rest)
    | .word "false" => return (.bool false, rest)
    | .word "this" => return (.self, rest)
    | .word "function" =>
      let rest ← functionRest fuel rest
      return (.function (slice s rest), rest)
    | .word "class" =>
      let rest ← match classRest fuel rest with
        | .ok (_, rest) => pure rest
        | .error .uncovered => group "\x7b" (rest.dropWhile (· != '\x7b'))
        | .error f => throw f
      return (.function (slice s rest), rest)
    | .word "new" =>
      let (t, rest) ← operand fuel rest
      let (t, rest) ← links fuel false t rest
      match ← Token.read rest with
      | (.mark "(", rest) =>
        let (args, rest) ← arguments fuel [] rest
        return (.create t args, rest)
      | _ => return (.create t [], rest)
    | .mark "(" =>
      let (t, rest) ← expression fuel rest
      return (t, ← Token.expect ")" rest)
    | .mark "[" => items fuel [] rest
    | .mark "\x7b" => fields fuel none [] rest
    | .mark "/" | .mark "/=" => pattern (s.drop 1)
    | .mark m =>
      if m = String.singleton Token.backquote then template fuel [] rest else Token.unexpected s
    | _ => Token.unexpected s

/-- Reads the rest of a template; the parts read so far are held in reverse. -/
def template : Nat → List Term → List Char → Reading
  | 0, _, _ => .error .uncovered
  | fuel + 1, acc, s => do
    let ((text, more), rest) ← Token.templatePart s
    let acc := Term.text text :: acc
    if more then
      let (t, rest) ← expression fuel rest
      template fuel (t :: acc) (← Token.expect "\x7d" rest)
    else return (.joined acc.reverse, rest)

/-- Reads the rest of an array; the items read so far are held in reverse. -/
def items : Nat → List (Option Term) → List Char → Reading
  | 0, _, _ => .error .uncovered
  | fuel + 1, acc, s => do
    match ← Token.read s with
    | (.mark "]", rest) => return (.array acc.reverse, rest)
    | (.mark ",", rest) => items fuel (none :: acc) rest
    | (token, rest) =>
      let (t, rest) ← if token = .mark "..." then do
          let (t, rest) ← assignment fuel rest
          pure (Term.spread t, rest)
        else assignment fuel s
      match ← Token.read rest with
      | (.mark ",", rest) => items fuel (some t :: acc) rest
      | _ => return (.array (some t :: acc).reverse, ← Token.expect "]" rest)

/-- Reads the rest of an object; what it inherits from and its fields so far, in reverse, are
held. -/
def fields : Nat → Option Term → List Field → List Char → Reading
  | 0, _, _, _ => .error .uncovered
  | fuel + 1, ancestor, acc, s => do
    let s ← Token.skip s
    let (token, rest) ← Token.readHere s
    if token = .mark "\x7d" then return (.object ancestor acc.reverse, rest)
    let (ancestor, field, rest) ← match token with
      | .mark "..." => do
        let (t, rest) ← assignment fuel rest
        pure (ancestor, some (Field.spread t), rest)
      | .mark "[" => do
        let (key, rest) ← assignment fuel rest
        let rest ← Token.expect "]" rest
        if markNext "(" rest then
          let after ← methodRest fuel rest
          pure (ancestor, some (Field.keyed key (.function (slice s after))), after)
        else
          let (t, rest) ← assignment fuel (← Token.expect ":" rest)
          pure (ancestor, some (Field.keyed key t), rest)
      | token => field fuel ancestor s token rest
    let acc := field.toList ++ acc
    match ← Token.read rest with
    | (.mark ",", rest) => fields fuel ancestor acc rest
    | _ => return (.object ancestor acc.reverse, ← Token.expect "\x7d" rest)

/-- Reads a field that a name starts, or what the object inherits from. -/
def field : Nat → Option Term → List Char → Token → List Char →
    Except SourceFault (Option Term × Option Field × List Char)
  | 0, _, _, _, _ => .error .uncovered
  | fuel + 1, ancestor, s, token, rest => do
    let some name := memberName? token | throw .memberName
    if token = .name "get" ∧ !isWholeName rest then
      let start ← Token.skip rest
      let (token, rest) ← Token.readHere start
      let some name := memberName? token | throw .memberName
      let rest ← methodRest fuel rest
      return (ancestor, some (.computed name (slice start rest)), rest)
    else if (token = .name "set" ∨ token = .name "async") ∧ !isWholeName rest then throw .uncovered
    else
      match token, ← Token.read rest with
      | _, (.mark "(", _) =>
        let rest ← methodRest fuel rest
        return (ancestor, some (.named name (.function (slice s rest))), rest)
      | .name x, (.mark ",", _) | .name x, (.mark "\x7d", _) =>
        return (ancestor, some (.named name (.name x)), rest)
      | .name x, (.mark "=", after) =>
        let (t, rest) ← assignment fuel after
        return (ancestor, some (.named name (.set (.name x) none t)), rest)
      | _, _ =>
        let (t, rest) ← assignment fuel (← Token.expect ":" rest)
        if name = "__proto__" then return (some t, none, rest)
        else return (ancestor, some (.named name t), rest)

/-- Takes the parameters and the body of a function. -/
def methodRest : Nat → List Char → Rest
  | 0, _ => .error .uncovered
  | fuel + 1, s => do
    let (_, rest) ← parameters fuel [] (← Token.expect "(" s)
    covered body rest

/-- Takes a function after its first word: a mark, a name, the parameters and the body. The body of
one with a mark is only skipped. -/
def functionRest : Nat → List Char → Rest
  | 0, _ => .error .uncovered
  | fuel + 1, s => do
    let (marked, s) := match Token.read s with
      | .ok (.mark "*", rest) => (true, rest)
      | _ => (false, s)
    let s ← match ← Token.read s with
      | (.name _, rest) => pure rest
      | (.disguised x, _) => throw (.reserved x)
      | _ => pure s
    if marked then group "\x7b" (← group "(" s) else methodRest fuel s

/-- Reads a parameter: a name, or a target that takes its argument apart, with what stands in place
of a missing argument. -/
def parameter : Nat → List Char → Reading
  | 0, _ => .error .uncovered
  | fuel + 1, s => do
    let (t, rest) ← match ← Token.read s with
      | (.name x, rest) => pure (Term.name x, rest)
      | (.disguised x, _) => throw (.reserved x)
      | (.mark "[", rest) => items fuel [] rest
      | (.mark "\x7b", rest) => fields fuel none [] rest
      | _ => throw .parameter
    match ← Token.read rest with
    | (.mark "=", rest) =>
      let (u, rest) ← assignment fuel rest
      return (.set t none u, rest)
    | _ => return (t, rest)

/-- Reads parameters up to the closing bracket; those read so far are held in reverse. -/
def parameters : Nat → List Term → List Char →
    Except SourceFault ((List Term × Option Term) × List Char)
  | 0, _, _ => .error .uncovered
  | fuel + 1, acc, s => do
    match ← Token.read s with
    | (.mark ")", rest) => return ((acc.reverse, none), rest)
    | (.mark "...", rest) =>
      let (t, rest) ← parameter fuel rest
      return ((acc.reverse, some t), ← Token.expect ")" rest)
    | _ =>
      let (t, rest) ← parameter fuel s
      match ← Token.read rest with
      | (.mark ")", rest) => return (((t :: acc).reverse, none), rest)
      | _ => parameters fuel (t :: acc) (← Token.expect "," rest)

/-- Reads a class after its word: a name, and the parts. -/
def classRest : Nat → List Char → Except SourceFault (List ClassPart × List Char)
  | 0, _ => .error .uncovered
  | fuel + 1, s => do
    let s ← match ← Token.read s with
      | (.name _, rest) => pure rest
      | _ => pure s
    match ← Token.read s with
    | (.mark "\x7b", rest) => classParts fuel [] rest
    | (.word "extends", _) => throw .uncovered
    | _ => throw (.expecting "\x7b")

/-- Reads the parts of a class; those read so far are held in reverse. -/
def classParts : Nat → List ClassPart → List Char →
    Except SourceFault (List ClassPart × List Char)
  | 0, _, _ => .error .uncovered
  | fuel + 1, acc, s => do
    let s ← Token.skip s
    match ← Token.readHere s with
    | (.mark "\x7d", rest) => return (acc.reverse, rest)
    | (.mark ";", rest) => classParts fuel acc rest
    | (token, rest) =>
      let some name := memberName? token | throw (match token with
        | .mark m => if m = "[" ∨ m = "*" ∨ m.startsWith "#" then .uncovered else .memberName
        | _ => .memberName)
      let isWhole := isWholeName rest
      if token = .name "get" ∧ !isWhole then
        let start ← Token.skip rest
        let (token, rest) ← Token.readHere start
        let some name := memberName? token | throw .memberName
        let rest ← methodRest fuel rest
        classParts fuel (.computed name (slice start rest) :: acc) rest
      else if ["set", "static", "async"].contains name && !isWhole then throw .uncovered
      else
        match ← Token.read rest with
        | (.mark "(", _) =>
          let rest ← methodRest fuel rest
          classParts fuel (.method name (slice s rest) :: acc) rest
        | (.mark "=", rest) =>
          let (t, rest) ← assignment fuel rest
          classParts fuel (.field name t :: acc) rest
        | _ => classParts fuel (.field name .undefined :: acc) rest

end

end

/-- How deep the readers may call each other: fewer than sixteen calls come before a character is
used up. -/
def depthFor (s : List Char) : Nat := 20 * s.length + 20

end DocExamples.Script.Reader
