import DocExamples.Script.Reader

/-!
Reading statements.

A statement ends with a semicolon, with the line, or where the block ends. Some statements may stand
only in certain surroundings, which the readers are told.
-/

namespace DocExamples.Script.Reader

/-- Statements and what follows them, or the fault. -/
abbrev Steps : Type := Except SourceFault (List Statement × List Char)

/-- What is around a statement. -/
structure Surroundings where
  function : Bool := false
  loop : Bool := false
  choice : Bool := false

/-- Takes the end of a statement. -/
def takeEnd (s : List Char) : Rest := do
  match ← Token.read s with
  | (.mark ";", rest) => return rest
  | (.mark "\x7d", _) | (.stop, _) => return s
  | _ => if endsLine s then return s else throw (.expecting ";")

/-- Holds when there is no expression before the end of a statement. -/
def endsStatement (s : List Char) : Bool :=
  endsLine s || markNext ";" s || markNext "\x7d" s ||
    (match Token.read s with
    | .ok (.stop, _) => true
    | _ => false)

/-- Takes the words of a loop over the items or the names of a value: whether it is over names. -/
def eachWord? (s : List Char) : Option (Bool × List Char) :=
  match Token.read s with
  | .ok (.word "in", rest) => some (true, rest)
  | .ok (.name "of", rest) => some (false, rest)
  | _ => none

/-- Holds when a declaration follows the word for one. -/
def declares (s : List Char) : Bool :=
  match Token.read s with
  | .ok (.name _, _) | .ok (.disguised _, _) => true
  | .ok (.mark m, _) => m == "[" || m == "\x7b"
  | _ => false

/-- The words of statements that are not covered, or nowhere allowed. -/
def refusal? : String → Option SourceFault
  | "enum" => some (.statement "unsupported keyword: enum")
  | "export" => some (.statement "unsupported keyword: export")
  | "extends" => some (.statement "unsupported keyword: extends")
  | "import" => some (.expecting "(")
  | "super" => some (.statement "invalid use of 'super'")
  | _ => none

mutual

/-- Reads statements up to a closing brace or the end. The first argument of each reader bounds how
deep they call each other. -/
def statements (around : Surroundings) : Nat → List Char → Steps
  | 0, _ => .error .uncovered
  | fuel + 1, s => do
    match ← Token.read s with
    | (.stop, _) | (.mark "\x7d", _) => return ([], s)
    | _ =>
      let (first, rest) ← statement around fuel s
      let (more, rest) ← statements around fuel rest
      return (first ++ more, rest)

/-- Reads one statement. -/
def statement (around : Surroundings) : Nat → List Char → Steps
  | 0, _ => .error .uncovered
  | fuel + 1, s => do
    let read := expression (bodyWithin fuel) (depthFor s)
    let (token, rest) ← Token.read s
    match token with
    | .mark ";" => return ([], rest)
    | .mark "\x7b" =>
      let (steps, rest) ← block around fuel s
      return ([.block steps], rest)
    | .word "return" =>
      if !around.function then throw (.statement "return not in a function")
      if endsStatement rest then return ([.give .undefined], ← takeEnd rest)
      let (t, rest) ← read rest
      return ([.give t], ← takeEnd rest)
    | .word "throw" =>
      if endsLine rest then throw (.statement "line terminator not allowed after throw")
      let (t, rest) ← read rest
      return ([.raise t], ← takeEnd rest)
    | .word "var" =>
      let (steps, rest) ← declarations .function false fuel rest
      return (steps, ← takeEnd rest)
    | .word "const" =>
      let (steps, rest) ← declarations .block true fuel rest
      return (steps, ← takeEnd rest)
    | .word "if" =>
      let (condition, rest) ← condition fuel rest
      let (a, rest) ← statement around fuel rest
      match ← Token.read rest with
      | (.word "else", rest) =>
        let (b, rest) ← statement around fuel rest
        return ([.choose condition a b], rest)
      | _ => return ([.choose condition a []], rest)
    | .word "while" =>
      let (condition, rest) ← condition fuel rest
      let (steps, rest) ← statement { around with loop := true } fuel rest
      return ([.loop [] (some condition) none false steps], rest)
    | .word "do" =>
      let (steps, rest) ← statement { around with loop := true } fuel rest
      let rest ← match ← Token.read rest with
        | (.word "while", rest) => pure rest
        | _ => throw (.expecting "while")
      let (condition, rest) ← condition fuel rest
      let rest := if markNext ";" rest then (takeEnd rest).toOption.getD rest else rest
      return ([.loop [] (some condition) none true steps], rest)
    | .word "for" => round around fuel rest
    | .word "switch" =>
      let (t, rest) ← condition fuel rest
      let (cases, rest) ← cases { around with choice := true } fuel (← Token.expect "\x7b" rest)
      return ([.select t cases], rest)
    | .word "try" => attempt around fuel rest
    | .word "break" =>
      if !endsStatement rest then throw .uncovered
      if !around.loop && !around.choice then
        throw (.statement "break must be inside loop or switch")
      return ([.leave], ← takeEnd rest)
    | .word "continue" =>
      if !endsStatement rest then throw .uncovered
      if !around.loop then throw (.statement "continue must be inside loop")
      return ([.next], ← takeEnd rest)
    | .word "debugger" => return ([], ← takeEnd rest)
    | .word "with" =>
      let _ ← Token.expect "(" rest
      throw .uncovered
    | .word "function" =>
      match ← Token.read rest with
      | (.name x, _) =>
        let after ← functionRest (bodyWithin fuel) (depthFor rest) rest
        return ([.define x (slice (← Token.skip s) after)], after)
      | (.mark "*", _) => throw .uncovered
      | _ => throw .functionName
    | .word "class" =>
      match ← Token.read rest with
      | (.name x, _) =>
        let (t, rest) ← operand (bodyWithin fuel) (depthFor s) s
        return ([.declare .block (.name x) (some t)], rest)
      | _ => throw (.statement "class statement requires a name")
    | .name "let" =>
      if declares rest then
        let (steps, rest) ← declarations .block false fuel rest
        return (steps, ← takeEnd rest)
      else spoken fuel s
    | .name _ => if markNext ":" rest then throw .uncovered else spoken fuel s
    | .word w =>
      match refusal? w with
      | some f => throw f
      | none => spoken fuel s
    | _ => spoken fuel s

/-- Reads an expression as a statement. -/
def spoken : Nat → List Char → Steps
  | 0, _ => .error .uncovered
  | fuel + 1, s => do
    let (t, rest) ← expression (bodyWithin fuel) (depthFor s) s
    return ([.run t], ← takeEnd rest)

/-- Reads a condition in brackets. -/
def condition : Nat → List Char → Reading
  | 0, _ => .error .uncovered
  | fuel + 1, s => do
    let (t, rest) ← expression (bodyWithin fuel) (depthFor s) (← Token.expect "(" s)
    return (t, ← Token.expect ")" rest)

/-- Reads the target of a declaration. -/
def target : Nat → List Char → Reading
  | 0, _ => .error .uncovered
  | fuel + 1, s => do
    match ← Token.read s with
    | (.name x, rest) => return (.name x, rest)
    | (.disguised x, _) => throw (.reserved x)
    | (.mark "[", _) | (.mark "\x7b", _) => operand (bodyWithin fuel) (depthFor s) s
    | _ => throw (.statement "variable name expected")

/-- Reads the variables of a declaration. The flag tells that names need a value. -/
def declarations (reach : Reach) (constant : Bool) : Nat → List Char → Steps
  | 0, _ => .error .uncovered
  | fuel + 1, s => do
    let (t, rest) ← target fuel s
    let (u, rest) ← match ← Token.read rest with
      | (.mark "=", rest) => do
        let (u, rest) ← assignment (bodyWithin fuel) (depthFor rest) rest
        pure (some u, rest)
      | _ =>
        if constant then throw (.statement "missing initializer for const variable")
        else pure (none, rest)
    match ← Token.read rest with
    | (.mark ",", rest) =>
      let (more, rest) ← declarations reach constant fuel rest
      return (.declare reach t u :: more, rest)
    | _ => return ([.declare reach t u], rest)

/-- Reads the rest of a loop with a head in brackets. -/
def round (around : Surroundings) : Nat → List Char → Steps
  | 0, _ => .error .uncovered
  | fuel + 1, s => do
    let inside := { around with loop := true }
    let s ← Token.expect "(" s
    let reach : Option (Reach × Bool × List Char) := match Token.read s with
      | .ok (.word "var", rest) => some (.function, false, rest)
      | .ok (.word "const", rest) => some (.block, true, rest)
      | .ok (.name "let", rest) => if declares rest then some (.block, false, rest) else none
      | _ => none
    match reach with
    | some (reach, constant, rest) =>
      let (t, after) ← target fuel rest
      match eachWord? after with
      | some (names, after) => each inside (some reach) t names fuel after
      | none =>
        let (start, rest) ← declarations reach constant fuel rest
        counter inside start fuel (← Token.expect ";" rest)
    | none =>
      if markNext ";" s then counter inside [] fuel (← Token.expect ";" s)
      else
        let found := (chain (bodyWithin fuel) (depthFor s) s).toOption.bind fun (t, rest) =>
          (eachWord? rest).map fun (names, rest) => (t, names, rest)
        match found with
        | some (t, names, rest) =>
          if !isTarget t then throw (.statement "invalid for in/of left hand-side")
          each inside none t names fuel rest
        | none =>
          let (t, rest) ← expression (bodyWithin fuel) (depthFor s) s
          counter inside [.run t] fuel (← Token.expect ";" rest)

/-- Reads the rest of a loop over the items or the names of a value. -/
def each (inside : Surroundings) (reach : Option Reach) (t : Term) (names : Bool) :
    Nat → List Char → Steps
  | 0, _ => .error .uncovered
  | fuel + 1, s => do
    let (visited, rest) ← expression (bodyWithin fuel) (depthFor s) s
    let (steps, rest) ← statement inside fuel (← Token.expect ")" rest)
    return ([.each reach t names visited steps], rest)

/-- Reads the rest of a loop with a condition and something to do after each round. -/
def counter (inside : Surroundings) (start : List Statement) : Nat → List Char → Steps
  | 0, _ => .error .uncovered
  | fuel + 1, s => do
    let read := expression (bodyWithin fuel) (depthFor s)
    let (condition, rest) ← if markNext ";" s then pure (none, s) else do
      let (t, rest) ← read s
      pure (some t, rest)
    let rest ← Token.expect ";" rest
    let (after, rest) ← if markNext ")" rest then pure (none, rest) else do
      let (t, rest) ← read rest
      pure (some t, rest)
    let (steps, rest) ← statement inside fuel (← Token.expect ")" rest)
    return ([.loop start condition after false steps], rest)

/-- Reads the cases of a choice up to the closing brace. -/
def cases (around : Surroundings) : Nat → List Char →
    Except SourceFault (List (Option Term × List Statement) × List Char)
  | 0, _ => .error .uncovered
  | fuel + 1, s => do
    match ← Token.read s with
    | (.mark "\x7d", rest) => return ([], rest)
    | (.word "case", rest) =>
      let (t, rest) ← expression (bodyWithin fuel) (depthFor s) rest
      let (steps, rest) ← caseSteps around fuel (← Token.expect ":" rest)
      let (more, rest) ← cases around fuel rest
      return ((some t, steps) :: more, rest)
    | (.word "default", rest) =>
      let (steps, rest) ← caseSteps around fuel (← Token.expect ":" rest)
      let (more, rest) ← cases around fuel rest
      return ((none, steps) :: more, rest)
    | _ => throw (.statement "invalid switch statement")

/-- Reads the statements behind a case. -/
def caseSteps (around : Surroundings) : Nat → List Char → Steps
  | 0, _ => .error .uncovered
  | fuel + 1, s => do
    match ← Token.read s with
    | (.mark "\x7d", _) | (.word "case", _) | (.word "default", _) => return ([], s)
    | _ =>
      let (first, rest) ← statement around fuel s
      let (more, rest) ← caseSteps around fuel rest
      return (first ++ more, rest)

/-- Reads steps that may fail, with what handles that. -/
def attempt (around : Surroundings) : Nat → List Char → Steps
  | 0, _ => .error .uncovered
  | fuel + 1, s => do
    let (steps, rest) ← block around fuel s
    let (handler, rest) ← match ← Token.read rest with
      | (.word "catch", rest) => do
        let (name, rest) ← if markNext "(" rest then do
            let (t, rest) ← target fuel (← Token.expect "(" rest)
            pure (some t, ← Token.expect ")" rest)
          else pure (none, rest)
        let (handler, rest) ← block around fuel rest
        pure (some (name, handler), rest)
      | _ => pure (none, rest)
    match ← Token.read rest with
    | (.word "finally", rest) =>
      let (last, rest) ← block around fuel rest
      return ([.attempt steps handler last], rest)
    | _ =>
      if handler.isNone then throw (.statement "expecting catch or finally")
      return ([.attempt steps handler []], rest)

/-- Reads statements between braces. -/
def block (around : Surroundings) : Nat → List Char → Steps
  | 0, _ => .error .uncovered
  | fuel + 1, s => do
    let (steps, rest) ← statements around fuel (← Token.expect "\x7b" s)
    match ← Token.read rest with
    | (.mark "\x7d", rest) => return (steps, rest)
    | _ => Token.unexpected rest

/-- Takes the body of a function. -/
def bodyWithin : Nat → List Char → Rest
  | 0, _ => .error .uncovered
  | fuel + 1, s => do
    let (_, rest) ← block { function := true } fuel s
    return rest

end

/-- Takes the body of a function. -/
def body (s : List Char) : Rest := bodyWithin (depthFor s) s

/-- Reads an expression that stands in brackets. -/
def inBrackets (s : List Char) : Except SourceFault Term := do
  let s := s ++ [')']
  let (t, rest) ← expression body (depthFor s) s
  match ← Token.read (← Token.expect ")" rest) with
  | (.stop, _) => return t
  | _ => throw (.expecting ";")

/-- A source without the line in front that tells what runs it. -/
def withoutCommand : List Char → List Char
  | '#' :: '!' :: rest => rest.dropWhile fun c => !Token.isLineEnd c
  | s => s

/-- Reads a script: statements that stand in no function. One that is not covered has none. -/
def script (s : List Char) : Except SourceFault (List Statement) :=
  let s := withoutCommand s
  match statements {} (depthFor s) s with
  | .error .uncovered => .ok []
  | .error f => .error f
  | .ok (steps, rest) => do
    match ← Token.read rest with
    | (.stop, _) => return steps
    | _ => Token.unexpected rest

end DocExamples.Script.Reader
