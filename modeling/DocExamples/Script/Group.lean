import DocExamples.Script.PatternCheck
import DocExamples.Script.Term

/-!
Groups: where brackets, patterns and templates of a source end. What is inside is not read, only
skipped, to see what follows.
-/

namespace DocExamples.Script.Reader

/-- What is left of a source, or the fault. -/
abbrev Rest : Type := Except SourceFault (List Char)

/-- What precedes the rest of a source. -/
def slice (s rest : List Char) : String := String.ofList (s.take (s.length - rest.length))

/-- Holds of a token that a pattern can follow: it does not end an expression. -/
def opensExpression : Token → Bool
  | .mark m => m != ")" && m != "]" && m != "\x7d"
  | .word w => !(["this", "null", "true", "false", "super"].contains w)
  | _ => false

/-- Takes the inside of a pattern up to the slash that closes it. The flag holds inside a class. -/
def patternInside : Bool → List Char → Except SourceFault (List Char × List Char)
  | _, [] => .error .patternEnd
  | _, '\\' :: [] => .error .patternEnd
  | inClass, '\\' :: c :: rest =>
    if Token.isLineEnd c then .error .patternEnd
    else (patternInside inClass rest).map fun (inside, rest) => ('\\' :: c :: inside, rest)
  | inClass, c :: rest =>
    if c = '/' ∧ !inClass then .ok ([], rest)
    else if Token.isLineEnd c then .error .patternEnd
    else
      let inClass := if c = '[' then true else if c = ']' then false else inClass
      (patternInside inClass rest).map fun (inside, rest) => (c :: inside, rest)

mutual

/-- Takes tokens up to the bracket that closes as many groups as are open. The first argument bounds
the steps. -/
def closeGroups : Nat → Nat → Token → List Char → Rest
  | 0, _, _, _ => .error .uncovered
  | fuel + 1, depth, before, s => do
    let (token, rest) ← Token.read s
    match token with
    | .stop => throw (.expecting "\x7d")
    | .mark m =>
      if m = "(" ∨ m = "[" ∨ m = "\x7b" then closeGroups fuel (depth + 1) token rest
      else if m = ")" ∨ m = "]" ∨ m = "\x7d" then
        match depth with
        | 0 => return rest
        | depth + 1 => closeGroups fuel depth token rest
      else if (m = "/" ∨ m = "/=") ∧ opensExpression before then
        let (_, rest) ← patternInside false ((← Token.skip s).drop 1)
        closeGroups fuel depth .stop (rest.dropWhile Token.isNamePart)
      else if m = String.singleton Token.backquote then
        closeGroups fuel depth .stop (← closeTemplate fuel rest)
      else closeGroups fuel depth token rest
    | token => closeGroups fuel depth token rest

/-- Takes the rest of a template. -/
def closeTemplate : Nat → List Char → Rest
  | 0, _ => .error .uncovered
  | fuel + 1, s => do
    let ((_, more), rest) ← Token.templatePart s
    if more then closeTemplate fuel (← closeGroups fuel 0 (.mark "\x7b") rest) else return rest

end

/-- Takes a group that the given bracket opens. -/
def group (opening : String) (s : List Char) : Rest := do
  let rest ← Token.expect opening s
  closeGroups (2 * rest.length + 2) 0 (.mark opening) rest

/-- Holds when a mark comes next. -/
def markNext (mark : String) (s : List Char) : Bool :=
  match Token.read s with
  | .ok (.mark m, _) => m == mark
  | _ => false

/-- Holds when a line ends before the next token. -/
def endsLine (s : List Char) : Bool :=
  match Token.skip s with
  | .ok rest => (s.take (s.length - rest.length)).any Token.isLineEnd
  | .error _ => false

/-- Holds when an arrow function starts a source: its parameters have an arrow behind them. -/
def startsArrow (s : List Char) : Bool :=
  match Token.read s with
  | .ok (.name _, rest) => markNext "=>" rest
  | .ok (.mark "(", _) =>
    match group "(" s with
    | .ok rest => markNext "=>" rest
    | .error _ => false
  | _ => false

end DocExamples.Script.Reader
