import DocExamples.Script.Token

/-!
Which texts are patterns of scripts.

A pattern is checked from left to right, and the first fault counts. Without the flag for whole
characters a pattern consists of 16-bit units, and much that looks like a fault stands for itself:
a brace that opens no count, a back reference to no group, an escape without a meaning.
-/

namespace DocExamples.Script

/-- Why a text is no pattern. -/
inductive PatternFault where
  | flags
  | expecting (c : Char)
  | nothingToRepeat
  | count
  | classRange
  | endReached
  | group
  | groupName
  | duplicateName
  | nameExpected
  | unknownName
  | reference
  | decimal
  | escape
  | property
  | lone
  | extraneous
  | tooMany
  deriving DecidableEq, Repr

namespace PatternFault

/-- The words for a fault. -/
def message : PatternFault → String
  | flags => "invalid regular expression flags"
  | expecting c => "expecting '" ++ String.singleton c ++ "'"
  | nothingToRepeat => "nothing to repeat"
  | count => "invalid repetition count"
  | classRange => "invalid class range"
  | endReached => "unexpected end"
  | group => "invalid group"
  | groupName => "invalid group name"
  | duplicateName => "duplicate group name"
  | nameExpected => "expecting group name"
  | unknownName => "group name not defined"
  | reference => "back reference out of range in regular expression"
  | decimal => "invalid decimal escape in regular expression"
  | escape => "invalid escape sequence in regular expression"
  | property => "expecting '\x7b' after \\p"
  | lone => "syntax error"
  | extraneous => "extraneous characters at the end"
  | tooMany => "too many captures"

end PatternFault

namespace PatternCheck

/-- The flags that a pattern may have, each once. -/
def knownFlags : List Char := ['g', 'i', 'm', 's', 'u', 'y']

/-- Holds of flags that are known and different. -/
def validFlags : List Char → Bool
  | [] => true
  | c :: rest => knownFlags.contains c && !rest.contains c && validFlags rest

/-- The 16-bit units of a text. -/
def units (s : List Char) : List Nat :=
  s.flatMap fun c =>
    let n := c.toNat
    if n < 0x10000 then [n] else [0xD800 + (n - 0x10000) / 0x400, 0xDC00 + (n - 0x10000) % 0x400]

/-! The codes of the characters that have a meaning in patterns. -/

@[match_pattern] abbrev backslash : Nat := 92
@[match_pattern] abbrev letterU : Nat := 117
@[match_pattern] abbrev leftBrace : Nat := 123
@[match_pattern] abbrev rightBrace : Nat := 125
@[match_pattern] abbrev rightBracket : Nat := 93
@[match_pattern] abbrev leftBracket : Nat := 91
@[match_pattern] abbrev hyphen : Nat := 45
@[match_pattern] abbrev greaterSign : Nat := 62
@[match_pattern] abbrev lessSign : Nat := 60
@[match_pattern] abbrev leftParen : Nat := 40
@[match_pattern] abbrev questionMark : Nat := 63
@[match_pattern] abbrev colon : Nat := 58
@[match_pattern] abbrev equalsSign : Nat := 61
@[match_pattern] abbrev exclamation : Nat := 33
@[match_pattern] abbrev caret : Nat := 94
@[match_pattern] abbrev dollar : Nat := 36
@[match_pattern] abbrev dot : Nat := 46
@[match_pattern] abbrev star : Nat := 42
@[match_pattern] abbrev plus : Nat := 43
@[match_pattern] abbrev comma : Nat := 44

/-- Holds when a text starts with a character. -/
def startsWith (c : Char) (s : List Nat) : Bool := s.head? == some c.toNat

/-- Holds of the codes of digits. -/
def isDigit (n : Nat) : Bool := 48 ≤ n && n ≤ 57

/-- Holds when a text starts with a digit. -/
def startsWithDigit (s : List Nat) : Bool := s.head?.any isDigit

/-- A run of digits; counts do not grow beyond 31 bits. -/
def digits (s : List Nat) : Nat × List Nat :=
  let run := s.takeWhile isDigit
  (run.foldl (fun v d => min (10 * v + (d - 48)) (2 ^ 31 - 1)) 0, s.dropWhile isDigit)

/-- What is known of a pattern before it is checked. -/
structure Setting where
  /-- Whether the pattern consists of whole characters. -/
  whole : Bool
  pattern : List Nat

/-- What was met so far. -/
structure State where
  rest : List Nat
  captures : Nat := 1
  names : List (List Nat) := []

/-- The value of a hexadecimal digit. -/
def hex? (n : Nat) : Option Nat := Json.hexValue? (Char.ofNat n)

/-- So many hexadecimal digits. -/
def hexes? : Nat → Nat → List Nat → Option (Nat × List Nat)
  | 0, v, s => some (v, s)
  | _ + 1, _, [] => none
  | n + 1, v, c :: rest =>
    match hex? c with
    | some d => hexes? n (16 * v + d) rest
    | none => none

/-- Hexadecimal digits up to a closing brace. -/
def bracedHex? (s : List Nat) : Option (Nat × List Nat) :=
  match s.span fun c => (hex? c).isSome with
  | (run@(_ :: _), rightBrace :: rest) =>
    let n := run.foldl (fun n c => min (16 * n + (hex? c).getD 0) 0x110000) 0
    if n ≤ 0x10FFFF then some (n, rest) else none
  | _ => none

/-- An escape that names a unit by its number. -/
def numbered? (whole : Bool) (count : Nat) (s : List Nat) : Option (Nat × List Nat) :=
  match whole, s with
  | true, leftBrace :: rest => bracedHex? rest
  | true, s => do
    let (high, rest) ← hexes? count 0 s
    match rest with
    | backslash :: letterU :: after =>
      match hexes? 4 0 after with
      | some (low, after) =>
        if 0xD800 ≤ high ∧ high < 0xDC00 ∧ 0xDC00 ≤ low ∧ low < 0xE000 then
          some (0x10000 + (high - 0xD800) * 0x400 + (low - 0xDC00), after)
        else some (high, rest)
      | none => some (high, rest)
    | _ => some (high, rest)
  | false, s => hexes? count 0 s

/-- Up to two more octal digits of an escape whose first has the value `v`. -/
def octal (v : Nat) (s : List Nat) : Nat × List Nat :=
  match s with
  | a :: rest =>
    if 48 ≤ a ∧ a ≤ 55 then
      let w := 8 * v + (a - 48)
      match rest with
      | b :: more => if w < 32 ∧ 48 ≤ b ∧ b ≤ 55 then (8 * w + (b - 48), more) else (w, rest)
      | [] => (w, rest)
    else (v, s)
  | [] => (v, s)

/-- What an escape means. -/
inductive Escape where
  | unit (n : Nat) (rest : List Nat)
  /-- A known letter with something wrong behind it. -/
  | broken
  | unknown

/-- The escape behind a backslash. -/
def escapeOf (whole : Bool) : List Nat → Escape
  | [] => .unknown
  | c :: rest =>
    match Char.ofNat c with
    | 'b' => .unit 8 rest
    | 'f' => .unit 12 rest
    | 'n' => .unit 10 rest
    | 'r' => .unit 13 rest
    | 't' => .unit 9 rest
    | 'v' => .unit 11 rest
    | 'x' =>
      match numbered? whole 2 rest with
      | some (n, rest) => .unit n rest
      | none => .broken
    | 'u' =>
      match numbered? whole 4 rest with
      | some (n, rest) => .unit n rest
      | none => .broken
    | _ =>
      if 48 ≤ c ∧ c ≤ 55 then
        if whole then if c ≠ 48 ∨ startsWithDigit rest then .broken else .unit 0 rest
        else
          let (n, rest) := octal (c - 48) rest
          .unit n rest
      else .unknown

/-- The characters that may always be escaped. -/
def marks : List Char :=
  ['^', '$', '\\', '.', '*', '+', '?', '(', ')', '[', ']', '\x7b', '\x7d', '|', '/']

/-- An atom of a class: a unit, or `none` for a set of them. -/
abbrev Atom : Type := Option Nat × List Nat

/-- Reads one unit or a set that an escape names. -/
def atom (whole inClass : Bool) : List Nat → Except PatternFault Atom
  | [] => .error .endReached
  | backslash :: [] => .error .endReached
  | backslash :: c :: rest =>
    let letter := Char.ofNat c
    if ['d', 'D', 's', 'S', 'w', 'W'].contains letter then .ok (none, rest)
    else if letter = 'c' then
      match rest with
      | n :: after =>
        let l := Char.ofNat n
        if l.isAlpha || ((l.isDigit || l == '_') && inClass && !whole) then
          .ok (some (n % 32), after)
        else if whole then .error .escape
        else .ok (some backslash, c :: rest)
      | [] => if whole then .error .escape else .ok (some backslash, c :: rest)
    else if (letter = 'p' ∨ letter = 'P') ∧ whole then
      match rest with
      | leftBrace :: after =>
        match after.dropWhile fun n => (Char.ofNat n).isAlphanum || n == 95 || n == equalsSign with
        | rightBrace :: rest => .ok (none, rest)
        | _ => .error (.expecting '\x7d')
      | _ => .error .property
    else
      match escapeOf whole (c :: rest) with
      | .unit n rest => .ok (some n, rest)
      | .unknown => if whole ∧ !marks.contains letter then .error .escape else .ok (some c, rest)
      | .broken => if whole then .error .escape else .ok (some c, rest)
  | c :: rest => .ok (some c, rest)

/-- Reads the rest of a class after its opening bracket; the first argument bounds the steps. -/
def classRest (whole : Bool) : Nat → List Nat → Except PatternFault (List Nat)
  | 0, _ => .error .endReached
  | _ + 1, rightBracket :: rest => .ok rest
  | fuel + 1, s => do
    let (first, rest) ← atom whole true s
    match rest with
    | hyphen :: after =>
      if startsWith ']' after then classRest whole fuel rest
      else
        match first with
        | none => if whole then throw .classRange else classRest whole fuel rest
        | some low =>
          match ← atom whole true after with
          | (none, _) => if whole then throw .classRange else classRest whole fuel rest
          | (some high, after) =>
            if high < low then throw .classRange else classRest whole fuel after
    | rest => classRest whole fuel rest

/-- Reads the name of a group up to its closing bracket. -/
def groupName? (whole : Bool) : Nat → List Nat → List Nat → Option (List Nat × List Nat)
  | 0, _, _ => none
  | _ + 1, _, [] => none
  | fuel + 1, acc, c :: rest =>
    if c = greaterSign then if acc.isEmpty then none else some (acc.reverse, rest)
    else
      let part : Option (Nat × List Nat) :=
        match c, rest with
        | backslash, letterU :: after => numbered? whole 4 after
        | backslash, _ => none
        | c, rest => some (c, rest)
      match part with
      | none => none
      | some (n, rest) =>
        let letter := Char.ofNat n
        if (if acc.isEmpty then Token.isNameStart letter else Token.isNamePart letter) then
          groupName? whole fuel (n :: acc) rest
        else none

/-- Drops the rest of a class in a first look at a pattern. -/
def skipClass : List Nat → List Nat
  | backslash :: _ :: rest => skipClass rest
  | rightBracket :: rest => rest
  | _ :: rest => skipClass rest
  | [] => []

/-- What a first look at a pattern finds: how many groups there are, and the names of groups with
`none` for one that is malformed. The first argument bounds the steps. -/
def survey (whole : Bool) : Nat → List Nat → Nat × List (Option (List Nat))
  | 0, _ => (0, [])
  | _ + 1, [] => (0, [])
  | fuel + 1, c :: rest =>
    match c, rest with
    | leftParen, questionMark :: lessSign :: after =>
      if startsWith '=' after || startsWith '!' after then survey whole fuel after
      else
        let (count, names) := survey whole fuel after
        (count + 1, ((groupName? whole (after.length + 1) [] after).map (·.1)) :: names)
    | leftParen, questionMark :: after => survey whole fuel after
    | leftParen, rest =>
      let (count, names) := survey whole fuel rest
      (count + 1, names)
    | backslash, _ :: rest => survey whole fuel rest
    | leftBracket, rest => survey whole fuel (skipClass (if startsWith ']' rest then rest.drop 1 else rest))
    | _, rest => survey whole fuel rest

/-- The first look at the pattern of a setting. -/
def Setting.survey (g : Setting) : Nat × List (Option (List Nat)) :=
  PatternCheck.survey g.whole (g.pattern.length + 1) g.pattern

/-- Holds of a brace that opens a count. -/
def opensCount (s : List Nat) : Bool :=
  startsWithDigit s &&
    (match (digits s).2 with
    | comma :: rest => startsWith '\x7d' (digits rest).2
    | rest => startsWith '\x7d' rest)

/-- Drops the mark of a repetition that takes as little as it can. -/
def dropLazy (s : List Nat) : List Nat := if startsWith '?' s then s.drop 1 else s

/-- Reads how often an atom is repeated. -/
def repetition (whole : Bool) (s : List Nat) : Except PatternFault (List Nat) :=
  match s with
  | star :: rest | plus :: rest | questionMark :: rest => .ok (dropLazy rest)
  | leftBrace :: rest =>
    if !startsWithDigit rest then if whole then .error .count else .ok s
    else
      let (low, after) := digits rest
      let (high, after) : Option Nat × List Nat := match after with
        | comma :: after =>
          if startsWithDigit after then
            let (high, after) := digits after
            (some high, after)
          else (none, after)
        | after => (some low, after)
      if high.any (· < low) then .error .count
      else if startsWith '\x7d' after then .ok (dropLazy (after.drop 1))
      else if whole then .error (.expecting '\x7d')
      else .ok s
  | s => .ok s

/-- Takes the bracket that closes a group. -/
def close (s : State) : Except PatternFault State :=
  if startsWith ')' s.rest then .ok { s with rest := s.rest.drop 1 } else .error (.expecting ')')

/-- Goes on behind an atom that may be repeated. -/
def repeated (g : Setting) (s : State) : Except PatternFault State :=
  (repetition g.whole s.rest).map fun rest => { s with rest := rest }

/-- Reads an atom that stands for itself, and its repetition. -/
def plain (g : Setting) (s : State) : Except PatternFault State := do
  let (_, rest) ← atom g.whole false s.rest
  repeated g { s with rest := rest }

/-- Reads a back reference by name, after the backslash and the letter. -/
def namedReference (g : Setting) (s : State) (after : List Nat) : Except PatternFault State :=
  let strict := g.whole || !g.survey.2.isEmpty
  let otherwise (fault : PatternFault) : Except PatternFault State :=
    if strict then .error fault else plain g s
  match after with
  | lessSign :: after =>
    match groupName? g.whole (after.length + 1) [] after with
    | none => otherwise .groupName
    | some (name, rest) =>
      if s.names.contains name || g.survey.2.contains (some name) then
        repeated g { s with rest := rest }
      else otherwise .unknownName
  | _ => otherwise .nameExpected

/-- Reads an escape that starts with a digit, after the backslash. -/
def numberedEscape (g : Setting) (s : State) (after : List Nat) : Except PatternFault State :=
  match after with
  | 48 :: rest =>
    if g.whole then
      if startsWithDigit rest then .error .decimal else repeated g { s with rest := rest }
    else repeated g { s with rest := (octal 0 rest).2 }
  | after =>
    let (n, rest) := digits after
    if n < s.captures || n ≤ g.survey.1 then repeated g { s with rest := rest }
    else if g.whole then .error .reference
    else
      match after with
      | c :: rest =>
        repeated g { s with rest := if c ≤ 51 then (octal (c - 48) rest).2
          else if c ≤ 55 then (octal 4 rest).2
          else rest }
      | [] => .error .endReached

mutual

/-- Reads alternatives. The first argument of each reader bounds how deep they call each other. -/
def alternatives (g : Setting) : Nat → State → Except PatternFault State
  | 0, _ => .error .endReached
  | fuel + 1, s => do
    let s ← terms g fuel s
    if startsWith '|' s.rest then alternatives g fuel { s with rest := s.rest.drop 1 } else return s

/-- Reads the terms of an alternative. -/
def terms (g : Setting) : Nat → State → Except PatternFault State
  | 0, _ => .error .endReached
  | fuel + 1, s => do
    if s.rest.isEmpty || startsWith '|' s.rest || startsWith ')' s.rest then return s
    else terms g fuel (← term g fuel s)

/-- Reads one term with its repetition. -/
def term (g : Setting) : Nat → State → Except PatternFault State
  | 0, _ => .error .endReached
  | fuel + 1, s =>
    match s.rest with
    | caret :: rest | dollar :: rest => .ok { s with rest := rest }
    | dot :: rest => repeated g { s with rest := rest }
    | star :: _ | plus :: _ | questionMark :: _ => .error .nothingToRepeat
    | leftBrace :: rest =>
      if g.whole then .error .lone
      else if opensCount rest then .error .nothingToRepeat
      else plain g s
    | rightBracket :: _ | rightBrace :: _ => if g.whole then .error .lone else plain g s
    | leftParen :: questionMark :: colon :: rest => do
      repeated g (← close (← alternatives g fuel { s with rest := rest }))
    | leftParen :: questionMark :: equalsSign :: rest | leftParen :: questionMark :: exclamation :: rest => do
      let s ← close (← alternatives g fuel { s with rest := rest })
      if g.whole then return s else repeated g s
    | leftParen :: questionMark :: lessSign :: equalsSign :: rest | leftParen :: questionMark :: lessSign :: exclamation :: rest => do
      close (← alternatives g fuel { s with rest := rest })
    | leftParen :: questionMark :: lessSign :: rest =>
      match groupName? g.whole (rest.length + 1) [] rest with
      | none => .error .groupName
      | some (name, rest) =>
        if s.names.contains name then .error .duplicateName
        else capture g fuel { s with rest := rest, names := name :: s.names }
    | leftParen :: questionMark :: _ => .error .group
    | leftParen :: rest => capture g fuel { s with rest := rest }
    | backslash :: c :: rest =>
      match Char.ofNat c with
      | 'b' | 'B' => .ok { s with rest := rest }
      | 'k' => namedReference g s rest
      | _ => if isDigit c then numberedEscape g s (c :: rest) else plain g s
    | leftBracket :: rest => do
      let rest := if startsWith '^' rest then rest.drop 1 else rest
      let rest ← classRest g.whole (rest.length + 1) rest
      repeated g { s with rest := rest }
    | _ => plain g s

/-- Reads a group that is counted, after what opens it. -/
def capture (g : Setting) : Nat → State → Except PatternFault State
  | 0, _ => .error .endReached
  | fuel + 1, s => do
    if 255 ≤ s.captures then throw .tooMany
    repeated g (← close (← alternatives g fuel { s with captures := s.captures + 1 }))

end

/-- The fault of a pattern with flags, if it has one. -/
def fault? (source flags : List Char) : Option PatternFault :=
  if !validFlags flags then some .flags
  else
    let whole := flags.contains 'u'
    let pattern := if whole then source.map Char.toNat else units source
    match alternatives ⟨whole, pattern⟩ (4 * pattern.length + 4) { rest := pattern } with
    | .error f => some f
    | .ok s => if s.rest.isEmpty then none else some .extraneous

end PatternCheck

end DocExamples.Script
