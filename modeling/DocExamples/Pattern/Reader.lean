import DocExamples.Number.Limit
import DocExamples.Number.Whole
import DocExamples.Pattern.Basic
import DocExamples.Pattern.Fault
import DocExamples.Text.Word

/-!
Reading a pattern from its text.

The text is read as a sequence of tokens; a token is one character, or a backslash with the
character behind it. The reader keeps the groups it has met, because a group may be referred to
only after it has ended, and the options that hold for the whole pattern, because they are known
only once they have been read. The first flaw in reading order decides the fault.
-/

namespace DocExamples.Pattern

/-- A character, or a backslash and the character behind it. -/
abbrev Token := List Char

/-- The least and the greatest length of the texts that a part of a pattern matches. -/
abbrev Width := Nat × Nat

/-- Lengths from here on are not told apart. -/
def widthLimit : Nat := 2 ^ 64

mutual

/-- The width of a part, given the widths of the groups it may refer to. -/
def Node.width (groups : List (Nat × Width)) : Node → Width
  | .code _ | .any | .set .. => (1, 1)
  | .anchor _ | .look .. => (0, 0)
  | .group _ _ _ body => widthOf groups body
  | .either choices => widthOfChoices groups choices
  | .many least most _ body =>
    let (lo, hi) := widthOf groups body
    let greatest := match most with
      | some m => hi * m
      | none => if hi = 0 then 0 else widthLimit
    (lo * least, greatest)
  | .again number => (groups.lookup number).getD (0, 0)
  | .ifGroup _ yes no =>
    let (lo, hi) := widthOf groups yes
    let (lo', hi') := widthOf groups no
    (min lo lo', max hi hi')
  | .atomic body => widthOf groups body

/-- The width of a sequence. -/
def widthOf (groups : List (Nat × Width)) : List Node → Width
  | [] => (0, 0)
  | node :: more =>
    let (lo, hi) := node.width groups
    let (lo', hi') := widthOf groups more
    (min (lo + lo') widthLimit, min (hi + hi') widthLimit)

/-- The width of a choice between sequences. -/
def widthOfChoices (groups : List (Nat × Width)) : List (List Node) → Width
  | [] => (0, 0)
  | [choice] => widthOf groups choice
  | choice :: more =>
    let (lo, hi) := widthOf groups choice
    let (lo', hi') := widthOfChoices groups more
    (min lo lo', max hi hi')

end

/-- What the reader knows at a point of the text. -/
structure ReaderState where
  length : Nat
  rest : List Char
  options : Options := {}
  /-- How many groups have been opened. -/
  opened : Nat := 0
  names : List (List Char × Nat) := []
  /-- The groups that have ended, with their widths. -/
  ended : List (Nat × Width) := []
  /-- Inside a lookbehind, the number of the first group that starts in it. -/
  behind : Option Nat := none
  /-- Groups that conditions refer to by number, and where. -/
  conditions : List (Nat × Nat) := []
  /-- Whether a lookbehind of varying width has been read. -/
  variesBehind : Bool := false

/-- Reading, which may fail. -/
abbrev Reading := StateT ReaderState (Except Fault)

namespace Reading

/-- The position of the next token. -/
def position : Reading Nat := return (← get).length - (← get).rest.length

/-- Fails at a position counted back from the next token. -/
def fail {α : Type} (what : Flaw) (back : Nat := 0) : Reading α := do
  throw (.flaw what (some ((← position) - back)))

/-- The first token of a text. -/
def firstToken : List Char → Option Token
  | [] => none
  | '\\' :: c :: _ => some ['\\', c]
  | c :: _ => some [c]

/-- The next token, which stays. -/
def peek : Reading (Option Token) := return firstToken (← get).rest

/-- A backslash that ends the text is a flaw as soon as it is the next character. -/
def checkEnd : Reading Unit := do
  let s ← get
  if s.rest = ['\\'] then throw (.flaw .endsInBackslash (some (s.length - 1)))

/-- Goes back to a position at which the text went on with the given characters. -/
def goTo (rest : List Char) : Reading Unit := do
  modify fun s => { s with rest := rest }
  checkEnd

/-- Takes the next token. -/
def next : Reading (Option Token) := do
  let s ← get
  match firstToken s.rest with
  | none => return none
  | some token =>
    goTo (s.rest.drop token.length)
    return some token

/-- Takes the next token if it is the given character. -/
def accept (c : Char) : Reading Bool := do
  if (← peek) = some [c] then
    let _ ← next
    return true
  return false

/-- Takes up to `n` characters of a kind. -/
def upTo (n : Nat) (p : Char → Bool) : Reading (List Char) :=
  match n with
  | 0 => return []
  | n + 1 => do
    match ← peek with
    | some [c] =>
      if p c then
        let _ ← next
        return c :: (← upTo n p)
      return []
    | _ => return []

/-- Takes the characters of a kind. -/
def takeAll (p : Char → Bool) : Reading (List Char) := do upTo (← get).rest.length p

/-- Takes everything before a mark, and the mark. -/
def nameUntil (fuel : Nat) (mark : Char) (what : String) (acc : List Char) : Reading (List Char) :=
  match fuel with
  | 0 => fail (.missing what)
  | fuel + 1 => do
    match ← next with
    | none => if acc.isEmpty then fail (.missing what) else fail (.unterminated mark) acc.length
    | some token =>
      if token = [mark] then
        if acc.isEmpty then fail (.missing what) 1
        return acc
      nameUntil fuel mark what (acc ++ token)

/-- A name that ends with a mark. -/
def name (mark : Char) (what : String) : Reading (List Char) := do
  nameUntil ((← get).rest.length + 1) mark what []

end Reading

open Reading

/-- Holds of the octal digits. -/
def isOctal (c : Char) : Bool := '0' ≤ c && c ≤ '7'

/-- Holds of the decimal digits in ASCII. -/
def isDecimal (c : Char) : Bool := '0' ≤ c && c ≤ '9'

/-- The value of a hexadecimal digit. -/
def hexDigit? (c : Char) : Option Nat :=
  if isDecimal c then some (c.toNat - 48)
  else if 'a' ≤ c && c ≤ 'f' then some (c.toNat - 87)
  else if 'A' ≤ c && c ≤ 'F' then some (c.toNat - 55)
  else none

/-- The number that digits write in a base. -/
def numberOf (base : Nat) (digits : List Char) : Nat :=
  digits.foldl (fun n c => base * n + (hexDigit? c).getD 0) 0

/-- Holds of the ASCII letters. -/
def isLatin (c : Char) : Bool := ('a' ≤ c && c ≤ 'z') || ('A' ≤ c && c ≤ 'Z')

/-- Holds of the letters of every script. -/
def isLetter (c : Char) : Bool := Text.isWord c && !Text.isDigit c && c != '_'

/-- Holds of a name of a group. -/
def isGroupName : List Char → Bool
  | [] => false
  | c :: rest => (isLetter c || c == '_') && rest.all Text.isWord

/-- The character that an escaped letter stands for. -/
def controlEscape? (c : Char) : Option Nat :=
  match c with
  | 'a' => some 7
  | 'b' => some 8
  | 'f' => some 12
  | 'n' => some 10
  | 'r' => some 13
  | 't' => some 9
  | 'v' => some 11
  | '\\' => some 92
  | _ => none

/-- The class that an escaped letter stands for. -/
def classEscape? (c : Char) : Option SetItem :=
  match c with
  | 'd' => some (.cls .digit false)
  | 'D' => some (.cls .digit true)
  | 's' => some (.cls .blank false)
  | 'S' => some (.cls .blank true)
  | 'w' => some (.cls .word false)
  | 'W' => some (.cls .word true)
  | _ => none

/-- The anchor that an escaped letter stands for outside sets. -/
def anchorEscape? (c : Char) : Option Anchor :=
  match c with
  | 'A' => some .textStart
  | 'b' => some .wordBorder
  | 'B' => some .noWordBorder
  | 'Z' => some .textEnd
  | _ => none

/-- An escape with a fixed number of hexadecimal digits. -/
def hexEscape (token : Token) (width : Nat) : Reading Nat := do
  let digits ← upTo width fun c => (hexDigit? c).isSome
  let text := token ++ digits
  if digits.length ≠ width then fail (.incompleteEscape text) text.length
  let n := numberOf 16 digits
  if 0x10FFFF < n then fail (.badEscape text) text.length
  return n

/-- An escape that gives a character by its name. No names are known. -/
def namedEscape : Reading Nat := do
  if !(← accept '\x7b') then fail .noBrace
  let charName ← name '\x7d' "character name"
  fail (.unknownCharacter charName) (charName.length + 4)

/-- The escapes that are the same inside and outside sets. -/
def commonEscape (token : Token) (c : Char) : Reading Nat := do
  if c = 'x' then hexEscape token 2
  else if c = 'u' then hexEscape token 4
  else if c = 'U' then hexEscape token 8
  else if c = 'N' then namedEscape
  else if isDecimal c || isLatin c then fail (.badEscape token) token.length
  else return c.toNat

/-- An octal escape of three digits, whose value fits a byte. -/
def octalEscape (text : List Char) : Reading Nat := do
  let n := numberOf 8 (text.drop 1)
  if 0o377 < n then fail (.octalTooLarge text) text.length
  return n

/-- An escape inside a set. -/
def setEscape (token : Token) : Reading SetItem := do
  let c := token.getLastD '\\'
  match controlEscape? c with
  | some n => return .code n
  | none => match classEscape? c with
    | some item => return item
    | none =>
      if isOctal c then return .code (← octalEscape (token ++ (← upTo 2 isOctal)))
      return .code (← commonEscape token c)

/-- Holds of a group that has ended. -/
def ReaderState.hasEnded (s : ReaderState) (number : Nat) : Bool :=
  (s.ended.lookup number).isSome

/-- Inside a lookbehind, a group can be referred to only if it ended before. -/
def checkBehind (number : Nat) : Reading Unit := do
  let s ← get
  match s.behind with
  | none => return
  | some first =>
    if !s.hasEnded number then fail .openGroup
    if first ≤ number then fail .lookbehindGroup

/-- A reference to a group by number, or an octal escape of three digits. -/
def digitEscape (token : Token) : Reading Node := do
  let second ← upTo 1 isDecimal
  let text := token ++ second
  if !second.isEmpty && (text.drop 1).all isOctal then
    let third ← upTo 1 isOctal
    if !third.isEmpty then return .code (← octalEscape (text ++ third))
  let number := numberOf 10 (text.drop 1)
  let s ← get
  if s.opened < number then fail (.noSuchGroup number) (text.length - 1)
  if !s.hasEnded number then fail .openGroup text.length
  checkBehind number
  return .again number

/-- An escape outside sets. -/
def escapeNode (token : Token) : Reading Node := do
  let c := token.getLastD '\\'
  match anchorEscape? c with
  | some a => return .anchor a
  | none => match classEscape? c with
    | some item => return .set false [item]
    | none => match controlEscape? c with
      | some n => return .code n
      | none =>
        if c = '0' then
          return .code (numberOf 8 (← upTo 2 isOctal))
        if isDecimal c then digitEscape token
        else return .code (← commonEscape token c)

/-- One member of a set by its token. -/
def setMember (token : Token) : Reading SetItem :=
  match token with
  | [c] => return .code c.toNat
  | token => setEscape token

/-- The members of a set up to its closing bracket; `opening` is the position of the opening one. -/
def readSet (fuel : Nat) (opening : Nat) (acc : List SetItem) : Reading (List SetItem) :=
  match fuel with
  | 0 => return acc
  | fuel + 1 => do
    let unterminated {α : Type} : Reading α := do
      fail .unterminatedSet ((← position) - opening)
    match ← next with
    | none => unterminated
    | some this =>
      if this = [']'] && !acc.isEmpty then return acc
      let first ← setMember this
      if !(← accept '-') then readSet fuel opening (acc ++ [first])
      else match ← next with
        | none => unterminated
        | some that =>
          if that = [']'] then return acc ++ [first, .code '-'.toNat]
          let last ← setMember that
          match first, last with
          | .code lo, .code hi =>
            if hi < lo then fail (.badRange this that) (this.length + 1 + that.length)
            readSet fuel opening (acc ++ [.range lo hi])
          | _, _ => fail (.badRange this that) (this.length + 1 + that.length)

/-- Counts of a repetition from here on cannot be counted. -/
def countLimit : Nat := 4294967295

/-- The count that digits write. -/
def readCount (digits : List Char) : Reading Nat :=
  match Number.ofDigits digits with
  | .error t => throw (.countTooLong t)
  | .ok count => if countLimit ≤ count then throw .countTooLarge else return count

/-- The counts of a repetition in braces, after the opening one; `none` when the braces mean
themselves, and then nothing is taken. -/
def readCounts : Reading (Option (Nat × Option Nat)) := do
  let s ← get
  if (← peek) = some ['\x7d'] then return none
  let lo ← takeAll isDecimal
  let hi ← if ← accept ',' then takeAll isDecimal else pure lo
  if !(← accept '\x7d') then
    goTo s.rest
    return none
  let least ← readCount lo
  if hi.isEmpty then return some (least, none)
  let most ← readCount hi
  if most < least then
    fail .leastAboveMost (s.rest.length - (← get).rest.length)
  return some (least, some most)

/-- The option that a letter turns on. -/
def optionOf? (c : Char) : Option Options :=
  match c with
  | 'i' => some { ignoreCase := true }
  | 'm' => some { multiline := true }
  | 's' => some { dotAll := true }
  | 'x' => some { verbose := true }
  | 'a' => some { ascii := true }
  | 't' => some { template := true }
  | 'u' => some { unicode := true }
  | _ => none

/-- Holds of a token that names an option. -/
def isOption (token : Token) : Bool :=
  match token with
  | [c] => (optionOf? c).isSome || c == 'L'
  | _ => false

/-- Fails at a token that should have named an option. -/
def failOption {α : Type} (token : Token) (expected : String) : Reading α :=
  match token with
  | [c] => if isLetter c then fail .unknownOption 1 else fail (.missing expected) 1
  | token => fail (.missing expected) token.length

/-- Options that are turned on, from the given letter on, and the token behind them. -/
def optionsOn (fuel : Nat) (acc : Options) (token : Token) : Reading (Options × Token) :=
  match fuel with
  | 0 => return (acc, token)
  | fuel + 1 => do
    if token = ['L'] then fail .optionLocale
    let acc := acc.union ((optionOf? (token.headD 'i')).getD {})
    if acc.ascii && acc.unicode then fail .optionsIncompatible
    match ← next with
    | none => fail (.missing "-, : or )")
    | some token =>
      if token = [')'] || token = ['-'] || token = [':'] then return (acc, token)
      if !isOption token then failOption token "-, : or )"
      optionsOn fuel acc token

/-- Options that are turned off, from the given letter on, up to the colon. -/
def optionsOff (fuel : Nat) (acc : Options) (token : Token) : Reading Options :=
  match fuel with
  | 0 => return acc
  | fuel + 1 => do
    if token = ['a'] || token = ['u'] || token = ['L'] then fail .optionKindOff
    let acc := acc.union ((optionOf? (token.headD 'i')).getD {})
    match ← next with
    | none => fail (.missing ":")
    | some token =>
      if token = [':'] then return acc
      if !isOption token then failOption token ":"
      optionsOff fuel acc token

/-- The options of a group, from the given token on; `none` for options of the whole pattern,
which are kept. -/
def readOptions (token : Token) : Reading (Option (Options × Options)) := do
  let fuel := (← get).rest.length + 1
  let (on, token) ← if token = ['-'] then pure ({}, token) else optionsOn fuel {} token
  if token = [')'] then
    modify fun s => { s with options := s.options.union on }
    return none
  if on.template then fail .optionGlobalOn 1
  let off ← if token = ['-'] then
      match ← next with
      | none => fail (.missing "flag")
      | some token =>
        if !isOption token then failOption token "flag"
        optionsOff fuel {} token
    else pure {}
  if off.template then fail .optionGlobalOff 1
  if !(on.common off).isNone then fail .optionOnAndOff 1
  return some (on, off)

/-- What an opening parenthesis begins. -/
inductive Opening where
  | capture (name : Option (List Char))
  | plain (on off : Options)
  | atomic
  | look (ahead negated : Bool)
  | again (number : Nat)
  | ifGroup (number : Nat)
  | comment
  | wholeOptions

/-- The group that a name in parentheses refers to. -/
def namedGroup (groupName : List Char) : Reading Nat := do
  match (← get).names.lookup groupName with
  | none => fail (.unknownGroup groupName) (groupName.length + 1)
  | some number => return number

/-- What follows a parenthesis, a question mark and a `P`. -/
def readNamed : Reading Opening := do
  if ← accept '<' then
    let groupName ← name '>' "group name"
    if !isGroupName groupName then fail (.badGroupName groupName) (groupName.length + 1)
    return .capture (some groupName)
  else if ← accept '=' then
    let groupName ← name ')' "group name"
    if !isGroupName groupName then fail (.badGroupName groupName) (groupName.length + 1)
    let number ← namedGroup groupName
    if !(← get).hasEnded number then fail .openGroup (groupName.length + 1)
    checkBehind number
    return .again number
  else match ← next with
    | none => fail .unexpectedEnd
    | some token => fail (.unknownExtension ("?P".toList ++ token)) (token.length + 2)

/-- The condition of a conditional group. -/
def readCondition : Reading Opening := do
  let condition ← name ')' "group name"
  let number ←
    if isGroupName condition then namedGroup condition
    else match Text.readInt? condition with
      | some (.ofNat n) =>
        if n = 0 then fail .groupNumberZero (condition.length + 1)
        if 1073741823 ≤ n then fail (.noSuchGroup n) (condition.length + 1)
        let here := (← position) - condition.length - 1
        if ((← get).conditions.lookup n).isNone then
          modify fun s => { s with conditions := s.conditions ++ [(n, here)] }
        pure n
      | _ => fail (.badGroupName condition) (condition.length + 1)
  checkBehind number
  return .ifGroup number

/-- Skips a comment up to its closing parenthesis. -/
def skipComment (fuel : Nat) (opening : Nat) : Reading Unit :=
  match fuel with
  | 0 => return
  | fuel + 1 => do
    match ← next with
    | none => fail .unterminatedComment ((← position) - opening)
    | some token => if token = [')'] then return else skipComment fuel opening

/-- What an opening parenthesis at the given position begins. -/
def readOpening (opening : Nat) : Reading Opening := do
  if !(← accept '?') then return .capture none
  match ← next with
  | none => fail .unexpectedEnd
  | some ['P'] => readNamed
  | some [':'] => return .plain {} {}
  | some ['#'] =>
    skipComment ((← get).rest.length + 1) opening
    return .comment
  | some ['='] => return .look true false
  | some ['!'] => return .look true true
  | some ['<'] =>
    match ← next with
    | none => fail .unexpectedEnd
    | some ['='] => return .look false false
    | some ['!'] => return .look false true
    | some token => fail (.unknownExtension ("?<".toList ++ token)) (token.length + 2)
  | some ['('] => readCondition
  | some ['>'] => return .atomic
  | some token =>
    if isOption token || token = ['-'] then
      match ← readOptions token with
      | none => return .wholeOptions
      | some (on, off) => return .plain on off
    else fail (.unknownExtension ('?' :: token)) (token.length + 1)

/-- Opens a numbered group. -/
def openGroup (groupName : Option (List Char)) : Reading Nat := do
  let s ← get
  let number := s.opened + 1
  match groupName with
  | none => set { s with opened := number }
  | some n =>
    match s.names.lookup n with
    | some earlier => fail (.repeatedName n number earlier) (n.length + 1)
    | none => set { s with opened := number, names := s.names ++ [(n, number)] }
  return number

/-- Takes the parenthesis that ends what was opened at the given position. -/
def closeParenthesis (opening : Nat) : Reading Unit := do
  if !(← accept ')') then fail .unterminatedGroup ((← position) - opening)

/-- The parts that a repetition repeats: a plain group is repeated by its contents. -/
def repeated : Node → List Node
  | .group none on off body => if on.isNone && off.isNone then body else [.group none on off body]
  | node => [node]

/-- The mark behind a repetition that says how greedy it is. -/
def readGreed : Reading Greed := do
  if ← accept '?' then return .lazy
  if ← accept '+' then return .possessive
  return .greedy

/-- Adds a repetition with the given counts to a sequence, given in reverse; `taken` is the length
of the text of the counts. -/
def readMany (least : Nat) (most : Option Nat) (taken : Nat) (acc : List Node) :
    Reading (List Node) := do
  match acc with
  | [] => fail .nothingToRepeat taken
  | .anchor _ :: _ => fail .nothingToRepeat taken
  | .many .. :: _ => fail .repeatedRepeat taken
  | node :: more => return .many least most (← readGreed) (repeated node) :: more

/-- Drops a comment of the verbose form, up to the end of its line. -/
def skipLine (fuel : Nat) : Reading Unit :=
  match fuel with
  | 0 => return
  | fuel + 1 => do
    match ← next with
    | none => return
    | some token => if token = ['\n'] then return else skipLine fuel

/-- Holds of the blanks that the verbose form drops. -/
def isLayout (c : Char) : Bool := c = ' ' || (9 ≤ c.toNat && c.toNat ≤ 13)

/-- A set; a set of one character that is not negated is the character. -/
def setNode (negated : Bool) : List SetItem → Node
  | [.code n] => if negated then .set true [.code n] else .code n
  | items => .set negated items

/-- A sequence with the groups opened that neither capture nor set options. -/
def opened (nodes : List Node) : List Node :=
  nodes.flatMap fun
    | .group none on off body => if on.isNone && off.isNone then body else [.group none on off body]
    | node => [node]

/-- Holds of two parts that are the same single character, set, position or repeated capture. -/
def Node.isSameLeaf : Node → Node → Bool
  | .code m, .code n | .again m, .again n => m == n
  | .any, .any => true
  | .set b items, .set c others => b == c && items == others
  | .anchor a, .anchor b => a == b
  | _, _ => false

/-- The part that all choices start with, if it is a leaf. -/
def sharedLeaf? : List (List Node) → Option Node
  | (node :: _) :: more =>
    if node.isSameLeaf node && more.all fun choice => choice.head?.any node.isSameLeaf then
      some node
    else none
  | _ => none

/-- The members of the set that a choice stands for, if it is a character or a set. -/
def membersOf? : List Node → Option (List SetItem)
  | [.code n] => some [.code n]
  | [.set false items] => some items
  | _ => none

/-- A choice that starts with no shared leaf: one of characters is a set. -/
def eitherNode (choices : List (List Node)) : Node :=
  match choices.mapM membersOf? with
  | some items => .set false items.flatten.eraseDups
  | none => .either choices

/-- A choice as a sequence: what all choices start with, and the choice of the rest. The length of
the first choice bounds the steps. -/
def sharedNodes (fuel : Nat) (choices : List (List Node)) : List Node :=
  match fuel, sharedLeaf? choices with
  | fuel + 1, some node => node :: sharedNodes fuel (choices.map (·.drop 1))
  | _, _ => [eitherNode choices]

/-- A choice as a sequence. -/
def choiceNodes : List (List Node) → List Node
  | [single] => single
  | choices => sharedNodes (choices.headD []).length choices

mutual

/-- Reads sequences with bars between them. -/
def readChoices (fuel : Nat) (verbose outermost : Bool) (acc : List (List Node)) :
    Reading (List Node) :=
  match fuel with
  | 0 => return choiceNodes acc
  | fuel + 1 => do
    let choice ← readSequence fuel verbose (outermost && acc.isEmpty) []
    let acc := acc ++ [choice]
    if !(← accept '|') then return choiceNodes acc
    let s ← get
    let verbose := if outermost then s.options.verbose else verbose
    readChoices fuel verbose outermost acc

/-- Reads a sequence up to a bar, a closing parenthesis or the end. The parts read so far are held
in reverse; `first` holds while options of the whole pattern may be given. -/
def readSequence (fuel : Nat) (verbose first : Bool) (acc : List Node) : Reading (List Node) :=
  match fuel with
  | 0 => return acc.reverse
  | fuel + 1 => do
    let opening ← position
    match ← peek with
    | none | some ['|'] | some [')'] => return opened acc.reverse
    | some token =>
      let _ ← next
      let add (node : Node) : Reading (List Node) := readSequence fuel verbose first (node :: acc)
      let many (least : Nat) (most : Option Nat) : Reading (List Node) := do
        let taken := (← position) - opening
        readSequence fuel verbose first (← readMany least most taken acc)
      match token with
      | '\\' :: _ => add (← escapeNode token)
      | ['['] =>
        let negated ← accept '^'
        let items ← readSet ((← get).rest.length + 1) opening []
        add (setNode negated items.eraseDups)
      | ['?'] => many 0 (some 1)
      | ['*'] => many 0 none
      | ['+'] => many 1 none
      | ['\x7b'] =>
        match ← readCounts with
        | none => add (.code '\x7b'.toNat)
        | some (least, most) => many least most
      | ['.'] => add .any
      | ['^'] => add (.anchor .lineStart)
      | ['$'] => add (.anchor .lineEnd)
      | ['('] =>
        match ← readOpening opening with
        | .comment => readSequence fuel verbose first acc
        | .again number => add (.again number)
        | .wholeOptions =>
          if !first || !acc.isEmpty then fail .lateOptions ((← position) - opening)
          readSequence fuel (← get).options.verbose first acc
        | .look ahead negated =>
          let outer := (← get).behind
          if !ahead && outer.isNone then
            modify fun s => { s with behind := some (s.opened + 1) }
          let body ← readChoices fuel verbose false []
          if !ahead && outer.isNone then modify fun s => { s with behind := none }
          closeParenthesis opening
          let (lo, hi) := widthOf (← get).ended body
          if !ahead && lo ≠ hi then modify fun s => { s with variesBehind := true }
          add (.look (if ahead then none else some lo) negated body)
        | .ifGroup number =>
          let yes ← readSequence fuel verbose false []
          let no ← if ← accept '|' then do
              let no ← readSequence fuel verbose false []
              if (← peek) = some ['|'] then fail .thirdChoice
              pure no
            else pure []
          closeParenthesis opening
          add (.ifGroup number yes no)
        | .atomic =>
          let body ← readChoices fuel verbose false []
          closeParenthesis opening
          add (.atomic body)
        | .plain on off =>
          let inner := (verbose || on.verbose) && !off.verbose
          let body ← readChoices fuel inner false []
          closeParenthesis opening
          add (.group none on off body)
        | .capture groupName =>
          let number ← openGroup groupName
          let body ← readChoices fuel verbose false []
          closeParenthesis opening
          modify fun s => { s with ended := (number, widthOf s.ended body) :: s.ended }
          add (.group (some number) {} {} body)
      | [c] =>
        if verbose && isLayout c then readSequence fuel verbose first acc
        else if verbose && c = '#' then
          skipLine ((← get).rest.length + 1)
          readSequence fuel verbose first acc
        else add (.code c.toNat)
      | _ => readSequence fuel verbose first acc

end

/-- Reads a pattern and what has to be known once its end is reached. -/
def readWhole (fuel : Nat) : Reading Pattern := do
  checkEnd
  let body ← readChoices fuel false true []
  let s ← get
  if s.options.ascii && s.options.unicode then throw .optionsContradict
  if !s.rest.isEmpty then fail .unbalanced
  match s.conditions.find? (s.opened < ·.1) with
  | some (number, at_) => throw (.flaw (.noSuchGroup number) (some at_))
  | none =>
    if s.variesBehind then throw (.flaw .lookbehindWidth none)
    return ⟨s.options, body, s.opened⟩

end DocExamples.Pattern

namespace DocExamples

/-- Reads a pattern from its text. Every step of the reader takes a token or ends a part, so twice
the length bounds the depth of calls. -/
def Pattern.read (text : List Char) : Except Pattern.Fault Pattern :=
  (Pattern.readWhole (2 * text.length + 4)).run' ⟨text.length, text, {}, 0, [], [], none, [], false⟩

end DocExamples
