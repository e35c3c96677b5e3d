import DocExamples.Document.Comment
import DocExamples.Text.Case

/-!
Fences: the lines of a document that start and end an example, and the directives between them.

An opening fence is three backticks, any characters that are no word characters, and a language
tag. The tag is compared without regard to case, in the wide sense in which the long s equals `s`
and the dotless and dotted capital i equal `i`; the language is then looked up by the tag in lower
case, which keeps those letters apart. A tag that passes the comparison and is not found is an
error of its own, `UnknownTag`.
-/

namespace DocExamples

/-- The language of an example. -/
inductive Language where
  | javascript
  | typescript
  /-- A language that no fence tag names, given by the caller. -/
  | named (name : String)
  deriving DecidableEq, Repr

namespace Language

/-- The name of a language. -/
def name : Language → String
  | javascript => "javascript"
  | typescript => "typescript"
  | named n => n

/-- The language with a given name. -/
def ofName (n : String) : Language :=
  if n = "javascript" then javascript
  else if n = "typescript" then typescript
  else named n

end Language

/-- A fence tag without a language, in lower case. -/
structure UnknownTag where
  tag : List Char
  deriving DecidableEq, Repr

namespace Fence

/-- The line that closes an example, after trimming. -/
def mark : List Char := "\x60\x60\x60".toList

/-- The directive that leaves the next example out of the run. -/
def skipDirective : List Char := "<!-- skip-example -->".toList

/-- The directive that lets all examples of a document share their state. -/
def shareDirective : List Char := "<!-- share-code-between-examples -->".toList

/-- The language tags and what they stand for. -/
def languages : List (List Char × Language) :=
  [("javascript".toList, .javascript), ("js".toList, .javascript), ("es6".toList, .javascript),
    ("typescript".toList, .typescript), ("ts".toList, .typescript)]

/-- The form in which the letters of tags are compared: all spellings of one letter agree. -/
def foldChar (c : Char) : Char :=
  if c = 'ſ' then 's'
  else if c = 'ı' ∨ c = 'İ' then 'i'
  else Text.lowerChar c

/-- The tag of an opening fence, as it is written. -/
def tag? (line : Line) : Option (List Char) :=
  let stripped := Text.strip line
  if mark.isPrefixOf stripped then
    let tag := (stripped.drop mark.length).dropWhile fun c => !Text.isWord c
    if languages.any (·.1 = tag.map foldChar) then some tag else none
  else none

/-- The language of an opening fence; `none` for any other line. -/
def language? (line : Line) : Except UnknownTag (Option Language) :=
  match tag? line with
  | none => .ok none
  | some tag =>
    let key := Text.lower tag
    match languages.find? (·.1 = key) with
    | some (_, language) => .ok (some language)
    | none => .error ⟨key⟩

/-- What a line means to a document, apart from any example it may belong to. -/
inductive Kind where
  | opening (language : Language)
  | closing
  | skipNext
  | share
  | body
  deriving DecidableEq, Repr

/-- The kind of a line. -/
def kind (line : Line) : Except UnknownTag Kind := do
  let stripped := Text.strip line
  match ← language? stripped with
  | some language => return .opening language
  | none =>
    if stripped = mark then return .closing
    else if stripped = skipDirective then return .skipNext
    else if stripped = shareDirective then return .share
    else return .body

end Fence

end DocExamples
