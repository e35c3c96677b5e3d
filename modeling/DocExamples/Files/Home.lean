import DocExamples.Files.Tree
import DocExamples.Text.Blank

/-!
Home directories.

A path whose first name starts with a tilde begins in a home directory: a tilde alone stands for the
home of the user whose run it is, and one in front of a name for that of the user with this name. A
home that is not known is a failure, and no sign that nothing stands at the path.
-/

namespace DocExamples

/-- Why a home directory cannot be told. -/
inductive HomeFault where
  | unknown
  /-- The name of a user holds the character that ends names. -/
  | nullInName
  deriving DecidableEq, Repr

/-- A home directory that cannot be told, as a failure. -/
def HomeFault.failure : HomeFault → Failure
  | unknown => ⟨"RuntimeError", "Could not determine home directory."⟩
  | nullInName => ⟨"ValueError", "embedded null byte"⟩

/-- Why a path leads to no place. -/
inductive Lost where
  | home (fault : HomeFault)
  | file (e : FileError)
  deriving DecidableEq, Repr

namespace Files

/-- The directory that is written as a home. The slashes at its end are dropped; nothing is left of
the root, which stays, and a tilde in front says that there is no home. -/
def homeAt (text : String) : Except HomeFault Path :=
  let kept := Text.dropTrailing (· == '/') text.toList
  if kept.head? = some '~' then .error .unknown
  else .ok (Path.ofString (if kept = [] then "/" else String.ofList kept))

/-- The home directory of a user. -/
def homeOf (f : Files) (user : List Char) : Except HomeFault Path :=
  if user.contains (Char.ofNat 0) then .error .nullInName
  else match f.homes (String.ofList user) with
    | none => .error .unknown
    | some text => homeAt text

/-- A path with the home directory in place of a tilde in front. -/
def expand (f : Files) (p : Path) : Except HomeFault Path :=
  match p.slashes, p.parts with
  | 0, name :: more =>
    match name.toList with
    | '~' :: user => (f.homeOf user).map fun home => ⟨home.slashes, home.parts ++ more⟩
    | _ => .ok p
  | _, _ => .ok p

/-- The place of a path that may begin in a home directory. -/
def locate (f : Files) (p : Path) : Except Lost Trail :=
  match f.expand p with
  | .error fault => .error (.home fault)
  | .ok path => (f.find path).mapError fun fault => .file ⟨fault, path.text⟩

/-- The home directory of each account in a list of accounts, one on a line, where colons part its
seven fields. -/
def homesIn (accounts : String) : List (String × String) :=
  (Text.splitLines accounts.toList).filterMap fun line =>
    match Text.splitAt ':' line with
    | [name, _, _, _, _, home, _] => some (String.ofList name, String.ofList home)
    | _ => none

end Files

end DocExamples
