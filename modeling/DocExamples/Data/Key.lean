import DocExamples.Data.Basic

/-!
Keys of mappings. Numbers that are equal are one key, whatever their types; a truth value counts
as zero or one, and an undefined number equals nothing, not even itself.
-/

namespace DocExamples.Data

/-- The number that a value is, with whole numbers apart from all others. -/
def number? : Data → Option (Int ⊕ Number.Double)
  | bool b => some (.inl (if b then 1 else 0))
  | int n => some (.inl n)
  | float x =>
    match x.toInt? with
    | some n => some (.inl n)
    | none => if x = .nan then none else some (.inr x)
  | _ => none

mutual

/-- Holds when two values are the same key. -/
def sameKey (a b : Data) : Bool :=
  match a, b with
  | null, null => true
  | text s, text t => s == t
  | script s, script t => s == t
  | tuple xs, tuple ys => sameKeys xs ys
  | foreign n _ s _, foreign m _ t _ => n == m && s == t
  | a, b =>
    match number? a, number? b with
    | some x, some y => x == y
    | _, _ => false

/-- Holds when two sequences have the same keys at the same places. -/
def sameKeys (as bs : List Data) : Bool :=
  match as, bs with
  | [], [] => true
  | a :: as, b :: bs => sameKey a b && sameKeys as bs
  | _, _ => false

end

mutual

/-- The type of the value that keeps a value from being a key: a collection that can be changed. -/
def notKey? : Data → Option String
  | list _ => some "list"
  | map _ => some "dict"
  | transpile .. => some "TranspileConfig"
  | settings _ => some "DoctestConfig"
  | foreign "set" .. => some "set"
  | tuple items => notKeys? items
  | _ => none

/-- The type of the first value of a sequence that keeps it from being a key. -/
def notKeys? : List Data → Option String
  | [] => none
  | item :: more => notKey? item <|> notKeys? more

end

/-- Sets an entry: the value of an equal key is replaced and keeps its place and its key, a new
key comes last. -/
def setEntry (key value : Data) : List (Data × Data) → List (Data × Data)
  | [] => [(key, value)]
  | (k, v) :: more =>
    if sameKey k key then (k, value) :: more else (k, v) :: setEntry key value more

/-- A mapping from entries that may repeat keys. -/
def mapOf (entries : List (Data × Data)) : Data :=
  map (entries.foldl (fun known (key, value) => setEntry key value known) [])

/-- A mapping from entries whose keys have to be keys. -/
def mapOf? (entries : List (Data × Data)) : Except Failure Data :=
  match entries.findSome? fun e => notKey? e.1 with
  | some name => .error ⟨"TypeError", "unhashable type: '" ++ name ++ "'"⟩
  | none => .ok (mapOf entries)

/-- The value of a text key in a mapping. -/
def entry? (name : String) (entries : List (Data × Data)) : Option Data :=
  match entries with
  | [] => none
  | (text k, v) :: more => if k = name then some v else entry? name more
  | _ :: more => entry? name more

end DocExamples.Data
