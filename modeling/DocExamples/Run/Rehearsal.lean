import DocExamples.Run.Engine

/-!
A rehearsal: an engine that needs no script library. It reads the checks that annotations turn into
and compares their texts, does what a few marks say, and passes over all other code.

The marks stand for what real code may do: write to the console, ask for a module, throw, throw
from a function, and fail outside the script. What a mark acts on stands behind it in parentheses.
-/

namespace DocExamples.Rehearsal

/-- What a rehearsal does at a place of the code. -/
inductive Cue where
  | log (payload : String)
  | require (name : String)
  | throw (text : String)
  /-- Throws from a function that the code calls. -/
  | throwInside (text : String)
  /-- Fails outside the script. -/
  | crash (text : String)
  /-- Stores the text of a value. -/
  | store (value : String)
  /-- Compares the stored text. -/
  | compareStored (expected : String)
  /-- Compares the next console line with the line for a payload. -/
  | compareLogged (payload : String)
  /-- Compares the next console line with a literal. -/
  | compareLine (literal : String)
  /-- Requires that no console line is left. -/
  | drained
  deriving DecidableEq, Repr

/-- Takes a given text off the front. -/
def dropText? (start : String) (s : List Char) : Option (List Char) :=
  if start.toList.isPrefixOf s then some (s.drop start.length) else none

/-- A text between `start` and `close` that holds none of the characters `stops`. -/
def between? (start stops close : String) (s : List Char) : Option (String × List Char) := do
  let rest ← dropText? start s
  let inside := rest.takeWhile fun c => !stops.toList.contains c
  let after ← dropText? close (rest.drop inside.length)
  return (String.ofList inside, after)

/-- The rest of a string literal and what follows it; what was read so far is held in reverse. -/
def literalRest? (acc : List Char) : List Char → Option (List Char × List Char)
  | [] => none
  | '"' :: rest => some (('"' :: acc).reverse, rest)
  | '\\' :: c :: rest => literalRest? (c :: '\\' :: acc) rest
  | c :: rest => if c = '\\' then none else literalRest? (c :: acc) rest

/-- A comparison of the next console line with a literal. -/
def lineCheck? (s : List Char) : Option (Cue × List Char) := do
  let rest ← dropText? "__deepStrictEqual(__nextOutput(), \"" s
  let (literal, rest) ← literalRest? ['"'] rest
  let after ← dropText? ");" rest
  return (.compareLine (String.ofList literal), after)

/-- A mark with what stands in its parentheses. -/
def mark? (name : String) (cue : String → Cue) (s : List Char) : Option (Cue × List Char) :=
  (between? (name ++ "(") "()" ")" s).map fun (text, after) => (cue text, after)

/-- A check of the form `start … close`. -/
def check? (start stops close : String) (cue : String → Cue) (s : List Char) :
    Option (Cue × List Char) :=
  (between? start stops close s).map fun (text, after) => (cue text, after)

/-- The cue that a text starts with. -/
def cueAt? (s : List Char) : Option (Cue × List Char) :=
  mark? "@log" .log s <|> mark? "@require" .require s <|> mark? "@throw" .throw s <|>
    mark? "@deep" .throwInside s <|> mark? "@crash" .crash s <|>
    check? "var __returnValue = " ";" ";" .store s <|>
    check? "__deepStrictEqual(__returnValue, " "();" ");" .compareStored s <|>
    check? "__deepStrictEqual(__nextOutput(), __formatOutput(" "()" "));" .compareLogged s <|>
    lineCheck? s <|>
    (dropText? "__assertOutputDrained();" s).map fun after => (.drained, after)

/-- The cues of a line from left to right. The length of the line bounds the steps. -/
def cuesFrom : Nat → List Char → List Cue
  | 0, _ | _, [] => []
  | fuel + 1, c :: rest =>
    match cueAt? (c :: rest) with
    | some (cue, after) => cue :: cuesFrom fuel after
    | none => cuesFrom fuel rest

/-- The cues of lines, each with the number of its line. -/
def cuesOf (number : Nat) : List (List Char) → List (Nat × Cue)
  | [] => []
  | line :: more => (cuesFrom line.length line).map (number, ·) ++ cuesOf (number + 1) more

/-- What a rehearsal was asked for. -/
inductive Event where
  | compiled (code : String) (language : Language) (presets : List String)
  /-- Code was evaluated, in a sandbox that is known by the order of first use. -/
  | evaluated (code : String) (sandbox : Nat)
  | required (name : String) (reply : Json)

/-- The state of a rehearsal. -/
structure Record where
  /-- What it was asked for, the newest first. -/
  events : List Event := []
  /-- The numbers of the sandboxes in the order of their first use. -/
  sandboxes : List Nat := []

/-- What is going on while code is evaluated. -/
structure Scene where
  sandbox : Sandbox
  events : List Event
  /-- The stored text. -/
  stored : String := "None"

/-- A failure of the script with given frames. -/
def thrown (message frames : String) : Raised := .ofReport (message ++ "\n" ++ frames)

/-- A failure of the script on a line. -/
def thrownAt (number : Nat) (message : String) : Raised :=
  thrown message ("    at <eval> (<input>:" ++ toString number ++ ")\n")

/-- Requires that two texts are the same. -/
def expectSame (number : Nat) (actual expected : String) : Except Raised Unit :=
  if actual = expected then .ok ()
  else .error (thrownAt number
    ("AssertionError: Expected values to be strictly deep-equal:\n" ++ actual ++ " !== " ++
      expected))

/-- Makes a call to the host. -/
def callHost (scene : Scene) (call : HostCall) : Except Raised String × Scene :=
  let (reply, sandbox) := scene.sandbox.call call
  (reply.mapError fun e => .other e.failure, { scene with sandbox := sandbox })

/-- Compares the next console line with what another call gives. -/
def compareNext (number : Nat) (scene : Scene) (expected : Scene → Except Raised String × Scene) :
    Except Raised Unit × Scene :=
  match callHost scene .nextOutput with
  | (.error raised, scene) => (.error raised, scene)
  | (.ok line, scene) =>
    match expected scene with
    | (.error raised, scene) => (.error raised, scene)
    | (.ok text, scene) => (expectSame number line text, scene)

/-- Asks for a module. -/
def askModule (number : Nat) (name : String) (scene : Scene) : Except Raised Unit × Scene :=
  let reply := Sandbox.requireReply scene.sandbox.resolver name
  let outcome := match reply.get? "message" with
    | some (.str message) => .error (thrownAt number ("Error: " ++ message))
    | _ => .ok ()
  (outcome, { scene with events := .required name reply :: scene.events })

/-- Plays one cue. -/
def play (number : Nat) (scene : Scene) : Cue → Except Raised Unit × Scene
  | .log payload =>
    let (reply, scene) := callHost scene (.log payload)
    (reply.map fun _ => (), scene)
  | .require name => askModule number name scene
  | .throw text => (.error (thrownAt number text), scene)
  | .throwInside text =>
    (.error (thrown text ("    at inner (<input>:99:9)\n    at <eval> (<input>:" ++
      toString number ++ ":7)\n")), scene)
  | .crash text => (.error (.other ⟨"ValueError", text⟩), scene)
  | .store value => (.ok (), { scene with stored := value })
  | .compareStored expected => (expectSame number scene.stored expected, scene)
  | .compareLogged payload =>
    compareNext number scene fun scene => callHost scene (.formatOutput payload)
  | .compareLine literal => compareNext number scene fun scene => (.ok literal, scene)
  | .drained =>
    let lines := scene.sandbox.console.lines
    (if lines.isEmpty then .ok ()
      else .error (thrownAt number
        ("AssertionError: Unexpected console output left unchecked:\n" ++
          "\n".intercalate lines)), scene)

/-- Plays cues up to the first that fails. -/
def playAll (scene : Scene) : List (Nat × Cue) → Except Raised Unit × Scene
  | [] => (.ok (), scene)
  | (number, cue) :: more =>
    match play number scene cue with
    | (.error raised, scene) => (.error raised, scene)
    | (.ok (), scene) => playAll scene more

/-- Holds when a text occurs in another. -/
def occursIn (part : List Char) : List Char → Bool
  | [] => part.isEmpty
  | c :: rest => part.isPrefixOf (c :: rest) || occursIn part rest

/-- Compiles code, which stays as it is unless a mark in it says that the compiler fails. -/
def compile (presets : List String) (code : String) (language : Language) (r : Record) :
    Except Raised String × Record :=
  (if occursIn "@@".toList code.toList then .error (.refused "SyntaxError: unexpected token")
    else if occursIn "@!".toList code.toList then
      .error (.other ⟨"LookupError", "bad transpiler"⟩)
    else .ok code,
    { r with events := .compiled code language presets :: r.events })

/-- Evaluates code by playing its cues. -/
def evaluate (number : Nat) (sandbox : Sandbox) (code : String) (r : Record) :
    Except Raised Unit × Sandbox × Record :=
  let sandboxes := if r.sandboxes.contains number then r.sandboxes else r.sandboxes ++ [number]
  let event := Event.evaluated code (sandboxes.takeWhile (· ≠ number)).length
  let (outcome, scene) :=
    playAll { sandbox := sandbox, events := event :: r.events }
      (cuesOf 1 (Text.splitLines code.toList))
  (outcome, scene.sandbox, ⟨scene.events, sandboxes⟩)

/-- The engine of a rehearsal. -/
def engine (presets : List String) : Engine Record := ⟨compile presets, evaluate⟩

end DocExamples.Rehearsal
