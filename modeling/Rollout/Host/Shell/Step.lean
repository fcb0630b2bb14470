import Rollout.Host.Shell.Token

/-!
# Steps of a shell script

A script is a list of steps. A step is a pipeline, which is run always, or depending on how the step
before it ended. The reader of a script takes token by token; a token in a place where it cannot stand
ends the script, and what was complete before its line is run all the same.
-/

namespace Rollout.Host.Shell

/-- Where a redirected output or input goes. -/
structure Redirection where
  fd : Nat
  sign : String
  target : Word
  deriving DecidableEq, Repr

/-- A command with its redirections. -/
structure Simple where
  words : List Word
  redirections : List Redirection
  line : Nat
  deriving DecidableEq, Repr

namespace Simple

/-- Nothing yet. -/
def none : Simple := ⟨[], [], 0⟩

/-- Whether nothing has been said. -/
def isNone (s : Simple) : Bool := s.words.isEmpty && s.redirections.isEmpty

end Simple

/-- When a step is run. -/
inductive Join
  | always
  | onSuccess
  | onFailure
  deriving DecidableEq, Repr

/-- A pipeline, and when it is run. -/
structure Step where
  join : Join
  stages : List Simple
  deriving DecidableEq, Repr

/-- What keeps a script from being read to its end. -/
structure Fault where
  line : Nat
  message : String
  deriving DecidableEq, Repr

/-- What has been read. -/
structure Reader where
  /-- The steps of complete lines. -/
  complete : List Step
  /-- The complete steps of this line. -/
  steps : List Step
  join : Join
  /-- The complete commands of this pipeline. -/
  stages : List Simple
  simple : Simple
  /-- A redirection whose target comes next. -/
  redirecting : Option (Nat × String)
  /-- Whether an operator has to be followed by a command. -/
  awaiting : Bool

namespace Reader

/-- Nothing has been read. -/
def start : Reader := ⟨[], [], .always, [], .none, none, false⟩

/-- Ends the pipeline, if there is one. -/
def close (r : Reader) (next : Join) (awaiting : Bool) : Reader :=
  if r.simple.isNone then { r with join := next, awaiting }
  else
    { r with
      steps := r.steps ++ [⟨r.join, r.stages ++ [r.simple]⟩]
      join := next, stages := [], simple := .none, awaiting }

/-- Ends the line. -/
def closeLine (r : Reader) : Reader :=
  let r := r.close .always false
  { r with complete := r.complete ++ r.steps, steps := [] }

/-- The fault of a token that cannot stand in its place. -/
def unexpected (line : Nat) (shown : String) : Fault :=
  ⟨line, "Syntax error: " ++ shown ++ " unexpected"⟩

/-- The fault of an operator that cannot stand in its place. -/
def unexpectedOperator (line : Nat) (name : String) : Fault :=
  unexpected line ("\"" ++ name ++ "\"")

/-- Takes a word. -/
def takeWord (r : Reader) (line : Nat) (w : Word) : Reader :=
  match r.redirecting with
  | some (fd, sign) =>
    { r with
      simple := { r.simple with redirections := r.simple.redirections ++ [⟨fd, sign, w⟩], line }
      redirecting := none, awaiting := false }
  | none =>
    let line := if r.simple.words.isEmpty then line else r.simple.line
    { r with simple := { r.simple with words := r.simple.words ++ [w], line }, awaiting := false }

/-- Takes an operator. -/
def takeOperator (r : Reader) (line : Nat) (name : String) : Except Fault Reader :=
  if r.simple.isNone ∨ r.redirecting.isSome then .error (unexpectedOperator line name)
  else
    match name with
    | "&&" => .ok (r.close .onSuccess true)
    | "||" => .ok (r.close .onFailure true)
    | "|" =>
      .ok { r with stages := r.stages ++ [r.simple], simple := .none, awaiting := true }
    | ";" | "&" => .ok (r.close .always false)
    | other => .error (unexpectedOperator line other)

/-- Takes a token. -/
def take (r : Reader) (t : Placed) : Except Fault Reader :=
  match t.token with
  | .word w => .ok (r.takeWord t.line w)
  | .redirection fd sign =>
    if r.redirecting.isSome then .error (unexpected t.line "redirection")
    else .ok { r with redirecting := some (fd, sign) }
  | .operator name => r.takeOperator t.line name
  | .lineEnd =>
    if r.redirecting.isSome then .error (unexpected t.line "newline")
    else if r.awaiting then .ok r
    else .ok r.closeLine

/-- Takes tokens up to a fault. -/
def takeAll (r : Reader) : List Placed → Reader × Option Fault
  | [] => (r, none)
  | t :: rest =>
    match r.take t with
    | .ok r => takeAll r rest
    | .error fault => (r, some fault)

end Reader

/-- The steps of a script, up to a fault. -/
def Step.ofText (text : String) : List Step × Option Fault :=
  let (tokens, unclosed) := Token.ofText text
  match Reader.start.takeAll tokens, unclosed with
  | (r, some fault), _ => (r.complete, some fault)
  | (r, none), some (line, _) =>
    (r.complete, some ⟨line, "Syntax error: Unterminated quoted string"⟩)
  | (r, none), none =>
    if r.awaiting ∨ r.redirecting.isSome then
      (r.complete, some (Reader.unexpected (1 + lineEnds text.toList) "end of file"))
    else (r.closeLine.complete, none)

end Rollout.Host.Shell
