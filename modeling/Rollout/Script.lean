import Rollout.Session
import Rollout.Text.Quoted

/-!
# Scripts of expected calls

A script answers commands without running anything. It holds expectations in order, and a call is
answered by the first one that is meant for it and not used up; only the number of calls served by
that one changes. A call that no expectation answers is an error, and recorded all the same.

Replayed over the commands of a run, a script is a runner (`Script.runner`). Copies of a scripted
runner share its script: a call through any of them is a call of the one script.
-/

namespace Rollout

/-- Demands on arguments: each that is made has to be met. -/
structure ArgumentPattern where
  /-- All arguments, in order. -/
  whole : Option (List String)
  /-- The first arguments, in order. -/
  front : Option (List String)
  /-- Arguments that have to occur somewhere. -/
  among : Option (List String)
  /-- A text that has to occur in some argument. -/
  within : Option String
  deriving DecidableEq, Repr

namespace ArgumentPattern

/-- No demands. -/
def any : ArgumentPattern := ⟨none, none, none, none⟩

/-- Whether a demand, where it is made, is met. -/
def meets {α : Type} (demand : Option α) (holds : α → Bool) : Bool :=
  match demand with
  | some a => holds a
  | none => true

/-- Whether some arguments meet all demands. -/
def accepts (p : ArgumentPattern) (args : List String) : Bool :=
  meets p.whole (fun whole => args == whole) &&
    meets p.front (fun front => front.isPrefixOf args) &&
    meets p.among (fun among => among.all fun a => args.contains a) &&
    meets p.within fun needle => args.any fun a => Text.contains a needle

/-- A pattern is a predicate of arguments. -/
instance : Coe ArgumentPattern (List String → Bool) := ⟨accepts⟩

end ArgumentPattern

/-- What an expectation answers. -/
inductive Response
  | output (o : Output)
  /-- The program is not there. -/
  | missing
  | failure (e : ProcessError)
  deriving DecidableEq, Repr

namespace Response

/-- The answer to a command. -/
def answer (c : Command) : Response → Answer
  | output o => .ok o
  | missing => .error (.commandNotFound c.program)
  | failure e => .error e

/-- Changes the output, where that is the response. -/
def mapOutput (f : Output → Output) : Response → Response
  | output o => output (f o)
  | other => other

end Response

/-- An expected call. -/
structure Expectation where
  program : String
  /-- Which arguments it is meant for. -/
  pattern : List String → Bool
  response : Response
  /-- How many calls it answers; without a limit, all. -/
  limit : Option Nat
  /-- How many calls it has answered. -/
  served : Nat

namespace Expectation

/-- What a scripted command leaves behind where nothing else is said. -/
def quietOutput : Output := ⟨.success, "", "", .ofMillis 10⟩

/-- Any call of a program, as often as it comes, with nothing to say. -/
def of (program : String) : Expectation :=
  ⟨program, ArgumentPattern.any, .output quietOutput, none, 0⟩

/-- Says what the command writes to its standard output. -/
def withStdout (e : Expectation) (s : String) : Expectation :=
  { e with response := e.response.mapOutput fun o => { o with stdout := s } }

/-- Says what the command writes to its standard error. -/
def withStderr (e : Expectation) (s : String) : Expectation :=
  { e with response := e.response.mapOutput fun o => { o with stderr := s } }

/-- Says with which number the command exits. -/
def withExit (e : Expectation) (n : Int32) : Expectation :=
  { e with response := e.response.mapOutput fun o => { o with status := .ofExit n } }

/-- Whether the expectation is meant for a command. -/
def isFor (e : Expectation) (c : Command) : Bool :=
  e.program == c.program && e.pattern c.args

/-- Whether the expectation has answered all the calls it can. -/
def isSpent (e : Expectation) : Bool :=
  match e.limit with
  | some limit => decide (limit ≤ e.served)
  | none => false

/-- Counts an answered call. -/
def count (e : Expectation) : Expectation := { e with served := e.served + 1 }

end Expectation

/-- Expectations in order, and all calls so far, oldest first. -/
structure Script where
  expectations : List Expectation
  history : List Command

namespace Script

/-- No calls yet. -/
def ofList (expectations : List Expectation) : Script := ⟨expectations, []⟩

/-- Puts an expectation behind the others. -/
def expect (s : Script) (e : Expectation) : Script :=
  { s with expectations := s.expectations ++ [e] }

/-- The answer of the first expectation that has one, and the expectations with that call counted. -/
def serve? (c : Command) : List Expectation → Option (Answer × List Expectation)
  | [] => none
  | e :: rest =>
    if e.isFor c && !e.isSpent then some (e.response.answer c, e.count :: rest)
    else (serve? c rest).map fun (answer, rest) => (answer, e :: rest)

/-- What is said of a call that no expectation answers. -/
def refusal (c : Command) (expectations : List Expectation) : ProcessError :=
  if expectations.any fun e => e.isFor c then
    .unexpected ("Command '" ++ c.program ++ "' called more times than expected")
  else
    .unexpected ("No expectation found for command: " ++ c.program ++ " " ++ Text.quotedList c.args)

/-- Records a call and answers it. -/
def call (s : Script) (c : Command) : Answer × Script :=
  let history := s.history ++ [c]
  match serve? c s.expectations with
  | some (answer, expectations) => (answer, ⟨expectations, history⟩)
  | none => (.error (refusal c s.expectations), ⟨s.expectations, history⟩)

/-- The script behind some calls. -/
def after (s : Script) (calls : List Command) : Script := calls.foldl (fun s c => (s.call c).2) s

/-- What is answered to some calls, in their order. -/
def answers (s : Script) : List Command → List Answer
  | [] => []
  | c :: rest => (s.call c).1 :: (s.call c).2.answers rest

/-- The runner that a script is. -/
def runner (s : Script) : Runner := fun before c => ((s.after before).call c).1

/-- Whether a program was called a number of times. -/
def wasCalledTimes (s : Script) (program : String) (times : Nat) : Bool :=
  (s.history.filter fun c => c.program == program).length == times

/-- Whether a program was called with such arguments. -/
def wasCalledWith (s : Script) (program : String) (pattern : List String → Bool) : Bool :=
  s.history.any fun c => c.program == program && pattern c.args

/-! ### Laws -/

theorem history_call (s : Script) (c : Command) : (s.call c).2.history = s.history ++ [c] := by
  unfold call
  split <;> rfl

/-- Every call is recorded, answered or not. -/
theorem history_after (s : Script) (calls : List Command) :
    (s.after calls).history = s.history ++ calls := by
  induction calls generalizing s with
  | nil => simp [after]
  | cons c rest ih =>
    have hstep : s.after (c :: rest) = (s.call c).2.after rest := rfl
    rw [hstep, ih, history_call, List.append_assoc, List.singleton_append]

/-- Replaying calls in two parts is replaying them at once. -/
theorem after_append (s : Script) (first second : List Command) :
    s.after (first ++ second) = (s.after first).after second :=
  List.foldl_append

end Script

end Rollout
