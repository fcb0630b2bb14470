import Rollout.Text.Search

/-!
# Lines shown to the operator

Each line has a severity, which stands in front of it in brackets.
-/

namespace Rollout

/-- How serious a line is. -/
inductive Severity
  | info | warn | error | success
  deriving DecidableEq, Repr

/-- The mark in front of a line. -/
def Severity.tag : Severity → String
  | info => "[INFO]"
  | warn => "[WARN]"
  | error => "[ERROR]"
  | success => "[SUCCESS]"

/-- A line shown to the operator. -/
structure Line where
  severity : Severity
  message : String
  deriving DecidableEq, Repr

namespace Line

def info (message : String) : Line := ⟨.info, message⟩
def warning (message : String) : Line := ⟨.warn, message⟩
def error (message : String) : Line := ⟨.error, message⟩
def success (message : String) : Line := ⟨.success, message⟩

/-- The line with its mark. -/
def text (l : Line) : String := l.severity.tag ++ " " ++ l.message

end Line

/-- The messages of one severity. -/
def messagesOf (severity : Severity) (lines : List Line) : List String :=
  (lines.filter (·.severity = severity)).map Line.message

/-- Whether a message holds a text. -/
def anyMessageHas (needle : String) (lines : List Line) : Bool :=
  lines.any fun l => Text.contains l.message needle

theorem messagesOf_append (severity : Severity) (before after : List Line) :
    messagesOf severity (before ++ after) = messagesOf severity before ++ messagesOf severity after := by
  simp [messagesOf]

end Rollout
