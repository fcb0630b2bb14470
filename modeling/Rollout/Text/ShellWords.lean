/-!
# Command lines as an operator types them

Words are joined by spaces. A word that a shell would take apart or expand stands in single quotes;
a single quote inside such a word closes the quotes, is escaped, and opens them again.
-/

namespace Rollout.Text

/-- The characters that make a shell word need quotes. -/
def shellSpecial : List Char :=
  ['|', '&', ';', '<', '>', '(', ')', '$', '\x60', '\\', '\x22', '\x27', ' ', '\t', '\n', '*', '?',
    '[', '#', '~', '=', '%']

/-- A character inside single quotes. -/
def singleQuotedChar (c : Char) : String := if c = '\x27' then "'\\''" else c.toString

/-- A word as a shell reads it back. -/
def shellWord (word : String) : String :=
  if word.isEmpty || word.toList.any shellSpecial.contains then
    "'" ++ String.join (word.toList.map singleQuotedChar) ++ "'"
  else word

/-- Words as one command line. -/
def shellLine (words : List String) : String := " ".intercalate (words.map shellWord)

end Rollout.Text
