/-!
# Options

What the operator asks for on the command line. Options may come in any order and mix with the one
positional argument, the command; behind `--` everything is positional.

A value in the argument of its option is looked at where it stands. A value in an argument of its own
is looked at only when the next argument has been recognised or the line ends: an argument that
nobody knows is reported in preference to such a value, and a faulty value in preference to all that
follows it.
-/

namespace Rollout.CommandLine

/-- What the operator asks for. -/
structure Options where
  command : Option String
  /-- How often more detail was asked for, at most 255 times. -/
  verbosity : Nat
  envFile : Option String
  settings : Option String
  strict : Bool
  dryRun : Bool
  report : Option String
  deriving DecidableEq, Repr

/-- The options of an empty command line. -/
def Options.none : Options := ⟨.none, 0, .none, .none, false, false, .none⟩

/-- Why a command line says nothing to be done. -/
inductive Refusal
  /-- Help was asked for. -/
  | help
  /-- The version was asked for. -/
  | version
  /-- A value is missing, or is no path. -/
  | badValue
  | unknownArgument
  /-- An option was given twice. -/
  | repeated
  /-- A switch was given a value. -/
  | needlessValue
  deriving DecidableEq, Repr

/-- The exit status of a program that refuses its command line. -/
def Refusal.exitStatus : Refusal → Int32
  | help | version => 0
  | badValue | unknownArgument | repeated | needlessValue => 2

/-! ### Switches -/

/-- An option without a value. -/
inductive Switch
  | verbose | strict | dryRun | help | version
  deriving DecidableEq, Repr

namespace Switch

/-- The switch of a long name. -/
def ofLong? : String → Option Switch
  | "verbose" => some verbose
  | "strict" => some strict
  | "dry-run" => some dryRun
  | "help" => some help
  | "version" => some version
  | _ => none

/-- The switch of a letter. -/
def ofLetter? : Char → Option Switch
  | 'v' => some verbose
  | 'h' => some help
  | 'V' => some version
  | _ => none

/-- What a switch does to the options. -/
def apply (o : Options) : Switch → Except Refusal Options
  | verbose => .ok { o with verbosity := min 255 (o.verbosity + 1) }
  | strict => if o.strict then .error .repeated else .ok { o with strict := true }
  | dryRun => if o.dryRun then .error .repeated else .ok { o with dryRun := true }
  | help => .error .help
  | version => .error .version

end Switch

/-! ### Paths -/

/-- An option whose value is a path. -/
inductive PathOption
  | envFile | settings | report
  deriving DecidableEq, Repr

namespace PathOption

/-- The option of a long name. -/
def ofLong? : String → Option PathOption
  | "env-file" => some envFile
  | "settings" => some settings
  | "report" => some report
  | _ => none

/-- The value that an option has. -/
def value? (o : Options) : PathOption → Option String
  | envFile => o.envFile
  | settings => o.settings
  | report => o.report

/-- Gives an option a value. -/
def set (o : Options) (path : String) : PathOption → Options
  | envFile => { o with envFile := some path }
  | settings => { o with settings := some path }
  | report => { o with report := some path }

end PathOption

/-- An option whose value has not been looked at yet. -/
structure Pending where
  option : PathOption
  value : Option String
  deriving DecidableEq, Repr

/-- Looks at the value of an option: there has to be one, the option may not have had one before, and
a path is not empty. -/
def Pending.apply (o : Options) (p : Pending) : Except Refusal Options :=
  match p.value with
  | none => .error .badValue
  | some path =>
    if (p.option.value? o).isSome then .error .repeated
    else if path.isEmpty then .error .badValue
    else .ok (p.option.set o path)

/-! ### Reading -/

/-- The options read so far. -/
structure Progress where
  options : Options
  pending : Option Pending
  deriving DecidableEq, Repr

namespace Progress

/-- Looks at a value that is pending. -/
def settle (p : Progress) : Except Refusal Options :=
  match p.pending with
  | some pending => pending.apply p.options
  | none => .ok p.options

/-- Throws a switch. -/
def throwSwitch (p : Progress) (s : Switch) : Except Refusal Progress := do
  let o ← s.apply (← p.settle)
  return ⟨o, none⟩

/-- Begins an option. A value in the same argument is looked at here, one in the next later. -/
def begin (p : Progress) (option : PathOption) (value : Option String) :
    Except Refusal Progress := do
  let o ← p.settle
  match value with
  | some value => return ⟨← Pending.apply o ⟨option, some value⟩, none⟩
  | none => return ⟨o, some ⟨option, none⟩⟩

/-- Takes a positional argument, of which there is room for one. -/
def positional (p : Progress) (arg : String) : Except Refusal Progress := do
  if p.options.command.isSome then .error .unknownArgument
  else
    let o ← p.settle
    return ⟨{ o with command := some arg }, none⟩

/-- Reads an argument that begins with two dashes; `name` is what stands between them and the value. -/
def long (p : Progress) (name : String) (value : Option String) : Except Refusal Progress :=
  match PathOption.ofLong? name, Switch.ofLong? name with
  | some option, _ => p.begin option value
  | none, some s => if value.isSome then .error .needlessValue else p.throwSwitch s
  | none, none => .error .unknownArgument

/-- Reads the letters behind a dash. -/
def letters (p : Progress) : List Char → Except Refusal Progress
  | [] => .ok p
  | c :: rest =>
    match Switch.ofLetter? c with
    | some s => do letters (← p.throwSwitch s) rest
    | none => .error .unknownArgument

/-- Reads a word that is no option: the value that is waited for, or a positional argument. -/
def word (p : Progress) (arg : String) : Except Refusal Progress :=
  match p.pending with
  | some ⟨option, none⟩ => .ok { p with pending := some ⟨option, some arg⟩ }
  | _ => p.positional arg

end Progress

/-- An argument by its form. -/
inductive Argument
  /-- Two dashes and nothing else. -/
  | separator
  | long (name : String) (value : Option String)
  | letters (cs : List Char)
  | word
  deriving DecidableEq, Repr

/-- A name and the value behind the first sign of equality. -/
def splitValue (cs : List Char) : String × Option String :=
  let name := String.ofList (cs.takeWhile (· ≠ '='))
  match cs.dropWhile (· ≠ '=') with
  | [] => (name, none)
  | _ :: value => (name, some (String.ofList value))

/-- The form of an argument. A dash on its own is a word. -/
def Argument.ofChars : List Char → Argument
  | ['-', '-'] => separator
  | '-' :: '-' :: rest => let (name, value) := splitValue rest; long name value
  | '-' :: c :: rest => letters (c :: rest)
  | _ => word

/-- Reads arguments up to the separator and from there on. -/
def readFrom (p : Progress) : List String → Except Refusal Options
  | [] => p.settle
  | arg :: rest =>
    match Argument.ofChars arg.toList with
    | .separator => do (← rest.foldlM Progress.positional p).settle
    | .long name value => do readFrom (← p.long name value) rest
    | .letters cs => do readFrom (← p.letters cs) rest
    | .word => do readFrom (← p.word arg) rest

/-- The options that some arguments spell. -/
def Options.parse (args : List String) : Except Refusal Options := readFrom ⟨.none, .none⟩ args

end Rollout.CommandLine
