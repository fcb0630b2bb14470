import Rollout.Text.Digits
import Rollout.Text.Utf8

/-!
# Formatted output

A format is a text with escapes, which a backslash begins, and directives, which a percent sign
begins. Each directive takes an argument, or nothing where none is left; a format that takes
arguments is used again until all are taken.
-/

namespace Rollout.Host.Format

/-! ### Escapes -/

/-- The character behind a backslash that stands for a character of its own. -/
def namedEscape? : Char → Option UInt8
  | 'a' => some 7
  | 'b' => some 8
  | 't' => some 9
  | 'n' => some 10
  | 'v' => some 11
  | 'f' => some 12
  | 'r' => some 13
  | '\\' => some 92
  | _ => none

/-- The bytes of a character. -/
def bytesOf (c : Char) : List UInt8 := Text.Utf8.encode c.toString

/-- The byte of at most `width` octal digits, if there are any, and the text behind them. -/
def octal? (width : Nat) (cs : List Char) : Option (UInt8 × List Char) :=
  let digits := (cs.take width).takeWhile (Text.isDigitOf 8)
  (Text.digitsValue? 8 digits).map fun n => (.ofNat n, cs.drop digits.length)

/-- What an escape stands for, and the text behind it: nothing where the output ends here. -/
inductive Escape
  | bytes (bs : List UInt8) (rest : List Char)
  | stop

/-- Reads what stands behind a backslash in a format. -/
def formatEscape (cs : List Char) : Escape :=
  match cs with
  | [] => .bytes [92] []
  | c :: rest =>
    match namedEscape? c, octal? 3 cs with
    | some b, _ => .bytes [b] rest
    | none, some (b, rest) => .bytes [b] rest
    | none, none =>
      if c = 'c' then .stop
      else if c = '\x22' then .bytes [34] rest
      else .bytes (92 :: bytesOf c) rest

/-- Reads what stands behind a backslash in an argument, where octal digits follow a zero. -/
def argumentEscape (cs : List Char) : Escape :=
  match cs with
  | [] => .bytes [92] []
  | c :: rest =>
    match namedEscape? c with
    | some b => .bytes [b] rest
    | none =>
      if c = 'c' then .stop
      else if c = '0' then
        match octal? 3 rest with
        | some (b, rest) => .bytes [b] rest
        | none => .bytes [0] rest
      else .bytes (92 :: bytesOf c) rest

/-- The bytes of an argument with its escapes, and whether the output goes on. Each step reads a
character, so their number suffices. -/
def unescape : Nat → List Char → List UInt8 × Bool
  | 0, _ | _, [] => ([], true)
  | steps + 1, '\\' :: rest =>
    match argumentEscape rest with
    | .stop => ([], false)
    | .bytes bs rest =>
      let (more, goesOn) := unescape steps rest
      (bs ++ more, goesOn)
  | steps + 1, c :: rest =>
    let (more, goesOn) := unescape steps rest
    (bytesOf c ++ more, goesOn)

/-! ### Directives -/

/-- A directive: how it pads, how much it shows, and what it is of. -/
structure Directive where
  left : Bool
  zeros : Bool
  width : Nat
  precision : Option Nat
  conversion : Char

/-- The number that some characters begin with, and the text behind it. -/
def number (cs : List Char) : Nat × List Char :=
  let digits := cs.takeWhile Char.isDigit
  ((Text.digitsValue? 10 digits).getD 0, cs.drop digits.length)

/-- Reads what stands behind a percent sign. -/
def directive? (cs : List Char) : Option (Directive × List Char) :=
  let isFlag (c : Char) : Bool := ['-', '0', '+', ' ', '#'].contains c
  let flags := cs.takeWhile isFlag
  let (width, rest) := number (cs.dropWhile isFlag)
  let (precision, rest) := match rest with
    | '.' :: rest => let (n, rest) := number rest; (some n, rest)
    | rest => (none, rest)
  match rest with
  | [] => none
  | c :: rest => some (⟨flags.contains '-', flags.contains '0', width, precision, c⟩, rest)

/-- Fills up to the width of a directive. -/
def pad (d : Directive) (bs : List UInt8) : List UInt8 :=
  let missing := d.width - bs.length
  if d.left then bs ++ List.replicate missing 32
  else if d.zeros then List.replicate missing 48 ++ bs
  else List.replicate missing 32 ++ bs

/-- The whole number that an argument spells; nothing spells zero. -/
def integer? (arg : String) : Option Int :=
  match arg.toList with
  | [] => some 0
  | '-' :: digits => (Text.digitsValue? 10 digits).map fun n => -(n : Int)
  | '+' :: digits => (Text.digitsValue? 10 digits).map Int.ofNat
  | digits => (Text.digitsValue? 10 digits).map Int.ofNat

/-- What a directive writes of an argument; nothing for an argument that it cannot be used with. -/
def write? (d : Directive) (arg : String) : Option (List UInt8 × Bool) :=
  let shown (bs : List UInt8) : List UInt8 := pad d (bs.take (d.precision.getD bs.length))
  match d.conversion with
  | 's' => some (shown (Text.Utf8.encode arg), true)
  | 'c' => some (pad { d with zeros := false } ((Text.Utf8.encode arg).take 1), true)
  | 'b' =>
    let (bs, goesOn) := unescape arg.length arg.toList
    some (shown bs, goesOn)
  | 'd' | 'i' | 'u' => (integer? arg).map fun n => (pad d (Text.Utf8.encode (toString n)), true)
  | _ => none

/-! ### Formats -/

/-- What is left to do and what has been written. -/
structure Progress where
  args : List String
  written : List UInt8
  /-- The arguments that could not be used. -/
  refused : List String
  /-- Whether the output goes on. -/
  goesOn : Bool

/-- Writes a directive with the next argument. -/
def Progress.take (p : Progress) (d : Directive) : Progress :=
  let arg := p.args.headD ""
  match write? d arg with
  | some (bs, goesOn) => { p with args := p.args.tail, written := p.written ++ bs, goesOn }
  | none =>
    { p with args := p.args.tail, written := p.written ++ pad d [48], refused := p.refused ++ [arg] }

/-- Goes through a format once. Each step reads a character, so their number suffices. -/
def pass : Nat → List Char → Progress → Progress
  | 0, _, p | _, [], p => p
  | steps + 1, '\\' :: rest, p =>
    match formatEscape rest with
    | .stop => { p with goesOn := false }
    | .bytes bs rest => pass steps rest { p with written := p.written ++ bs }
  | steps + 1, '%' :: '%' :: rest, p => pass steps rest { p with written := p.written ++ [37] }
  | steps + 1, '%' :: rest, p =>
    match directive? rest with
    | none => p
    | some (d, rest) =>
      let p := p.take d
      if p.goesOn then pass steps rest p else p
  | steps + 1, c :: rest, p => pass steps rest { p with written := p.written ++ bytesOf c }

/-- Goes through a format until all arguments are taken, or none is taken any more. Each pass takes
an argument, so their number and one more suffices. -/
def passes (format : List Char) : Nat → Progress → Progress
  | 0, p => p
  | n + 1, p =>
    let next := pass format.length format p
    if next.goesOn && !next.args.isEmpty && next.args.length < p.args.length then
      passes format n next
    else next

/-- What a format writes of some arguments, and the arguments that it could not use. -/
def render (format : String) (args : List String) : List UInt8 × List String :=
  let p := passes format.toList (args.length + 1) ⟨args, [], [], true⟩
  (p.written, p.refused)

end Rollout.Host.Format
