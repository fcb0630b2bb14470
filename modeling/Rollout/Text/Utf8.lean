/-!
# Text from bytes

UTF-8 decoding. A leading byte fixes how many continuation bytes follow and the range of the first
of them; each longest start of a well-formed sequence that goes wrong counts as one fault.
`Utf8.decode?` accepts only bytes without a fault, `Utf8.decodeLossy` puts the replacement
character in place of each.
-/

namespace Rollout.Text.Utf8

/-- What a leading byte announces: how many continuation bytes follow, the least and the greatest
value of the first of them, and the bits that the leading byte itself brings. -/
structure Lead where
  count : Nat
  least : Nat
  greatest : Nat
  bits : Nat

/-- The meaning of a byte at the start of a character, if it can stand there. -/
def Lead.ofByte? (b : Nat) : Option Lead :=
  if b < 0x80 then some ⟨0, 0x80, 0xBF, b⟩
  else if 0xC2 ≤ b ∧ b ≤ 0xDF then some ⟨1, 0x80, 0xBF, b - 0xC0⟩
  else if b = 0xE0 then some ⟨2, 0xA0, 0xBF, 0⟩
  else if b = 0xED then some ⟨2, 0x80, 0x9F, 13⟩
  else if 0xE1 ≤ b ∧ b ≤ 0xEF then some ⟨2, 0x80, 0xBF, b - 0xE0⟩
  else if b = 0xF0 then some ⟨3, 0x90, 0xBF, 0⟩
  else if 0xF1 ≤ b ∧ b ≤ 0xF3 then some ⟨3, 0x80, 0xBF, b - 0xF0⟩
  else if b = 0xF4 then some ⟨3, 0x80, 0x8F, 4⟩
  else none

/-- Reads `count` continuation bytes, the first within the given range, onto the bits read so
far. At a byte out of range the answer is `none`, with that byte still to be read. -/
def continuation : (count least greatest bits : Nat) → List UInt8 → Option Nat × List UInt8
  | 0, _, _, bits, rest => (some bits, rest)
  | _ + 1, _, _, _, [] => (none, [])
  | count + 1, least, greatest, bits, b :: rest =>
    if least ≤ b.toNat ∧ b.toNat ≤ greatest then
      continuation count 0x80 0xBF (bits * 64 + (b.toNat - 0x80)) rest
    else (none, b :: rest)

/-- The first character of some bytes, `none` for a fault, and the bytes behind it. -/
def next (b : UInt8) (rest : List UInt8) : Option Char × List UInt8 :=
  match Lead.ofByte? b.toNat with
  | none => (none, rest)
  | some lead =>
    match continuation lead.count lead.least lead.greatest lead.bits rest with
    | (some n, after) => (some (Char.ofNat n), after)
    | (none, after) => (none, after)

/-- The characters and faults of some bytes. Each step reads a byte, so their number suffices. -/
def units : Nat → List UInt8 → List (Option Char)
  | 0, _ | _, [] => []
  | steps + 1, b :: rest =>
    let (unit, after) := next b rest
    unit :: units steps after

/-- The text that the bytes encode, if they encode one. -/
def decode? (bytes : List UInt8) : Option String :=
  ((units bytes.length bytes).mapM id).map String.ofList

/-- The text that the bytes encode, with U+FFFD for each fault. -/
def decodeLossy (bytes : List UInt8) : String :=
  String.ofList ((units bytes.length bytes).map (·.getD (Char.ofNat 0xFFFD)))

/-- The bytes of a text. -/
def encode (s : String) : List UInt8 := s.toUTF8.toList

/-- The number of bytes of some characters. -/
def size (cs : List Char) : Nat := cs.foldr (fun c n => c.utf8Size + n) 0

end Rollout.Text.Utf8
