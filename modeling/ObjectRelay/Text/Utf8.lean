/-!
# UTF-8

Bytes are read one at a time, so the reader is a machine: between two characters,
or owing continuation bytes of which the first may have narrower bounds (no
overlong forms, no surrogates, nothing above U+10FFFF).  Bytes are text exactly
when every step is allowed and nothing is owed at the end.
-/
namespace ObjectRelay.Utf8

def encodeChar (c : Char) : List UInt8 :=
  let n := c.toNat
  let last (v : Nat) : UInt8 := (0x80 + v % 64).toUInt8
  if n < 0x80 then [n.toUInt8]
  else if n < 0x800 then [(0xC0 + n / 64).toUInt8, last n]
  else if n < 0x10000 then [(0xE0 + n / 4096).toUInt8, last (n / 64), last n]
  else [(0xF0 + n / 262144).toUInt8, last (n / 4096), last (n / 64), last n]

def encodeChars (s : List Char) : List UInt8 := s.flatMap encodeChar

def encode (s : String) : List UInt8 := encodeChars s.toList

/-- What a reader owes: continuation bytes, the bounds of the next one, and the
number read so far. -/
structure Owed where
  count : Nat
  low : UInt8
  high : UInt8
  value : Nat

/-- A reader between two bytes: the characters read, last first, and what is owed. -/
structure Reader where
  chars : List Char := []
  owed : Option Owed := none

/-- What the first byte of a character says about the rest of it. -/
def Owed.ofLead (b : UInt8) : Option Owed :=
  let n := b.toNat
  if n < 0xC2 then none
  else if n < 0xE0 then some ⟨1, 0x80, 0xBF, n - 0xC0⟩
  else if n == 0xE0 then some ⟨2, 0xA0, 0xBF, 0⟩
  else if n == 0xED then some ⟨2, 0x80, 0x9F, 0xD⟩
  else if n < 0xF0 then some ⟨2, 0x80, 0xBF, n - 0xE0⟩
  else if n == 0xF0 then some ⟨3, 0x90, 0xBF, 0⟩
  else if n < 0xF4 then some ⟨3, 0x80, 0xBF, n - 0xF0⟩
  else if n == 0xF4 then some ⟨3, 0x80, 0x8F, 4⟩
  else none

/-- Reads one byte, `none` when it cannot stand there. -/
def Reader.step (r : Reader) (b : UInt8) : Option Reader :=
  match r.owed with
  | none =>
    if b < 0x80 then some { r with chars := Char.ofNat b.toNat :: r.chars }
    else (Owed.ofLead b).map fun o => { r with owed := some o }
  | some o =>
    if o.low ≤ b && b ≤ o.high then
      let value := o.value * 64 + (b.toNat - 0x80)
      if o.count ≤ 1 then some { chars := Char.ofNat value :: r.chars, owed := none }
      else some { r with owed := some ⟨o.count - 1, 0x80, 0xBF, value⟩ }
    else none

def Reader.run (r : Reader) : List UInt8 → Option Reader
  | [] => some r
  | b :: rest => match r.step b with
    | none => none
    | some r => r.run rest

/-- The characters that the bytes write, `none` when the bytes are not text. -/
def decodeChars? (bytes : List UInt8) : Option (List Char) :=
  match Reader.run {} bytes with
  | some ⟨chars, none⟩ => some chars.reverse
  | _ => none

/-- The text that the bytes write, `none` when the bytes are not text. -/
def decode? (bytes : List UInt8) : Option String := (decodeChars? bytes).map String.ofList

end ObjectRelay.Utf8
