import ObjectRelay.Text.Utf8
import ObjectRelay.Unicode.Ranges
/-!
# Reading JSON strings

A string is read byte by byte from behind its opening quote.  Escapes are resolved
on the way, a character outside the basic plane from two of them; the bytes are
checked to be text once the closing quote is reached.  A string that is passed over
only has its escapes checked for their form.
-/
namespace ObjectRelay.Json

inductive StringPhase where
  | plain
  | escape
  /-- In the four digits of an escape, those read so far last first. -/
  | digits (read : List UInt8)
  /-- Behind the first half of a pair: a backslash must follow. -/
  | half (high : Nat)
  /-- Behind that backslash: a `u` must follow. -/
  | halfEscape (high : Nat)
  /-- In the digits of the second half. -/
  | halfDigits (high : Nat) (read : List UInt8)

/-- The reader of a string: the bytes read, last first. -/
structure StringReader where
  phase : StringPhase := .plain
  read : List UInt8 := []
  ignored : Bool := false

inductive StringStep where
  | more (r : StringReader)
  /-- It is the closing quote, behind these bytes. -/
  | ended (bytes : List UInt8)
  | broken

namespace StringReader

/-- The number written by four hexadecimal digits, given last first. -/
def hexNumber? (digits : List UInt8) : Option Nat :=
  digits.reverse.foldl (fun n? b => do
    let n ← n?
    let d ← Ranges.hexDigit? (Char.ofNat b.toNat)
    return 16 * n + d) (some 0)

def push (r : StringReader) (codePoint : Nat) : StringReader :=
  { r with phase := .plain, read := (Utf8.encodeChar (Char.ofNat codePoint)).reverse ++ r.read }

def shortEscape? (b : UInt8) : Option UInt8 :=
  if b == 0x22 || b == 0x5C || b == 0x2F then some b
  else if b == 0x62 then some 0x08
  else if b == 0x66 then some 0x0C
  else if b == 0x6E then some 0x0A
  else if b == 0x72 then some 0x0D
  else if b == 0x74 then some 0x09
  else none

/-- What the number of an escape means: a character, the first half of a pair, or
nothing when it is a second half on its own. -/
def escaped (r : StringReader) (n : Nat) : StringStep :=
  if r.ignored then .more { r with phase := .plain }
  else if 0xDC00 ≤ n && n ≤ 0xDFFF then .broken
  else if 0xD800 ≤ n && n ≤ 0xDBFF then .more { r with phase := .half n }
  else .more (r.push n)

/-- What the number of a second escape means behind the first half of a pair. -/
def paired (r : StringReader) (high low : Nat) : StringStep :=
  if 0xDC00 ≤ low && low ≤ 0xDFFF then
    .more (r.push (0x10000 + (high - 0xD800) * 0x400 + (low - 0xDC00)))
  else .broken

def step (r : StringReader) (b : UInt8) : StringStep :=
  match r.phase with
  | .plain =>
    if b == 0x22 then .ended r.read.reverse
    else if b == 0x5C then .more { r with phase := .escape }
    else if b < 0x20 then .broken
    else if r.ignored then .more r
    else .more { r with read := b :: r.read }
  | .escape =>
    if b == 0x75 then .more { r with phase := .digits [] }
    else match shortEscape? b with
      | some c => .more { r with phase := .plain, read := c :: r.read }
      | none => .broken
  | .digits read =>
    if read.length < 3 then .more { r with phase := .digits (b :: read) }
    else match hexNumber? (b :: read) with
      | some n => r.escaped n
      | none => .broken
  | .half high => if b == 0x5C then .more { r with phase := .halfEscape high } else .broken
  | .halfEscape high =>
    if b == 0x75 then .more { r with phase := .halfDigits high [] } else .broken
  | .halfDigits high read =>
    if read.length < 3 then .more { r with phase := .halfDigits high (b :: read) }
    else match hexNumber? (b :: read) with
      | some low => r.paired high low
      | none => .broken

end StringReader

end ObjectRelay.Json
