import ObjectRelay.Text.Utf8
/-!
# Percent and form encoding

A byte may be written as `%` and two hexadecimal digits; forms write a space as `+`
as well.  Decoding never refuses: a `%` that begins no byte stands for itself.
-/
namespace ObjectRelay.Percent

/-- The value of a hexadecimal digit of either case. -/
def digit? (b : UInt8) : Option UInt8 :=
  if 0x30 ≤ b && b ≤ 0x39 then some (b - 0x30)
  else if 0x41 ≤ b && b ≤ 0x46 then some (b - 0x41 + 10)
  else if 0x61 ≤ b && b ≤ 0x66 then some (b - 0x61 + 10)
  else none

def byte? (high low : UInt8) : Option UInt8 := do
  let h ← digit? high
  let l ← digit? low
  return h * 16 + l

/-- Puts back the bytes that are written as `%` and two digits. -/
def decode : List UInt8 → List UInt8
  | [] => []
  | 0x25 :: high :: low :: rest =>
    match byte? high low with
    | some b => b :: decode rest
    | none => 0x25 :: decode (high :: low :: rest)
  | b :: rest => b :: decode rest

/-- The byte with these four bits as a hexadecimal digit. -/
def digit (n : UInt8) : UInt8 := if n < 10 then n + 0x30 else n - 10 + 0x41

def escape (b : UInt8) : List UInt8 := [0x25, digit (b / 16), digit (b % 16)]

/-- Bytes, all but those that stand for themselves as `%` and two digits. -/
def encode (isPlain : UInt8 → Bool) (bytes : List UInt8) : List UInt8 :=
  bytes.flatMap fun b => if isPlain b then [b] else escape b

/-- Text from a form: a plus is a space, and escaped bytes are put back unless the
result would not be text. -/
def formDecode (s : String) : String :=
  let spaced := s.toList.map fun c => if c == '+' then ' ' else c
  (Utf8.decode? (decode (Utf8.encodeChars spaced))).getD (String.ofList spaced)

def isFormByte (b : UInt8) : Bool :=
  (0x30 ≤ b && b ≤ 0x39) || (0x41 ≤ b && b ≤ 0x5A) || (0x61 ≤ b && b ≤ 0x7A) || b == 0x2A ||
    b == 0x2D || b == 0x2E || b == 0x5F

def formEncode (s : String) : List UInt8 := (Utf8.encode s).flatMap fun b =>
  if b == 0x20 then [0x2B] else if isFormByte b then [b] else escape b

end ObjectRelay.Percent
