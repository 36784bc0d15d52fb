import ObjectRelay.Gzip.Huffman
/-!
# Inflating compressed blocks

Compressed data is a sequence of bits, the lowest bit of each byte first, so it is
read by a machine that takes one bit at a time.  What has been inflated is known
after every bit; it never depends on bits that follow.
-/
namespace ObjectRelay.Gzip

/-- The length that a length symbol stands for and the number of its extra bits. -/
def lengthBase? (symbol : Nat) : Option (Nat × Nat) :=
  if symbol < 257 then none
  else if symbol < 265 then some (symbol - 254, 0)
  else if symbol < 285 then
    let extra := (symbol - 261) / 4
    some ((4 + (symbol - 261) % 4) <<< extra + 3, extra)
  else if symbol == 285 then some (258, 0)
  else none

/-- The distance that a distance symbol stands for and the number of its extra bits. -/
def distanceBase? (symbol : Nat) : Option (Nat × Nat) :=
  if symbol < 4 then some (symbol + 1, 0)
  else if symbol < 30 then
    let extra := symbol / 2 - 1
    some ((2 + symbol % 2) <<< extra + 1, extra)
  else none

/-- The order in which the lengths of the length code are given. -/
def lengthCodeOrder : List Nat := [16, 17, 18, 0, 8, 7, 9, 6, 10, 5, 11, 4, 12, 3, 13, 2, 14, 1, 15]

def fixedLiterals : Code :=
  (Code.ofLengths? (List.replicate 144 8 ++ List.replicate 112 9 ++ List.replicate 24 7 ++
    List.replicate 8 8)).getD .none

def fixedDistances : Code := (Code.ofLengths? (List.replicate 32 5)).getD .none

structure Codes where
  literals : Code
  distances : Code

inductive Field where
  /-- Whether the block is the last one, and its kind. -/
  | header
  /-- The length of a stored block and its complement. -/
  | storedLength
  /-- A byte of a stored block, with the number of bytes that follow it. -/
  | storedByte (left : Nat)
  | counts
  /-- A length of the length code: how many words of literals and distances follow,
  how many lengths are still to come, and those read, last first. -/
  | lengthOfLength (literals distances left : Nat) (read : List Nat)
  /-- How often a length is repeated beyond `base` times. -/
  | repeated (code : Code) (literals distances : Nat) (read : List Nat) (value base : Nat)
  | lengthExtra (codes : Codes) (base : Nat)
  | distanceExtra (codes : Codes) (length base : Nat)

inductive Word where
  | codeLength (code : Code) (literals distances : Nat) (read : List Nat)
  /-- A literal byte, a length, or the end of the block. -/
  | literal (codes : Codes)
  /-- A distance, for a copy of `length` bytes. -/
  | distance (codes : Codes) (length : Nat)

inductive InflatePhase where
  /-- Reading a number of which `left` bits are missing and `got` are known. -/
  | number (field : Field) (left got value : Nat)
  | word (word : Word) (code : Code)
  /-- Skipping to the end of the byte, before a stored block. -/
  | aligning
  | finished
  /-- The data is not compressed data. -/
  | corrupt

/-- A machine that inflates: what it is doing, whether the block is the last one, and
what it has inflated. -/
structure Inflater where
  phase : InflatePhase := .number .header 3 0 0
  last : Bool := false
  output : Array UInt8 := #[]

namespace Inflater

def become (m : Inflater) (phase : InflatePhase) : Inflater := { m with phase }

def expect (m : Inflater) (field : Field) (bits : Nat) : Inflater :=
  m.become (.number field bits 0 0)

def expectLiteral (m : Inflater) (codes : Codes) : Inflater :=
  m.become (.word (.literal codes) codes.literals)

def endBlock (m : Inflater) : Inflater :=
  if m.last then m.become .finished else m.expect .header 3

/-- Copies `length` bytes from `distance` bytes back, one after the other, so a copy
may read what it has just written.  Before the first byte there are zeros. -/
def copyBack (distance : Nat) : Nat → Array UInt8 → Array UInt8
  | 0, out => out
  | length + 1, out =>
    let b := if distance ≤ out.size then out.getD (out.size - distance) 0 else 0
    copyBack distance length (out.push b)

def copy (m : Inflater) (codes : Codes) (length distance : Nat) : Inflater :=
  ({ m with output := copyBack distance length m.output }).expectLiteral codes

/-- Begins the data of a block whose code lengths are all known. -/
def beginDynamic (m : Inflater) (literals : Nat) (lengths : List Nat) : Inflater :=
  match Code.ofLengths? (lengths.take literals), Code.ofLengths? (lengths.drop literals) with
  | some l, some d => m.expectLiteral ⟨l, d⟩
  | _, _ => m.become .corrupt

/-- Goes on behind some code lengths: with the next one, or with the data. -/
def nextLength (m : Inflater) (code : Code) (literals distances : Nat) (read : List Nat) :
    Inflater :=
  if read.length < literals + distances then
    m.become (.word (.codeLength code literals distances read) code)
  else if read.length == literals + distances then m.beginDynamic literals read.reverse
  else m.become .corrupt

/-- Goes on behind a distance whose extra bits are known. -/
def nextLengthOfLength (m : Inflater) (literals distances left : Nat) (read : List Nat) :
    Inflater :=
  if left != 0 then m.expect (.lengthOfLength literals distances left read) 3
  else
    let given := lengthCodeOrder.zip read.reverse
    match Code.ofLengths? ((List.range 19).map fun s => (given.lookup s).getD 0) with
    | some code => m.nextLength code literals distances []
    | none => m.become .corrupt

def numberRead (m : Inflater) (field : Field) (value : Nat) : Inflater :=
  match field with
  | .header =>
    let m := { m with last := value % 2 == 1 }
    match value / 2 with
    | 0 => m.become .aligning
    | 1 => m.expectLiteral ⟨fixedLiterals, fixedDistances⟩
    | 2 => m.expect .counts 14
    | _ => m.become .corrupt
  | .storedLength =>
    let length := value % 65536
    if length + value / 65536 != 65535 then m.become .corrupt
    else if length == 0 then m.endBlock
    else m.expect (.storedByte (length - 1)) 8
  | .storedByte left =>
    let m := { m with output := m.output.push value.toUInt8 }
    if left == 0 then m.endBlock else m.expect (.storedByte (left - 1)) 8
  | .counts =>
    let literals := value % 32 + 257
    let distances := value / 32 % 32 + 1
    if 286 < literals || 30 < distances then m.become .corrupt
    else m.nextLengthOfLength literals distances (value / 1024 + 4) []
  | .lengthOfLength literals distances left read =>
    m.nextLengthOfLength literals distances (left - 1) (value :: read)
  | .repeated code literals distances read length base =>
    m.nextLength code literals distances (List.replicate (base + value) length ++ read)
  | .lengthExtra codes base => m.become (.word (.distance codes (base + value)) codes.distances)
  | .distanceExtra codes length base => m.copy codes length (base + value)

def wordRead (m : Inflater) (word : Word) (symbol : Nat) : Inflater :=
  match word with
  | .codeLength code literals distances read =>
    if symbol < 16 then m.nextLength code literals distances (symbol :: read)
    else if symbol == 16 then
      match read with
      | [] => m.become .corrupt
      | length :: _ => m.expect (.repeated code literals distances read length 3) 2
    else if symbol == 17 then m.expect (.repeated code literals distances read 0 3) 3
    else m.expect (.repeated code literals distances read 0 11) 7
  | .literal codes =>
    if symbol < 256 then
      ({ m with output := m.output.push symbol.toUInt8 }).expectLiteral codes
    else if symbol == 256 then m.endBlock
    else match lengthBase? symbol with
      | none => m.become .corrupt
      | some (base, 0) => m.become (.word (.distance codes base) codes.distances)
      | some (base, bits) => m.expect (.lengthExtra codes base) bits
  | .distance codes length =>
    match distanceBase? symbol with
    | none => m.become .corrupt
    | some (base, 0) => m.copy codes length base
    | some (base, bits) => m.expect (.distanceExtra codes length base) bits

def step (m : Inflater) (bit : Bool) : Inflater :=
  match m with
  | ⟨phase, last, output⟩ =>
    match phase with
    | .number field left got value =>
      let value := if bit then value + 1 <<< got else value
      if left ≤ 1 then (Inflater.mk .corrupt last output).numberRead field value
      else ⟨.number field (left - 1) (got + 1) value, last, output⟩
    | .word w code =>
      match code with
      | .choice zero one =>
        match (if bit then one else zero) with
        | .symbol s => (Inflater.mk .corrupt last output).wordRead w s
        | .none => ⟨.corrupt, last, output⟩
        | below => ⟨.word w below, last, output⟩
      | _ => ⟨.corrupt, last, output⟩
    | .aligning => ⟨.aligning, last, output⟩
    | .finished => ⟨.finished, last, output⟩
    | .corrupt => ⟨.corrupt, last, output⟩

def byteEnd (m : Inflater) : Inflater :=
  match m with
  | ⟨.aligning, last, output⟩ => ⟨.number .storedLength 32 0 0, last, output⟩
  | m => m

/-- Reads one byte, its lowest bit first. -/
def readByte (m : Inflater) (b : UInt8) : Inflater :=
  ((List.range 8).foldl (fun m i => m.step (b.toNat.testBit i)) m).byteEnd

end Inflater

end ObjectRelay.Gzip
