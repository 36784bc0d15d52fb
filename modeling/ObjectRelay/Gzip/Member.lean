import ObjectRelay.Gzip.Crc32
import ObjectRelay.Gzip.Inflate
import ObjectRelay.Record.Source
/-!
# Gzip members

A gzip file is a sequence of members: a header, compressed data, and a trailer with
the checksum and the length of the data.  Members follow each other directly, which
is how appended log files look, and their data is one text.

Packed bytes are read ahead, a fill at a time, and what a fill inflates to is handed on
as a piece; a piece never reaches over the end of a member.  (One that is longer than the
buffer it is read into is read in parts, of which the first fills the buffer.)  So what is
seen of a member does not depend on its trailer or the next member.  Data that is corrupt
is seen up to the last fill, or the last full window, before the fault.
-/
namespace ObjectRelay.Gzip

/-- Inflated data is handed on in windows of this many bytes. -/
def windowSize : Nat := 32768

/-- How many packed bytes are read ahead. -/
def fillSize : Nat := 32768

/-- The longest name or comment that a header may hold. -/
def maxHeaderText : Nat := 65535

/-- The parts of a member behind its fixed header, in order. -/
inductive HeaderPart where
  /-- The two bytes that give the length of the extra data. -/
  | extraLength
  | extra (left : Nat)
  | name
  | comment
  | check
deriving DecidableEq

inductive MemberPhase where
  /-- Reading the header; its bytes so far, last first, and what is being read behind
  the ten fixed ones with the bytes of that part, last first. -/
  | header (read : List UInt8) (part : Option HeaderPart) (partRead : List UInt8)
  /-- Inflating the data, of which this many bytes have been handed on. -/
  | body (m : Inflater) (handed : Nat)
  /-- Reading the trailer of this data; its bytes so far, last first. -/
  | trailer (data : Array UInt8) (read : List UInt8)

def MemberPhase.start : MemberPhase := .header [] none []

structure MemberReader where
  /-- The pieces that have been handed on, last first. -/
  done : List (List UInt8) := []
  /-- `none` between two members. -/
  phase : Option MemberPhase := some .start
  /-- How many of the bytes read ahead are left. -/
  filled : Nat := 0

/-- A reader that has failed, with the data that can be seen. -/
abbrev Failed := List (List UInt8)

/-- The number in some bytes, lowest first. -/
def littleEndian : List UInt8 → Nat
  | [] => 0
  | b :: rest => b.toNat + 256 * littleEndian rest

/-- The flags of a header whose bytes are given last first. -/
def headerFlags (read : List UInt8) : Nat := (read.reverse.getD 3 0).toNat

/-- The part of the header that follows `done`, as its flags say. -/
def nextPart (flags : Nat) (done : Option HeaderPart) : Option HeaderPart :=
  let order : List (HeaderPart × Nat) := [(.extraLength, 2), (.name, 3), (.comment, 4), (.check, 1)]
  let behind : Nat := match done with
    | none => 0
    | some .extraLength | some (.extra _) => 1
    | some .name => 2
    | some .comment => 3
    | some .check => 4
  ((order.drop behind).find? fun p => flags.testBit p.2).map (·.1)

/-- Whether the ten fixed bytes begin a member that can be read. -/
def fixedHeaderIsGood (bytes : List UInt8) : Bool :=
  match bytes with
  | a :: b :: method :: flags :: _ =>
    a == 0x1F && b == 0x8B && method == 8 && flags.toNat / 32 == 0
  | _ => false

/-- What an inflater has inflated behind the bytes handed on. -/
def Inflater.since (m : Inflater) (handed : Nat) : List UInt8 := (m.output.extract handed).toList

namespace MemberPhase

/-- Goes on behind a part of the header: with the next part or with the data. -/
def behindPart (read : List UInt8) (part : Option HeaderPart) : MemberPhase :=
  match nextPart (headerFlags read) part with
  | some p => .header read (some p) []
  | none => .body {} 0

/-- Reads a byte of a header, `none` if there is no such header. -/
def readHeader (read : List UInt8) (part : Option HeaderPart) (partRead : List UInt8) (b : UInt8) :
    Option MemberPhase :=
  let read' := b :: read
  let partRead' := b :: partRead
  let more (part : HeaderPart) : Option MemberPhase := some (.header read' (some part) partRead')
  match part with
  | none =>
    if read'.length < 10 then some (.header read' none [])
    else if fixedHeaderIsGood read'.reverse then some (behindPart read' none)
    else none
  | some .extraLength =>
    if partRead'.length < 2 then more .extraLength
    else match littleEndian partRead'.reverse with
      | 0 => some (behindPart read' (some .extraLength))
      | n => some (.header read' (some (.extra n)) [])
  | some (.extra left) =>
    if left ≤ 1 then some (behindPart read' (some (.extra 0)))
    else more (.extra (left - 1))
  | some .name | some .comment =>
    if b == 0 then some (behindPart read' part)
    else if maxHeaderText ≤ partRead.length then none
    else match part with
      | some p => more p
      | none => none
  | some .check =>
    if partRead'.length < 2 then more .check
    else if (crc32 (read.drop 1).reverse.toArray).toNat % 65536 == littleEndian partRead'.reverse then
      some (behindPart read' (some .check))
    else none

/-- Reads a byte of a trailer, `none` if it is not that of the data; nothing is behind it. -/
def readTrailer (data : Array UInt8) (read : List UInt8) (b : UInt8) : Option (Option MemberPhase) :=
  let read := b :: read
  if read.length < 8 then some (some (.trailer data read))
  else
    let fields := read.reverse
    if littleEndian (fields.take 4) == (crc32 data).toNat &&
        littleEndian (fields.drop 4) == data.size % UInt32.size then some none
    else none

end MemberPhase

namespace MemberReader

/-- Hands a piece on, if there is anything in it. -/
def withData (done : List (List UInt8)) (data : List UInt8) : List (List UInt8) :=
  if data.isEmpty then done else data :: done

/-- Reads ahead when nothing is left, and then what has been inflated is handed on.  Extra
data that is longer than a fill is read at once. -/
def refill (r : MemberReader) : MemberReader :=
  if r.filled != 0 then r
  else match r.phase with
    | some (.header _ (some (.extra left)) _) => { r with filled := max left fillSize }
    | some (.body m handed) =>
      ⟨withData r.done (m.since handed), some (.body m m.output.size), fillSize⟩
    | _ => { r with filled := fillSize }

def readByte (r : MemberReader) (b : UInt8) : Except Failed MemberReader :=
  let filled := r.filled - 1
  match r.phase.getD .start with
  | .header read part partRead =>
    match MemberPhase.readHeader read part partRead b with
    | some phase => .ok ⟨r.done, some phase, filled⟩
    | none => .error r.done
  | .body m handed =>
    match m.readByte b with
    | ⟨.corrupt, _, output⟩ =>
      -- a full window is handed on when there is something for the next one
      let seen := (output.size - 1) / windowSize * windowSize
      .error (withData r.done ((output.toList.take seen).drop handed))
    | ⟨.finished, last, output⟩ =>
      .ok ⟨withData r.done (Inflater.since ⟨.finished, last, output⟩ handed), some (.trailer output []), filled⟩
    | m => .ok ⟨r.done, some (.body m handed), filled⟩
  | .trailer data read =>
    match MemberPhase.readTrailer data read b with
    | some phase => .ok ⟨r.done, phase, filled⟩
    | none => .error r.done

def step (r : MemberReader) (b : UInt8) : Except Failed MemberReader := r.refill.readByte b

/-- What can be seen when the bytes end here, and whether that is a good place. -/
def finish (r : MemberReader) : Source :=
  match r.phase with
  | none => ⟨r.done.reverse, .complete⟩
  | some (.body m handed) => ⟨(withData r.done (m.since handed)).reverse, .failed⟩
  | some _ => ⟨r.done.reverse, .failed⟩

def run (r : MemberReader) : List UInt8 → Source
  | [] => r.finish
  | b :: rest => match r.step b with
    | .ok r => r.run rest
    | .error seen => ⟨seen.reverse, .failed⟩

end MemberReader

/-- The data of all members of a file, in the pieces in which it is handed on. -/
def gunzip (bytes : List UInt8) : Source := MemberReader.run {} bytes

end ObjectRelay.Gzip
