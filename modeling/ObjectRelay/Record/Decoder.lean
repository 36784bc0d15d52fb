import ObjectRelay.Json.Reader
import ObjectRelay.Record.Source
/-!
# Record decoders

A decoder reads an object byte by byte and hands out records as it recognises them.
The records handed out depend on the bytes read so far only: a fault, a failed read
or the end of the object can end the stream, but takes nothing back.
-/
namespace ObjectRelay

/-- A record: what is batched and delivered. -/
abbrev Record := Json

inductive RowFault where
  /-- A row has `found` cells below a header of `expected`. -/
  | unequalLengths (expected found : Nat)
  | notText
  /-- The bytes behind this point could not be read. -/
  | unreadable
deriving DecidableEq, Repr

inductive DecodeError where
  | missingHeader
  | json (fault : Json.Fault)
  | rows (fault : RowFault)
deriving DecidableEq, Repr

def DecodeError.message : DecodeError → String
  | missingHeader => "missing header row"
  | json .truncated => "failed to decode json: the text ends inside a value"
  | json .mismatched => "failed to decode json: a value is not of the expected shape"
  | json .malformed => "failed to decode json: the text is not JSON"
  | json .unreadable => "failed to decode json: the object cannot be read"
  | rows (.unequalLengths e n) =>
    "failed to decode csv: found record with " ++ toString n ++ " fields, but the header has " ++
      toString e ++ " fields"
  | rows .notText => "failed to decode csv: a row is not text"
  | rows .unreadable => "failed to decode csv: the object cannot be read"

/-- What decoding an object gives: records, and the error that ended them. -/
structure Decoded where
  records : List Record
  error : Option DecodeError := none

/-- A decoder: what a byte does to it, and what the end of the object means. -/
structure RecordDecoder where
  State : Type
  start : State
  /-- A byte may complete records, and then decoding goes on or the byte is a fault. -/
  step : State → UInt8 → List Record × Except DecodeError State
  finish : State → Decoded
  unreadable : DecodeError

namespace RecordDecoder

def prepend (records : List Record) (d : Decoded) : Decoded :=
  { d with records := records ++ d.records }

def runFrom (d : RecordDecoder) (ending : Ending) (s : d.State) : List UInt8 → Decoded
  | [] => match ending with
    | .complete => d.finish s
    | .failed => { records := [], error := some d.unreadable }
  | b :: rest => match d.step s b with
    | (records, .error e) => { records, error := some e }
    | ([], .ok s) => runFrom d ending s rest
    | (records, .ok s) => prepend records (runFrom d ending s rest)

def run (d : RecordDecoder) (ending : Ending) (bytes : List UInt8) : Decoded :=
  d.runFrom ending d.start bytes

/-- Reads JSON values of one shape and expands each into its records. -/
def ofJson (shape : Json.Shape) (expand : Json → List Record) : RecordDecoder where
  State := Json.Reader
  start := {}
  step r b :=
    let (value?, next) := r.step shape b
    ((value?.map expand).getD [], next.mapError .json)
  finish r := match r.finish shape with
    | .error e => { records := [], error := some (.json e) }
    | .ok none => { records := [] }
    | .ok (some v) => { records := expand v }
  unreadable := .json .unreadable

end RecordDecoder

end ObjectRelay
