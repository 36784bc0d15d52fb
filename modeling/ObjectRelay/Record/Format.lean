import ObjectRelay.Media.MediaType
import ObjectRelay.Text.Blank
import ObjectRelay.Text.Quoted
/-!
# Which decoder an object needs

An object's content encoding says how its bytes are packed and its content type
how the records are written.  Both are free text set by whoever stored the object,
so anything unknown is an error that names it; absent means plain JSON.
-/
namespace ObjectRelay

/-- How the bytes of an object are packed. -/
inductive Encoding where
  | identity
  | gzip
deriving DecidableEq, Repr

inductive Delimiter where
  | comma
  | space
  | tab
deriving DecidableEq, Repr

def Delimiter.byte : Delimiter → UInt8
  | .comma => 0x2C
  | .space => 0x20
  | .tab => 0x09

inductive Format where
  /-- One record per top level JSON value. -/
  | json
  /-- Rows of cells below a row of names. -/
  | delimited (delimiter : Delimiter)
  /-- Access log lines of a load balancer: cells named by their position. -/
  | accessLog
  /-- Log events inside subscription payloads. -/
  | logEvents
  /-- Configuration items inside snapshot and history files. -/
  | configuration
  /-- Configuration items on their own. -/
  | change
  /-- Records of an audit trail file. -/
  | trail
deriving DecidableEq, Repr

inductive FormatError where
  | unsupportedEncoding (encoding : String)
  | unsupportedContentType (contentType : String)
  | unsupportedDelimiter (delimiter : String)
deriving DecidableEq, Repr

namespace FormatError

def message : FormatError → String
  | unsupportedEncoding e => "unsupported content encoding " ++ quoted e
  | unsupportedContentType t => "unsupported content type " ++ quoted t
  | unsupportedDelimiter d => "unsupported delimiter " ++ quoted d

end FormatError

/-- Reads a content encoding; blank means none. -/
def Encoding.parse (encoding? : Option String) : Except FormatError Encoding :=
  let name := trimBlank (encoding?.getD "")
  if name == "" || name == "identity" then .ok .identity
  else if name == "gzip" || name == "x-gzip" then .ok .gzip
  else .error (.unsupportedEncoding name)

/-- The delimiter that a media type asks for, a comma when it names none. -/
def Delimiter.ofMediaType (m : MediaType) : Except FormatError Delimiter :=
  match m.parameter? "delimiter" with
  | none => .ok .comma
  | some "comma" => .ok .comma
  | some "space" => .ok .space
  | some "tab" => .ok .tab
  | some other => .error (.unsupportedDelimiter other)

/-- Reads a content type; blank means JSON. -/
def Format.parse (contentType? : Option String) : Except FormatError Format :=
  let contentType := trimBlank (contentType?.getD "")
  if contentType == "" then .ok .json
  else
    let unknown := .error (.unsupportedContentType contentType)
    match MediaType.parse? contentType with
    | none => unknown
    | some m =>
      match m.essence with
      | "application/json" | "application/x-ndjson" => .ok .json
      | "text/csv" | "application/x-csv" => (Delimiter.ofMediaType m).map .delimited
      | "application/x-aws-cloudwatchlogs" => .ok .logEvents
      | "application/x-aws-config" => .ok .configuration
      | "application/x-aws-change" => .ok .change
      | "application/x-aws-cloudtrail" => .ok .trail
      | "application/x-aws-vpcflowlogs" => .ok (.delimited .space)
      | "application/x-aws-elasticloadbalancing" => .ok .accessLog
      | _ => unknown

structure Decoding where
  encoding : Encoding
  format : Format
deriving DecidableEq, Repr

/-- Picks the decoding of an object; the encoding is looked at first. -/
def Decoding.resolve (encoding? contentType? : Option String) : Except FormatError Decoding := do
  let encoding ← Encoding.parse encoding?
  let format ← Format.parse contentType?
  return ⟨encoding, format⟩

end ObjectRelay
