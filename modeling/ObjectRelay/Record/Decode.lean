import ObjectRelay.Delimited.Records
import ObjectRelay.Gzip.Member
import ObjectRelay.Record.AwsFiles
import ObjectRelay.Record.Format
/-!
# Decoding objects

The bytes of an object are unpacked as its encoding says and read by the decoder of
its format.
-/
namespace ObjectRelay

/-- What is read of an object whose bytes are packed. -/
def Encoding.source : Encoding → List UInt8 → Source
  | .identity, bytes => .ofBytes bytes
  | .gzip, bytes => Gzip.gunzip bytes

def Format.decoder : Format → RecordDecoder
  | .json => .ofJson .any fun v => [v]
  | .delimited d => Delimited.headed d.byte
  | .accessLog => Delimited.positional Delimiter.space.byte accessLogNames
  | .logEvents => .ofJson payloadShape payloadRecords
  | .configuration => .ofJson configurationFileShape configurationRecords
  | .change => .ofJson configurationShape fun item => [item]
  | .trail => .ofJson trailShape trailRecords

/-- Whether a byte order mark at the beginning is dropped. -/
def Format.dropsMark : Format → Bool
  | .delimited _ | .accessLog => true
  | _ => false

def Format.decode (format : Format) (source : Source) : Decoded :=
  let pieces := if format.dropsMark then Delimited.withoutMark source.pieces else source.pieces
  format.decoder.run source.ending pieces.flatten

def Decoding.decode (d : Decoding) (bytes : List UInt8) : Decoded :=
  d.format.decode (d.encoding.source bytes)

end ObjectRelay
