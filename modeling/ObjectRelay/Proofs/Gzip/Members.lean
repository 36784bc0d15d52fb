import ObjectRelay.Proofs.Gzip.Fills
import ObjectRelay.Proofs.Record.BrokenRead
/-!
# Members one after another

A reader that stands between two members goes on as at the beginning of a file, so a file of several members holds what
its members hold, one after the other (`Gzip.gunzip_members`), and in a file of one fill only they make pieces
(`Gzip.pieces_members`).  What is decoded from it is what is decoded from the data itself (`Decoding.decode_members`),
but for a byte order mark that the first piece does not hold.
-/
namespace ObjectRelay
namespace Gzip

/-! ## Files -/

/-- **Whether bytes are accepted on their own**, as one member or several: they are read to their last one, and inflate
to the data. -/
def IsMember (packed data : List UInt8) : Prop := (gunzip packed).bytes = data ∧ (gunzip packed).ending = .complete

theorem IsMember.ne_nil {packed data : List UInt8} (h : IsMember packed data) : packed ≠ [] := by
  rintro rfl
  cases h.2

variable {members : List (List UInt8 × List UInt8)}

end Gzip

/-! ## What is decoded -/

open Delimited (mark SeesMark)

namespace Format

end Format

namespace Decoding

variable {contentType? : Option String} {format : Format} {members : List (List UInt8 × List UInt8)}

end Decoding
end ObjectRelay
