import ObjectRelay.Text.Cut
import ObjectRelay.Text.Quoted
/-!
# Object addresses

`scheme://bucket/key`.  A key is any text, so it is kept character by character:
no path is normalised, and only a query (everything from the first `?`) is dropped.
-/
namespace ObjectRelay

inductive UriError where
  | missingScheme (uri : String)
  | missingBucket (uri : String)
deriving DecidableEq, Repr

def UriError.message : UriError → String
  | missingScheme uri => quoted uri ++ " has no scheme"
  | missingBucket uri => quoted uri ++ " has no bucket"

/-- The address of an object, or of a destination when the key is a prefix. -/
structure ObjectUri where
  scheme : String
  bucket : String
  key : String
deriving DecidableEq, Repr

namespace ObjectUri

/-- Reads an address.  The scheme ends at the first `://`, the bucket at the first `/`. -/
def parse (uri : String) : Except UriError ObjectUri :=
  match cutAt "://".toList uri.toList with
  | none => .error (.missingScheme uri)
  | some ([], _) => .error (.missingScheme uri)
  | some (scheme, rest) =>
    let path := rest.takeWhile (· != '?')
    let bucket := path.takeWhile (· != '/')
    let key := (path.drop bucket.length).drop 1
    if bucket.isEmpty then .error (.missingBucket uri)
    else .ok ⟨String.ofList scheme, String.ofList bucket, String.ofList key⟩

/-- `bucket/key`: how copies and filters name the object. -/
def source (uri : ObjectUri) : String := uri.bucket ++ "/" ++ uri.key

end ObjectUri

end ObjectRelay
