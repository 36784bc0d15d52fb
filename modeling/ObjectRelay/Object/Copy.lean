import ObjectRelay.Object.Uri
/-!
# Copies of objects

A pending copy names its source, its destination and the metadata it will carry.
Rules may change everything but the bucket and the source; a copy whose key has
been cleared is not made.
-/
namespace ObjectRelay

/-- Whether a copy keeps the metadata of its source or replaces it. -/
inductive MetadataDirective where
  | copy
  | replace
deriving DecidableEq, Repr

def MetadataDirective.text : MetadataDirective → String
  | copy => "COPY"
  | replace => "REPLACE"

/-- A pending copy of one object to the destination. -/
structure CopyOperation where
  bucket : String
  /-- `bucket/key` of the object that is copied. -/
  copySource : String
  /-- The destination key; empty means that the object is not copied. -/
  key : String
  contentType : Option String := none
  contentEncoding : Option String := none
  metadataDirective : Option MetadataDirective := none
deriving DecidableEq, Repr

def withoutLeadingSlashes (key : String) : String :=
  String.ofList (key.toList.dropWhile (· == '/'))

namespace CopyOperation

/-- The copy of `source` below `destination`: the source key behind the destination's. -/
def below (destination source : ObjectUri) : CopyOperation where
  bucket := destination.bucket
  copySource := source.source
  key := withoutLeadingSlashes (destination.key ++ "/" ++ source.key)

def isSkipped (op : CopyOperation) : Bool := op.key == ""

end CopyOperation

structure CustomerKey where
  algorithm : Option String := none
  key : Option String := none
  keyMd5 : Option String := none
deriving DecidableEq, Repr

/-- Conditions under which an object is read; times are seconds since 1970. -/
structure ReadConditions where
  ifMatch : Option String := none
  ifNoneMatch : Option String := none
  ifModifiedSince : Option Int := none
  ifUnmodifiedSince : Option Int := none
  customerKey : CustomerKey := {}
deriving DecidableEq, Repr

structure CopyRequest where
  operation : CopyOperation
  conditions : ReadConditions := {}
deriving DecidableEq, Repr

structure GetRequest where
  bucket : String
  key : String
  conditions : ReadConditions := {}
deriving DecidableEq, Repr

structure PutRequest where
  bucket : String
  key : String
  body : List UInt8
  contentType : Option String := none

namespace CopyRequest

/-- The two parts of a copy source, cut at its first slash; no slash means no key. -/
def sourceParts (copySource : String) : String × String :=
  let s := copySource.toList
  let bucket := s.takeWhile (· != '/')
  (String.ofList bucket, String.ofList ((s.drop bucket.length).drop 1))

/-- The read of the object that is copied, under the same conditions. -/
def read (request : CopyRequest) : GetRequest :=
  let (bucket, key) := sourceParts request.operation.copySource
  { bucket, key, conditions := request.conditions }

end CopyRequest

end ObjectRelay
