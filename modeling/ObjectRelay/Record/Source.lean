/-!
# What is read of an object

A reader hands out bytes in pieces and in the end either says that there are no
more or fails.  What was handed out before a failure has been seen.
-/
namespace ObjectRelay

inductive Ending where
  | complete
  /-- The rest cannot be read. -/
  | failed
deriving DecidableEq, Repr

/-- The bytes of an object, in the pieces in which they are read, and how that ends. -/
structure Source where
  pieces : List (List UInt8)
  ending : Ending := .complete

namespace Source

def ofBytes (bytes : List UInt8) : Source := { pieces := [bytes] }

def bytes (s : Source) : List UInt8 := s.pieces.flatten

end Source

end ObjectRelay
