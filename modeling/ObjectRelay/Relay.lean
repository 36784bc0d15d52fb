import ObjectRelay.Object.Notification
import ObjectRelay.Object.Filter
import ObjectRelay.Settings
import ObjectRelay.Storage.Store
/-!
# The relay

What becomes of an object that a message names.  An object the filter does not let
through, one that is too large, and one whose key the rules clear are left alone, in that
order of looking; neither fails the message.  Rules come last, so they cannot make an
object pass that the filter keeps out.
-/
namespace ObjectRelay

structure Relay where
  destination : ObjectUri
  filter : ObjectFilter
  sets : RuleSets
  /-- Larger objects are not copied; 0 stands for no limit. -/
  maxFileSize : Nat := 0
  /-- How many messages are handled side by side; 0 leaves it to the machine. -/
  maxConcurrentTasks : Nat := 0

inductive SkipReason where
  | filtered
  | tooLarge (size : Int) (limit : Nat)
  | cleared
deriving DecidableEq, Repr

def SkipReason.message : SkipReason → String
  | filtered => "not allowed by source filter"
  | tooLarge size limit => "size " ++ toString size ++ " exceeds " ++ toString limit
  | cleared => "destination key cleared by override"

/-- What becomes of an object that a message names. -/
inductive Treatment where
  | copied (operation : CopyOperation)
  | skipped (source : String) (reason : SkipReason)
  /-- What names it is not an address. -/
  | unreadable (error : UriError)
deriving DecidableEq, Repr

namespace Relay

def ofSettings (s : Settings) : Relay where
  destination := s.destination
  filter := s.filter
  sets := s.sets
  maxFileSize := s.maxFileSize
  maxConcurrentTasks := s.maxConcurrentTasks

/-- How many messages are handled side by side on a machine. -/
def permits (relay : Relay) (parallelism : Nat) : Nat :=
  if relay.maxConcurrentTasks = 0 then max 1 parallelism else relay.maxConcurrentTasks

/-- Starts a relay on a machine, once there is room for the permits. -/
def launch (relay : Relay) (parallelism : Nat) : Except CountPanic Relay :=
  (reserve (relay.permits parallelism)).map fun _ => relay

/-- Whether a size is above the limit; a negative one never is. -/
def isTooLarge (relay : Relay) (size : Int) : Bool :=
  relay.maxFileSize != 0 && relay.maxFileSize < size.toNat

def operation (relay : Relay) (source : ObjectUri) : CopyOperation :=
  (relay.sets.apply (CopyOperation.below relay.destination source)).1

/-- What becomes of an object whose address is known. -/
def treatObject (relay : Relay) (source : ObjectUri) (size : Option Int) : Treatment :=
  if !relay.filter.allows source.source then .skipped source.source .filtered
  else match size.filter relay.isTooLarge with
    | some size => .skipped source.source (.tooLarge size relay.maxFileSize)
    | none =>
      let op := relay.operation source
      if op.isSkipped then .skipped source.source .cleared else .copied op

/-- What becomes of an object that a message names. -/
def treat (relay : Relay) (record : CopyRecord) : Treatment :=
  match ObjectUri.parse record.uri with
  | .error error => .unreadable error
  | .ok source => relay.treatObject source record.size

end Relay

end ObjectRelay
