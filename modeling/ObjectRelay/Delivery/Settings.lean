import ObjectRelay.Delivery.Retry
/-!
# Settings of a delivery

Where batches are posted to, and how.
-/
namespace ObjectRelay

structure DeliverySettings where
  endpoint : String
  /-- The compression level, `none` for the usual one. -/
  gzipLevel : Option Nat := none
  isCompressing : Bool := true
  authorization : Option String := none
  timeoutSeconds : Nat := 30
  retry : RetryPolicy := {}

def DeliverySettings.maxGzipLevel : Nat := 9

end ObjectRelay
