import ObjectRelay.Batch.Limits
import ObjectRelay.Delivery.Settings
import ObjectRelay.Object.Filter
import ObjectRelay.Object.Uri
import ObjectRelay.Rule.Preset
import ObjectRelay.Settings.Environment
/-!
# Settings of the relay

All settings are read and checked before the first object is touched: rules, presets
and globs are compiled here, and the first fault in the order of reading is the answer.
-/
namespace ObjectRelay

structure Settings where
  destination : ObjectUri
  /-- How to deliver, when the destination is an endpoint and not a bucket. -/
  delivery : Option DeliverySettings
  filter : ObjectFilter
  sets : RuleSets
  limits : BatchLimits
  /-- Larger objects are not copied; 0 stands for no limit. -/
  maxFileSize : Nat
  /-- How many messages are handled side by side; 0 leaves it to the machine. -/
  maxConcurrentTasks : Nat
  logLevel : String

inductive SettingsError where
  | missing (name : String)
  | invalid (setting : InvalidSetting)
  | unsupportedScheme (scheme : String)
  | destination (error : UriError)
  | filter (error : FilterError)
  | rules (error : RuleError)
deriving DecidableEq, Repr

def SettingsError.message : SettingsError → String
  | missing name => name ++ " environment variable is not set"
  | invalid setting => setting.message
  | unsupportedScheme scheme => "unsupported destination scheme " ++ quoted scheme
  | destination e => "invalid destination: " ++ e.message
  | filter e => e.message
  | rules e => e.message

namespace Environment

def gzipLevel (env : Environment) : Except InvalidSetting (Option Nat) := do
  let level ← env.number? (UInt32.size - 1) "HTTP_GZIP_LEVEL"
  match level with
  | none => return none
  | some n =>
    if DeliverySettings.maxGzipLevel < n then
      throw {
        name := "HTTP_GZIP_LEVEL"
        value := toString n
        reason := "expected a level between 0 and 9" }
    else return some n

def retryPolicy (env : Environment) : Except InvalidSetting RetryPolicy := do
  let minWait ← env.number "HTTP_RETRY_MIN_WAIT_MS" 100
  let maxWait ← env.number "HTTP_RETRY_MAX_WAIT_MS" 5000
  let maxAttempts ← env.number? (UInt32.size - 1) "HTTP_RETRY_MAX_ATTEMPTS"
  return {
    minWait := Duration.ofMillis minWait.toUInt64
    maxWait := Duration.ofMillis maxWait.toUInt64
    maxAttempts := (maxAttempts.getD 4).toUInt32 }

def deliverySettings (env : Environment) (endpoint : String) : Except InvalidSetting DeliverySettings := do
  let gzipLevel ← env.gzipLevel
  let retry ← env.retryPolicy
  let isUncompressed ← env.flag "HTTP_DISABLE_COMPRESSION" false
  let timeoutSeconds ← env.number "HTTP_TIMEOUT_SECS" 30
  return {
    endpoint, gzipLevel, retry, timeoutSeconds
    isCompressing := !isUncompressed
    authorization := env.text? "HTTP_AUTHORIZATION" }

/-- Which objects are relayed; without a setting all are. -/
def objectFilter (env : Environment) : Except FilterError ObjectFilter :=
  ObjectFilter.ofGlobs ((env.items? "SOURCE_BUCKET_NAMES").getD ["*"])
    ((env.items? "SOURCE_OBJECT_KEYS").getD ["*"])

/-- The rule sets: those of the settings come before those of presets. -/
def ruleSets (env : Environment) (presets : PresetLibrary) : Except RuleError RuleSets := do
  let entries ← match env.items? "CONTENT_TYPE_OVERRIDES" with
    | none => pure []
    | some entries => (RuleSet.ofEntries "content-type-overrides" entries).map ([·])
  let rules ← match env.text? "OVERRIDE_RULES" with
    | none => pure []
    | some document => (RuleSet.ofYaml "override-rules" document).map ([·])
  let presetSets ← presets.load ((env.items? "PRESET_OVERRIDES").getD PresetLibrary.defaults)
  return entries ++ rules ++ presetSets

/-- The limits of a batch run; no batch could hold a record if it must be empty. -/
def batchLimits (env : Environment) : Except InvalidSetting BatchLimits := do
  let maxRecordSize ← env.number "MAX_RECORD_SIZE" 4000000
  let maxBatchSize ← env.number "MAX_BATCH_SIZE" 10000000
  let maxConcurrency ← env.number "MAX_BATCH_CONCURRENCY" 4
  if maxBatchSize == 0 then
    throw { name := "MAX_BATCH_SIZE", value := "0", reason := "must be positive" }
  else return { maxRecordSize, maxBatchSize, maxConcurrency }

end Environment

def Settings.ofEnvironment (presets : PresetLibrary) (env : Environment) : Except SettingsError Settings := do
  let address ← match env.text? "DESTINATION_URI" with
    | none => throw (.missing "DESTINATION_URI")
    | some address => pure address
  let destination ← (ObjectUri.parse address).mapError .destination
  let delivery ← match destination.scheme with
    | "s3" => pure none
    | "http" | "https" => ((env.deliverySettings address).mapError .invalid).map some
    | scheme => throw (.unsupportedScheme scheme)
  let filter ← env.objectFilter.mapError .filter
  let sets ← (env.ruleSets presets).mapError .rules
  let limits ← env.batchLimits.mapError .invalid
  let maxFileSize ← (env.number "MAX_FILE_SIZE" 0).mapError .invalid
  let maxConcurrentTasks ← (env.number "MAX_CONCURRENT_TASKS" 0).mapError .invalid
  return {
    destination, delivery, filter, sets, limits, maxFileSize, maxConcurrentTasks
    logLevel := (env.text? "LOG_LEVEL").getD "info" }

end ObjectRelay
