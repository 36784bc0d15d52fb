import ObjectRelay.Rule.Written
/-!
# Presets

Rule documents under a name.  They are read when they are asked for, and checked like
any other document.
-/
namespace ObjectRelay

/-- Documents under names, in increasing order of the names. -/
structure PresetLibrary where
  documents : List (String × String) := []

namespace PresetLibrary

/-- The documents with one more, which replaces one of the same name. -/
def add (name document : String) : List (String × String) → List (String × String)
  | [] => [(name, document)]
  | (other, d) :: rest =>
    if name == other then (name, document) :: rest
    else if name < other then (name, document) :: (other, d) :: rest
    else (other, d) :: add name document rest

def withDocument (library : PresetLibrary) (name document : String) : PresetLibrary :=
  { documents := add name document library.documents }

def names (library : PresetLibrary) : List String := library.documents.map (·.1)

/-- The sets of the named presets, in the order of the names; blank names do not count. -/
def load (library : PresetLibrary) : List String → Except RuleError RuleSets
  | [] => .ok []
  | name :: rest => do
    let name := trimBlank name
    let sets ←
      if name == "" then .ok []
      else match library.documents.lookup name with
        | none => .error (.presetNotFound name)
        | some document => (RuleSet.ofYaml name document).map ([·])
    return sets ++ (← load library rest)

def documentOf (lines : List String) : String :=
  String.ofList (lines.flatMap fun line => line.toList ++ ['\n'])

/-- Rules for the places where services of the cloud write their logs. -/
def serviceLogs : String := documentOf [
  "# Well known AWS service log destinations.",
  "- id: cloudtrail/digest",
  "  match:",
  "    source: '/AWSLogs/(o-[a-z0-9]+/)?\\d\x7b12\x7d/CloudTrail-Digest/'",
  "  override:",
  "    key: ''",
  "- id: cloudtrail",
  "  match:",
  "    source: '/AWSLogs/(o-[a-z0-9]+/)?\\d\x7b12\x7d/CloudTrail/[\\w-]+/\\d\x7b4\x7d/\\d\x7b2\x7d/\\d\x7b2\x7d/[^/]+\\.json\\.gz$'",
  "  override:",
  "    content-type: application/x-aws-cloudtrail",
  "    content-encoding: gzip",
  "- id: config/writability",
  "  match:",
  "    source: '/AWSLogs/\\d\x7b12\x7d/Config/ConfigWritabilityCheckFile$'",
  "  override:",
  "    key: ''",
  "- id: config",
  "  match:",
  "    source: '/AWSLogs/\\d\x7b12\x7d/Config/[\\w-]+/\\d\x7b4\x7d/\\d\x7b1,2\x7d/\\d\x7b1,2\x7d/(ConfigSnapshot|ConfigHistory)/[^/]+\\.json\\.gz$'",
  "  override:",
  "    content-type: application/x-aws-config",
  "    content-encoding: gzip",
  "- id: vpcflowlogs",
  "  match:",
  "    source: '/AWSLogs/\\d\x7b12\x7d/vpcflowlogs/[\\w-]+/\\d\x7b4\x7d/\\d\x7b2\x7d/\\d\x7b2\x7d/[^/]+\\.log\\.gz$'",
  "  override:",
  "    content-type: application/x-aws-vpcflowlogs",
  "    content-encoding: gzip",
  "- id: elb/gzip",
  "  match:",
  "    source: '/AWSLogs/\\d\x7b12\x7d/elasticloadbalancing/[\\w-]+/\\d\x7b4\x7d/\\d\x7b2\x7d/\\d\x7b2\x7d/[^/]+\\.log\\.gz$'",
  "  override:",
  "    content-type: application/x-aws-elasticloadbalancing",
  "    content-encoding: gzip",
  "- id: elb",
  "  match:",
  "    source: '/AWSLogs/\\d\x7b12\x7d/elasticloadbalancing/[\\w-]+/\\d\x7b4\x7d/\\d\x7b2\x7d/\\d\x7b2\x7d/[^/]+\\.log$'",
  "  override:",
  "    content-type: application/x-aws-elasticloadbalancing"]

/-- Rules that infer metadata from the extension of a file. -/
def inferred : String := documentOf [
  "# Infer delivery metadata from file extensions when the object carries none.",
  "- id: gzip",
  "  match:",
  "    source: '\\.gz$'",
  "    content-encoding: '^$'",
  "  override:",
  "    content-encoding: gzip",
  "  continue: true",
  "- id: json",
  "  match:",
  "    source: '\\.(json|ndjson|jsonl)(\\.gz)?$'",
  "    content-type: '^(|binary/octet-stream|application/octet-stream)$'",
  "  override:",
  "    content-type: application/x-ndjson",
  "- id: csv",
  "  match:",
  "    source: '\\.csv(\\.gz)?$'",
  "    content-type: '^(|binary/octet-stream|application/octet-stream)$'",
  "  override:",
  "    content-type: text/csv"]

def builtin : PresetLibrary :=
  { documents := [("aws/v1", serviceLogs), ("infer/v1", inferred)] }

/-- The presets that apply when none are asked for. -/
def defaults : List String := ["aws/v1", "infer/v1"]

end PresetLibrary

end ObjectRelay
