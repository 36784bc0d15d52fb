import ObjectRelay.Proofs.Rule.Fading
import ObjectRelay.Proofs.Text.Blank
import ObjectRelay.Rule.Preset
/-!
# The presets that come with the program

What their documents write (`ofDocument?_serviceLogs`, `ofDocument?_inferred`), that they are sets of rules, and that
these leave their own output alone (`PresetLibrary.apply_apply_defaults`).
-/
namespace ObjectRelay

deriving instance DecidableEq for WrittenRule

theorem exists_of_bind_eq_ok {ε α β : Type} {x : Except ε α} {f : α → Except ε β} {b : β} (h : x >>= f = .ok b) :
    ∃ a, x = .ok a ∧ f a = .ok b := by
  cases x with
  | error e => cases h
  | ok a => exact ⟨a, rfl, h⟩

theorem ok_of_toOption_eq_some {ε α : Type} {x : Except ε α} {a : α} (h : x.toOption = some a) : x = .ok a := by
  cases x with
  | error e => cases h
  | ok b => cases h; rfl

/-! ## From a document to a set -/

namespace WrittenRule

/-- What is left of a rule as it is written: whether it goes on, and which fields it looks at. -/
theorem of_compile {w : WrittenRule} {path : String} {r : Rule} (h : w.compile path = .ok r) :
    r.continues = w.continues ∧ (w.contentType = none → r.condition.contentType = none) ∧
      (w.contentEncoding = none → r.condition.contentEncoding = none) := by
  obtain ⟨source, -, h⟩ := exists_of_bind_eq_ok h
  obtain ⟨contentType, htype, h⟩ := exists_of_bind_eq_ok h
  obtain ⟨contentEncoding, hencoding, h⟩ := exists_of_bind_eq_ok h
  obtain ⟨-, -, h⟩ := exists_of_bind_eq_ok h
  cases h
  refine ⟨rfl, fun hnone => ?_, fun hnone => ?_⟩
  · rw [hnone] at htype
    cases htype
    rfl
  · rw [hnone] at hencoding
    cases hencoding
    rfl

end WrittenRule

namespace RuleSet

theorem exists_written_of_compileFrom (path : Nat → String) : ∀ {i : Nat} {written : List WrittenRule}
    {rules : List Rule}, compileFrom path i written = .ok rules →
      ∀ r ∈ rules, ∃ w ∈ written, ∃ j, w.compile (path j) = .ok r
  | _, [], _, h => by
    cases h
    exact List.forall_mem_nil _
  | i, w :: written, _, h => by
    obtain ⟨r, hr, h⟩ := exists_of_bind_eq_ok h
    obtain ⟨rules, hrules, h⟩ := exists_of_bind_eq_ok h
    cases h
    refine List.forall_mem_cons.2 ⟨⟨w, List.mem_cons_self, i, hr⟩, fun s hs => ?_⟩
    obtain ⟨v, hv, hcompile⟩ := exists_written_of_compileFrom path hrules s hs
    exact ⟨v, List.mem_cons_of_mem _ hv, hcompile⟩

/-- The set that rules as they are written make up under a name. -/
def ofWritten (name : String) (written : List WrittenRule) : Except RuleError RuleSet :=
  compileFrom (rulePath name) 0 written >>= ofRules name

theorem ofYaml_eq_ok {name document : String} {written : List WrittenRule} {set : RuleSet}
    (hblank : trimBlank document ≠ "")
    (hwritten : (Yaml.read? document.toList).bind WrittenRule.ofDocument? = some written)
    (hset : ofWritten name written = .ok set) : ofYaml name document = .ok set := by
  rw [ofYaml, beq_eq_false_iff_ne.2 hblank, hwritten]
  exact hset

theorem of_ofWritten {name : String} {written : List WrittenRule} {set : RuleSet} (h : ofWritten name written = .ok set) :
    set.name = name ∧ compileFrom (rulePath name) 0 written = .ok set.rules := by
  obtain ⟨rules, hrules, h⟩ := exists_of_bind_eq_ok h
  obtain ⟨-, -, h⟩ := exists_of_bind_eq_ok h
  cases h
  exact ⟨rfl, hrules⟩

/-- Rules that are written without a pattern for a header field, and do not go on, make up a steady set. -/
theorem isSteady_of_ofWritten {name : String} {written : List WrittenRule} {set : RuleSet}
    (hset : ofWritten name written = .ok set)
    (h : ∀ w ∈ written, w.contentType = none ∧ w.contentEncoding = none ∧ w.continues = false) : set.IsSteady := by
  intro r hr
  obtain ⟨w, hw, j, hcompile⟩ := exists_written_of_compileFrom (rulePath name) (of_ofWritten hset).2 r hr
  obtain ⟨hcontinues, htype, hencoding⟩ := WrittenRule.of_compile hcompile
  obtain ⟨hno, hno', hstops⟩ := h w hw
  exact ⟨⟨htype hno, hencoding hno'⟩, hcontinues.trans hstops⟩

end RuleSet

namespace PresetLibrary

theorem load_cons {library : PresetLibrary} {name document : String} {rest : List String} {set : RuleSet}
    {sets : RuleSets} (htrim : trimBlank name = name) (hname : name ≠ "")
    (hdocument : library.documents.lookup name = some document) (hset : RuleSet.ofYaml name document = .ok set)
    (hrest : library.load rest = .ok sets) : library.load (name :: rest) = .ok (set :: sets) := by
  have hnot : (name == "") = false := beq_eq_false_iff_ne.2 hname
  simp only [load, htrim, hnot, hdocument, hset, hrest]
  rfl

theorem toList_documentOf_nil : (documentOf []).toList = [] := by
  rw [documentOf, String.toList_ofList, List.flatMap_nil]

theorem toList_documentOf_cons (line : List Char) (lines : List String) :
    (documentOf (String.ofList line :: lines)).toList = line ++ '\n' :: (documentOf lines).toList := by
  simp only [documentOf, String.toList_ofList, List.flatMap_cons, List.append_assoc, List.singleton_append]

/-! ## The two documents

A literal is the text of its characters for the kernel, so a document is read line by line as they are written; a text
that is put together first and taken apart again would take too long. -/

/-- The rules that `serviceLogs` writes. -/
def writtenServiceLogs : List WrittenRule := [
  { id := "cloudtrail/digest", source := some "/AWSLogs/(o-[a-z0-9]+/)?\\d\x7b12\x7d/CloudTrail-Digest/",
    override := { key := some "" } },
  { id := "cloudtrail",
    source := some
      "/AWSLogs/(o-[a-z0-9]+/)?\\d\x7b12\x7d/CloudTrail/[\\w-]+/\\d\x7b4\x7d/\\d\x7b2\x7d/\\d\x7b2\x7d/[^/]+\\.json\\.gz$",
    override := { contentType := some "application/x-aws-cloudtrail", contentEncoding := some "gzip" } },
  { id := "config/writability", source := some "/AWSLogs/\\d\x7b12\x7d/Config/ConfigWritabilityCheckFile$",
    override := { key := some "" } },
  { id := "config",
    source := some
      "/AWSLogs/\\d\x7b12\x7d/Config/[\\w-]+/\\d\x7b4\x7d/\\d\x7b1,2\x7d/\\d\x7b1,2\x7d/(ConfigSnapshot|ConfigHistory)/[^/]+\\.json\\.gz$",
    override := { contentType := some "application/x-aws-config", contentEncoding := some "gzip" } },
  { id := "vpcflowlogs",
    source := some
      "/AWSLogs/\\d\x7b12\x7d/vpcflowlogs/[\\w-]+/\\d\x7b4\x7d/\\d\x7b2\x7d/\\d\x7b2\x7d/[^/]+\\.log\\.gz$",
    override := { contentType := some "application/x-aws-vpcflowlogs", contentEncoding := some "gzip" } },
  { id := "elb/gzip",
    source := some
      "/AWSLogs/\\d\x7b12\x7d/elasticloadbalancing/[\\w-]+/\\d\x7b4\x7d/\\d\x7b2\x7d/\\d\x7b2\x7d/[^/]+\\.log\\.gz$",
    override := { contentType := some "application/x-aws-elasticloadbalancing", contentEncoding := some "gzip" } },
  { id := "elb",
    source := some
      "/AWSLogs/\\d\x7b12\x7d/elasticloadbalancing/[\\w-]+/\\d\x7b4\x7d/\\d\x7b2\x7d/\\d\x7b2\x7d/[^/]+\\.log$",
    override := { contentType := some "application/x-aws-elasticloadbalancing" } }]

/-- The content types that say nothing. -/
def untyped : String := "^(|binary/octet-stream|application/octet-stream)$"

/-- The rules that `inferred` writes. -/
def writtenInferred : List WrittenRule := [
  { id := "gzip", source := some "\\.gz$", contentEncoding := some "^$",
    override := { contentEncoding := some "gzip" }, continues := true },
  { id := "json", source := some "\\.(json|ndjson|jsonl)(\\.gz)?$", contentType := some untyped,
    override := { contentType := some "application/x-ndjson" } },
  { id := "csv", source := some "\\.csv(\\.gz)?$", contentType := some untyped,
    override := { contentType := some "text/csv" } }]

theorem ofDocument?_serviceLogs :
    (Yaml.read? serviceLogs.toList).bind WrittenRule.ofDocument? = some writtenServiceLogs := by
  rw [serviceLogs]
  repeat rw [toList_documentOf_cons]
  rw [toList_documentOf_nil]
  decide +kernel

theorem ofDocument?_inferred : (Yaml.read? inferred.toList).bind WrittenRule.ofDocument? = some writtenInferred := by
  rw [inferred]
  repeat rw [toList_documentOf_cons]
  rw [toList_documentOf_nil]
  decide +kernel

theorem trimBlank_documentOf_comment (text : List Char) (lines : List String) :
    trimBlank (documentOf (String.ofList ('#' :: text) :: lines)) ≠ "" := by
  refine trimBlank_ne_empty (c := '#') ?_ rfl
  rw [toList_documentOf_cons, List.cons_append]
  exact List.mem_cons_self

/-- The rules for service logs are a set that looks at the source alone. -/
theorem exists_serviceLogs : ∃ logs, RuleSet.ofYaml "aws/v1" serviceLogs = .ok logs ∧ logs.name = "aws/v1" ∧
    logs.IsSteady := by
  have hcompiles : (RuleSet.ofWritten "aws/v1" writtenServiceLogs).toOption.isSome = true := by decide +kernel
  obtain ⟨logs, hlogs⟩ := Option.isSome_iff_exists.1 hcompiles
  have hset := ok_of_toOption_eq_some hlogs
  have hblank : trimBlank serviceLogs ≠ "" := trimBlank_documentOf_comment _ _
  exact ⟨logs, RuleSet.ofYaml_eq_ok hblank ofDocument?_serviceLogs hset, (RuleSet.of_ofWritten hset).1,
    RuleSet.isSteady_of_ofWritten hset (by decide)⟩

/-- The rules that infer are a set of which one goes on, and what they write puts them to rest. -/
theorem exists_inferred : ∃ types, RuleSet.ofYaml "infer/v1" inferred = .ok types ∧ types.name = "infer/v1" ∧
    (∃ r ∈ types.rules, r.continues = true) ∧ RuleSet.IsFading types.rules := by
  have hcompiles : (RuleSet.ofWritten "infer/v1" writtenInferred).toOption.any (fun types =>
      (∃ r ∈ types.rules, r.continues = true) ∧ RuleSet.IsFading types.rules) = true := by decide +kernel
  obtain ⟨types, htypes, hholds⟩ := (Option.any_eq_true _ _).1 hcompiles
  have hset := ok_of_toOption_eq_some htypes
  have hblank : trimBlank inferred ≠ "" := trimBlank_documentOf_comment _ _
  exact ⟨types, RuleSet.ofYaml_eq_ok hblank ofDocument?_inferred hset, (RuleSet.of_ofWritten hset).1,
    of_decide_eq_true hholds⟩

/-- **The presets that apply when none are asked for are idempotent**, although a rule of the second one goes on: what
the first one has done it does once more, which changes nothing, and the second one finds nothing left to do. -/
theorem apply_apply_defaults : ∃ logs types, builtin.load defaults = .ok [logs, types] ∧ logs.name = "aws/v1" ∧
    types.name = "infer/v1" ∧ (∃ r ∈ types.rules, r.continues = true) ∧ ∀ op,
      RuleSets.apply [logs, types] (RuleSets.apply [logs, types] op).1 =
        ((RuleSets.apply [logs, types] op).1, (logs.apply op).2) := by
  obtain ⟨logs, hlogs, hlogsName, hsteady⟩ := exists_serviceLogs
  obtain ⟨types, htypes, htypesName, hcontinues, hfading⟩ := exists_inferred
  have hload : builtin.load defaults = .ok [logs, types] :=
    load_cons (by decide) (by decide) rfl hlogs (load_cons (by decide) (by decide) rfl htypes rfl)
  refine ⟨logs, types, hload, hlogsName, htypesName, hcontinues, fun op => ?_⟩
  rw [← RuleSets.apply_singleton logs]
  exact RuleSets.apply_apply_of_isFading (List.forall_mem_singleton.2 hsteady) hfading op

end PresetLibrary
end ObjectRelay
