import ObjectRelay.Proofs.Yaml.Layout
import ObjectRelay.Settings
/-!
# The rule document among the settings

The rules of a document come between those of the entries and those of the presets, and nothing else of the settings
depends on them.  White space around a setting never counts, so what is read is the document without the white space
around it; a tidy document (`Yaml.isTidy`) holds the same, but one that begins with an indented line need not.
-/
namespace ObjectRelay

/-! ## Settings without one of them -/

namespace Environment

variable {env : Environment} {hidden name : String}

/-- The settings but for the ones under a name. -/
def without (env : Environment) (hidden : String) : Environment := env.filter fun setting => setting.1 != hidden

theorem lookup_without_of_ne (h : name ≠ hidden) : (env.without hidden).lookup name = env.lookup name := by
  induction env with
  | nil => rfl
  | cons setting env ih =>
    obtain ⟨n, value⟩ := setting
    rw [without] at ih ⊢
    by_cases hn : n = hidden
    · have hne : (name == n) = false := beq_eq_false_iff_ne.2 (hn ▸ h)
      rw [List.filter_cons_of_neg (by simpa using hn), ih, List.lookup_cons, hne]
    · rw [List.filter_cons_of_pos (by simpa using hn), List.lookup_cons, List.lookup_cons, ih]

theorem lookup_without (env : Environment) (hidden : String) : (env.without hidden).lookup hidden = none := by
  refine List.lookup_eq_none_iff.2 fun setting hsetting => ?_
  have hne := (List.mem_filter.1 hsetting).2
  rw [bne_iff_ne] at hne ⊢
  exact hne.symm

theorem text?_without_of_ne (h : name ≠ hidden) : (env.without hidden).text? name = env.text? name := by
  rw [text?, text?, lookup_without_of_ne h]

theorem text?_without (env : Environment) (hidden : String) : (env.without hidden).text? hidden = none := by
  rw [text?, lookup_without]

theorem items?_without_of_ne (h : name ≠ hidden) : (env.without hidden).items? name = env.items? name := by
  rw [items?, items?, text?_without_of_ne h]

theorem read?_without_of_ne {α : Type} (reader : String → Except String α) (h : name ≠ hidden) :
    (env.without hidden).read? reader name = env.read? reader name := by
  rw [read?, read?, text?_without_of_ne h]

theorem number?_without_of_ne (limit : Nat) (h : name ≠ hidden) :
    (env.without hidden).number? limit name = env.number? limit name := read?_without_of_ne _ h

theorem number_without_of_ne (default : Nat) (h : name ≠ hidden) :
    (env.without hidden).number name default = env.number name default := by
  rw [number, number, number?_without_of_ne _ h]

theorem flag_without_of_ne (default : Bool) (h : name ≠ hidden) :
    (env.without hidden).flag name default = env.flag name default := by
  rw [flag, flag, read?_without_of_ne _ h]

theorem text?_of_lookup {document : String} (h : env.lookup name = some document) (hblank : trimBlank document ≠ "") :
    env.text? name = some (trimBlank document) := by
  rw [text?, h]
  simp only

/-! ## Settings without the rule document -/

theorem deliverySettings_without (env : Environment) (endpoint : String) :
    (env.without "OVERRIDE_RULES").deliverySettings endpoint = env.deliverySettings endpoint := by
  simp (disch := decide) only [deliverySettings, gzipLevel, retryPolicy, number?_without_of_ne, number_without_of_ne,
    flag_without_of_ne, text?_without_of_ne]

theorem objectFilter_without (env : Environment) :
    (env.without "OVERRIDE_RULES").objectFilter = env.objectFilter := by
  simp (disch := decide) only [objectFilter, items?_without_of_ne]

theorem batchLimits_without (env : Environment) : (env.without "OVERRIDE_RULES").batchLimits = env.batchLimits := by
  simp (disch := decide) only [batchLimits, number_without_of_ne]

/-- The set of the entries, if there are any. -/
def entrySets (env : Environment) : Except RuleError RuleSets := match env.items? "CONTENT_TYPE_OVERRIDES" with
  | none => .ok []
  | some entries => (RuleSet.ofEntries "content-type-overrides" entries).map ([·])

/-- The set of the rule document, if there is one. -/
def documentSets (env : Environment) : Except RuleError RuleSets := match env.text? "OVERRIDE_RULES" with
  | none => .ok []
  | some document => (RuleSet.ofYaml "override-rules" document).map ([·])

/-- The sets of the presets that are named. -/
def presetSets (env : Environment) (presets : PresetLibrary) : Except RuleError RuleSets :=
  presets.load ((env.items? "PRESET_OVERRIDES").getD PresetLibrary.defaults)

theorem ruleSets_eq (env : Environment) (presets : PresetLibrary) : env.ruleSets presets =
    (do return (← env.entrySets) ++ (← env.documentSets) ++ (← env.presetSets presets)) := by
  rw [ruleSets, entrySets, documentSets, presetSets]
  cases env.items? "CONTENT_TYPE_OVERRIDES" <;> cases env.text? "OVERRIDE_RULES" <;> rfl

/-- The rules of a document join those that the settings have without it. -/
theorem ruleSets_of_without {presets : PresetLibrary} {sets : RuleSets} {document : String}
    (hdocument : env.text? "OVERRIDE_RULES" = some document)
    (h : (env.without "OVERRIDE_RULES").ruleSets presets = .ok sets) :
    ∃ before after, sets = before ++ after ∧ env.entrySets = .ok before ∧ env.presetSets presets = .ok after ∧
      env.ruleSets presets = (RuleSet.ofYaml "override-rules" document).map fun set => before ++ set :: after := by
  simp (disch := decide) only [ruleSets_eq, entrySets, documentSets, presetSets, items?_without_of_ne,
    text?_without] at h
  rw [← entrySets, ← presetSets] at h
  rw [ruleSets_eq, documentSets, hdocument]
  cases hentries : env.entrySets with
  | error e => rw [hentries] at h; cases h
  | ok before =>
    cases hpresets : env.presetSets presets with
    | error e => rw [hentries, hpresets] at h; cases h
    | ok after =>
      rw [hentries, hpresets] at h
      cases h
      refine ⟨before, after, by rw [List.append_nil], rfl, rfl, ?_⟩
      simp only
      cases RuleSet.ofYaml "override-rules" document with
      | error e => rfl
      | ok set => exact congrArg Except.ok (List.append_assoc before [set] after)

/-- Where to deliver, and how. -/
def target (env : Environment) : Except SettingsError (ObjectUri × Option DeliverySettings) :=
  match env.text? "DESTINATION_URI" with
  | none => .error (.missing "DESTINATION_URI")
  | some address => do
    let destination ← (ObjectUri.parse address).mapError .destination
    let delivery ← match destination.scheme with
      | "s3" => pure none
      | "http" | "https" => ((env.deliverySettings address).mapError .invalid).map some
      | scheme => throw (.unsupportedScheme scheme)
    return (destination, delivery)

/-- The settings once the rule sets are known. -/
def withSets (env : Environment) (target : ObjectUri × Option DeliverySettings) (filter : ObjectFilter)
    (sets : RuleSets) : Except SettingsError Settings := do
  let limits ← env.batchLimits.mapError .invalid
  let maxFileSize ← (env.number "MAX_FILE_SIZE" 0).mapError .invalid
  let maxConcurrentTasks ← (env.number "MAX_CONCURRENT_TASKS" 0).mapError .invalid
  return {
    destination := target.1, delivery := target.2, filter, sets, limits, maxFileSize, maxConcurrentTasks
    logLevel := (env.text? "LOG_LEVEL").getD "info" }

theorem target_without (env : Environment) : (env.without "OVERRIDE_RULES").target = env.target := by
  simp (disch := decide) only [target, text?_without_of_ne, deliverySettings_without]

theorem withSets_without (env : Environment) (target : ObjectUri × Option DeliverySettings) (filter : ObjectFilter)
    (sets : RuleSets) :
    (env.without "OVERRIDE_RULES").withSets target filter sets = env.withSets target filter sets := by
  simp (disch := decide) only [withSets, text?_without_of_ne, number_without_of_ne, batchLimits_without]

/-- Other sets change the sets of the settings and nothing else. -/
theorem withSets_of_withSets {env : Environment} {target : ObjectUri × Option DeliverySettings} {filter : ObjectFilter}
    {sets : RuleSets} {base : Settings} (h : env.withSets target filter sets = .ok base) :
    base.sets = sets ∧ ∀ others, env.withSets target filter others = .ok { base with sets := others } := by
  rw [withSets] at h
  simp only [withSets]
  cases hlimits : env.batchLimits.mapError SettingsError.invalid with
  | error e => rw [hlimits] at h; cases h
  | ok limits =>
    cases hsize : (env.number "MAX_FILE_SIZE" 0).mapError SettingsError.invalid with
    | error e => rw [hlimits, hsize] at h; cases h
    | ok size =>
      cases htasks : (env.number "MAX_CONCURRENT_TASKS" 0).mapError SettingsError.invalid with
      | error e => rw [hlimits, hsize, htasks] at h; cases h
      | ok tasks =>
        rw [hlimits, hsize, htasks] at h
        cases h
        exact ⟨rfl, fun _ => rfl⟩

end Environment

namespace Settings

variable {presets : PresetLibrary} {env : Environment} {base : Settings} {document : String}

theorem ofEnvironment_eq (presets : PresetLibrary) (env : Environment) : ofEnvironment presets env = (do
    let target ← env.target
    let filter ← env.objectFilter.mapError .filter
    env.withSets target filter (← (env.ruleSets presets).mapError .rules)) := by
  rw [ofEnvironment, Environment.target]
  cases env.text? "DESTINATION_URI" with
  | none => rfl
  | some address =>
    simp only [pure_bind]
    cases ObjectUri.parse address with
    | error e => rfl
    | ok destination =>
      have hok {α : Type} (f : ObjectUri → Except SettingsError α) :
          ((Except.ok destination : Except UriError ObjectUri).mapError SettingsError.destination >>= f) =
            f destination := rfl
      simp only [hok]
      generalize destination.scheme = scheme
      -- the rest of the reading stands in every branch of the scheme
      by_cases hbucket : scheme = "s3"
      · subst hbucket
        rfl
      by_cases hplain : scheme = "http"
      · subst hplain
        cases (env.deliverySettings address).mapError SettingsError.invalid <;> rfl
      by_cases hsecure : scheme = "https"
      · subst hsecure
        cases (env.deliverySettings address).mapError SettingsError.invalid <;> rfl
      · simp only
        rfl

/-- **Settings with a rule document**: those without it, and the set that the document writes in front of the sets of
presets; if it writes none, that is the only fault. -/
theorem ofEnvironment_of_without (hdocument : env.text? "OVERRIDE_RULES" = some document)
    (h : ofEnvironment presets (env.without "OVERRIDE_RULES") = .ok base) :
    ∃ before after, base.sets = before ++ after ∧ env.entrySets = .ok before ∧ env.presetSets presets = .ok after ∧
      ofEnvironment presets env = ((RuleSet.ofYaml "override-rules" document).mapError .rules).map fun set =>
        { base with sets := before ++ set :: after } := by
  simp only [ofEnvironment_eq, Environment.target_without, Environment.objectFilter_without,
    Environment.withSets_without] at h ⊢
  cases htarget : env.target with
  | error e => rw [htarget] at h; cases h
  | ok target =>
    cases hfilter : env.objectFilter with
    | error e => rw [htarget, hfilter] at h; cases h
    | ok filter =>
      cases hsets : (env.without "OVERRIDE_RULES").ruleSets presets with
      | error e => rw [htarget, hfilter, hsets] at h; cases h
      | ok sets =>
        rw [htarget, hfilter, hsets] at h
        obtain ⟨rfl, hothers⟩ := Environment.withSets_of_withSets h
        obtain ⟨before, after, hsplit, hentries, hpresets, hruleSets⟩ :=
          Environment.ruleSets_of_without hdocument hsets
        refine ⟨before, after, hsplit, hentries, hpresets, ?_⟩
        rw [hruleSets]
        cases RuleSet.ofYaml "override-rules" document with
        | error e => rfl
        | ok set => exact hothers (before ++ set :: after)

end Settings

/-! ## White space around the document -/

theorem RuleSet.ofYaml_trimBlank (name : String) {document : String} (h : Yaml.isTidy document.toList = true) :
    ofYaml name (trimBlank document) = ofYaml name document := by
  rw [ofYaml, ofYaml, trimBlank_trimBlank]
  by_cases hblank : trimBlank document = ""
  · rw [hblank]
    rfl
  · have hne : trimBy isBlank document.toList ≠ [] := fun hnil => hblank (by rw [trimBlank, hnil])
    have hread : Yaml.read? (trimBlank document).toList = Yaml.read? document.toList := by
      rw [trimBlank, String.toList_ofList, Yaml.read?_trimBy h hne]
    rw [hread]

namespace Settings

variable {presets : PresetLibrary} {env : Environment} {base : Settings} {document : String}

/-- The settings with the set that a document writes between other sets. -/
def withDocument (base : Settings) (before after : RuleSets) (document : String) : Except SettingsError Settings :=
  ((RuleSet.ofYaml "override-rules" document).mapError .rules).map fun set =>
    { base with sets := before ++ set :: after }

/-- **Settings with a rule document** are those without it and the set that the trimmed document writes; that is the
set that the document writes, if it is tidy. -/
theorem ofEnvironment_withDocument (hdocument : env.lookup "OVERRIDE_RULES" = some document)
    (hblank : trimBlank document ≠ "") (h : ofEnvironment presets (env.without "OVERRIDE_RULES") = .ok base) :
    ∃ before after, base.sets = before ++ after ∧ env.entrySets = .ok before ∧ env.presetSets presets = .ok after ∧
      ofEnvironment presets env = base.withDocument before after (trimBlank document) ∧
      (Yaml.isTidy document.toList = true → ofEnvironment presets env = base.withDocument before after document) := by
  obtain ⟨before, after, hsets, hbefore, hafter, hsettings⟩ :=
    ofEnvironment_of_without (Environment.text?_of_lookup hdocument hblank) h
  refine ⟨before, after, hsets, hbefore, hafter, hsettings, fun htidy => ?_⟩
  rw [hsettings, withDocument, RuleSet.ofYaml_trimBlank _ htidy]

/-- Settings with a document and no presets. -/
def documentOnly (document : String) : Environment :=
  [("DESTINATION_URI", "s3://out"), ("PRESET_OVERRIDES", ","), ("OVERRIDE_RULES", document)]

/-- A tidy document, with blank lines and a comment around its rules. -/
def spacedDocument : String := "\n  \n# first\n- id: a\n  override: {key: x}\n\n- id: b\n  override:\n    key: y\n\n"

theorem ofEnvironment_withDocument_spaced : ∃ base before after,
    (documentOnly spacedDocument).lookup "OVERRIDE_RULES" = some spacedDocument ∧ trimBlank spacedDocument ≠ "" ∧
      ofEnvironment .builtin ((documentOnly spacedDocument).without "OVERRIDE_RULES") = .ok base ∧
      base.sets = before ++ after ∧ Yaml.isTidy spacedDocument.toList = true ∧
      ofEnvironment .builtin (documentOnly spacedDocument) = base.withDocument before after spacedDocument ∧
      (RuleSet.ofYaml "override-rules" spacedDocument).toOption.map (fun set => set.rules.map (·.id)) =
        some ["a", "b"] := by
  have hisOk : (ofEnvironment .builtin ((documentOnly spacedDocument).without "OVERRIDE_RULES")).isOk = true := by
    decide +kernel
  have hlookup : (documentOnly spacedDocument).lookup "OVERRIDE_RULES" = some spacedDocument := rfl
  have hblank : trimBlank spacedDocument ≠ "" := by decide +kernel
  have htidy : Yaml.isTidy spacedDocument.toList = true := by decide +kernel
  cases hbase : ofEnvironment .builtin ((documentOnly spacedDocument).without "OVERRIDE_RULES") with
  | error e => rw [hbase] at hisOk; cases hisOk
  | ok base =>
    obtain ⟨before, after, hsets, -, -, -, hsettings⟩ := ofEnvironment_withDocument hlookup hblank hbase
    exact ⟨base, before, after, hlookup, hblank, rfl, hsets, htidy, hsettings htidy, by decide +kernel⟩

/-- A document that indents all its lines. -/
def indentedDocument : String := "  - id: a\n    override: {key: x}\n  - id: b\n    override: {key: y}\n"

/-- The first line of an indented document loses its indentation among the settings, and the document is refused. -/
theorem ofEnvironment_withDocument_indented : trimBlank indentedDocument ≠ "" ∧
    (ofEnvironment .builtin ((documentOnly indentedDocument).without "OVERRIDE_RULES")).isOk = true ∧
      (RuleSet.ofYaml "override-rules" indentedDocument).isOk = true ∧
      (ofEnvironment .builtin (documentOnly indentedDocument)).isOk = false := by
  decide +kernel

end Settings
end ObjectRelay
