import ObjectRelay.Proofs.Pattern.Language
import ObjectRelay.Proofs.Rule.Fire
import ObjectRelay.Proofs.Rule.Presets
/-!
# What is inferred from the name of a source

The rules that infer look for extensions at the end of a source.  Their patterns are read as expressions with the end of
the text behind them, so each says a few words, and matches the sources that end with one of them
(`accepts_ending_iff`).  Of a copy that carries no metadata the set makes what a table of extensions says
(`PresetLibrary.apply_inferred`).
-/
namespace ObjectRelay

open Pattern (Expr Look Regex)
open Pattern.Expr (ofText)

/-! ## Extensions -/

/-- Whether a source ends with one of the extensions. -/
def EndsWithOne (extensions : List String) (source : String) : Prop :=
  ∃ extension ∈ extensions, extension.toList <:+ source.toList

instance (extensions : List String) (source : String) : Decidable (EndsWithOne extensions source) :=
  inferInstanceAs (Decidable (∃ extension ∈ extensions, _))

/-- The extensions, and with `.gz` behind them. -/
def withGzip (extensions : List String) : List String :=
  extensions ++ extensions.map fun extension => extension ++ ".gz"

/-- Two extensions of one source are at its end, so one of them ends with the other. -/
theorem not_endsWithOne {extensions others : List String} {source : String}
    (h : ∀ e ∈ extensions, ∀ o ∈ others, ¬e.toList <:+ o.toList ∧ ¬o.toList <:+ e.toList)
    (hends : EndsWithOne extensions source) : ¬EndsWithOne others source := by
  rintro ⟨o, ho, hother⟩
  obtain ⟨e, he, hends⟩ := hends
  obtain ⟨hnot, hnot'⟩ := h e he o ho
  exact (List.suffix_or_suffix_of_suffix hends hother).elim hnot hnot'

namespace Pattern

/-- A pattern that is read as these expressions with the end of the text behind them. -/
def ending (text : String) (es : List Regex) : Pattern :=
  { text, expr := .ofList (es ++ [.look .textEnd]), names := [] }

/-- Whether expressions say nothing but these extensions. -/
structure SaysOnly (es : List Regex) (extensions : List String) : Prop where
  placeless : ∀ e ∈ es, e.IsPlaceless
  ordered : ∀ e ∈ es, e.IsOrdered
  says_iff : ∀ word, (Expr.ofList es).Says word ↔ ∃ extension ∈ extensions, word = extension.toList

theorem accepts_ending_iff {es : List Regex} {extensions : List String} (h : SaysOnly es extensions)
    (text source : String) : (ending text es).accepts source = true ↔ EndsWithOne extensions source := by
  rw [accepts, ending, Expr.occursIn_ending_iff h.placeless h.ordered]
  simp only [h.says_iff]
  constructor
  · rintro ⟨_, hends, extension, hmem, rfl⟩
    exact ⟨extension, hmem, hends⟩
  · rintro ⟨extension, hmem, hends⟩
    exact ⟨_, hends, extension, hmem, rfl⟩

theorem saysOnly_ofText (text : String) : SaysOnly (ofText text) [text] where
  placeless := Expr.forall_mem_ofText fun _ => trivial
  ordered := Expr.forall_mem_ofText fun _ => trivial
  says_iff word := by simp [Expr.says_ofText]

/-- An extension for compressed contents, which may be missing. -/
def optionalGzip (group : Nat) : Regex := .times (.group group (.ofList (ofText ".gz"))) 0 (some 1) true

theorem says_optionalGzip {group : Nat} {word : List Char} :
    (optionalGzip group).Says word ↔ word = [] ∨ word = ".gz".toList := by
  rw [optionalGzip, Expr.says_optional]
  exact or_congr_right Expr.says_ofText

theorem SaysOnly.append_optionalGzip {es : List Regex} {extensions : List String} (h : SaysOnly es extensions)
    (group : Nat) : SaysOnly (es ++ [optionalGzip group]) (withGzip extensions) where
  placeless := by
    refine List.forall_mem_append.2 ⟨h.placeless, List.forall_mem_singleton.2 ?_⟩
    exact Expr.isPlaceless_ofText ".gz"
  ordered := by
    refine List.forall_mem_append.2 ⟨h.ordered, List.forall_mem_singleton.2 ⟨?_, fun m _ => Nat.zero_le m⟩⟩
    exact Expr.isOrdered_ofText ".gz"
  says_iff word := by
    -- the extension is missing or there, behind what is said before
    simp only [Expr.says_ofList_append, h.says_iff, Expr.ofList, says_optionalGzip]
    constructor
    · rintro ⟨_, _, rfl, ⟨extension, hmem, rfl⟩, rfl | rfl⟩
      · exact ⟨extension, List.mem_append_left _ hmem, List.append_nil _⟩
      · exact ⟨_, List.mem_append_right _ (List.mem_map_of_mem hmem), (String.toList_append).symm⟩
    · rintro ⟨extension, hmem, rfl⟩
      obtain hmem | hmem := List.mem_append.1 hmem
      · exact ⟨_, [], (List.append_nil _).symm, ⟨extension, hmem, rfl⟩, .inl rfl⟩
      · obtain ⟨shorter, hshorter, rfl⟩ := List.mem_map.1 hmem
        exact ⟨_, _, String.toList_append, ⟨shorter, hshorter, rfl⟩, .inr rfl⟩

theorem isSome_match?_ending_iff {es : List Regex} {extensions : List String} (h : SaysOnly es extensions)
    (text source : String) : ((ending text es).match? source).isSome = true ↔ EndsWithOne extensions source := by
  rw [← accepts_ending_iff h text, match?, Option.isSome_map, accepts]
  exact Expr.isSome_find?_iff (Expr.isOrdered_ofList_ending h.ordered)

end Pattern

/-! ## The rules that infer -/

/-- A rule that looks for extensions and leaves the key alone fires where one is found, if its other patterns match. -/
theorem Rule.fire?_of_saysOnly {r : Rule} {text : String} {es : List Regex} {extensions : List String} {op : CopyOperation}
    (h : Pattern.SaysOnly es extensions) (hsource : r.condition.source = some (.ending text es))
    (hkey : r.override.key = none) (hfields : r.fieldsMatch op = true) :
    r.fire? op = if EndsWithOne extensions op.copySource then some (r.overridden none op) else none := by
  have hmatch := Pattern.isSome_match?_ending_iff h text op.copySource
  rw [fire?_eq, sourceMatch?, hsource]
  cases hfound : (Pattern.ending text es).match? op.copySource with
  | none =>
    have hends : ¬EndsWithOne extensions op.copySource := by
      rw [← hmatch, hfound]
      exact Bool.false_ne_true
    simp [hends, hfound]
  | some found =>
    have hends : EndsWithOne extensions op.copySource := hmatch.1 (by rw [hfound]; rfl)
    simp [hends, hfound, hfields, overridden, hkey]

namespace PresetLibrary

/-- The extensions of files that hold one value in each line. -/
def lineExtensions : List String := withGzip [".json", ".ndjson", ".jsonl"]

/-- The extensions of files that hold a table. -/
def tableExtensions : List String := withGzip [".csv"]

/-- What the pattern for lines says before `.gz`. -/
def lineExpressions : List Regex := [.one (.single '.'),
  .group 1 (.alt (.ofList (ofText "json")) (.alt (.ofList (ofText "ndjson")) (.ofList (ofText "jsonl"))))]

/-- The pattern for an absent encoding. -/
def blank : Pattern := { text := "^$", expr := .ofList [.look .textStart, .look .textEnd], names := [] }

/-- The pattern for the content types that say nothing. -/
def blankType : Pattern where
  text := untyped
  expr := .ofList [.look .textStart,
    .group 1 (.alt .empty (.alt (.ofList (ofText "binary/octet-stream")) (.ofList (ofText "application/octet-stream")))),
    .look .textEnd]
  names := []

def gzipRule : Rule where
  id := "gzip"
  condition := { source := some (.ending "\\.gz$" (ofText ".gz")), contentEncoding := some blank }
  override := { contentEncoding := some "gzip" }
  continues := true

def lineRule : Rule where
  id := "json"
  condition := { source := some (.ending "\\.(json|ndjson|jsonl)(\\.gz)?$" (lineExpressions ++ [Pattern.optionalGzip 2])),
                 contentType := some blankType }
  override := { contentType := some "application/x-ndjson" }

def tableRule : Rule where
  id := "csv"
  condition := { source := some (.ending "\\.csv(\\.gz)?$" (ofText ".csv" ++ [Pattern.optionalGzip 1])),
                 contentType := some blankType }
  override := { contentType := some "text/csv" }

/-- The rules of the set that infers. -/
def inferring : RuleSet where
  name := "infer/v1"
  rules := [gzipRule, lineRule, tableRule]

-- The patterns are read by evaluation, character by character.
set_option maxRecDepth 8000 in
theorem ofWritten_inferred : RuleSet.ofWritten "infer/v1" writtenInferred = .ok inferring := rfl

theorem load_inferring : builtin.load ["infer/v1"] = .ok [inferring] :=
  load_cons (by decide) (by decide) rfl
    (RuleSet.ofYaml_eq_ok (trimBlank_documentOf_comment _ _) ofDocument?_inferred ofWritten_inferred) rfl

theorem saysOnly_lineExpressions : Pattern.SaysOnly lineExpressions [".json", ".ndjson", ".jsonl"] where
  placeless := by simp [lineExpressions, Expr.IsPlaceless, Expr.isPlaceless_ofText]
  ordered := by simp [lineExpressions, Expr.IsOrdered, Expr.isOrdered_ofText]
  says_iff word := by
    simp only [lineExpressions, Expr.ofList, Expr.Says, Expr.says_ofText, Unicode.CharSet.has_single]
    simp [and_or_left, exists_or]

/-! ### What each rule does -/

variable {op : CopyOperation}

theorem fire?_gzipRule (h : op.contentEncoding = none) : gzipRule.fire? op =
    if EndsWithOne [".gz"] op.copySource then
      some { op with contentEncoding := some "gzip", metadataDirective := some .replace }
    else none := by
  have hblank : blank.accepts "" = true := by decide
  refine Rule.fire?_of_saysOnly (Pattern.saysOnly_ofText ".gz") rfl rfl ?_
  simp [Rule.fieldsMatch, Rule.fieldMatches, gzipRule, h, hblank]

theorem accepts_blankType : blankType.accepts "" = true := by decide

theorem fire?_lineRule (h : op.contentType = none) : lineRule.fire? op =
    if EndsWithOne lineExtensions op.copySource then
      some { op with contentType := some "application/x-ndjson", metadataDirective := some .replace }
    else none := by
  refine Rule.fire?_of_saysOnly (saysOnly_lineExpressions.append_optionalGzip 2) rfl rfl ?_
  simp [Rule.fieldsMatch, Rule.fieldMatches, lineRule, h, accepts_blankType]

theorem fire?_tableRule (h : op.contentType = none) : tableRule.fire? op =
    if EndsWithOne tableExtensions op.copySource then
      some { op with contentType := some "text/csv", metadataDirective := some .replace }
    else none := by
  refine Rule.fire?_of_saysOnly ((Pattern.saysOnly_ofText ".csv").append_optionalGzip 1) rfl rfl ?_
  simp [Rule.fieldsMatch, Rule.fieldMatches, tableRule, h, accepts_blankType]

/-! ### What the set does -/

/-- The content type that the extensions of a source tell. -/
def inferredType (source : String) : Option String :=
  if EndsWithOne lineExtensions source then some "application/x-ndjson"
  else if EndsWithOne tableExtensions source then some "text/csv"
  else none

theorem inferredType_eq_lines_iff {source : String} :
    inferredType source = some "application/x-ndjson" ↔ EndsWithOne lineExtensions source := by
  unfold inferredType
  split
  · simp [*]
  · split <;> simp [*]

theorem inferredType_eq_table_iff {source : String} :
    inferredType source = some "text/csv" ↔ EndsWithOne tableExtensions source := by
  unfold inferredType
  split
  · next hlines =>
    have hnot : ¬EndsWithOne tableExtensions source := not_endsWithOne (by decide) hlines
    simp [hnot]
  · split <;> simp [*]

theorem inferredType_eq_none_iff {source : String} : inferredType source = none ↔
    ¬(EndsWithOne lineExtensions source ∨ EndsWithOne tableExtensions source) := by
  unfold inferredType
  split
  · simp [*]
  · split <;> simp [*]

theorem applyFrom_typeRules_of_none (h : op.contentType = none) (htold : inferredType op.copySource = none)
    (name : String) (i : Nat) : RuleSet.applyFrom name i [lineRule, tableRule] op = (op, []) := by
  obtain ⟨hlines, htable⟩ := not_or.1 (inferredType_eq_none_iff.1 htold)
  simp only [RuleSet.applyFrom, fire?_lineRule h, fire?_tableRule h, if_neg hlines, if_neg htable]

/-- Of the rules for content types the one that fires is the last one that is tried. -/
theorem exists_applyFrom_typeRules_of_some (op : CopyOperation) (h : op.contentType = none) {type : String}
    (htold : inferredType op.copySource = some type) (name : String) (i : Nat) :
    ∃ firing, RuleSet.applyFrom name i [lineRule, tableRule] op =
      ({ op with contentType := some type, metadataDirective := some .replace }, [firing]) := by
  simp only [RuleSet.applyFrom, fire?_lineRule h, fire?_tableRule h]
  rw [inferredType] at htold
  split at htold
  · next hlines =>
    cases htold
    rw [if_pos hlines]
    exact ⟨_, rfl⟩
  · next hlines =>
    rw [if_neg hlines]
    split at htold
    · next htable =>
      cases htold
      simp only [if_pos htable]
      exact ⟨_, rfl⟩
    · cases htold

/-- What the set makes of a copy without metadata: what the extensions of its source tell. -/
theorem apply_inferring (htype : op.contentType = none) (hencoding : op.contentEncoding = none) :
    (inferring.apply op).1 = { op with
      contentType := inferredType op.copySource
      contentEncoding := if EndsWithOne [".gz"] op.copySource then some "gzip" else none
      metadataDirective := if (inferring.apply op).2 = [] then op.metadataDirective else some .replace } ∧
    ((inferring.apply op).2 ≠ [] ↔ EndsWithOne [".gz"] op.copySource ∨ inferredType op.copySource ≠ none) := by
  obtain ⟨bucket, copySource, key, _, _, directive⟩ := op
  obtain rfl : _ = none := htype
  obtain rfl : _ = none := hencoding
  rw [RuleSet.apply, inferring, RuleSet.applyFrom, fire?_gzipRule rfl]
  -- the rule for the encoding goes on, and the others do not look at what it has written
  by_cases hgz : EndsWithOne [".gz"] copySource
  · have hgoesOn : gzipRule.continues = true := rfl
    simp only [if_pos hgz, hgoesOn]
    cases htold : inferredType copySource with
    | none =>
      rw [applyFrom_typeRules_of_none rfl htold]
      simp [hgz]
    | some type =>
      obtain ⟨firing, hrest⟩ := exists_applyFrom_typeRules_of_some
        ⟨bucket, copySource, key, none, some "gzip", some .replace⟩ rfl htold "infer/v1" 1
      simp [hrest]
  · simp only [if_neg hgz]
    cases htold : inferredType copySource with
    | none =>
      rw [applyFrom_typeRules_of_none rfl htold]
      simp [hgz]
    | some type =>
      obtain ⟨firing, hrest⟩ := exists_applyFrom_typeRules_of_some
        ⟨bucket, copySource, key, none, none, directive⟩ rfl htold "infer/v1" 1
      simp [hrest]

/-- **The preset that infers is a table of extensions** for copies that carry no metadata: `.gz` tells the encoding, and
what stands in front of it or at the end the content type.  A rule fires for these extensions alone, and then the
metadata is replaced; what a copy is made of, and to which key, stays as it is. -/
theorem apply_inferred : ∃ types, builtin.load ["infer/v1"] = .ok [types] ∧
    ∀ op : CopyOperation, op.contentType = none → op.contentEncoding = none →
      ((types.apply op).1.contentEncoding = some "gzip" ↔ EndsWithOne [".gz"] op.copySource) ∧
      ((types.apply op).1.contentType = some "application/x-ndjson" ↔ EndsWithOne lineExtensions op.copySource) ∧
      ((types.apply op).1.contentType = some "text/csv" ↔ EndsWithOne tableExtensions op.copySource) ∧
      ((types.apply op).2 ≠ [] ∧ (types.apply op).1.metadataDirective = some .replace ↔
        EndsWithOne [".gz"] op.copySource ∨ EndsWithOne lineExtensions op.copySource ∨
          EndsWithOne tableExtensions op.copySource) ∧
      (¬(EndsWithOne [".gz"] op.copySource ∨ EndsWithOne lineExtensions op.copySource ∨
        EndsWithOne tableExtensions op.copySource) → types.apply op = (op, [])) ∧
      (types.apply op).1.key = op.key ∧ (types.apply op).1.bucket = op.bucket ∧
      (types.apply op).1.copySource = op.copySource := by
  refine ⟨inferring, load_inferring, fun op htype hencoding => ?_⟩
  obtain ⟨hresult, hfired⟩ := apply_inferring htype hencoding
  have htold : EndsWithOne [".gz"] op.copySource ∨ inferredType op.copySource ≠ none ↔ EndsWithOne [".gz"] op.copySource ∨
      EndsWithOne lineExtensions op.copySource ∨ EndsWithOne tableExtensions op.copySource := by
    rw [Ne, inferredType_eq_none_iff, Decidable.not_not]
  rw [htold] at hfired
  refine ⟨?_, ?_, ?_, ?_, ?_, ?_, ?_, ?_⟩
  · rw [hresult]
    simp
  · rw [hresult]
    exact inferredType_eq_lines_iff
  · rw [hresult]
    exact inferredType_eq_table_iff
  · rw [← hfired, hresult]
    exact and_iff_left_of_imp fun hne => if_neg hne
  · intro hnot
    have hnone : (inferring.apply op).2 = [] := Decidable.not_not.1 fun hne => hnot (hfired.1 hne)
    have hgz : ¬EndsWithOne [".gz"] op.copySource := fun hgz => hnot (.inl hgz)
    have htype' : inferredType op.copySource = none := inferredType_eq_none_iff.2 fun h => hnot (.inr h)
    refine Prod.ext ?_ hnone
    calc (inferring.apply op).1
      _ = { op with contentType := none, contentEncoding := none } := by
        rw [hresult, hnone, htype', if_neg hgz, if_pos rfl]
      _ = ⟨op.bucket, op.copySource, op.key, op.contentType, op.contentEncoding, op.metadataDirective⟩ := by
        rw [htype, hencoding]
  · rw [hresult]
  · rw [hresult]
  · rw [hresult]

/-- Extensions inside of a name tell nothing. -/
theorem apply_inferred_table : ∃ types, builtin.load ["infer/v1"] = .ok [types] ∧
    (types.apply { bucket := "out", copySource := "in/x.json.gz.csv", key := "x.csv" }).1.contentType = some "text/csv" ∧
    (types.apply { bucket := "out", copySource := "in/x.json.gz.csv", key := "x.csv" }).1.contentEncoding ≠ some "gzip" ∧
    (types.apply { bucket := "out", copySource := "in/x.json.gz.csv", key := "x.csv" }).2 ≠ [] := by
  obtain ⟨types, htypes, hall⟩ := apply_inferred
  obtain ⟨hencoding, -, htable, hfires, -⟩ := hall ⟨"out", "in/x.json.gz.csv", "x.csv", none, none, none⟩ rfl rfl
  exact ⟨types, htypes, htable.2 (by decide), mt hencoding.1 (by decide), (hfires.2 (.inr (.inr (by decide)))).1⟩

end PresetLibrary
end ObjectRelay
