import ObjectRelay.Rule.Written
import ObjectRelay.Proofs.Rule.Fire
/-!
# Applying rules to what they have written

A rule that fires on its own output writes the same once more (`Rule.fire?_fire?`).  A set in which no rule
goes on may still make something else of its output: a rule writes a header field that rules look at, so an
earlier one may fire the second time, or the rule itself no longer fires and a later one does.  Nothing of the
kind happens in a set that `IsSettled` (`RuleSet.apply_apply`).
-/
namespace ObjectRelay

namespace Rule

/-- What a rule writes, it writes once. -/
theorem overridden_overridden (r : Rule) (found : Option Match) (op : CopyOperation) :
    r.overridden found (r.overridden found op) = r.overridden found op := by
  unfold overridden
  cases r.override.key <;> cases r.override.contentType <;> cases r.override.contentEncoding <;> rfl

/-- **A rule that fires on its own output changes nothing.** -/
theorem fire?_fire? {r : Rule} {op changed again : CopyOperation} (h : r.fire? op = some changed)
    (hagain : r.fire? changed = some again) : again = changed := by
  obtain ⟨found, hsource, -, rfl⟩ := fire?_eq_some.1 h
  obtain ⟨found', hsource', -, rfl⟩ := fire?_eq_some.1 hagain
  obtain rfl : found = found' := Option.some.inj (hsource.symm.trans hsource')
  exact overridden_overridden r found op

/-! ## Rules that look at what others write -/

/-- Whether a rule has a pattern for a header field that `writer` writes. -/
def LooksAt (r writer : Rule) : Prop :=
  r.condition.contentType.isSome ∧ writer.override.contentType.isSome ∨
    r.condition.contentEncoding.isSome ∧ writer.override.contentEncoding.isSome

/-- Whether the patterns of a rule match the header fields that `writer` writes. -/
def Admits (r writer : Rule) : Prop :=
  (∀ v, writer.override.contentType = some v → fieldMatches r.condition.contentType (some v) = true) ∧
    ∀ v, writer.override.contentEncoding = some v → fieldMatches r.condition.contentEncoding (some v) = true

theorem fieldMatches_orElse (p : Option Pattern) (written field : Option String) :
    fieldMatches p (written <|> field) = true ↔
      (∀ v, written = some v → fieldMatches p (some v) = true) ∧ (written = none → fieldMatches p field = true) := by
  cases written with
  | none => simp
  | some v => simp

section Written

variable {r writer : Rule} (found : Option Match) {op : CopyOperation}

theorem fieldsMatch_overridden : r.fieldsMatch (writer.overridden found op) = true ↔ r.Admits writer ∧
    (writer.override.contentType = none → fieldMatches r.condition.contentType op.contentType = true) ∧
    (writer.override.contentEncoding = none → fieldMatches r.condition.contentEncoding op.contentEncoding = true) := by
  rw [fieldsMatch, Bool.and_eq_true, overridden, fieldMatches_orElse, fieldMatches_orElse, Admits]
  exact and_and_and_comm

theorem fieldsMatch_overridden_of_admits (h : r.Admits writer) (hop : r.fieldsMatch op = true) :
    r.fieldsMatch (writer.overridden found op) = true := by
  obtain ⟨htype, hencoding⟩ := Bool.and_eq_true_iff.1 hop
  exact (fieldsMatch_overridden found).2 ⟨h, fun _ => htype, fun _ => hencoding⟩

/-- A rule that did not match does not match either when what has been written is not for it to look at, or
not what it looks for. -/
theorem fieldsMatch_overridden_eq_false (h : r.LooksAt writer → ¬r.Admits writer) (hop : r.fieldsMatch op = false) :
    r.fieldsMatch (writer.overridden found op) = false := by
  refine Bool.eq_false_iff.2 fun hmatch => ?_
  obtain ⟨hadmits, htype, hencoding⟩ := (fieldsMatch_overridden found).1 hmatch
  have hlooks : ¬r.LooksAt writer := fun hlooks => h hlooks hadmits
  have hpatterns : ∀ (p : Option Pattern) (written field : Option String), ¬(p.isSome ∧ written.isSome) →
      (written = none → fieldMatches p field = true) → fieldMatches p field = true := by
    intro p written field hnot hnone
    cases p with
    | none => rfl
    | some p =>
      cases written with
      | none => exact hnone rfl
      | some v => exact absurd ⟨rfl, rfl⟩ hnot
  have hall : r.fieldsMatch op = true := Bool.and_eq_true_iff.2
    ⟨hpatterns _ _ _ (fun hboth => hlooks (.inl hboth)) htype, hpatterns _ _ _ (fun hboth => hlooks (.inr hboth)) hencoding⟩
  rw [hall] at hop
  cases hop

end Written

end Rule

namespace RuleSet

/-- Whether every rule but the last one matches what it writes itself, and what a rule writes is for none of
those before it to look at, or not what that one looks for. -/
def IsSettled (set : RuleSet) : Prop :=
  set.rules.Pairwise fun earlier later =>
    earlier.Admits earlier ∧ (earlier.LooksAt later → ¬earlier.Admits later)

/-- When no rule goes on, the first one that fires is the only one. -/
theorem applyFrom_eq_findSome? (name : String) : ∀ {rules : List Rule}, (∀ r ∈ rules, r.continues = false) →
    ∀ (i : Nat) (op : CopyOperation), (applyFrom name i rules op).1 = (rules.findSome? (·.fire? op)).getD op
  | [], _, _, _ => rfl
  | r :: rest, h, i, op => by
    rw [applyFrom, List.findSome?_cons]
    cases hfire : r.fire? op with
    | none => exact applyFrom_eq_findSome? name (fun r hr => h r (List.mem_cons_of_mem _ hr)) (i + 1) op
    | some changed =>
      dsimp only
      rw [h r List.mem_cons_self]
      rfl

theorem findSome?_of_isSettled {set : RuleSet} (hsettled : set.IsSettled) {op changed again : CopyOperation}
    (hfirst : set.rules.findSome? (·.fire? op) = some changed)
    (hagain : set.rules.findSome? (·.fire? changed) = some again) : again = changed := by
  obtain ⟨before, r, after, hrules, hr, hbefore⟩ := List.findSome?_eq_some_iff.1 hfirst
  obtain ⟨found, hsource, hfields, hchanged⟩ := Rule.fire?_eq_some.1 hr
  rw [IsSettled, hrules, List.pairwise_append, List.pairwise_cons] at hsettled
  obtain ⟨-, ⟨hafter, -⟩, hpairs⟩ := hsettled
  have hstill : ∀ s ∈ before, s.fire? changed = none := by
    intro s hs
    rw [← hchanged, Rule.fire?_eq_none]
    rcases Rule.fire?_eq_none.1 (hbefore s hs) with hnone | hfalse
    · exact .inl hnone
    · exact .inr (Rule.fieldsMatch_overridden_eq_false found (hpairs s hs r List.mem_cons_self).2 hfalse)
  rw [hrules, List.findSome?_append, List.findSome?_eq_none_iff.2 hstill, Option.none_or, List.findSome?_cons] at hagain
  cases hself : r.fire? changed with
  | some same =>
    rw [hself] at hagain
    cases hagain
    exact Rule.fire?_fire? hr hself
  | none =>
    rw [hself] at hagain
    cases after with
    | nil => cases hagain
    | cons next rest =>
      -- a rule that is not the last one matches what it has written
      have hmatch := Rule.fieldsMatch_overridden_of_admits found (hafter next List.mem_cons_self).1 hfields
      rw [hchanged] at hmatch
      rcases Rule.fire?_eq_none.1 hself with hnone | hfalse
      · rw [← hchanged] at hnone
        cases hsource.symm.trans hnone
      · cases hmatch.symm.trans hfalse

/-- **When a set is idempotent**, given that none of its rules goes on: at a copy, when the first rule that
fires on the output, if any does, finds nothing to change; at every copy, when the set is settled. -/
theorem apply_apply {set : RuleSet} (h : ∀ r ∈ set.rules, r.continues = false) :
    (∀ op, (set.apply (set.apply op).1).1 = (set.apply op).1 ↔
      ∀ again, set.rules.findSome? (·.fire? (set.apply op).1) = some again → again = (set.apply op).1) ∧
    (set.IsSettled → ∀ op, (set.apply (set.apply op).1).1 = (set.apply op).1) := by
  have hself : ∀ op, (set.apply op).1 = op ↔
      ∀ again, set.rules.findSome? (·.fire? op) = some again → again = op := by
    intro op
    rw [apply, applyFrom_eq_findSome? set.name h]
    cases set.rules.findSome? (·.fire? op) <;> simp
  refine ⟨fun op => hself _, fun hsettled op => (hself _).2 fun again hagain => ?_⟩
  rw [apply, applyFrom_eq_findSome? set.name h] at hagain ⊢
  cases hfirst : set.rules.findSome? (·.fire? op) with
  | none =>
    rw [hfirst, Option.getD_none, hfirst] at hagain
    cases hagain
  | some changed =>
    rw [hfirst, Option.getD_some] at hagain
    exact findSome?_of_isSettled hsettled hfirst hagain

/-- Rules that leave digests where they are and name a type where there is none. -/
def dropping : List WrittenRule := [
  { source := some "/Digest/", override := { key := some "" } },
  { contentType := some "^$", override := { contentType := some "application/json" } }]

theorem apply_apply_dropping : ∃ rules set, compileFrom (rulePath "drop") 0 dropping = .ok rules ∧
    ofRules "drop" rules = .ok set ∧ (∀ r ∈ set.rules, r.continues = false) ∧ set.IsSettled ∧
    ∀ op, (set.apply (set.apply op).1).1 = (set.apply op).1 := by
  refine ⟨_, _, rfl, rfl, by simp, ?settled, (apply_apply (by simp)).2 ?settled⟩
  -- the first rule writes a key only, and the second one is the last
  simp [IsSettled, Rule.Admits, Rule.LooksAt, Rule.fieldMatches]

/-- Rules that fill in what a copy does not say about itself. -/
def inferring : List WrittenRule := [
  { source := some "\\.gz$", contentEncoding := some "^$", override := { contentEncoding := some "gzip" } },
  { source := some "\\.json(\\.gz)?$", contentType := some "^$", override := { contentType := some "application/json" } }]

def compressed : CopyOperation := { bucket := "out", copySource := "in/a.json.gz", key := "a.json.gz" }

/-- What the first rule has filled in keeps it from firing again, and then it is the second one's turn. -/
theorem apply_apply_inferring : ∃ rules set, compileFrom (rulePath "infer") 0 inferring = .ok rules ∧
    ofRules "infer" rules = .ok set ∧ (∀ r ∈ set.rules, r.continues = false) ∧
    (set.apply compressed).1 = { compressed with contentEncoding := some "gzip", metadataDirective := some .replace } ∧
    (set.apply (set.apply compressed).1).1 ≠ (set.apply compressed).1 := by
  refine ⟨_, _, rfl, rfl, ?_, ?_, ?_⟩
  · decide
  · decide
  · decide

end RuleSet

end ObjectRelay
