import ObjectRelay.Proofs.Rule.Course
import ObjectRelay.Proofs.Rule.Idempotence
/-!
# Rules that go on, applied to what they have written

Two kinds of sets leave their own output alone even where rules go on or sets stand behind one another.  In a steady
set no rule looks at a header field, so the same rule fires again and has nothing to change (`applyFrom_of_isSteady`).
In a fading set a rule is put to rest by what is written, so that none matches the output (`not_matches_of_isFading`).
Steady sets with a fading one behind them are idempotent (`RuleSets.apply_apply_of_isFading`).
-/
namespace ObjectRelay

namespace Rule

instance (r writer : Rule) : Decidable (r.LooksAt writer) := inferInstanceAs (Decidable (_ ∧ _ ∨ _ ∧ _))

instance (r writer : Rule) : Decidable (r.Admits writer) := inferInstanceAs (Decidable (_ ∧ _))

variable {r writer : Rule} {op op' changed : CopyOperation}

/-- A rule that does not match goes on so behind a writer whose writing it does not look at, or does not admit. -/
theorem not_matches_of_fire? (hfire : writer.fire? op = some changed) (hrefuses : r.LooksAt writer → ¬r.Admits writer)
    (h : ¬r.Matches op) : ¬r.Matches changed := by
  obtain ⟨found, -, -, rfl⟩ := fire?_eq_some.1 hfire
  rintro ⟨hsource, hfields⟩
  have hfalse : r.fieldsMatch op = false := Bool.eq_false_iff.2 fun hop => h ⟨hsource, hop⟩
  rw [fieldsMatch_overridden_eq_false found hrefuses hfalse] at hfields
  cases hfields

/-- A rule does not match what a writer leaves that writes something the rule does not admit. -/
theorem not_matches_of_not_admits (hfire : writer.fire? op = some changed) (h : ¬r.Admits writer) :
    ¬r.Matches changed := by
  obtain ⟨found, -, -, rfl⟩ := fire?_eq_some.1 hfire
  exact fun hmatches => h ((fieldsMatch_overridden found).1 hmatches.2).1

/-! ## Rules that look at the source alone -/

/-- Whether a rule looks at no header field. -/
def LooksAtSourceOnly (r : Rule) : Prop := r.condition.contentType = none ∧ r.condition.contentEncoding = none

theorem LooksAtSourceOnly.matches_iff (h : r.LooksAtSourceOnly) :
    r.Matches op ↔ (r.sourceMatch? op.copySource).isSome = true := by
  rw [Matches, fieldsMatch, h.1, h.2]
  exact and_iff_left rfl

theorem LooksAtSourceOnly.matches_congr (h : r.LooksAtSourceOnly) (hsource : op'.copySource = op.copySource) :
    r.Matches op' ↔ r.Matches op := by
  rw [h.matches_iff, h.matches_iff, hsource]

end Rule

namespace RuleSet

/-! ## Steady sets -/

/-- Whether all rules of a set look at the source alone, and none goes on. -/
def IsSteady (set : RuleSet) : Prop := ∀ r ∈ set.rules, r.LooksAtSourceOnly ∧ r.continues = false

/-- **The rules of a steady set do the same once more.** -/
theorem applyFrom_of_isSteady (name : String) : ∀ {rules : List Rule},
    (∀ r ∈ rules, r.LooksAtSourceOnly ∧ r.continues = false) → ∀ (i : Nat) (op : CopyOperation),
      applyFrom name i rules (applyFrom name i rules op).1 = applyFrom name i rules op
  | [], _, _, _ => rfl
  | r :: rest, h, i, op => by
    obtain ⟨⟨hsource, hstops⟩, hrest⟩ := List.forall_mem_cons.1 h
    cases hfire : r.fire? op with
    | none =>
      have hsame : applyFrom name i (r :: rest) op = applyFrom name (i + 1) rest op := by rw [applyFrom, hfire]
      have hstill : r.fire? (applyFrom name (i + 1) rest op).1 = none := by
        rw [Rule.fire?_eq_none_iff_not_matches] at hfire ⊢
        rwa [hsource.matches_congr (applyFrom_copySource name rest (i + 1) op)]
      rw [hsame, applyFrom, hstill]
      exact applyFrom_of_isSteady name hrest (i + 1) op
    | some changed =>
      have hfirst : applyFrom name i (r :: rest) op = (changed, [⟨name, r.effectiveId i⟩]) := by
        rw [applyFrom, hfire]
        simp only [hstops, Bool.false_eq_true, if_false]
      have hmatches : r.Matches changed :=
        (hsource.matches_congr (Rule.fire?_copySource hfire)).2 (Rule.isSome_fire?.1 (by rw [hfire]; rfl))
      obtain ⟨again, hagain⟩ := Option.isSome_iff_exists.1 (Rule.isSome_fire?.2 hmatches)
      obtain rfl := Rule.fire?_fire? hfire hagain
      rw [hfirst, applyFrom, hagain]
      simp only [hstops, Bool.false_eq_true, if_false]

/-! ## Fading sets -/

/-- Whether what a rule of the set writes puts to rest every rule that looks at it: the rule itself is one of those,
and so are all rules behind it where it stops. -/
structure IsFading (rules : List Rule) : Prop where
  itself : ∀ r ∈ rules, r.LooksAt r
  refuses : ∀ r ∈ rules, ∀ writer ∈ rules, r.LooksAt writer → ¬r.Admits writer
  behind : rules.Pairwise fun earlier later => earlier.continues = false → later.LooksAt earlier

theorem isFading_iff {rules : List Rule} : IsFading rules ↔ (∀ r ∈ rules, r.LooksAt r) ∧
    (∀ r ∈ rules, ∀ writer ∈ rules, r.LooksAt writer → ¬r.Admits writer) ∧
      rules.Pairwise fun earlier later => earlier.continues = false → later.LooksAt earlier :=
  ⟨fun h => ⟨h.itself, h.refuses, h.behind⟩, fun ⟨itself, refuses, behind⟩ => ⟨itself, refuses, behind⟩⟩

instance (rules : List Rule) : Decidable (IsFading rules) := decidable_of_iff' _ isFading_iff

theorem IsFading.tail {r : Rule} {rest : List Rule} (h : IsFading (r :: rest)) : IsFading rest where
  itself s hs := h.itself s (List.mem_cons_of_mem _ hs)
  refuses s hs writer hwriter := h.refuses s (List.mem_cons_of_mem _ hs) writer (List.mem_cons_of_mem _ hwriter)
  behind := (List.pairwise_cons.1 h.behind).2

/-- What rules write does not wake one that does not match and refuses all that they write. -/
theorem not_matches_applyFrom (name : String) {r : Rule} : ∀ {rules : List Rule},
    (∀ writer ∈ rules, r.LooksAt writer → ¬r.Admits writer) → ∀ (i : Nat) {op : CopyOperation}, ¬r.Matches op →
      ¬r.Matches (applyFrom name i rules op).1
  | [], _, _, _, hop => hop
  | writer :: rest, h, i, op, hop => by
    obtain ⟨hwriter, hrest⟩ := List.forall_mem_cons.1 h
    rw [applyFrom]
    cases hfire : writer.fire? op with
    | none => exact not_matches_applyFrom name hrest (i + 1) hop
    | some changed =>
      have hchanged := Rule.not_matches_of_fire? hfire hwriter hop
      cases writer.continues with
      | false => exact hchanged
      | true => exact not_matches_applyFrom name hrest (i + 1) hchanged

/-- **No rule of a fading set matches what the set has left.** -/
theorem not_matches_of_isFading (name : String) : ∀ {rules : List Rule}, IsFading rules →
    ∀ (i : Nat) (op : CopyOperation), ∀ r ∈ rules, ¬r.Matches (applyFrom name i rules op).1
  | [], _, _, _ => List.forall_mem_nil _
  | r :: rest, h, i, op => by
    have hrefuses : ∀ writer ∈ rest, r.LooksAt writer → ¬r.Admits writer := fun writer hwriter =>
      h.refuses r List.mem_cons_self writer (List.mem_cons_of_mem _ hwriter)
    have hself : ¬r.Admits r := h.refuses r List.mem_cons_self r List.mem_cons_self (h.itself r List.mem_cons_self)
    rw [applyFrom]
    cases hfire : r.fire? op with
    | none =>
      have hnot : ¬r.Matches op := Rule.fire?_eq_none_iff_not_matches.1 hfire
      exact List.forall_mem_cons.2
        ⟨not_matches_applyFrom name hrefuses (i + 1) hnot, not_matches_of_isFading name h.tail (i + 1) op⟩
    | some changed =>
      have hnot : ¬r.Matches changed := Rule.not_matches_of_not_admits hfire hself
      cases hcontinues : r.continues with
      | true =>
        exact List.forall_mem_cons.2
          ⟨not_matches_applyFrom name hrefuses (i + 1) hnot, not_matches_of_isFading name h.tail (i + 1) changed⟩
      | false =>
        refine List.forall_mem_cons.2 ⟨hnot, fun s hs => ?_⟩
        have hlooks : s.LooksAt r := (List.pairwise_cons.1 h.behind).1 s hs hcontinues
        have hrefused := h.refuses s (List.mem_cons_of_mem _ hs) r List.mem_cons_self hlooks
        exact Rule.not_matches_of_not_admits hfire hrefused

end RuleSet

namespace RuleSets

open RuleSet

variable {op : CopyOperation}

theorem apply_append_of_ne_nil : ∀ {before : RuleSets}, (apply before op).2 ≠ [] → ∀ after : RuleSets,
    apply (before ++ after) op = apply before op
  | [], h, _ => absurd rfl h
  | set :: before, h, after => by
    rw [List.cons_append]
    obtain ⟨fired, -, happly, -⟩ := set.exists_course_apply op
    rw [apply, happly] at h
    rw [apply, apply, happly]
    cases fired with
    | nil =>
      have hbefore : (apply before op).2 ≠ [] := h
      exact apply_append_of_ne_nil hbefore after
    | cons f fired => rfl

theorem apply_singleton (set : RuleSet) (op : CopyOperation) : apply [set] op = set.apply op := by
  obtain ⟨fired, -, happly, -⟩ := set.exists_course_apply op
  rw [apply, happly]
  cases fired with
  | nil => rfl
  | cons f fired => rfl

theorem apply_cons_of_not_matches {set : RuleSet} (h : ∀ r ∈ set.rules, ¬r.Matches op) (rest : RuleSets) :
    apply (set :: rest) op = apply rest op :=
  apply_append_of_not_matches (List.forall_mem_singleton.2 h) rest

/-- **Steady sets do the same once more.** -/
theorem apply_apply_of_isSteady (op : CopyOperation) : ∀ {sets : RuleSets}, (∀ set ∈ sets, set.IsSteady) →
    apply sets (apply sets op).1 = apply sets op
  | [], _ => rfl
  | set :: rest, h => by
    obtain ⟨hset, hrest⟩ := List.forall_mem_cons.1 h
    by_cases hfired : (apply [set] op).2 = []
    · have hnot := not_matches_of_apply hfired set List.mem_cons_self
      have hstill : ∀ r ∈ set.rules, ¬r.Matches (apply rest op).1 := fun r hr => by
        rw [(hset r hr).1.matches_congr (apply_copySource rest op)]
        exact hnot r hr
      rw [apply_cons_of_not_matches hnot, apply_cons_of_not_matches hstill]
      exact apply_apply_of_isSteady op hrest
    · have hfirst : apply (set :: rest) op = set.apply op :=
        (apply_append_of_ne_nil hfired rest).trans (apply_singleton set op)
      have hagain : set.apply (set.apply op).1 = set.apply op := applyFrom_of_isSteady set.name hset 0 op
      have hfiredAgain : (apply [set] (set.apply op).1).2 ≠ [] := by rwa [apply_singleton, hagain, ← apply_singleton]
      rw [hfirst, ← List.singleton_append, apply_append_of_ne_nil hfiredAgain, apply_singleton, hagain]

/-- **Steady sets with a fading one behind them are idempotent**: the second time the steady ones do the same, and the
fading one finds nothing to do. -/
theorem apply_apply_of_isFading {sets : RuleSets} {last : RuleSet} (hsets : ∀ set ∈ sets, set.IsSteady)
    (hlast : IsFading last.rules) (op : CopyOperation) :
    apply (sets ++ [last]) (apply (sets ++ [last]) op).1 = ((apply (sets ++ [last]) op).1, (apply sets op).2) := by
  by_cases hfired : (apply sets op).2 = []
  · have hnot := not_matches_of_apply hfired
    have hfirst : apply (sets ++ [last]) op = last.apply op :=
      (apply_append_of_not_matches hnot [last]).trans (apply_singleton last op)
    have hsource : (last.apply op).1.copySource = op.copySource := applyFrom_copySource last.name last.rules 0 op
    have hstill : ∀ set ∈ sets, ∀ r ∈ set.rules, ¬r.Matches (last.apply op).1 := fun set hset r hr => by
      rw [(hsets set hset r hr).1.matches_congr hsource]
      exact hnot set hset r hr
    have hrest : ∀ r ∈ last.rules, ¬r.Matches (last.apply op).1 := not_matches_of_isFading last.name hlast 0 op
    rw [hfirst, hfired, apply_append_of_not_matches hstill, apply_singleton, apply_of_not_matches hrest]
  · have hagain := apply_apply_of_isSteady op hsets
    have hfiredAgain : (apply sets (apply sets op).1).2 ≠ [] := by rwa [hagain]
    rw [apply_append_of_ne_nil hfired, apply_append_of_ne_nil hfiredAgain, hagain]

end RuleSets
end ObjectRelay
