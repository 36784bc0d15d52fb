import ObjectRelay.Proofs.Rule.Fire
/-!
# What rules leave alone

Rules write metadata and keys; where a copy comes from and which bucket it goes to is no concern of theirs.  A field that
no rule overrides stays what it was, however many rules of a set fire (`applyFrom_kept`) and whichever set decides
(`apply_kept`).
-/
namespace ObjectRelay

/-- Whether no rule overrides a field of a copy. -/
def Rule.Keeps {α : Type} (field : CopyOperation → α) : Prop :=
  ∀ (r : Rule) (found : Option Match) (op : CopyOperation), field (r.overridden found op) = field op

section Kept

variable {α : Type} {field : CopyOperation → α} (hkept : Rule.Keeps field)
include hkept

theorem Rule.fire?_kept {r : Rule} {op changed : CopyOperation} (h : r.fire? op = some changed) :
    field changed = field op := by
  obtain ⟨found, -, -, rfl⟩ := Rule.fire?_eq_some.1 h
  exact hkept r found op

theorem RuleSet.applyFrom_kept (name : String) : ∀ (rules : List Rule) (i : Nat) (op : CopyOperation),
    field (applyFrom name i rules op).1 = field op
  | [], _, _ => rfl
  | r :: rest, i, op => by
    rw [applyFrom]
    split
    · exact applyFrom_kept name rest (i + 1) op
    · rename_i changed h
      split
      · exact (applyFrom_kept name rest (i + 1) changed).trans (Rule.fire?_kept hkept h)
      · exact Rule.fire?_kept hkept h

theorem RuleSets.apply_kept : ∀ (sets : RuleSets) (op : CopyOperation), field (apply sets op).1 = field op
  | [], _ => rfl
  | set :: rest, op => by
    rw [apply]
    split
    · exact apply_kept rest op
    · exact RuleSet.applyFrom_kept hkept set.name set.rules 0 op

end Kept

theorem Rule.keeps_copySource : Keeps CopyOperation.copySource := fun _ _ _ => rfl

theorem Rule.keeps_bucket : Keeps CopyOperation.bucket := fun _ _ _ => rfl

theorem Rule.fire?_copySource {r : Rule} {op changed : CopyOperation} (h : r.fire? op = some changed) :
    changed.copySource = op.copySource := fire?_kept keeps_copySource h

theorem RuleSet.applyFrom_copySource (name : String) (rules : List Rule) (i : Nat) (op : CopyOperation) :
    (applyFrom name i rules op).1.copySource = op.copySource := applyFrom_kept Rule.keeps_copySource name rules i op

theorem RuleSets.apply_copySource (sets : RuleSets) (op : CopyOperation) :
    (apply sets op).1.copySource = op.copySource := apply_kept Rule.keeps_copySource sets op

theorem RuleSets.apply_bucket (sets : RuleSets) (op : CopyOperation) :
    (apply sets op).1.bucket = op.bucket := apply_kept Rule.keeps_bucket sets op

end ObjectRelay
