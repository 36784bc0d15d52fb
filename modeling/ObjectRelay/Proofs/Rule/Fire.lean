import ObjectRelay.Rule.Set
/-!
# When a rule fires

A rule fires on a copy exactly when all its patterns match (`Rule.isSome_fire?`).  What it then makes of the copy
depends on the match of its source pattern alone (`Rule.fire?_eq_some`).
-/
namespace ObjectRelay
namespace Rule

/-- The match of the source pattern, if there is a pattern; `none` when it does not match. -/
def sourceMatch? (r : Rule) (copySource : String) : Option (Option Match) :=
  match r.condition.source with
  | none => some none
  | some p => (p.match? copySource).map some

/-- Whether the patterns for header fields match. -/
def fieldsMatch (r : Rule) (op : CopyOperation) : Bool :=
  fieldMatches r.condition.contentType op.contentType && fieldMatches r.condition.contentEncoding op.contentEncoding

/-- **Whether a rule matches a copy**: each of its patterns does. -/
def Matches (r : Rule) (op : CopyOperation) : Prop :=
  (r.sourceMatch? op.copySource).isSome = true ∧ r.fieldsMatch op = true

instance (r : Rule) (op : CopyOperation) : Decidable (r.Matches op) := inferInstanceAs (Decidable (_ ∧ _))

theorem fire?_eq (r : Rule) (op : CopyOperation) : r.fire? op =
    (r.sourceMatch? op.copySource).bind fun found => if r.fieldsMatch op then some (r.overridden found op) else none := by
  unfold fire? sourceMatch? fieldsMatch
  cases r.condition.source with
  | none => rfl
  | some p => cases hmatch : p.match? op.copySource <;> simp [hmatch]

theorem fire?_eq_some {r : Rule} {op changed : CopyOperation} : r.fire? op = some changed ↔
    ∃ found, r.sourceMatch? op.copySource = some found ∧ r.fieldsMatch op = true ∧ r.overridden found op = changed := by
  rw [fire?_eq, Option.bind_eq_some_iff]
  refine exists_congr fun found => and_congr_right fun _ => ?_
  by_cases h : r.fieldsMatch op = true
  · simp [h]
  · simp [h]

theorem fire?_eq_none {r : Rule} {op : CopyOperation} : r.fire? op = none ↔
    r.sourceMatch? op.copySource = none ∨ r.fieldsMatch op = false := by
  rw [fire?_eq]
  cases r.sourceMatch? op.copySource with
  | none => simp
  | some found => simp

/-- **A rule fires exactly when it matches.** -/
theorem isSome_fire? {r : Rule} {op : CopyOperation} : (r.fire? op).isSome = true ↔ r.Matches op := by
  rw [fire?_eq, Matches]
  cases r.sourceMatch? op.copySource with
  | none => simp
  | some found => cases r.fieldsMatch op <;> simp

theorem fire?_eq_none_iff_not_matches {r : Rule} {op : CopyOperation} : r.fire? op = none ↔ ¬r.Matches op := by
  rw [← isSome_fire?, Bool.not_eq_true, Option.isSome_eq_false_iff, Option.isNone_iff_eq_none]

end Rule
end ObjectRelay
