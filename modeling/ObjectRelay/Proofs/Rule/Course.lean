import ObjectRelay.Rule.Written
import ObjectRelay.Proofs.Rule.Fire
import ObjectRelay.Proofs.Rule.Source
/-!
# The course of a copy through the rules

Which rules of a set fire on a copy, and what each of them is given (`RuleSet.Course`).  Every copy has such a course
through a set (`RuleSet.exists_course`), and what it comes to is what the last rule that writes a field has written
there (`FiredRule.rewritten`).  Of several sets only the first one that has a matching rule is looked at
(`RuleSets.apply_first`).
-/
namespace ObjectRelay

/-- The key that a rule writes into copies of a source, if it writes one: its template, filled in with what the source
pattern has captured. -/
def Rule.keyFor? (r : Rule) (copySource : String) : Option String :=
  r.override.key.map fun template => newKey template (r.sourceMatch? copySource).join

/-- A rule that has fired: where it stands in its set, and the copy that it has left. -/
structure FiredRule where
  position : Nat
  rule : Rule
  left : CopyOperation

namespace FiredRule

def firing (set : String) (f : FiredRule) : Firing := ⟨set, f.rule.effectiveId f.position⟩

/-- The copy behind rules that have fired. -/
def copyAfter (op : CopyOperation) (fired : List FiredRule) : CopyOperation := (fired.getLast?.map (·.left)).getD op

/-- The copy that a position is reached with, as the rules that have fired before it have left it. -/
def copyAt (op : CopyOperation) (fired : List FiredRule) (position : Nat) : CopyOperation :=
  copyAfter op (fired.filter (·.position < position))

/-- The last value that rules have written into a field, if any has. -/
def lastWritten {α : Type} (field : Rule → Option α) (fired : List FiredRule) : Option α :=
  (fired.filterMap fun f => field f.rule).getLast?

/-- A copy with what rules have written one after another: in each field, the last value counts. -/
def rewritten (op : CopyOperation) (fired : List FiredRule) : CopyOperation :=
  { op with
    key := (lastWritten (·.keyFor? op.copySource) fired).getD op.key
    contentType := (lastWritten (·.override.contentType) fired).or op.contentType
    contentEncoding := (lastWritten (·.override.contentEncoding) fired).or op.contentEncoding
    metadataDirective := some .replace }

theorem copyAfter_cons (op : CopyOperation) (f : FiredRule) (fired : List FiredRule) :
    copyAfter op (f :: fired) = copyAfter f.left fired := by
  rw [copyAfter, copyAfter, List.getLast?_cons]
  cases fired.getLast? <;> rfl

theorem copyAt_cons_of_lt (op : CopyOperation) {f : FiredRule} (fired : List FiredRule) {position : Nat}
    (h : f.position < position) : copyAt op (f :: fired) position = copyAt f.left fired position := by
  rw [copyAt, List.filter_cons_of_pos (by simpa using h), copyAfter_cons, copyAt]

/-- What no rule before a position has fired on is as it was. -/
theorem copyAt_of_forall_le (op : CopyOperation) {fired : List FiredRule} {position : Nat}
    (h : ∀ f ∈ fired, position ≤ f.position) : copyAt op fired position = op := by
  have hnone : fired.filter (·.position < position) = [] :=
    List.filter_eq_nil_iff.2 fun f hf => by simpa using h f hf
  rw [copyAt, hnone]
  rfl

theorem lastWritten_cons {α : Type} (field : Rule → Option α) (f : FiredRule) (fired : List FiredRule) :
    lastWritten field (f :: fired) = (lastWritten field fired).or (field f.rule) := by
  rw [lastWritten, lastWritten]
  cases hf : field f.rule with
  | none => rw [List.filterMap_cons_none (f := fun f : FiredRule => field f.rule) hf, Option.or_none]
  | some v =>
    rw [List.filterMap_cons_some (f := fun f : FiredRule => field f.rule) hf, List.getLast?_cons]
    cases (fired.filterMap fun f => field f.rule).getLast? <;> rfl

/-- What a rule leaves is what it has written, and the rest as it was. -/
theorem left_eq {op : CopyOperation} {f : FiredRule} (h : f.rule.fire? op = some f.left) :
    f.left = { op with
      key := (f.rule.keyFor? op.copySource).getD op.key
      contentType := f.rule.override.contentType.or op.contentType
      contentEncoding := f.rule.override.contentEncoding.or op.contentEncoding
      metadataDirective := some .replace } := by
  obtain ⟨found, hsource, -, hleft⟩ := Rule.fire?_eq_some.1 h
  rw [← hleft, Rule.overridden, Rule.keyFor?, hsource]
  cases f.rule.override.key <;> cases f.rule.override.contentType <;> cases f.rule.override.contentEncoding <;> rfl

/-- Rules that fire behind another one write over what it has written. -/
theorem rewritten_left {op : CopyOperation} {f : FiredRule} (h : f.rule.fire? op = some f.left)
    (fired : List FiredRule) : rewritten f.left fired = rewritten op (f :: fired) := by
  simp only [rewritten, lastWritten_cons, left_eq h, Option.getD_or, Option.or_assoc]

theorem rewritten_nil {op : CopyOperation} {f : FiredRule} (h : f.rule.fire? op = some f.left) :
    rewritten f.left [] = f.left := by
  rw [left_eq h]
  rfl

end FiredRule

open FiredRule

namespace RuleSet

/-- **The course of a copy through rules at their positions**: which of them fire. -/
structure Course (rules : List (Rule × Nat)) (op : CopyOperation) (fired : List FiredRule) : Prop where
  increasing : fired.Pairwise fun f g => f.position < g.position
  placed : ∀ f ∈ fired, (f.rule, f.position) ∈ rules
  /-- Each one fires on what those before it have left. -/
  fires : ∀ f ∈ fired, f.rule.fire? (copyAt op fired f.position) = some f.left
  /-- A rule that is passed over on the way to one that fires does not match what those before it have left. -/
  passed : ∀ p ∈ rules, (∀ f ∈ fired, f.position ≠ p.2) → (∃ f ∈ fired, p.2 < f.position) →
    ¬p.1.Matches (copyAt op fired p.2)
  /-- Only rules that go on are followed by others. -/
  continues : ∀ f ∈ fired, ∀ g ∈ fired, f.position < g.position → f.rule.continues = true
  /-- If all of them go on, none of those behind them matches. -/
  exhausted : (∀ f ∈ fired, f.rule.continues = true) → ∀ p ∈ rules, (∀ f ∈ fired, f.position < p.2) →
    ¬p.1.Matches (copyAfter op fired)

namespace Course

variable {rules : List (Rule × Nat)} {op changed : CopyOperation} {fired : List FiredRule} {r : Rule} {i : Nat}

theorem lt_position (h : Course rules op fired) (hlater : ∀ p ∈ rules, i < p.2) : ∀ f ∈ fired, i < f.position :=
  fun f hf => hlater _ (h.placed f hf)

/-- A rule that does not match is passed over. -/
theorem pass (h : Course rules op fired) (hlater : ∀ p ∈ rules, i < p.2) (hr : ¬r.Matches op) :
    Course ((r, i) :: rules) op fired := by
  have hpositions := h.lt_position hlater
  refine { h with placed := fun f hf => List.mem_cons_of_mem _ (h.placed f hf), passed := ?_, exhausted := ?_ }
  · intro p hp hno hsome
    rcases List.mem_cons.1 hp with rfl | hp
    · rwa [copyAt_of_forall_le op fun f hf => Nat.le_of_lt (hpositions f hf)]
    · exact h.passed p hp hno hsome
  · intro hall p hp hbefore
    rcases List.mem_cons.1 hp with rfl | hp
    · have hnone : fired = [] :=
        List.eq_nil_iff_forall_not_mem.2 fun f hf => Nat.lt_asymm (hbefore f hf) (hpositions f hf)
      rwa [hnone]
    · exact h.exhausted hall p hp hbefore

/-- A rule that fires and does not go on is the only one. -/
theorem stop (hlater : ∀ p ∈ rules, i < p.2) (hr : r.fire? op = some changed) (hstop : r.continues = false) :
    Course ((r, i) :: rules) op [⟨i, r, changed⟩] where
  increasing := List.pairwise_singleton _ _
  placed := by simp
  fires := by
    intro f hf
    obtain rfl := List.mem_singleton.1 hf
    rwa [copyAt_of_forall_le op fun g hg => Nat.le_of_eq (by rw [List.mem_singleton.1 hg])]
  passed := by
    rintro p hp - ⟨f, hf, hlt⟩
    obtain rfl := List.mem_singleton.1 hf
    rcases List.mem_cons.1 hp with rfl | hp
    · exact absurd hlt (Nat.lt_irrefl i)
    · exact absurd hlt (Nat.lt_asymm (hlater p hp))
  continues := by
    intro f hf g hg hlt
    rw [List.mem_singleton.1 hf, List.mem_singleton.1 hg] at hlt
    exact absurd hlt (Nat.lt_irrefl i)
  exhausted hall := by
    rw [hall _ List.mem_cons_self] at hstop
    cases hstop

/-- Behind a rule that fires and goes on, the others are given what it has left. -/
theorem goOn (h : Course rules changed fired) (hlater : ∀ p ∈ rules, i < p.2) (hr : r.fire? op = some changed)
    (hcontinues : r.continues = true) : Course ((r, i) :: rules) op (⟨i, r, changed⟩ :: fired) := by
  have hpositions := h.lt_position hlater
  have hfirst : copyAt op (⟨i, r, changed⟩ :: fired) i = op :=
    copyAt_of_forall_le op (List.forall_mem_cons.2 ⟨Nat.le_refl i, fun f hf => Nat.le_of_lt (hpositions f hf)⟩)
  -- positions behind the rule see it as the first one that has fired, and so begin with what it has left
  refine ⟨List.pairwise_cons.2 ⟨hpositions, h.increasing⟩, ?_, ?_, ?_, ?_, ?_⟩
  · exact List.forall_mem_cons.2 ⟨List.mem_cons_self, fun f hf => List.mem_cons_of_mem _ (h.placed f hf)⟩
  · refine List.forall_mem_cons.2 ⟨by rwa [hfirst], fun f hf => ?_⟩
    rw [copyAt_cons_of_lt op fired (hpositions f hf)]
    exact h.fires f hf
  · intro p hp hno hsome
    obtain ⟨hnot, hno⟩ := List.forall_mem_cons.1 hno
    rcases List.mem_cons.1 hp with rfl | hp
    · exact absurd rfl hnot
    · obtain ⟨f, hf, hlt⟩ := hsome
      rw [copyAt_cons_of_lt op fired (hlater p hp)]
      rcases List.mem_cons.1 hf with rfl | hf
      · exact absurd hlt (Nat.lt_asymm (hlater p hp))
      · exact h.passed p hp hno ⟨f, hf, hlt⟩
  · refine List.forall_mem_cons.2 ⟨fun _ _ _ => hcontinues, fun f hf g hg hlt => ?_⟩
    rcases List.mem_cons.1 hg with rfl | hg
    · exact absurd hlt (Nat.lt_asymm (hpositions f hf))
    · exact h.continues f hf g hg hlt
  · intro hall p hp hbefore
    obtain ⟨hlt, hbefore⟩ := List.forall_mem_cons.1 hbefore
    rcases List.mem_cons.1 hp with rfl | hp
    · exact absurd hlt (Nat.lt_irrefl i)
    · rw [copyAfter_cons]
      exact h.exhausted (fun f hf => hall f (List.mem_cons_of_mem _ hf)) p hp hbefore

/-- Nothing fires exactly when no rule matches the copy as it is given. -/
theorem eq_nil_iff (h : Course rules op fired) : fired = [] ↔ ∀ p ∈ rules, ¬p.1.Matches op := by
  refine ⟨fun hnone p hp => ?_, fun hnone => ?_⟩
  · subst hnone
    exact h.exhausted (List.forall_mem_nil _) p hp (List.forall_mem_nil _)
  · cases fired with
    | nil => rfl
    | cons f fired =>
      obtain ⟨hlater, -⟩ := List.pairwise_cons.1 h.increasing
      have hfirst := h.fires f List.mem_cons_self
      rw [copyAt_of_forall_le op (List.forall_mem_cons.2 ⟨Nat.le_refl _, fun g hg => Nat.le_of_lt (hlater g hg)⟩)]
        at hfirst
      have hmatches := Rule.isSome_fire?.1 (Option.isSome_iff_exists.2 ⟨_, hfirst⟩)
      exact absurd hmatches (hnone _ (h.placed f List.mem_cons_self))

end Course

theorem lt_of_mem_zipIdx_succ (rules : List Rule) (i : Nat) : ∀ p ∈ rules.zipIdx (i + 1), i < p.2 :=
  fun _ hp => List.le_snd_of_mem_zipIdx hp

/-- **Every copy takes a course through the rules**, and what it comes to is what they have written on it. -/
theorem exists_course (name : String) : ∀ (rules : List Rule) (i : Nat) (op : CopyOperation),
    ∃ fired, Course (rules.zipIdx i) op fired ∧
      applyFrom name i rules op = (copyAfter op fired, fired.map (firing name)) ∧
      (fired ≠ [] → copyAfter op fired = rewritten op fired)
  | [], i, op => ⟨[], by constructor <;> simp, rfl, fun h => absurd rfl h⟩
  | r :: rest, i, op => by
    have hlater := lt_of_mem_zipIdx_succ rest i
    rw [List.zipIdx_cons, applyFrom]
    cases hr : r.fire? op with
    | none =>
      obtain ⟨fired, hcourse, happly, hwritten⟩ := exists_course name rest (i + 1) op
      exact ⟨fired, hcourse.pass hlater (Rule.fire?_eq_none_iff_not_matches.1 hr), happly, hwritten⟩
    | some changed =>
      let first : FiredRule := ⟨i, r, changed⟩
      have hfirst : first.rule.fire? op = some first.left := hr
      cases hcontinues : r.continues with
      | false =>
        refine ⟨[first], .stop hlater hr hcontinues, rfl, fun _ => ?_⟩
        rw [← rewritten_left hfirst, rewritten_nil hfirst]
        rfl
      | true =>
        obtain ⟨fired, hcourse, happly, hwritten⟩ := exists_course name rest (i + 1) changed
        refine ⟨first :: fired, hcourse.goOn hlater hr hcontinues, ?_, fun _ => ?_⟩
        · simp only [happly, if_true, copyAfter_cons, List.map_cons]
          rfl
        · rw [copyAfter_cons, ← rewritten_left hfirst]
          cases fired with
          | nil => exact (rewritten_nil hfirst).symm
          | cons f fired => exact hwritten (List.cons_ne_nil _ _)

/-- What a set does to a copy: it takes a course through the rules, and nothing fires if none of them matches. -/
theorem exists_course_apply (set : RuleSet) (op : CopyOperation) : ∃ fired, Course set.rules.zipIdx op fired ∧
    set.apply op = (copyAfter op fired, fired.map (firing set.name)) ∧
    (fired ≠ [] → copyAfter op fired = rewritten op fired) ∧ (fired = [] ↔ ∀ r ∈ set.rules, ¬r.Matches op) := by
  obtain ⟨fired, hcourse, happly, hwritten⟩ := exists_course set.name set.rules 0 op
  refine ⟨fired, hcourse, happly, hwritten, hcourse.eq_nil_iff.trans ⟨fun h r hr => ?_, fun h p hp => ?_⟩⟩
  · rw [← List.zipIdx_map_fst 0 set.rules] at hr
    obtain ⟨p, hp, rfl⟩ := List.mem_map.1 hr
    exact h p hp
  · exact h p.1 (List.fst_mem_of_mem_zipIdx hp)

theorem apply_of_not_matches {set : RuleSet} {op : CopyOperation} (h : ∀ r ∈ set.rules, ¬r.Matches op) :
    set.apply op = (op, []) := by
  obtain ⟨fired, -, happly, -, hnone⟩ := set.exists_course_apply op
  rw [happly, hnone.2 h]
  rfl

end RuleSet

namespace RuleSets

open RuleSet

theorem apply_append_of_not_matches {op : CopyOperation} : ∀ {before : RuleSets},
    (∀ set ∈ before, ∀ r ∈ set.rules, ¬r.Matches op) → ∀ after : RuleSets, apply (before ++ after) op = apply after op
  | [], _, _ => rfl
  | set :: before, h, after => by
    obtain ⟨hset, hbefore⟩ := List.forall_mem_cons.1 h
    rw [List.cons_append, apply, apply_of_not_matches hset]
    exact apply_append_of_not_matches hbefore after

theorem not_matches_of_apply {op : CopyOperation} : ∀ {sets : RuleSets}, (apply sets op).2 = [] →
    ∀ set ∈ sets, ∀ r ∈ set.rules, ¬r.Matches op
  | [], _ => List.forall_mem_nil _
  | set :: rest, h => by
    obtain ⟨fired, -, happly, -, hnone⟩ := set.exists_course_apply op
    rw [apply, happly] at h
    cases fired with
    | nil => exact List.forall_mem_cons.2 ⟨hnone.1 rfl, not_matches_of_apply h⟩
    | cons f fired => cases h

/-- **What sets do to a copy.**  Nothing happens exactly when no rule of any set matches it as it is given.  Otherwise
the first set with a rule that does decides alone, whatever sets come behind it: some of its rules fire, the copy takes
its course through them, each field is what the last of them that writes it has written, or as it was, and the metadata
is to be replaced; the bucket and the source stay. -/
theorem apply_first (sets : RuleSets) (op : CopyOperation) :
    (sets.apply op = (op, []) ↔ ∀ set ∈ sets, ∀ r ∈ set.rules, ¬r.Matches op) ∧
    ∀ before set after, sets = before ++ set :: after → (∀ s ∈ before, ∀ r ∈ s.rules, ¬r.Matches op) →
      (∃ r ∈ set.rules, r.Matches op) →
      sets.apply op = set.apply op ∧ ∃ fired, fired ≠ [] ∧ Course set.rules.zipIdx op fired ∧
        set.apply op = ({ op with
          key := (lastWritten (·.keyFor? op.copySource) fired).getD op.key
          contentType := (lastWritten (·.override.contentType) fired).or op.contentType
          contentEncoding := (lastWritten (·.override.contentEncoding) fired).or op.contentEncoding
          metadataDirective := some .replace }, fired.map (firing set.name)) := by
  have hfirst : ∀ before set after, sets = before ++ set :: after → (∀ s ∈ before, ∀ r ∈ s.rules, ¬r.Matches op) →
      (∃ r ∈ set.rules, r.Matches op) → sets.apply op = set.apply op ∧ ∃ fired, fired ≠ [] ∧
        Course set.rules.zipIdx op fired ∧ set.apply op = (rewritten op fired, fired.map (firing set.name)) := by
    rintro before set after rfl hbefore ⟨r, hr, hmatches⟩
    obtain ⟨fired, hcourse, happly, hwritten, hnone⟩ := set.exists_course_apply op
    have hsome : fired ≠ [] := fun h => hnone.1 h r hr hmatches
    rw [hwritten hsome] at happly
    refine ⟨?_, fired, hsome, hcourse, happly⟩
    obtain ⟨f, rest, rfl⟩ := List.exists_cons_of_ne_nil hsome
    rw [apply_append_of_not_matches hbefore, apply, happly]
    rfl
  refine ⟨⟨fun h => not_matches_of_apply (by rw [h]), fun h => ?_⟩, hfirst⟩
  rw [← List.append_nil sets, apply_append_of_not_matches h]
  rfl

def droppingLogs : List WrittenRule := [{ source := some "\\.log$", override := { key := some "" } }]

/-- Rules of which the first one names the encoding and goes on, and the last one the type and the key. -/
def naming : List WrittenRule := [
  { source := some "\\.gz$", contentEncoding := some "^$", override := { contentEncoding := some "gzip" },
    continues := true },
  { contentEncoding := some "^$", override := { contentType := some "text/plain" } },
  { source := some "/(.*)\\.json", override := { contentType := some "application/json", key := some "json/$1" } }]

def packed : CopyOperation := { bucket := "out", copySource := "in/a.json.gz", key := "a.json.gz" }

/-- The copy as the first and the last rule of `naming` leave it. -/
def named : CopyOperation :=
  { packed with
    key := "json/a", contentType := some "application/json", contentEncoding := some "gzip"
    metadataDirective := some .replace }

theorem apply_first_naming : ∃ logs names, RuleSet.compileFrom (rulePath "logs") 0 droppingLogs = .ok logs ∧
    RuleSet.compileFrom (rulePath "names") 0 naming = .ok names ∧ (∀ r ∈ logs, ¬r.Matches packed) ∧
    (∃ r ∈ names, r.Matches packed) ∧ ∃ fired, fired ≠ [] ∧ Course names.zipIdx packed fired ∧
      RuleSets.apply [⟨"logs", logs⟩, ⟨"names", names⟩, ⟨"logs", logs⟩] packed =
        (named, [⟨"names", "0"⟩, ⟨"names", "2"⟩]) := by
  obtain ⟨logs, hlogs⟩ : ∃ logs, compileFrom (rulePath "logs") 0 droppingLogs = .ok logs := ⟨_, rfl⟩
  obtain ⟨names, hnames⟩ : ∃ names, compileFrom (rulePath "names") 0 naming = .ok names := ⟨_, rfl⟩
  have hno : ∀ r ∈ logs, ¬r.Matches packed := by
    have h : ∀ rules ∈ (compileFrom (rulePath "logs") 0 droppingLogs).toOption, ∀ r ∈ rules, ¬r.Matches packed := by
      decide
    exact h logs (by rw [hlogs]; rfl)
  have h : ∀ rules ∈ (compileFrom (rulePath "names") 0 naming).toOption, (∃ r ∈ rules, r.Matches packed) ∧
      RuleSet.apply ⟨"names", rules⟩ packed = (named, [⟨"names", "0"⟩, ⟨"names", "2"⟩]) := by decide
  obtain ⟨hyes, happly⟩ := h names (by rw [hnames]; rfl)
  obtain ⟨-, hfirst⟩ := apply_first [⟨"logs", logs⟩, ⟨"names", names⟩, ⟨"logs", logs⟩] packed
  obtain ⟨hset, fired, hsome, hcourse, -⟩ :=
    hfirst [⟨"logs", logs⟩] ⟨"names", names⟩ [⟨"logs", logs⟩] rfl (by simpa using hno) hyes
  exact ⟨logs, names, hlogs, hnames, hno, hyes, fired, hsome, hcourse, hset.trans happly⟩

end RuleSets
end ObjectRelay
