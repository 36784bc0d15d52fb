import ObjectRelay.Rule.Set
import ObjectRelay.Proofs.Number.Decimal
import ObjectRelay.Proofs.Object.Address
/-!
# Which rules make up a set

`FaultAt` says what is wrong with the rule at a position, given those before it; there is at most one such fault, and
none exactly if the rule `Passes`.  Rules are checked one after another, so a list that is refused is refused for the
first of its faults (`RuleSet.validateFrom_cases`).  The check of ids goes by effective ids, of which some are written
and some are positions.  A written id begins with a letter and a position with a digit, so effective ids are the same
only where written ones are (`Rule.effectiveId_eq_iff`), and the log tells the rules of a set apart
(`RuleSet.ofRules_validated`).
-/
namespace ObjectRelay

/-! ## Ids -/

def IsLetter (c : Char) : Prop := 'a' ≤ c ∧ c ≤ 'z' ∨ 'A' ≤ c ∧ c ≤ 'Z'

def IsDigit (c : Char) : Prop := '0' ≤ c ∧ c ≤ '9'

/-- **Whether a text can stand as the id of a rule**: it is empty, or a letter and then letters, digits and slashes. -/
def IsRuleId (id : String) : Prop :=
  id = "" ∨ ∃ first rest, id.toList = first :: rest ∧ IsLetter first ∧ ∀ c ∈ rest, IsLetter c ∨ IsDigit c ∨ c = '/'

theorem isAlpha_iff {c : Char} : c.isAlpha = true ↔ IsLetter c := by
  have hcases : c.isAlpha = (decide ('A' ≤ c ∧ c ≤ 'Z') || decide ('a' ≤ c) && decide (c ≤ 'z')) := rfl
  rw [hcases, IsLetter]
  simp only [Bool.or_eq_true, Bool.and_eq_true, decide_eq_true_eq]
  exact or_comm

theorem isDigit_iff {c : Char} : c.isDigit = true ↔ IsDigit c := by
  simp only [Char.isDigit, Bool.and_eq_true, decide_eq_true_eq, IsDigit]
  exact Iff.rfl

theorem IsLetter.not_isDigit {c : Char} (h : IsLetter c) : ¬IsDigit c := by
  rintro ⟨-, hle⟩
  rcases h with ⟨hlow, -⟩ | ⟨hlow, -⟩
  · exact absurd (Char.le_trans hlow hle) (by decide)
  · exact absurd (Char.le_trans hlow hle) (by decide)

namespace Rule

theorem isValidId_iff {id : String} : isValidId id = true ↔ IsRuleId id := by
  rw [isValidId, IsRuleId, ← String.toList_eq_nil_iff]
  cases id.toList with
  | nil => simp
  | cons first rest =>
    have hchars : (first.isAlpha && rest.all fun c => c.isAlphanum || c == '/') = true ↔
        IsLetter first ∧ ∀ c ∈ rest, IsLetter c ∨ IsDigit c ∨ c = '/' := by
      simp [Char.isAlphanum, isAlpha_iff, isDigit_iff, or_assoc]
    refine hchars.trans ⟨fun h => .inr ⟨first, rest, rfl, h⟩, ?_⟩
    rintro (hnil | ⟨_, _, heq, h⟩)
    · cases hnil
    · cases heq
      exact h

/-- Whether a rule writes anything. -/
def Overrides (r : Rule) : Prop :=
  r.override.contentType ≠ none ∨ r.override.contentEncoding ≠ none ∨ r.override.key ≠ none

theorem isEmpty_override_iff {r : Rule} : r.override.isEmpty = true ↔ ¬r.Overrides := by
  simp [Override.isEmpty, Overrides, and_assoc]

variable {r s : Rule} {i j : Nat}

theorem effectiveId_of_eq_empty (h : r.id = "") (i : Nat) : r.effectiveId i = toString i := by
  rw [effectiveId, h]
  rfl

theorem effectiveId_of_ne_empty (h : r.id ≠ "") (i : Nat) : r.effectiveId i = r.id := by
  rw [effectiveId, beq_eq_false_iff_ne.2 h, if_neg Bool.false_ne_true]

/-- **An id that is written is no position.** -/
theorem id_ne_toString (hr : IsRuleId r.id) (hne : r.id ≠ "") (i : Nat) : r.id ≠ toString i := by
  intro h
  obtain ⟨first, rest, hid, hletter, -⟩ := hr.resolve_left hne
  rw [h, toList_toString] at hid
  have hdigit := Unsigned.isDigit_of_mem (hid ▸ List.mem_cons_self)
  exact hletter.not_isDigit (isDigit_iff.1 hdigit)

/-- **Effective ids are the same** where the written ones are, and of positions only for the same one. -/
theorem effectiveId_eq_iff (hr : IsRuleId r.id) (hs : IsRuleId s.id) :
    r.effectiveId i = s.effectiveId j ↔ r.id = s.id ∧ (r.id = "" → i = j) := by
  by_cases hrne : r.id = "" <;> by_cases hsne : s.id = ""
  · rw [effectiveId_of_eq_empty hrne, effectiveId_of_eq_empty hsne, toString_inj, hrne, hsne]
    simp
  · rw [effectiveId_of_eq_empty hrne, effectiveId_of_ne_empty hsne, hrne]
    exact ⟨fun h => absurd h.symm (id_ne_toString hs hsne i), fun h => absurd h.1.symm hsne⟩
  · rw [effectiveId_of_ne_empty hrne, effectiveId_of_eq_empty hsne, hsne]
    exact ⟨fun h => absurd h (id_ne_toString hr hrne j), fun h => absurd h.1 hrne⟩
  · rw [effectiveId_of_ne_empty hrne, effectiveId_of_ne_empty hsne]
    exact ⟨fun h => ⟨h, fun hempty => absurd hempty hrne⟩, And.left⟩

/-- No effective id has a blank in it. -/
theorem blank_notMem_effectiveId (hr : IsRuleId r.id) (i : Nat) : ' ' ∉ (r.effectiveId i).toList := by
  intro hmem
  have hblank : ¬(IsLetter ' ' ∨ IsDigit ' ' ∨ ' ' = '/') := by
    rw [← isAlpha_iff, ← isDigit_iff]
    decide
  by_cases hne : r.id = ""
  · rw [effectiveId_of_eq_empty hne, toList_toString] at hmem
    exact hblank (.inr (.inl (isDigit_iff.1 (Unsigned.isDigit_of_mem hmem))))
  · obtain ⟨first, rest, hid, hletter, hrest⟩ := hr.resolve_left hne
    rw [effectiveId_of_ne_empty hne, hid] at hmem
    rcases List.mem_cons.1 hmem with rfl | hmem
    · exact hblank (.inl hletter)
    · exact hblank (hrest _ hmem)

end Rule

/-- **A log line tells the id and the source** that it is about, as there is no blank in an id. -/
theorem Firing.text_inj {set id id' source source' : String} (hid : ' ' ∉ id.toList) (hid' : ' ' ∉ id'.toList)
    (h : text ⟨set, id⟩ source = text ⟨set, id'⟩ source') : id = id' ∧ source = source' := by
  have hmatched : " matched ".toList = ' ' :: "matched ".toList := rfl
  rw [text, text] at h
  simp only [String.append_assoc, String.append_right_inj] at h
  have hlists := congrArg String.toList h
  simp only [String.toList_append, hmatched, List.cons_append] at hlists
  have hcut := congrArg (List.takeWhile (· != ' ')) hlists
  rw [takeWhile_ne_append hid, takeWhile_ne_append hid'] at hcut
  obtain rfl : id = id' := by
    rw [← String.toList_inj]
    simpa using hcut
  rw [String.append_right_inj, String.append_right_inj] at h
  exact ⟨rfl, h⟩

namespace RuleSet

/-! ## Faults -/

/-- **What is wrong with the rule at a position**: its id if that is none, else that it overrides nothing, else that
a rule before it has the same id. -/
inductive FaultAt (name : String) (rules : List Rule) (i : Nat) : RuleError → Prop
  | invalidId {r : Rule} (hr : rules[i]? = some r) (hid : ¬IsRuleId r.id) :
    FaultAt name rules i (.invalidId (rulePath name i) r.id)
  | emptyOverride {r : Rule} (hr : rules[i]? = some r) (hid : IsRuleId r.id) (hempty : ¬r.Overrides) :
    FaultAt name rules i (.emptyOverride (rulePath name i))
  | duplicateId {r s : Rule} {j : Nat} (hr : rules[i]? = some r) (hid : IsRuleId r.id) (hover : r.Overrides)
    (hne : r.id ≠ "") (hj : j < i) (hs : rules[j]? = some s) (hsame : s.id = r.id) :
    FaultAt name rules i (.duplicateId name r.id)

/-- Whether nothing is wrong with the rule at a position. -/
structure Passes (rules : List Rule) (i : Nat) (r : Rule) : Prop where
  isRuleId : IsRuleId r.id
  overrides : r.Overrides
  isNew : r.id ≠ "" → ∀ j < i, ∀ s, rules[j]? = some s → s.id ≠ r.id

variable {name : String} {rules : List Rule} {r : Rule} {i : Nat} {error : RuleError}

theorem passes_or_exists_faultAt (name : String) (hr : rules[i]? = some r) :
    Passes rules i r ∨ ∃ error, FaultAt name rules i error := by
  by_cases hid : IsRuleId r.id
  · by_cases hover : r.Overrides
    · by_cases hold : r.id ≠ "" ∧ ∃ j < i, ∃ s, rules[j]? = some s ∧ s.id = r.id
      · obtain ⟨hne, j, hj, s, hs, hsame⟩ := hold
        exact .inr ⟨_, .duplicateId hr hid hover hne hj hs hsame⟩
      · exact .inl ⟨hid, hover, fun hne j hj s hs hsame => hold ⟨hne, j, hj, s, hs, hsame⟩⟩
    · exact .inr ⟨_, .emptyOverride hr hid hover⟩
  · exact .inr ⟨_, .invalidId hr hid⟩

theorem Passes.not_faultAt (h : Passes rules i r) (hr : rules[i]? = some r) : ¬FaultAt name rules i error := by
  intro hfault
  cases hfault with
  | invalidId hr' hid =>
    cases hr.symm.trans hr'
    exact hid h.isRuleId
  | emptyOverride hr' _ hempty =>
    cases hr.symm.trans hr'
    exact hempty h.overrides
  | duplicateId hr' _ _ hne hj hs hsame =>
    cases hr.symm.trans hr'
    exact h.isNew hne _ hj _ hs hsame

theorem FaultAt.exists_rule (h : FaultAt name rules i error) : ∃ r, rules[i]? = some r := by
  cases h <;> exact ⟨_, ‹_›⟩

theorem FaultAt.unique {other : RuleError} (h : FaultAt name rules i error) (h' : FaultAt name rules i other) :
    error = other := by
  cases h <;> cases h' <;> grind

/-! ## One rule after another -/

/-- Whether these are the effective ids of the rules before a position, and nothing is wrong with any of those. -/
structure Checked (rules : List Rule) (i : Nat) (seen : List String) : Prop where
  passes : ∀ j < i, ∀ s, rules[j]? = some s → Passes rules j s
  mem_seen : ∀ id, id ∈ seen ↔ ∃ j < i, ∃ s, rules[j]? = some s ∧ s.effectiveId j = id

variable {seen : List String}

/-- An effective id has been seen exactly if it is written and a rule before has it too. -/
theorem Checked.effectiveId_mem_iff (h : Checked rules i seen) (hid : IsRuleId r.id) :
    r.effectiveId i ∈ seen ↔ r.id ≠ "" ∧ ∃ j < i, ∃ s, rules[j]? = some s ∧ s.id = r.id := by
  rw [h.mem_seen]
  constructor
  · rintro ⟨j, hj, s, hs, heq⟩
    obtain ⟨hsame, hplace⟩ := (Rule.effectiveId_eq_iff (h.passes j hj s hs).isRuleId hid).1 heq
    exact ⟨fun hempty => Nat.ne_of_lt hj (hplace (hsame.trans hempty)), j, hj, s, hs, hsame⟩
  · rintro ⟨hne, j, hj, s, hs, hsame⟩
    refine ⟨j, hj, s, hs, (Rule.effectiveId_eq_iff (h.passes j hj s hs).isRuleId hid).2 ⟨hsame, fun hempty => ?_⟩⟩
    exact absurd (hsame.symm.trans hempty) hne

theorem Checked.next (h : Checked rules i seen) (hr : rules[i]? = some r) (hpasses : Passes rules i r) :
    Checked rules (i + 1) (r.effectiveId i :: seen) where
  passes j hj s hs := by
    rcases Nat.lt_succ_iff_lt_or_eq.1 hj with hj | rfl
    · exact h.passes j hj s hs
    · cases hr.symm.trans hs
      exact hpasses
  mem_seen id := by
    rw [List.mem_cons, h.mem_seen]
    constructor
    · rintro (rfl | ⟨j, hj, hs⟩)
      · exact ⟨i, Nat.lt_succ_self i, r, hr, rfl⟩
      · exact ⟨j, Nat.lt_succ_of_lt hj, hs⟩
    · rintro ⟨j, hj, s, hs, rfl⟩
      rcases Nat.lt_succ_iff_lt_or_eq.1 hj with hj | rfl
      · exact .inr ⟨j, hj, s, hs, rfl⟩
      · cases hr.symm.trans hs
        exact .inl rfl

theorem validateFrom_cons_of_passes (h : Checked rules i seen) (hpasses : Passes rules i r) (rest : List Rule) :
    validateFrom name i seen (r :: rest) = validateFrom name (i + 1) (r.effectiveId i :: seen) rest := by
  have hvalid : r.validate (rulePath name i) = .ok () := by
    have hover : r.override.isEmpty = false := Bool.eq_false_iff.2 fun h => Rule.isEmpty_override_iff.1 h hpasses.overrides
    rw [Rule.validate, Rule.isValidId_iff.2 hpasses.isRuleId, hover]
    rfl
  have hseen : seen.contains (r.effectiveId i) = false := by
    rw [List.contains_eq_mem, decide_eq_false_iff_not, h.effectiveId_mem_iff hpasses.isRuleId]
    rintro ⟨hne, j, hj, s, hs, hsame⟩
    exact hpasses.isNew hne j hj s hs hsame
  simp only [validateFrom, hvalid, hseen]
  rfl

theorem validateFrom_cons_of_faultAt (h : Checked rules i seen) (hr : rules[i]? = some r)
    (hfault : FaultAt name rules i error) (rest : List Rule) : validateFrom name i seen (r :: rest) = .error error := by
  cases hfault with
  | invalidId hr' hid =>
    cases hr.symm.trans hr'
    rw [validateFrom, Rule.validate, Bool.eq_false_iff.2 (mt Rule.isValidId_iff.1 hid)]
    rfl
  | emptyOverride hr' hid hempty =>
    cases hr.symm.trans hr'
    rw [validateFrom, Rule.validate, Rule.isValidId_iff.2 hid, Rule.isEmpty_override_iff.2 hempty]
    rfl
  | @duplicateId _ s j hr' hid hover hne hj hs hsame =>
    cases hr.symm.trans hr'
    have hempty : r.override.isEmpty = false := Bool.eq_false_iff.2 fun h => Rule.isEmpty_override_iff.1 h hover
    have hseen : seen.contains (r.effectiveId i) = true :=
      List.contains_iff_mem.2 ((h.effectiveId_mem_iff hid).2 ⟨hne, j, hj, s, hs, hsame⟩)
    rw [Rule.effectiveId_of_ne_empty hne] at hseen
    rw [validateFrom, Rule.validate, Rule.isValidId_iff.2 hid, hempty]
    simp only [Rule.effectiveId_of_ne_empty hne, hseen]
    rfl

/-- **Rules are refused for the first fault**, and accepted if there is none. -/
theorem validateFrom_cases (name : String) : ∀ {rest : List Rule} {i : Nat} {seen : List String}, rules.drop i = rest →
    Checked rules i seen →
      (validateFrom name i seen rest = .ok () ∧ ∀ j s, rules[j]? = some s → Passes rules j s) ∨
      ∃ j error, validateFrom name i seen rest = .error error ∧ FaultAt name rules j error ∧
        ∀ k < j, ∀ s, rules[k]? = some s → Passes rules k s
  | [], i, seen, hdrop, h => by
    refine .inl ⟨rfl, fun j s hs => h.passes j ?_ s hs⟩
    obtain ⟨hj, -⟩ := List.getElem?_eq_some_iff.1 hs
    exact Nat.lt_of_lt_of_le hj (List.drop_eq_nil_iff.1 hdrop)
  | r :: rest, i, seen, hdrop, h => by
    have hr : rules[i]? = some r := by
      rw [← List.head?_drop, hdrop]
      rfl
    have hrest : rules.drop (i + 1) = rest := by
      rw [← List.tail_drop, hdrop]
      rfl
    rcases passes_or_exists_faultAt name hr with hpasses | ⟨error, hfault⟩
    · rw [validateFrom_cons_of_passes h hpasses]
      exact validateFrom_cases name hrest (h.next hr hpasses)
    · exact .inr ⟨i, error, validateFrom_cons_of_faultAt h hr hfault rest, hfault, h.passes⟩

/-! ## Sets -/

theorem eq_of_effectiveId_eq (hall : ∀ i r, rules[i]? = some r → Passes rules i r) {s : Rule} {j : Nat}
    (hr : rules[i]? = some r) (hs : rules[j]? = some s) (h : r.effectiveId i = s.effectiveId j) : i = j := by
  obtain ⟨hsame, hplace⟩ := (Rule.effectiveId_eq_iff (hall i r hr).isRuleId (hall j s hs).isRuleId).1 h
  by_cases hne : r.id = ""
  · exact hplace hne
  · rcases Nat.lt_trichotomy i j with hlt | heq | hlt
    · exact absurd hsame ((hall j s hs).isNew (hsame ▸ hne) i hlt r hr)
    · exact heq
    · exact absurd hsame.symm ((hall i r hr).isNew hne j hlt s hs)

theorem nodup_effectiveIds (hall : ∀ i r, rules[i]? = some r → Passes rules i r) :
    (rules.mapIdx fun i r => r.effectiveId i).Nodup := by
  refine List.pairwise_iff_getElem.2 fun i j hi hj hlt heq => Nat.ne_of_lt hlt ?_
  rw [List.length_mapIdx] at hi hj
  rw [List.getElem_mapIdx, List.getElem_mapIdx] at heq
  exact eq_of_effectiveId_eq hall (List.getElem?_eq_getElem hi) (List.getElem?_eq_getElem hj) heq

theorem forall_passes_iff : (∀ i r, rules[i]? = some r → Passes rules i r) ↔
    (∀ r ∈ rules, IsRuleId r.id ∧ r.Overrides) ∧ rules.Pairwise fun r s => r.id = s.id → r.id = "" := by
  rw [List.pairwise_iff_getElem]
  constructor
  · refine fun hall => ⟨fun r hr => ?_, fun i j hi hj hlt hsame => ?_⟩
    · obtain ⟨i, hi⟩ := List.getElem?_of_mem hr
      exact ⟨(hall i r hi).isRuleId, (hall i r hi).overrides⟩
    · refine Decidable.byContradiction fun hne => ?_
      exact (hall j _ (List.getElem?_eq_getElem hj)).isNew (hsame ▸ hne) i hlt _ (List.getElem?_eq_getElem hi) hsame
  · rintro ⟨hrules, hpairs⟩ i r hr
    obtain ⟨hid, hover⟩ := hrules r (List.mem_of_getElem? hr)
    refine ⟨hid, hover, fun hne j hj s hs hsame => hne ?_⟩
    obtain ⟨hi, rfl⟩ := List.getElem?_eq_some_iff.1 hr
    obtain ⟨hj', rfl⟩ := List.getElem?_eq_some_iff.1 hs
    exact hsame.symm.trans (hpairs j i hj' hi hj hsame)

theorem ofRules_eq (name : String) (rules : List Rule) :
    ofRules name rules = (validateFrom name 0 [] rules).map fun _ => ⟨name, rules⟩ := by
  rw [ofRules]
  cases validateFrom name 0 [] rules <;> rfl

theorem ofRules_cases (name : String) (rules : List Rule) :
    (ofRules name rules = .ok ⟨name, rules⟩ ∧ ∀ i r, rules[i]? = some r → Passes rules i r) ∨
    ∃ i error, ofRules name rules = .error error ∧ FaultAt name rules i error ∧
      ∀ j < i, ∀ r, rules[j]? = some r → Passes rules j r := by
  have hstart : Checked rules 0 [] := ⟨fun j hj => absurd hj (Nat.not_lt_zero j), fun id => by simp⟩
  rw [ofRules_eq]
  rcases validateFrom_cases name (List.drop_zero : rules.drop 0 = rules) hstart with ⟨hok, hall⟩ | ⟨i, error, herror, hfault⟩
  · exact .inl ⟨by rw [hok]; rfl, hall⟩
  · exact .inr ⟨i, error, by rw [herror]; rfl, hfault⟩

/-- **Which rules make up a set, and why others do not.**  They do exactly if all ids are ids, every rule overrides
something, and no two rules have the same id unless it is empty; the effective ids of a set are then all different, and
what the log tells of a firing names the one rule and the source.  Rules that do not make up a set are refused for what
is wrong at the first position where anything is. -/
theorem ofRules_validated (name : String) (rules : List Rule) :
    ((∃ set, ofRules name rules = .ok set) ↔
      (∀ r ∈ rules, IsRuleId r.id ∧ r.Overrides) ∧ rules.Pairwise fun r s => r.id = s.id → r.id = "") ∧
    (∀ set, ofRules name rules = .ok set → set = ⟨name, rules⟩ ∧
      (set.rules.mapIdx fun i r => r.effectiveId i).Nodup ∧
      ∀ i j (r s : Rule), set.rules[i]? = some r → set.rules[j]? = some s → ∀ source other,
        Firing.text ⟨set.name, r.effectiveId i⟩ source = Firing.text ⟨set.name, s.effectiveId j⟩ other →
          i = j ∧ source = other) ∧
    ∀ error, ofRules name rules = .error error ↔
      ∃ i, FaultAt name rules i error ∧ ∀ j < i, ∀ other, ¬FaultAt name rules j other := by
  rw [← forall_passes_iff]
  rcases ofRules_cases name rules with ⟨hok, hall⟩ | ⟨i, error, herror, hfault, hbefore⟩
  · refine ⟨⟨fun _ => hall, fun _ => ⟨_, hok⟩⟩, fun set hset => ?_, fun error => ⟨fun h => ?_, ?_⟩⟩
    · cases hok.symm.trans hset
      refine ⟨rfl, nodup_effectiveIds hall, fun i j r s hr hs source other htext => ?_⟩
      obtain ⟨hid, hsource⟩ := Firing.text_inj (Rule.blank_notMem_effectiveId (hall i r hr).isRuleId i)
        (Rule.blank_notMem_effectiveId (hall j s hs).isRuleId j) htext
      exact ⟨eq_of_effectiveId_eq hall hr hs hid, hsource⟩
    · cases hok.symm.trans h
    · rintro ⟨i, hfault, -⟩
      obtain ⟨r, hr⟩ := hfault.exists_rule
      exact absurd hfault ((hall i r hr).not_faultAt hr)
  · have hfirst : ∀ j < i, ∀ other, ¬FaultAt name rules j other := by
      intro j hj other hother
      obtain ⟨r, hr⟩ := hother.exists_rule
      exact (hbefore j hj r hr).not_faultAt hr hother
    refine ⟨⟨fun ⟨set, hset⟩ => ?_, fun hall => ?_⟩, fun set hset => ?_, fun told => ⟨fun h => ?_, ?_⟩⟩
    · cases herror.symm.trans hset
    · obtain ⟨r, hr⟩ := hfault.exists_rule
      exact absurd hfault ((hall i r hr).not_faultAt hr)
    · cases herror.symm.trans hset
    · cases herror.symm.trans h
      exact ⟨i, hfault, hfirst⟩
    · rintro ⟨j, htold, hnone⟩
      rcases Nat.lt_trichotomy i j with hlt | rfl | hlt
      · exact absurd hfault (hnone i hlt error)
      · rw [herror, hfault.unique htold]
      · exact absurd htold (hfirst j hlt told)

end RuleSet
end ObjectRelay
