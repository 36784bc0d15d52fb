import ObjectRelay.Pattern.Search
import Mathlib.Data.Finset.Card
/-!
# What a search finds

The search goes backwards over sets of places.  From a set of targets an expression leads to the places from which
it spans up to one of them (`leadsTo_before`), so an expression occurs in a text exactly if it spans some part of it
(`occursIn_iff`).  That holds of every expression whose repetitions are bounded in order (`Expr.IsOrdered`), as the
reader of patterns demands.
-/
namespace ObjectRelay.Pattern

open Unicode (CharSet)

variable {s : List Char}

namespace Expr

/-! ## Repetitions -/

/-- Whether no repetition has a least number that is above its greatest. -/
def IsOrdered {σ τ : Type} : Expr σ τ → Prop
  | empty | one _ | look _ => True
  | seq a b | alt a b => a.IsOrdered ∧ b.IsOrdered
  | group _ e => e.IsOrdered
  | times e least most _ => e.IsOrdered ∧ ∀ m, most = some m → least ≤ m

/-- `k` matches of an expression, one behind the other. -/
def Repeats (s : List Char) (e : Expr CharSet Look) : Nat → Nat → Nat → Prop
  | 0, i, j => i = j
  | k + 1, i, j => ∃ m, Spans s e i m ∧ Repeats s e k m j

variable {e : Expr CharSet Look}

theorem Spans.bounds {i j : Nat} (h : Spans s e i j) : i ≤ j ∧ j ≤ s.length := by
  induction h with
  | empty hi | look hi | stop hi => exact ⟨Nat.le_refl _, hi⟩
  | one hc _ =>
    obtain ⟨hlt, -⟩ := List.getElem?_eq_some_iff.1 hc
    omega
  | seq _ _ iha ihb | again _ _ _ iha ihb => omega
  | first _ ih | second _ ih | group _ ih => exact ih

theorem repeats_add_iff {k l i j : Nat} : Repeats s e (k + l) i j ↔ ∃ m, Repeats s e k i m ∧ Repeats s e l m j := by
  induction k generalizing i with
  | zero => simp [Repeats]
  | succ k ih =>
    rw [Nat.add_right_comm]
    constructor
    · rintro ⟨h, hfirst, hrest⟩
      obtain ⟨m, hm, hlast⟩ := ih.1 hrest
      exact ⟨m, ⟨h, hfirst, hm⟩, hlast⟩
    · rintro ⟨m, ⟨h, hfirst, hm⟩, hlast⟩
      exact ⟨h, hfirst, ih.2 ⟨m, hm, hlast⟩⟩

theorem repeats_succ_iff {k i j : Nat} : Repeats s e (k + 1) i j ↔ ∃ m, Repeats s e k i m ∧ Spans s e m j := by
  rw [repeats_add_iff]
  simp [Repeats]

theorem Repeats.le_length {k i j : Nat} (h : Repeats s e k i j) (hj : j ≤ s.length) : i ≤ s.length := by
  cases k with
  | zero => exact h ▸ hj
  | succ k =>
    obtain ⟨m, hfirst, -⟩ := h
    have hbounds := hfirst.bounds
    omega

theorem exists_repeats_of_spans {least : Nat} {most : Option Nat} {greedy : Bool} {i j : Nat}
    (h : Spans s (.times e least most greedy) i j) :
    ∃ k, least ≤ k ∧ (∀ m, most = some m → k ≤ m) ∧ Repeats s e k i j := by
  generalize ht : Expr.times e least most greedy = t at h
  induction h generalizing least most with
  | stop =>
    cases ht
    exact ⟨0, Nat.le_refl 0, fun _ _ => Nat.zero_le _, rfl⟩
  | again hmost hfirst _ _ ih =>
    cases ht
    obtain ⟨k, hleast, hk, hrest⟩ := ih rfl
    refine ⟨k + 1, by omega, fun m hm => ?_, _, hfirst, hrest⟩
    have hpos : m ≠ 0 := fun h0 => hmost (by rw [hm, h0])
    have hle := hk (m - 1) (by rw [hm]; rfl)
    omega
  | empty | one | look | seq | first | second | group => cases ht

theorem spans_of_repeats {greedy : Bool} {j : Nat} (hj : j ≤ s.length) : ∀ {k least : Nat} {most : Option Nat} {i : Nat},
    least ≤ k → (∀ m, most = some m → k ≤ m) → Repeats s e k i j → Spans s (.times e least most greedy) i j
  | 0, least, most, i, hleast, _, h => by
    obtain rfl := Nat.le_zero.1 hleast
    obtain rfl : i = j := h
    exact .stop hj
  | k + 1, least, most, i, hleast, hmost, ⟨m, hfirst, hrest⟩ => by
    refine .again (fun h => ?_) hfirst (spans_of_repeats hj (by omega) (fun n hn => ?_) hrest)
    · exact absurd (hmost 0 h) (by omega)
    · obtain ⟨n', hn', rfl⟩ := Option.map_eq_some_iff.1 hn
      have hle := hmost n' hn'
      omega

/-- **A repetition spans what some number of matches span**, a number within its bounds. -/
theorem spans_times_iff {least : Nat} {most : Option Nat} {greedy : Bool} {i j : Nat} :
    Spans s (.times e least most greedy) i j ↔
      j ≤ s.length ∧ ∃ k, least ≤ k ∧ (∀ m, most = some m → k ≤ m) ∧ Repeats s e k i j :=
  ⟨fun h => ⟨h.bounds.2, exists_repeats_of_spans h⟩, fun ⟨hj, _, hleast, hmost, h⟩ => spans_of_repeats hj hleast hmost h⟩

/-! ## Sequences -/

theorem spans_ofList_cons {e : Expr CharSet Look} {es : List (Expr CharSet Look)} {i j : Nat} :
    Spans s (ofList (e :: es)) i j ↔ ∃ m, Spans s e i m ∧ Spans s (ofList es) m j := by
  cases es with
  | nil =>
    constructor
    · exact fun h => ⟨j, h, .empty h.bounds.2⟩
    · rintro ⟨m, h, hempty⟩
      cases hempty
      exact h
  | cons e' es =>
    constructor
    · intro h
      cases h with
      | seq hfirst hrest => exact ⟨_, hfirst, hrest⟩
    · rintro ⟨m, hfirst, hrest⟩
      exact .seq hfirst hrest

theorem isOrdered_ofList : ∀ {es : List (Expr CharSet Look)}, (∀ e ∈ es, e.IsOrdered) → (ofList es).IsOrdered
  | [], _ => trivial
  | [e], h => h e List.mem_cons_self
  | e :: _ :: _, h => ⟨h e List.mem_cons_self, isOrdered_ofList fun d hd => h d (List.mem_cons_of_mem _ hd)⟩

end Expr

/-! ## Sets of places -/

theorem testBit_zero_cons (b : Bool) (places : Nat) : ((if b then 1 else 0) ||| (places <<< 1)).testBit 0 = b := by
  cases b <;> simp

theorem testBit_succ_cons (b : Bool) (places i : Nat) :
    ((if b then 1 else 0) ||| (places <<< 1)).testBit (i + 1) = places.testBit i := by
  rw [Nat.testBit_or, Nat.testBit_shiftLeft]
  cases b <;> simp [Nat.testBit_one_eq_true_iff_self_eq_zero]

theorem testBit_placesOfSet (set : CharSet) : ∀ (s : List Char) (i : Nat),
    (placesOfSet set s).testBit i = s[i]?.any set.has
  | [], i => by simp [placesOfSet]
  | c :: s, 0 => by rw [placesOfSet, testBit_zero_cons]; rfl
  | c :: s, i + 1 => by rw [placesOfSet, testBit_succ_cons, testBit_placesOfSet set s i]; rfl

theorem testBit_placesOfLook (look : Look) : ∀ (s : List Char) (before : Option Char) (i : Nat),
    (placesOfLook look before s).testBit i =
      (decide (i ≤ s.length) && look.holds (if i = 0 then before else s[i - 1]?) s[i]?)
  | [], before, i => by
    rw [placesOfLook]
    cases i with
    | zero => cases h : look.holds before none <;> simp [h]
    | succ i => cases h : look.holds before none <;> simp [Nat.testBit_succ]
  | c :: s, before, 0 => by rw [placesOfLook, testBit_zero_cons]; simp
  | c :: s, before, i + 1 => by
    rw [placesOfLook, testBit_succ_cons, testBit_placesOfLook look s (some c) i]
    cases i with
    | zero => simp
    | succ i => simp

theorem testBit_allPlaces (n i : Nat) : (allPlaces n).testBit i = decide (i ≤ n) := by
  rw [allPlaces, Nat.one_shiftLeft, Nat.testBit_two_pow_sub_one]
  exact decide_eq_decide.2 Nat.lt_succ_iff

/-- Whether all places of the set are places of a text of `n` characters. -/
def Within (n places : Nat) : Prop := ∀ j, places.testBit j = true → j ≤ n

/-- Whether `f` takes targets to the places from which `e` leads to one of them. -/
def LeadsTo (s : List Char) (e : Expr CharSet Look) (f : Nat → Nat) : Prop :=
  ∀ targets, Within s.length targets → ∀ i,
    (f targets).testBit i = true ↔ ∃ j, Expr.Spans s e i j ∧ targets.testBit j = true

section Repetition

variable {e : Expr CharSet Look} {f : Nat → Nat} (hf : LeadsTo s e f) {targets : Nat}
  (htargets : Within s.length targets)

include hf htargets

theorem LeadsTo.within : Within s.length (f targets) := by
  intro i hi
  obtain ⟨j, hspans, -⟩ := (hf targets htargets i).1 hi
  have hbounds := hspans.bounds
  omega

omit htargets in
theorem testBit_applyTimes : ∀ {k targets : Nat}, Within s.length targets → ∀ i,
    ((applyTimes f k targets).testBit i = true ↔ ∃ j, Expr.Repeats s e k i j ∧ targets.testBit j = true)
  | 0, targets, _, i => by simp [applyTimes, Expr.Repeats]
  | k + 1, targets, htargets, i => by
    rw [applyTimes, testBit_applyTimes (hf.within htargets) i]
    constructor
    · rintro ⟨m, hrepeats, hm⟩
      obtain ⟨j, hlast, hj⟩ := (hf targets htargets m).1 hm
      exact ⟨j, Expr.repeats_succ_iff.2 ⟨m, hrepeats, hlast⟩, hj⟩
    · rintro ⟨j, hrepeats, hj⟩
      obtain ⟨m, hrepeats, hlast⟩ := Expr.repeats_succ_iff.1 hrepeats
      exact ⟨m, hrepeats, (hf targets htargets m).2 ⟨j, hlast, hj⟩⟩

theorem testBit_upTo (k i : Nat) : (upTo f targets k).testBit i = true ↔
    ∃ n ≤ k, ∃ j, Expr.Repeats s e n i j ∧ targets.testBit j = true := by
  induction k generalizing i with
  | zero => simp [upTo, Expr.Repeats]
  | succ k ih =>
    have hwithin : Within s.length (upTo f targets k) := by
      intro j hj
      obtain ⟨n, -, l, hrepeats, hl⟩ := (ih j).1 hj
      exact hrepeats.le_length (htargets l hl)
    rw [upTo, Nat.testBit_or, Bool.or_eq_true, hf _ hwithin]
    constructor
    · rintro (hi | ⟨m, hfirst, hm⟩)
      · exact ⟨0, Nat.zero_le _, i, rfl, hi⟩
      · obtain ⟨n, hn, j, hrepeats, hj⟩ := (ih m).1 hm
        exact ⟨n + 1, by omega, j, ⟨m, hfirst, hrepeats⟩, hj⟩
    · rintro ⟨n, hn, j, hrepeats, hj⟩
      cases n with
      | zero => exact .inl (hrepeats ▸ hj)
      | succ n =>
        obtain ⟨m, hfirst, hrest⟩ := hrepeats
        exact .inr ⟨m, hfirst, (ih m).2 ⟨n, by omega, j, hrest, hj⟩⟩

end Repetition

/-! ## Any number of repetitions

Each round of `grow` that is not the last one finds a new place, and a text has no more places than one more than
its characters; so as many rounds are enough. -/

/-- The places of a set among those of a text of `n` characters. -/
def placesUpTo (n places : Nat) : Finset Nat := (Finset.range (n + 1)).filter fun i => places.testBit i = true

theorem mem_placesUpTo {n places i : Nat} : i ∈ placesUpTo n places ↔ i ≤ n ∧ places.testBit i = true := by
  rw [placesUpTo, Finset.mem_filter, Finset.mem_range, Nat.lt_succ_iff]

/-- Whether `f` leads to no new place. -/
def Closed (f : Nat → Nat) (places : Nat) : Prop := ∀ i, (f places).testBit i = true → places.testBit i = true

section Growth

variable {n : Nat} {f : Nat → Nat} (hf : ∀ places, Within n places → Within n (f places))

include hf

theorem within_grow_step {places : Nat} (h : Within n places) : Within n (places ||| f places) := by
  intro i hi
  rw [Nat.testBit_or, Bool.or_eq_true] at hi
  exact hi.elim (h i) (hf places h i)

theorem card_lt_of_grow_step {places : Nat} (h : Within n places) (hne : (places ||| f places) ≠ places) :
    (placesUpTo n places).card < (placesUpTo n (places ||| f places)).card := by
  refine Finset.card_lt_card (Finset.ssubset_iff_subset_ne.2 ⟨fun i hi => ?_, fun heq => hne ?_⟩)
  · rw [mem_placesUpTo] at hi ⊢
    exact ⟨hi.1, by rw [Nat.testBit_or, hi.2, Bool.true_or]⟩
  · refine Nat.eq_of_testBit_eq fun i => Bool.eq_iff_iff.2 ⟨fun hi => ?_, fun hi => ?_⟩
    · have hmem : i ∈ placesUpTo n (places ||| f places) := mem_placesUpTo.2 ⟨within_grow_step hf h i hi, hi⟩
      rw [← heq] at hmem
      exact (mem_placesUpTo.1 hmem).2
    · rw [Nat.testBit_or, hi, Bool.true_or]

/-- Growing stops at a closed set, or finds a place in every round. -/
theorem closed_or_card_grow : ∀ (k places : Nat), Within n places → Within n (grow f k places) ∧
    (Closed f (grow f k places) ∨ (placesUpTo n places).card + k ≤ (placesUpTo n (grow f k places)).card)
  | 0, places, h => ⟨h, .inr (Nat.le_refl _)⟩
  | k + 1, places, h => by
    have hstep := within_grow_step hf h
    by_cases heq : (places ||| f places) = places
    · have hgrow : grow f (k + 1) places = places := by simp [grow, heq]
      rw [hgrow]
      refine ⟨h, .inl fun i hi => ?_⟩
      rw [← heq, Nat.testBit_or, hi, Bool.or_true]
    · have hgrow : grow f (k + 1) places = grow f k (places ||| f places) := by simp [grow, heq]
      have hlt := card_lt_of_grow_step hf h heq
      obtain ⟨hwithin, hor⟩ := closed_or_card_grow k _ hstep
      rw [hgrow]
      exact ⟨hwithin, hor.imp_right fun hcard => by omega⟩

theorem closed_grow {places : Nat} (h : Within n places) : Closed f (grow f (n + 1) places) := by
  obtain ⟨hwithin, hclosed | hcard⟩ := closed_or_card_grow hf (n + 1) places h
  · exact hclosed
  · -- a set that has grown in every round holds all places
    have hall : placesUpTo n (grow f (n + 1) places) = Finset.range (n + 1) :=
      Finset.eq_of_subset_of_card_le (Finset.filter_subset _ _) (by rw [Finset.card_range]; omega)
    intro i hi
    have hle := hf _ hwithin i hi
    have hmem : i ∈ placesUpTo n (grow f (n + 1) places) := by rw [hall]; exact Finset.mem_range.2 (by omega)
    exact (mem_placesUpTo.1 hmem).2

end Growth

theorem testBit_grow_of_testBit (f : Nat → Nat) {i : Nat} : ∀ (k : Nat) {places : Nat}, places.testBit i = true →
    (grow f k places).testBit i = true
  | 0, _, h => h
  | k + 1, places, h => by
    rw [grow]
    split
    · exact h
    · exact testBit_grow_of_testBit f k (by rw [Nat.testBit_or, h, Bool.true_or])

theorem exists_repeats_of_grow {e : Expr CharSet Look} {f : Nat → Nat} (hf : LeadsTo s e f) {i : Nat} :
    ∀ {k targets : Nat}, Within s.length targets → (grow f k targets).testBit i = true →
      ∃ n j, Expr.Repeats s e n i j ∧ targets.testBit j = true
  | 0, targets, _, h => ⟨0, i, rfl, h⟩
  | k + 1, targets, htargets, h => by
    rw [grow] at h
    split at h
    · exact ⟨0, i, rfl, h⟩
    · have hwithin : Within s.length (targets ||| f targets) := within_grow_step (fun _ => hf.within) htargets
      obtain ⟨n, m, hrepeats, hm⟩ := exists_repeats_of_grow hf hwithin h
      rw [Nat.testBit_or, Bool.or_eq_true] at hm
      rcases hm with hm | hm
      · exact ⟨n, m, hrepeats, hm⟩
      · obtain ⟨j, hlast, hj⟩ := (hf targets htargets m).1 hm
        exact ⟨n + 1, j, Expr.repeats_succ_iff.2 ⟨m, hrepeats, hlast⟩, hj⟩

/-- **Growing finds the places from which any number of repetitions leads to a target.** -/
theorem testBit_grow {e : Expr CharSet Look} {f : Nat → Nat} (hf : LeadsTo s e f) {targets : Nat}
    (htargets : Within s.length targets) (i : Nat) : (grow f (s.length + 1) targets).testBit i = true ↔
      ∃ n j, Expr.Repeats s e n i j ∧ targets.testBit j = true := by
  refine ⟨exists_repeats_of_grow hf htargets, ?_⟩
  have hwithin := (closed_or_card_grow (fun _ => hf.within) (s.length + 1) targets htargets).1
  have hclosed := closed_grow (fun _ => hf.within) htargets
  rintro ⟨n, j, hrepeats, hj⟩
  induction n generalizing i with
  | zero =>
    obtain rfl : i = j := hrepeats
    exact testBit_grow_of_testBit f _ hj
  | succ n ih =>
    obtain ⟨m, hfirst, hrest⟩ := hrepeats
    exact hclosed i ((hf _ hwithin i).2 ⟨m, hfirst, ih m hrest⟩)

/-! ## Searching -/

/-- What is looked for behind the least repetitions: places from which as many more as are allowed lead to a target. -/
theorem exists_before_times {e : Expr CharSet Look} {targets : Nat} (least : Nat) {most : Option Nat} (greedy : Bool)
    (hf : LeadsTo s e (Local.before s.length (e.at s))) (hmost : ∀ m, most = some m → least ≤ m)
    (htargets : Within s.length targets) : ∃ rest,
      Local.before s.length ((Expr.times e least most greedy).at s) targets =
        applyTimes (Local.before s.length (e.at s)) least rest ∧
      ∀ m, rest.testBit m = true ↔
        ∃ n j, (∀ most', most = some most' → least + n ≤ most') ∧ Expr.Repeats s e n m j ∧ targets.testBit j = true := by
  cases most with
  | none => exact ⟨grow _ (s.length + 1) targets, rfl, fun m => (testBit_grow hf htargets m).trans (by simp)⟩
  | some most =>
    refine ⟨upTo _ targets (most - least), rfl, fun m => (testBit_upTo hf htargets (most - least) m).trans ⟨?_, ?_⟩⟩
    · rintro ⟨n, hn, j, hrepeats, hj⟩
      refine ⟨n, j, fun most' hmost' => ?_, hrepeats, hj⟩
      cases hmost'
      have hle := hmost most rfl
      omega
    · rintro ⟨n, j, hn, hrepeats, hj⟩
      have hle := hn most rfl
      exact ⟨n, by omega, j, hrepeats, hj⟩

theorem leadsTo_times {e : Expr CharSet Look} {least : Nat} {most : Option Nat} {greedy : Bool}
    (hf : LeadsTo s e (Local.before s.length (e.at s))) (hmost : ∀ m, most = some m → least ≤ m) :
    LeadsTo s (.times e least most greedy) (Local.before s.length ((Expr.times e least most greedy).at s)) := by
  intro targets htargets i
  obtain ⟨rest, hbefore, hrest⟩ := exists_before_times least greedy hf hmost htargets
  have hwithin : Within s.length rest := fun m hm => by
    obtain ⟨n, j, -, hrepeats, hj⟩ := (hrest m).1 hm
    exact hrepeats.le_length (htargets j hj)
  rw [hbefore, testBit_applyTimes hf hwithin]
  constructor
  · rintro ⟨m, hfirst, hm⟩
    obtain ⟨n, j, hn, hrepeats, hj⟩ := (hrest m).1 hm
    exact ⟨j, Expr.spans_times_iff.2 ⟨htargets j hj, least + n, Nat.le_add_right _ _, hn,
      Expr.repeats_add_iff.2 ⟨m, hfirst, hrepeats⟩⟩, hj⟩
  · rintro ⟨j, hspans, hj⟩
    obtain ⟨-, k, hleast, hk, hrepeats⟩ := Expr.spans_times_iff.1 hspans
    obtain ⟨n, rfl⟩ := Nat.exists_eq_add_of_le hleast
    obtain ⟨m, hfirst, hlast⟩ := Expr.repeats_add_iff.1 hrepeats
    exact ⟨m, hfirst, (hrest m).2 ⟨n, j, hk, hlast, hj⟩⟩

/-- **From which places an expression leads to a target**: those from which it spans up to one. -/
theorem leadsTo_before : ∀ {e : Expr CharSet Look}, e.IsOrdered → LeadsTo s e (Local.before s.length (e.at s))
  | .empty, _, targets, htargets, i => by
    refine ⟨fun hi => ⟨i, .empty (htargets i hi), hi⟩, ?_⟩
    rintro ⟨j, hspans, hj⟩
    cases hspans
    exact hj
  | .one set, _, targets, htargets, i => by
    have hbefore : Local.before s.length ((Expr.one set).at s) targets = placesOfSet set s &&& (targets >>> 1) := rfl
    rw [hbefore, Nat.testBit_and, testBit_placesOfSet, Nat.testBit_shiftRight, Bool.and_eq_true, Nat.add_comm]
    constructor
    · rintro ⟨hset, hi⟩
      obtain ⟨c, hc, hset⟩ := (Option.any_eq_true _ _).1 hset
      exact ⟨i + 1, .one hc hset, hi⟩
    · rintro ⟨j, hspans, hj⟩
      cases hspans with
      | one hc hset => exact ⟨by rw [hc]; exact hset, hj⟩
  | .look l, _, targets, htargets, i => by
    have hbefore : Local.before s.length ((Expr.look l).at s) targets = placesOfLook l none s &&& targets := rfl
    rw [hbefore, Nat.testBit_and, testBit_placesOfLook, Bool.and_eq_true, Bool.and_eq_true, decide_eq_true_eq]
    constructor
    · rintro ⟨⟨hi, hholds⟩, htarget⟩
      exact ⟨i, .look hi hholds, htarget⟩
    · rintro ⟨j, hspans, hj⟩
      cases hspans with
      | look hi hholds => exact ⟨⟨hi, hholds⟩, hj⟩
  | .seq a b, h, targets, htargets, i => by
    have hb := leadsTo_before h.2
    refine (leadsTo_before h.1 _ (hb.within htargets) i).trans ⟨?_, ?_⟩
    · rintro ⟨m, hfirst, hm⟩
      obtain ⟨j, hlast, hj⟩ := (hb targets htargets m).1 hm
      exact ⟨j, .seq hfirst hlast, hj⟩
    · rintro ⟨j, hspans, hj⟩
      cases hspans with
      | seq hfirst hlast => exact ⟨_, hfirst, (hb targets htargets _).2 ⟨j, hlast, hj⟩⟩
  | .alt a b, h, targets, htargets, i => by
    have hbefore : Local.before s.length ((Expr.alt a b).at s) targets =
        Local.before s.length (a.at s) targets ||| Local.before s.length (b.at s) targets := rfl
    rw [hbefore, Nat.testBit_or, Bool.or_eq_true, leadsTo_before h.1 targets htargets,
      leadsTo_before h.2 targets htargets]
    constructor
    · rintro (⟨j, hspans, hj⟩ | ⟨j, hspans, hj⟩)
      · exact ⟨j, .first hspans, hj⟩
      · exact ⟨j, .second hspans, hj⟩
    · rintro ⟨j, hspans, hj⟩
      cases hspans with
      | first hspans => exact .inl ⟨j, hspans, hj⟩
      | second hspans => exact .inr ⟨j, hspans, hj⟩
  | .group _ e, h, targets, htargets, i => by
    have hbody : e.IsOrdered := h
    refine (leadsTo_before hbody targets htargets i).trans ⟨?_, ?_⟩
    · rintro ⟨j, hspans, hj⟩
      exact ⟨j, .group hspans, hj⟩
    · rintro ⟨j, hspans, hj⟩
      cases hspans with
      | group hspans => exact ⟨j, hspans, hj⟩
  | .times e _ _ _, h, targets, htargets, i => leadsTo_times (leadsTo_before h.1) h.2 targets htargets i

/-- **An expression occurs in a text** exactly if it spans some part of it. -/
theorem Expr.occursIn_iff {e : Expr CharSet Look} (h : e.IsOrdered) :
    e.occursIn s = true ↔ ∃ i j, Expr.Spans s e i j := by
  have hall : Within s.length (allPlaces s.length) := fun j hj => by simpa [testBit_allPlaces] using hj
  have hbefore := leadsTo_before h (allPlaces s.length) hall
  rw [occursIn, bne_iff_ne]
  constructor
  · intro hne
    obtain ⟨i, hi⟩ := Nat.exists_testBit_of_ne_zero hne
    obtain ⟨j, hspans, -⟩ := (hbefore i).1 hi
    exact ⟨i, j, hspans⟩
  · rintro ⟨i, j, hspans⟩ hzero
    have hi := (hbefore i).2 ⟨j, hspans, by simp [testBit_allPlaces, hspans.bounds.2]⟩
    rw [hzero, Nat.zero_testBit] at hi
    cases hi

theorem isSome_leastPlace?_iff {places : Nat} : ∀ {k i : Nat},
    (leastPlace? places k i).isSome = true ↔ ∃ j, i ≤ j ∧ j < i + k ∧ places.testBit j = true
  | 0, i => by
    simp only [leastPlace?, Option.isSome_none, Bool.false_eq_true, false_iff]
    rintro ⟨j, hle, hlt, -⟩
    omega
  | k + 1, i => by
    rw [leastPlace?]
    split
    · rename_i hi
      exact ⟨fun _ => ⟨i, Nat.le_refl i, by omega, hi⟩, fun _ => rfl⟩
    · rename_i hi
      rw [isSome_leastPlace?_iff]
      constructor
      · rintro ⟨j, hle, hlt, hj⟩
        exact ⟨j, by omega, by omega, hj⟩
      · rintro ⟨j, hle, hlt, hj⟩
        have hne : j ≠ i := fun h => hi (h ▸ hj)
        exact ⟨j, by omega, by omega, hj⟩

/-- **A match is found** exactly if the expression occurs. -/
theorem Expr.isSome_find?_iff {e : Expr CharSet Look} (h : e.IsOrdered) :
    (e.find? s).isSome = true ↔ e.occursIn s = true := by
  have hall : Within s.length (allPlaces s.length) := fun j hj => by simpa [testBit_allPlaces] using hj
  have hwithin := (leadsTo_before h).within hall
  rw [find?, Option.isSome_map, isSome_leastPlace?_iff, occursIn, bne_iff_ne]
  constructor
  · rintro ⟨j, -, -, hj⟩ hzero
    rw [hzero, Nat.zero_testBit] at hj
    cases hj
  · intro hne
    obtain ⟨j, hj⟩ := Nat.exists_testBit_of_ne_zero hne
    have hle := hwithin j hj
    exact ⟨j, Nat.zero_le j, by omega, hj⟩

end ObjectRelay.Pattern
