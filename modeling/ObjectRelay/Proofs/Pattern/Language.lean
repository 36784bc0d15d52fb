import ObjectRelay.Proofs.Pattern.Search
/-!
# What an expression says

An expression without conditions on places spans a part of a text for what stands there alone: `Says` is the language of
such an expression, and it spans exactly the parts that are in it (`Expr.spans_iff_of_isPlaceless`).  With the end of
the text behind it, it occurs in the texts that end with a word of its language (`Expr.occursIn_ending_iff`).
-/
namespace ObjectRelay

open Pattern (Expr Look)
open Unicode (CharSet)

theorem Unicode.CharSet.has_any (c : Char) : CharSet.any.has c = true := rfl

theorem Unicode.CharSet.has_single {c d : Char} : (CharSet.single c).has d = true ↔ d = c := by
  have hcode : (CharSet.single c).has d = true ↔ c.toNat ≤ d.toNat ∧ d.toNat ≤ c.toNat := by
    simp [CharSet.has, CharSet.hasCode, CharSet.single, Ranges.has]
  rw [hcode]
  constructor
  · exact fun ⟨h, h'⟩ => Char.toNat_inj.1 (Nat.le_antisymm h' h)
  · rintro rfl
    exact ⟨Nat.le_refl _, Nat.le_refl _⟩

namespace Pattern

/-! ## Parts of a text -/

/-- Whether a word stands in a text from one place to another. -/
def StandsAt (s word : List Char) (i j : Nat) : Prop :=
  ∃ before behind, s = before ++ (word ++ behind) ∧ i = before.length ∧ j = i + word.length

variable {s : List Char} {i j : Nat}

theorem standsAt_nil_iff : StandsAt s [] i j ↔ i = j ∧ i ≤ s.length := by
  constructor
  · rintro ⟨before, behind, rfl, rfl, rfl⟩
    exact ⟨rfl, by simp⟩
  · rintro ⟨rfl, hi⟩
    exact ⟨s.take i, s.drop i, (List.take_append_drop i s).symm, by simp [hi], rfl⟩

theorem standsAt_singleton_iff {c : Char} : StandsAt s [c] i j ↔ s[i]? = some c ∧ j = i + 1 := by
  constructor
  · rintro ⟨before, behind, rfl, rfl, rfl⟩
    exact ⟨by simp, rfl⟩
  · rintro ⟨hc, rfl⟩
    obtain ⟨hi, rfl⟩ := List.getElem?_eq_some_iff.1 hc
    refine ⟨s.take i, s.drop (i + 1), ?_, by simp [Nat.le_of_lt hi], rfl⟩
    rw [List.singleton_append, ← List.drop_eq_getElem_cons hi, List.take_append_drop]

theorem standsAt_append_iff {u v : List Char} : StandsAt s (u ++ v) i j ↔ ∃ m, StandsAt s u i m ∧ StandsAt s v m j := by
  constructor
  · rintro ⟨before, behind, rfl, rfl, rfl⟩
    refine ⟨before.length + u.length, ⟨before, v ++ behind, by simp, rfl, rfl⟩, before ++ u, behind, by simp, by simp, ?_⟩
    rw [List.length_append, Nat.add_assoc]
  · rintro ⟨_, ⟨before, behind, rfl, rfl, rfl⟩, before', behind', hs, hm, rfl⟩
    rw [← List.append_assoc] at hs
    obtain ⟨rfl, rfl⟩ := List.append_inj hs (by rw [List.length_append, hm])
    exact ⟨before, behind', by simp, rfl, by rw [List.length_append, Nat.add_assoc]⟩

theorem standsAt_length_iff {word : List Char} : (∃ i, StandsAt s word i s.length) ↔ word <:+ s := by
  constructor
  · rintro ⟨_, before, behind, hs, rfl, hlength⟩
    have hnil : behind = [] := by
      have hsum := congrArg List.length hs
      rw [List.length_append, List.length_append] at hsum
      exact List.eq_nil_of_length_eq_zero (by omega)
    rw [hs, hnil, List.append_nil]
    exact List.suffix_append before word
  · rintro ⟨before, rfl⟩
    exact ⟨before.length, before, [], by rw [List.append_nil], rfl, List.length_append⟩

namespace Expr

/-! ## Languages -/

/-- Whether an expression is without conditions on places. -/
def IsPlaceless {σ τ : Type} : Expr σ τ → Prop
  | empty | one _ => True
  | look _ => False
  | seq a b | alt a b => a.IsPlaceless ∧ b.IsPlaceless
  | group _ e | times e _ _ _ => e.IsPlaceless

theorem isPlaceless_ofList : ∀ {es : List (Expr CharSet Look)}, (∀ e ∈ es, e.IsPlaceless) → (ofList es).IsPlaceless
  | [], _ => trivial
  | [e], h => h e List.mem_cons_self
  | e :: _ :: _, h => ⟨h e List.mem_cons_self, isPlaceless_ofList fun d hd => h d (List.mem_cons_of_mem _ hd)⟩

/-- **The words of an expression** without conditions on places. -/
def Says : Expr CharSet Look → List Char → Prop
  | empty, word => word = []
  | one set, word => ∃ c, set.has c = true ∧ word = [c]
  | look _, _ => False
  | seq a b, word => ∃ u v, word = u ++ v ∧ a.Says u ∧ b.Says v
  | alt a b, word => a.Says word ∨ b.Says word
  | group _ e, word => e.Says word
  | times e least most _, word => ∃ words : List (List Char), word = words.flatten ∧ least ≤ words.length ∧
      (∀ m, most = some m → words.length ≤ m) ∧ ∀ w ∈ words, e.Says w

theorem repeats_iff_flatten {e : Expr CharSet Look} (he : ∀ {i j}, Spans s e i j ↔ ∃ word, StandsAt s word i j ∧ e.Says word)
    (hj : j ≤ s.length) : ∀ {k i : Nat}, Repeats s e k i j ↔
      ∃ words : List (List Char), words.length = k ∧ StandsAt s words.flatten i j ∧ ∀ w ∈ words, e.Says w
  | 0, i => by
    constructor
    · rintro rfl
      exact ⟨[], rfl, standsAt_nil_iff.2 ⟨rfl, hj⟩, List.forall_mem_nil _⟩
    · rintro ⟨words, hlength, hstands, -⟩
      rw [List.eq_nil_of_length_eq_zero hlength] at hstands
      exact (standsAt_nil_iff.1 hstands).1
  | k + 1, i => by
    constructor
    · rintro ⟨m, hfirst, hrest⟩
      obtain ⟨word, hstand, hword⟩ := he.1 hfirst
      obtain ⟨words, rfl, hwords, hall⟩ := (repeats_iff_flatten he hj).1 hrest
      exact ⟨word :: words, rfl, standsAt_append_iff.2 ⟨m, hstand, hwords⟩, List.forall_mem_cons.2 ⟨hword, hall⟩⟩
    · rintro ⟨words, hlength, hstands, hall⟩
      obtain ⟨word, words, rfl⟩ := List.exists_cons_of_length_eq_add_one hlength
      obtain ⟨hword, hall⟩ := List.forall_mem_cons.1 hall
      obtain ⟨m, hstand, hwords⟩ := standsAt_append_iff.1 hstands
      exact ⟨m, he.2 ⟨word, hstand, hword⟩,
        (repeats_iff_flatten he hj).2 ⟨words, Nat.succ.inj hlength, hwords, hall⟩⟩

/-- **An expression without conditions on places spans the words of its language**, wherever they stand. -/
theorem spans_iff_of_isPlaceless : ∀ {e : Expr CharSet Look}, e.IsPlaceless → ∀ {i j : Nat},
    Spans s e i j ↔ ∃ word, StandsAt s word i j ∧ e.Says word
  | .empty, _, i, j => by
    simp only [Says, exists_eq_right, standsAt_nil_iff]
    constructor
    · rintro ⟨hi⟩
      exact ⟨rfl, hi⟩
    · rintro ⟨rfl, hi⟩
      exact .empty hi
  | .one set, _, i, j => by
    constructor
    · intro hspans
      cases hspans with
      | one hc hset => exact ⟨_, standsAt_singleton_iff.2 ⟨hc, rfl⟩, _, hset, rfl⟩
    · rintro ⟨_, hstands, c, hset, rfl⟩
      obtain ⟨hc, rfl⟩ := standsAt_singleton_iff.1 hstands
      exact .one hc hset
  | .seq a b, h, i, j => by
    constructor
    · intro hspans
      cases hspans with
      | seq hfirst hrest =>
        obtain ⟨u, hu, hword⟩ := (spans_iff_of_isPlaceless h.1).1 hfirst
        obtain ⟨v, hv, hlast⟩ := (spans_iff_of_isPlaceless h.2).1 hrest
        exact ⟨u ++ v, standsAt_append_iff.2 ⟨_, hu, hv⟩, u, v, rfl, hword, hlast⟩
    · rintro ⟨_, hstands, u, v, rfl, hword, hlast⟩
      obtain ⟨m, hu, hv⟩ := standsAt_append_iff.1 hstands
      exact .seq ((spans_iff_of_isPlaceless h.1).2 ⟨u, hu, hword⟩) ((spans_iff_of_isPlaceless h.2).2 ⟨v, hv, hlast⟩)
  | .alt a b, h, i, j => by
    constructor
    · intro hspans
      cases hspans with
      | first ha =>
        obtain ⟨word, hstands, hword⟩ := (spans_iff_of_isPlaceless h.1).1 ha
        exact ⟨word, hstands, .inl hword⟩
      | second hb =>
        obtain ⟨word, hstands, hword⟩ := (spans_iff_of_isPlaceless h.2).1 hb
        exact ⟨word, hstands, .inr hword⟩
    · rintro ⟨word, hstands, hword | hword⟩
      · exact .first ((spans_iff_of_isPlaceless h.1).2 ⟨word, hstands, hword⟩)
      · exact .second ((spans_iff_of_isPlaceless h.2).2 ⟨word, hstands, hword⟩)
  | .group _ e, h, i, j => by
    have hbody : e.IsPlaceless := h
    refine Iff.trans ⟨fun hspans => ?_, .group⟩ (spans_iff_of_isPlaceless hbody)
    cases hspans with
    | group hspans => exact hspans
  | .times e least most greedy, h, i, j => by
    have hbody : e.IsPlaceless := h
    rw [spans_times_iff]
    constructor
    · rintro ⟨hj, k, hleast, hmost, hrepeats⟩
      obtain ⟨words, rfl, hstands, hall⟩ := (repeats_iff_flatten (spans_iff_of_isPlaceless hbody) hj).1 hrepeats
      exact ⟨words.flatten, hstands, words, rfl, hleast, hmost, hall⟩
    · rintro ⟨_, hstands, words, rfl, hleast, hmost, hall⟩
      have hj : j ≤ s.length := by
        obtain ⟨before, behind, rfl, rfl, rfl⟩ := hstands
        simp
      exact ⟨hj, words.length, hleast, hmost, (repeats_iff_flatten (spans_iff_of_isPlaceless hbody) hj).2 ⟨words, rfl, hstands, hall⟩⟩

/-! ## Words that are put together -/

/-- The expressions for the characters of a text. -/
def ofText (text : String) : List (Expr CharSet Look) := text.toList.map fun c => .one (.single c)

variable {e : Expr CharSet Look} {es : List (Expr CharSet Look)} {word : List Char}

theorem says_ofList_cons : (ofList (e :: es)).Says word ↔ ∃ u v, word = u ++ v ∧ e.Says u ∧ (ofList es).Says v := by
  cases es with
  | nil => simp [ofList, Says]
  | cons e' es => rfl

theorem says_ofList_append {es' : List (Expr CharSet Look)} : ∀ {es : List (Expr CharSet Look)} {word : List Char},
    (ofList (es ++ es')).Says word ↔ ∃ u v, word = u ++ v ∧ (ofList es).Says u ∧ (ofList es').Says v
  | [], word => by simp [ofList, Says]
  | e :: es, word => by
    rw [List.cons_append, says_ofList_cons]
    constructor
    · rintro ⟨u, _, rfl, hfirst, hrest⟩
      obtain ⟨v, w, rfl, hv, hw⟩ := says_ofList_append.1 hrest
      exact ⟨u ++ v, w, (List.append_assoc u v w).symm, says_ofList_cons.2 ⟨u, v, rfl, hfirst, hv⟩, hw⟩
    · rintro ⟨_, w, rfl, hfront, hw⟩
      obtain ⟨u, v, rfl, hfirst, hv⟩ := says_ofList_cons.1 hfront
      exact ⟨u, v ++ w, List.append_assoc u v w, hfirst, says_ofList_append.2 ⟨v, w, rfl, hv, hw⟩⟩

theorem says_ofText {text : String} : (ofList (ofText text)).Says word ↔ word = text.toList := by
  rw [ofText]
  generalize text.toList = chars
  induction chars generalizing word with
  | nil => rfl
  | cons c chars ih =>
    rw [List.map_cons, says_ofList_cons]
    simp only [Says, CharSet.has_single, exists_eq_left, ih]
    constructor
    · rintro ⟨_, _, rfl, rfl, rfl⟩
      rfl
    · rintro rfl
      exact ⟨[c], chars, rfl, rfl, rfl⟩

theorem forall_mem_ofText {p : Expr CharSet Look → Prop} {text : String} (h : ∀ set, p (.one set)) :
    ∀ e ∈ ofText text, p e := by
  intro e he
  obtain ⟨c, -, rfl⟩ := List.mem_map.1 he
  exact h _

theorem isOrdered_ofText (text : String) : (ofList (ofText text)).IsOrdered :=
  isOrdered_ofList (forall_mem_ofText fun _ => trivial)

theorem isPlaceless_ofText (text : String) : (ofList (ofText text)).IsPlaceless :=
  isPlaceless_ofList (forall_mem_ofText fun _ => trivial)

theorem says_optional {greedy : Bool} : (times e 0 (some 1) greedy).Says word ↔ word = [] ∨ e.Says word := by
  constructor
  · rintro ⟨words, rfl, -, hmost, hall⟩
    have hlength := hmost 1 rfl
    match words, hlength, hall with
    | [], _, _ => exact .inl rfl
    | [w], _, hall => exact .inr (by simpa using hall)
  · rintro (rfl | h)
    · exact ⟨[], rfl, Nat.zero_le _, fun _ _ => Nat.zero_le _, List.forall_mem_nil _⟩
    · exact ⟨[word], by simp, Nat.zero_le _, by simp, List.forall_mem_singleton.2 h⟩

/-! ## The end of a text -/

theorem spans_textEnd_iff {i j : Nat} : Spans s (.look .textEnd) i j ↔ j = i ∧ i = s.length := by
  constructor
  · intro h
    cases h with
    | look hi hholds =>
      have hle : s.length ≤ i := by simpa [Look.holds] using hholds
      exact ⟨rfl, Nat.le_antisymm hi hle⟩
  · rintro ⟨rfl, rfl⟩
    exact .look (Nat.le_refl _) (by simp [Look.holds])

theorem spans_ofList_ending_iff : ∀ {es : List (Expr CharSet Look)} {i : Nat},
    (∃ j, Spans s (ofList (es ++ [.look .textEnd])) i j) ↔ Spans s (ofList es) i s.length
  | [], i => by
    simp only [List.nil_append, ofList, spans_textEnd_iff, exists_eq_left]
    constructor
    · rintro rfl
      exact .empty (Nat.le_refl _)
    · intro h
      cases h
      rfl
  | e :: es, i => by
    simp only [List.cons_append, spans_ofList_cons]
    constructor
    · rintro ⟨j, m, hfirst, hrest⟩
      exact ⟨m, hfirst, spans_ofList_ending_iff.1 ⟨j, hrest⟩⟩
    · rintro ⟨m, hfirst, hrest⟩
      obtain ⟨j, hrest⟩ := spans_ofList_ending_iff.2 hrest
      exact ⟨j, m, hfirst, hrest⟩

theorem isOrdered_ofList_ending (h : ∀ e ∈ es, e.IsOrdered) : (ofList (es ++ [.look .textEnd])).IsOrdered :=
  isOrdered_ofList (List.forall_mem_append.2 ⟨h, List.forall_mem_singleton.2 trivial⟩)

/-- **With the end of the text behind it, an expression occurs in the texts that end with one of its words.** -/
theorem occursIn_ending_iff (hplaceless : ∀ e ∈ es, e.IsPlaceless) (hordered : ∀ e ∈ es, e.IsOrdered) :
    (ofList (es ++ [.look .textEnd])).occursIn s = true ↔ ∃ word, word <:+ s ∧ (ofList es).Says word := by
  rw [occursIn_iff (isOrdered_ofList_ending hordered)]
  simp only [spans_ofList_ending_iff, spans_iff_of_isPlaceless (isPlaceless_ofList hplaceless), ← standsAt_length_iff]
  constructor
  · rintro ⟨i, word, hstands, hword⟩
    exact ⟨word, ⟨i, hstands⟩, hword⟩
  · rintro ⟨word, ⟨i, hstands⟩, hword⟩
    exact ⟨i, word, hstands, hword⟩

end Expr
end Pattern
end ObjectRelay
