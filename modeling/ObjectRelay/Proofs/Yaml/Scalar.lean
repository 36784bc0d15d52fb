import ObjectRelay.Yaml.Scalar
import Mathlib.Tactic.SplitIfs
/-!
# Scalars in a longer text

A text may have lines in front of it, and spaces and line ends behind it.  The readers of scalars look at columns and
at differences of places only, and at most at a word behind the text that they read, so they read the same in the
longer text; only a block scalar may notice that more line ends follow.
-/
namespace ObjectRelay.Yaml

/-! ## Spaces and line ends -/

/-- A space or a line end. -/
def isLayout (c : Char) : Bool := c == ' ' || isBreak c

/-- White space that may follow a text: spaces and line ends. -/
def Trails (w : List Char) : Prop := ∀ c ∈ w, isLayout c = true

theorem Trails.tail {c : Char} {w : List Char} (h : Trails (c :: w)) : Trails w := fun d hd => h d (List.mem_cons_of_mem _ hd)

theorem Trails.head {c : Char} {w : List Char} (h : Trails (c :: w)) : c = ' ' ∨ isBreak c = true := by
  simpa [isLayout] using h c List.mem_cons_self

theorem isLayout_iff {c : Char} : isLayout c = true ↔ c = ' ' ∨ c = '\n' ∨ c = '\u2028' ∨ c = '\u2029' := by
  simp [isLayout, isBreak, or_assoc]

theorem Trails.first {w : List Char} (h : Trails w) :
    w = [] ∨ ∃ v, w = ' ' :: v ∨ w = '\n' :: v ∨ w = '\u2028' :: v ∨ w = '\u2029' :: v := by
  cases w with
  | nil => exact .inl rfl
  | cons c v =>
    refine .inr ⟨v, ?_⟩
    rcases isLayout_iff.1 (h c List.mem_cons_self) with rfl | rfl | rfl | rfl <;> simp

/-- A test that spaces and line ends do not pass does not look behind a text. -/
theorem head?_any_append {s w : List Char} (hw : Trails w) {p : Char → Bool} (hp : ∀ c, isLayout c = true → p c = false) :
    (s ++ w).head?.any p = s.head?.any p := by
  cases s with
  | cons c s => rfl
  | nil =>
    cases w with
    | nil => rfl
    | cons c w => exact hp c (hw c List.mem_cons_self)

theorem takeWhile_append_of_trails {s w : List Char} (hw : Trails w) {p : Char → Bool}
    (hp : ∀ c, isLayout c = true → p c = false) : (s ++ w).takeWhile p = s.takeWhile p := by
  induction s with
  | nil =>
    cases w with
    | nil => rfl
    | cons c w => rw [List.nil_append, List.takeWhile_cons, hp c (hw c List.mem_cons_self)]; rfl
  | cons c s ih => rw [List.cons_append, List.takeWhile_cons, List.takeWhile_cons, ih]

theorem atWordEnd_append {s w : List Char} (hw : Trails w) : atWordEnd (s ++ w) = atWordEnd s := by
  cases s with
  | cons c s => rfl
  | nil =>
    cases w with
    | nil => rfl
    | cons c w => rcases hw.head with rfl | hc <;> simp [atWordEnd, isGap, *]

/-- Two readers that ask the same question are related if their answers are. -/
theorem rel_ite_of {α β : Type} {R : α → β → Prop} {a a' : Prop} [Decidable a] [Decidable a'] {x y : α} {x' y' : β}
    (h : a' ↔ a) (hx : a → R x x') (hy : R y y') : R (if a then x else y) (if a' then x' else y') := by
  by_cases ha : a
  · rw [if_pos ha, if_pos (h.2 ha)]
    exact hx ha
  · rwa [if_neg ha, if_neg (mt h.1 ha)]

theorem rel_ite {α β : Type} {R : α → β → Prop} {a a' : Prop} [Decidable a] [Decidable a'] {x y : α} {x' y' : β}
    (h : a' ↔ a) (hx : R x x') (hy : R y y') : R (if a then x else y) (if a' then x' else y') :=
  rel_ite_of h (fun _ => hx) hy

/-! ## Places behind more lines -/

/-- The place in a text with `chars` more characters and `lines` more lines in front. -/
def Place.later (chars lines : Nat) (p : Place) : Place := ⟨p.index + chars, p.line + lines, p.column⟩

/-- What a scanned scalar is in a text that goes on with `w`. -/
def Scanned.carry (chars lines : Nat) (w : List Char) (scanned : Scanned) : Scanned :=
  { scanned with rest := scanned.rest ++ w, place := scanned.place.later chars lines }

section Carry

variable {chars lines : Nat} {w : List Char}

@[simp] theorem Place.column_later (p : Place) : (p.later chars lines).column = p.column := rfl

@[simp] theorem Place.next_later (p : Place) (c : Char) : (p.later chars lines).next c = (p.next c).later chars lines := by
  rw [Place.next, Place.next]
  split <;> simp [Place.later, Nat.add_right_comm]

@[simp] theorem Place.behind_later (s : List Char) (p : Place) :
    (p.later chars lines).behind s = (p.behind s).later chars lines := by
  induction s generalizing p with
  | nil => rfl
  | cons c s ih =>
    rw [Place.behind, Place.behind, List.foldl_cons, List.foldl_cons, Place.next_later]
    exact ih (p.next c)

theorem atDocumentMark_eq (p : Place) (s : List Char) : atDocumentMark p s =
    ((s.take 3 == ['-', '-', '-'] || s.take 3 == ['.', '.', '.']) && p.column == 0 && atWordEnd (s.drop 3)) := by
  unfold atDocumentMark
  split
  · simp
  · simp
  · rename_i hdash hdot
    match s with
    | [] | [_] | [_, _] => simp
    | a :: b :: c :: s =>
      have h1 : ¬(a = '-' ∧ b = '-' ∧ c = '-') := fun h => hdash s (by simp [h])
      have h2 : ¬(a = '.' ∧ b = '.' ∧ c = '.') := fun h => hdot s (by simp [h])
      simp [h1, h2]

theorem atDocumentMark_append (hw : Trails w) (p : Place) (s : List Char) :
    atDocumentMark (p.later chars lines) (s ++ w) = atDocumentMark p s := by
  rw [atDocumentMark_eq, atDocumentMark_eq, Place.column_later]
  match s with
  | a :: b :: c :: s => simp [atWordEnd_append hw]
  | [] | [_] | [_, _] =>
    -- the mark would have to go on behind the text
    cases w with
    | nil => rfl
    | cons d w =>
      have hd : d ≠ '-' ∧ d ≠ '.' := by
        rcases isLayout_iff.1 (hw d List.mem_cons_self) with rfl | rfl | rfl | rfl <;> decide
      simp [hd.1, hd.2]

/-! ## Plain scalars -/

/-- The scalar has taken the white space behind the text with it. -/
def Scanned.Ended (scanned scanned' : Scanned) : Prop :=
  scanned.rest = [] ∧ scanned'.rest = [] ∧ scanned'.text = scanned.text

/-- What a reader makes of a text, and what it makes of the text in a longer one: it refuses both, or stops at the
same place, or reaches the end of both. -/
inductive Follows {α : Type} (carry : α → α) (Ended : α → α → Prop) : Option α → Option α → Prop where
  | refused : Follows carry Ended none none
  | carried (a : α) : Follows carry Ended (some a) (some (carry a))
  | ended {a a' : α} (h : Ended a a') : Follows carry Ended (some a) (some a')

variable (inFlow : Bool) (margin : Nat)

theorem readPlain_trails (hw : Trails w) (text : List Char) (p : Place) (gap : Gap) : ∃ p' broken,
    readPlain inFlow margin w p text gap = some ⟨text.reverse, [], p', broken⟩ := by
  induction w generalizing p gap with
  | nil => exact ⟨p, gap.broken, rfl⟩
  | cons c w ih =>
    obtain ⟨p', broken, h⟩ := ih hw.tail (p.next c) (gap.add c)
    refine ⟨p', broken, ?_⟩
    have hgap : (isGap c || isBreak c) = true := by rcases hw.head with rfl | hc <;> simp [isGap, *]
    have htab : (c == '\t') = false := by
      rcases hw.head with rfl | hc
      · rfl
      · exact beq_false_of_ne fun heq => by subst heq; exact absurd hc (by decide)
    simp only [readPlain, hgap, if_true, htab, Bool.and_false, Bool.false_eq_true, if_false, h]

theorem readPlain_follows (hw : Trails w) (s : List Char) (p : Place) (text : List Char) (gap : Gap) :
    Follows (Scanned.carry chars lines w) Scanned.Ended (readPlain inFlow margin s p text gap)
      (readPlain inFlow margin (s ++ w) (p.later chars lines) text gap) := by
  induction s generalizing p text gap with
  | nil =>
    obtain ⟨p', broken, h⟩ := readPlain_trails inFlow margin hw text (p.later chars lines) gap
    rw [List.nil_append, h]
    exact .ended ⟨rfl, rfl, rfl⟩
  | cons c s ih =>
    have hmark : atDocumentMark (p.later chars lines) (c :: s ++ w) = atDocumentMark p (c :: s) :=
      atDocumentMark_append hw p (c :: s)
    have hflow : ((s ++ w).head?.any fun d => isFlowIndicator d || d == '?') =
        s.head?.any fun d => isFlowIndicator d || d == '?' := head?_any_append hw fun d hd => by
      rcases isLayout_iff.1 hd with rfl | rfl | rfl | rfl <;> decide
    rw [List.cons_append] at hmark ⊢
    simp only [readPlain, Place.next_later, hmark, hflow, atWordEnd_append hw]
    exact rel_ite .rfl (rel_ite .rfl .refused (ih _ _ _)) <| rel_ite .rfl (.carried (Scanned.mk _ _ _ _)) <|
      rel_ite .rfl .refused <| rel_ite .rfl (.carried (Scanned.mk _ _ _ _)) (ih _ _ _)

/-! ## Quoted scalars -/

variable (isDouble : Bool)

theorem readQuoted_text_trails (hw : Trails w) (p : Place) (text : List Char) (gap : Gap) :
    readQuoted isDouble w p .text text gap = none := by
  induction w generalizing p gap with
  | nil => rfl
  | cons c w ih =>
    have hgap : (isGap c || isBreak c) = true := by rcases hw.head with rfl | hc <;> simp [isGap, *]
    rw [readQuoted, if_pos hgap, ih hw.tail]

/-- White space does not end a quoted scalar. -/
theorem readQuoted_trails (hw : Trails w) (p : Place) (mode : QuoteMode) (text : List Char) (gap : Gap) :
    Follows (Scanned.carry chars lines w) Scanned.Ended (readQuoted isDouble [] p mode text gap)
      (readQuoted isDouble w (p.later chars lines) mode text gap) := by
  cases w with
  | nil => cases mode <;> first | exact .refused | exact .carried (Scanned.mk _ _ _ _)
  | cons c w =>
    cases mode with
    | text =>
      rw [readQuoted_text_trails isDouble hw]
      exact .refused
    | quote =>
      have hquote : (c == '\'') = false := by
        rcases isLayout_iff.1 (hw c List.mem_cons_self) with rfl | rfl | rfl | rfl <;> decide
      simp only [readQuoted, hquote]
      exact .carried (Scanned.mk _ _ _ _)
    | escape =>
      rcases hw.head with rfl | hc
      · simp only [readQuoted, escaped?, readQuoted_text_trails isDouble hw.tail]
        exact .refused
      · simp only [readQuoted, hc, if_true, readQuoted_text_trails isDouble hw.tail]
        exact .refused
    | digits missing value =>
      have hdigit : Ranges.hexDigit? c = none := by
        rcases isLayout_iff.1 (hw c List.mem_cons_self) with rfl | rfl | rfl | rfl <;> decide
      simp only [readQuoted, hdigit]
      exact .refused

theorem readQuoted_follows (hw : Trails w) (s : List Char) (p : Place) (mode : QuoteMode) (text : List Char) (gap : Gap) :
    Follows (Scanned.carry chars lines w) Scanned.Ended (readQuoted isDouble s p mode text gap)
      (readQuoted isDouble (s ++ w) (p.later chars lines) mode text gap) := by
  induction s generalizing p mode text gap with
  | nil => exact readQuoted_trails isDouble hw p mode text gap
  | cons c s ih =>
    cases mode with
    | text =>
      have hmark : atDocumentMark (p.later chars lines) (c :: s ++ w) = atDocumentMark p (c :: s) :=
        atDocumentMark_append hw p (c :: s)
      rw [List.cons_append] at hmark ⊢
      simp only [readQuoted, Place.next_later, hmark]
      exact rel_ite .rfl (ih _ _ _ _) <| rel_ite .rfl .refused <| rel_ite .rfl (.carried (Scanned.mk _ _ _ _)) <|
        rel_ite .rfl (ih _ _ _ _) <| rel_ite .rfl (ih _ _ _ _) (ih _ _ _ _)
    | quote =>
      simp only [List.cons_append, readQuoted, Place.next_later]
      exact rel_ite .rfl (ih _ _ _ _) (.carried (Scanned.mk _ _ _ _))
    | escape =>
      simp only [List.cons_append, readQuoted, Place.next_later]
      refine rel_ite .rfl (ih _ _ _ _) ?_
      cases escaped? c with
      | some d => exact ih _ _ _ _
      | none =>
        cases escapeDigits? c with
        | some n => exact ih _ _ _ _
        | none => exact .refused
    | digits missing value =>
      simp only [List.cons_append, readQuoted, Place.next_later]
      cases Ranges.hexDigit? c with
      | none => exact .refused
      | some d =>
        exact rel_ite .rfl (ih _ _ _ _) (rel_ite .rfl (ih _ _ _ _) .refused)

/-! ## Block scalars -/

theorem readChomping_append (hw : Trails w) (s : List Char) :
    readChomping (s ++ w) = ((readChomping s).1, (readChomping s).2 ++ w) := by
  cases s with
  | nil =>
    obtain rfl | ⟨v, rfl | rfl | rfl | rfl⟩ := hw.first <;> rfl
  | cons c s =>
    by_cases hplus : c = '+'
    · subst hplus; rfl
    · by_cases hminus : c = '-'
      · subst hminus; rfl
      · simp [readChomping, hplus, hminus]

theorem readStep?_append (hw : Trails w) (s : List Char) :
    readStep? (s ++ w) = (readStep? s).map fun r => (r.1, r.2 ++ w) := by
  cases s with
  | nil =>
    obtain rfl | ⟨v, rfl | rfl | rfl | rfl⟩ := hw.first <;> rfl
  | cons c s =>
    simp only [List.cons_append, readStep?]
    split_ifs <;> rfl

theorem readBlockHeader?_append (hw : Trails w) (s : List Char) :
    readBlockHeader? (s ++ w) = (readBlockHeader? s).map fun r => (r.1, r.2.1, r.2.2 ++ w) := by
  rw [readBlockHeader?, readBlockHeader?, readChomping_append hw]
  obtain ⟨chomping, rest⟩ := readChomping s
  cases chomping with
  | some chomping => simp only [readStep?_append hw, Option.map_map]; rfl
  | none =>
    simp only [readStep?_append hw, Option.map_map]
    cases readStep? rest with
    | none => rfl
    | some r =>
      obtain ⟨step, rest⟩ := r
      simp only [Option.map_some, Function.comp_apply, readChomping_append hw]
      split_ifs
      · rfl
      · obtain ⟨_ | chomping, rest⟩ := readChomping rest <;> rfl

/-- The line end behind a text has been passed, or the white space behind it up to some place. -/
def LineEnded (r r' : List Char × Place) : Prop := r.1 = [] ∧ Trails r'.1

theorem skipLineEnd?_trails (hw : Trails w) (inComment : Bool) (p : Place) :
    ∃ r, skipLineEnd? inComment w p = some r ∧ Trails r.1 := by
  induction w generalizing p with
  | nil => exact ⟨([], p), rfl, nofun⟩
  | cons c w ih =>
    rw [skipLineEnd?]
    rcases hw.head with rfl | hc
    · simpa [isBreak, isGap] using ih hw.tail _
    · exact ⟨_, if_pos hc, hw.tail⟩

theorem skipLineEnd?_follows (hw : Trails w) (inComment : Bool) (s : List Char) (p : Place) :
    Follows (fun r => (r.1 ++ w, r.2.later chars lines)) LineEnded (skipLineEnd? inComment s p)
      (skipLineEnd? inComment (s ++ w) (p.later chars lines)) := by
  induction s generalizing inComment p with
  | nil =>
    obtain ⟨r, h, hr⟩ := skipLineEnd?_trails hw inComment (p.later chars lines)
    rw [List.nil_append, h]
    exact .ended ⟨rfl, hr⟩
  | cons c s ih =>
    simp only [List.cons_append, skipLineEnd?, Place.next_later]
    exact rel_ite .rfl (.carried (s, p.next c)) <| rel_ite .rfl (ih _ _) <| rel_ite .rfl (ih _ _) .refused

/-- What a reader makes of a text that it does not read to the end, and what it makes of the text in a longer one. -/
def FollowsWithin {α : Type} (rest : α → List Char) (carry : α → α) (x y : Option α) : Prop :=
  (∀ a, x = some a → rest a ≠ []) → y = x.map carry

theorem findIndent?_follows (s : List Char) (p : Place) (greatest : Nat) (breaks : List Char) :
    FollowsWithin (·.2.2.1) (fun r => (r.1, r.2.1, r.2.2.1 ++ w, r.2.2.2.later chars lines))
      (findIndent? s p greatest breaks) (findIndent? (s ++ w) (p.later chars lines) greatest breaks) := by
  induction s generalizing p greatest breaks with
  | nil => exact fun h => absurd rfl (h _ rfl)
  | cons c s ih =>
    simp only [List.cons_append, findIndent?, Place.next_later]
    exact rel_ite .rfl (ih _ _ _) <| rel_ite .rfl (fun _ => rfl) <| rel_ite .rfl (ih _ _ _) fun _ => rfl

theorem readBlock_follows (isFolded : Bool) (indent : Nat) (s : List Char) (p : Place) (inLine : Bool) (b : BlockScan) :
    FollowsWithin (·.2.1) (fun r => (r.1, r.2.1 ++ w, r.2.2.later chars lines))
      (readBlock isFolded indent s p inLine b) (readBlock isFolded indent (s ++ w) (p.later chars lines) inLine b) := by
  induction s generalizing p inLine b with
  | nil => exact fun h => absurd rfl (h (b, [], p) (by cases inLine <;> rfl))
  | cons c s ih =>
    cases inLine with
    | true =>
      simp only [List.cons_append, readBlock, Place.next_later]
      exact rel_ite .rfl (ih _ _ _) (ih _ _ _)
    | false =>
      simp only [List.cons_append, readBlock, Place.next_later]
      exact rel_ite .rfl (ih _ _ _) <| rel_ite .rfl (fun _ => rfl) <| rel_ite .rfl (ih _ _ _) <|
        rel_ite .rfl (ih _ _ _) fun _ => rfl

/-- Reads the lines of a block scalar, which are indented by `step` or as its first line is. -/
def readLines (isFolded : Bool) (margin step : Nat) (s : List Char) (p : Place) :
    Option (BlockScan × List Char × Place) :=
  if step == 0 then (findIndent? s p 0 []).bind fun r =>
    readBlock isFolded ((r.1.max margin).max 1) r.2.2.1 r.2.2.2 false { more := r.2.1 }
  else readBlock isFolded (margin - 1 + step) s p false {}

/-- What is kept of the line ends behind a block scalar, and its text. -/
def BlockScan.scanned (chomping : Chomping) (r : BlockScan × List Char × Place) : Scanned :=
  let kept := match chomping with
    | .strip => []
    | .clip => r.1.first.toList
    | .keep => r.1.more ++ r.1.first.toList
  ⟨(kept ++ r.1.text).reverse, r.2.1, r.2.2, false⟩

theorem readBlockScalar_eq (isFolded : Bool) (s : List Char) (p : Place) : readBlockScalar isFolded margin s p =
    (readBlockHeader? s).bind fun header => (skipLineEnd? false header.2.2 p).bind fun line =>
      (readLines isFolded margin header.2.1 line.1 line.2).map (BlockScan.scanned header.1) := by
  rw [readBlockScalar]
  cases readBlockHeader? s with
  | none => rfl
  | some header =>
    obtain ⟨chomping, step, s⟩ := header
    simp only [Option.bind_eq_bind, Option.bind_some, readLines]
    cases skipLineEnd? false s p with
    | none => rfl
    | some line =>
      simp only [Option.bind_some]
      by_cases hstep : (step == 0) = true
      · simp only [if_pos hstep]
        cases findIndent? line.1 line.2 0 [] with
        | none => rfl
        | some r =>
          simp only [Option.bind_some]
          cases readBlock isFolded ((r.1.max margin).max 1) r.2.2.1 r.2.2.2 false { more := r.2.1 } <;> rfl
      · simp only [if_neg hstep]
        cases readBlock isFolded (margin - 1 + step) line.1 line.2 false {} <;> rfl

theorem readBlock_nil (isFolded : Bool) (indent : Nat) (p : Place) (inLine : Bool) (b : BlockScan) :
    readBlock isFolded indent [] p inLine b = some (b, [], p) := by cases inLine <;> rfl

theorem exists_readLines_nil (isFolded : Bool) (step : Nat) (p : Place) :
    ∃ r, readLines isFolded margin step [] p = some r ∧ r.2.1 = [] := by
  rw [readLines]
  split
  · exact ⟨(_, [], _), by rw [findIndent?, Option.bind_some, readBlock_nil], rfl⟩
  · exact ⟨(_, [], _), readBlock_nil _ _ _ _ _, rfl⟩

theorem readLines_follows (isFolded : Bool) (step : Nat) (s : List Char) (p : Place) :
    FollowsWithin (·.2.1) (fun r => (r.1, r.2.1 ++ w, r.2.2.later chars lines))
      (readLines isFolded margin step s p) (readLines isFolded margin step (s ++ w) (p.later chars lines)) := by
  rw [readLines, readLines]
  refine rel_ite .rfl (fun h => ?_) (readBlock_follows _ _ _ _ _ _)
  have hindent : FollowsWithin _ _ _ (findIndent? (s ++ w) (p.later chars lines) 0 []) := findIndent?_follows s p 0 []
  cases hfound : findIndent? s p 0 [] with
  | none => rw [hindent (by rw [hfound]; nofun), hfound]; rfl
  | some r =>
    rw [hfound, Option.bind_some] at h
    have hrest : r.2.2.1 ≠ [] := fun hnil => by
      rw [hnil, readBlock_nil] at h
      exact h _ rfl rfl
    rw [hindent (by rw [hfound]; rintro _ ⟨⟩; exact hrest), hfound, Option.map_some, Option.bind_some]
    exact readBlock_follows _ _ _ _ _ _ h

/-- **A block scalar that ends before the text does** is the same in a longer text. -/
theorem readBlockScalar_follows (hw : Trails w) (isFolded : Bool) (s : List Char) (p : Place) :
    FollowsWithin (·.rest) (Scanned.carry chars lines w) (readBlockScalar isFolded margin s p)
      (readBlockScalar isFolded margin (s ++ w) (p.later chars lines)) := by
  rw [readBlockScalar_eq, readBlockScalar_eq, readBlockHeader?_append hw]
  cases readBlockHeader? s with
  | none => exact fun _ => rfl
  | some header =>
    obtain ⟨chomping, step, s⟩ := header
    simp only [Option.map_some, Option.bind_some]
    have hline : Follows _ _ _ (skipLineEnd? false (s ++ w) (p.later chars lines)) := skipLineEnd?_follows hw false s p
    generalize skipLineEnd? false s p = line at hline ⊢
    generalize skipLineEnd? false (s ++ w) (p.later chars lines) = line' at hline ⊢
    cases hline with
    | refused => exact fun _ => rfl
    | carried line =>
      intro h
      simp only [Option.bind_some] at h ⊢
      rw [readLines_follows margin isFolded step line.1 line.2 fun r hr => h _ (by rw [hr]; rfl)]
      cases readLines isFolded margin step line.1 line.2 <;> rfl
    | ended hended =>
      intro h
      obtain ⟨r, hr, hnil⟩ := exists_readLines_nil margin isFolded step _
      simp only [Option.bind_some, hended.1] at h
      exact absurd hnil (h _ (by rw [hr]; rfl))

end Carry

/-! ## What is left of a text -/

/-- What a reader leaves is the end of a text. -/
def Leaves {α : Type} (rest : α → List Char) (s : List Char) (x : Option α) : Prop := ∀ a, x = some a → rest a <:+ s

section Leaves

variable {α : Type} {rest : α → List Char} {s : List Char} {x y : Option α}

theorem Leaves.cons (h : Leaves rest s x) (c : Char) : Leaves rest (c :: s) x :=
  fun a ha => (h a ha).trans (List.suffix_cons c s)

theorem leaves_none : Leaves rest s none := nofun

theorem leaves_some {a : α} (h : rest a <:+ s) : Leaves rest s (some a) := by
  rintro _ ⟨⟩
  exact h

theorem Leaves.ite {a : Prop} [Decidable a] (hx : Leaves rest s x) (hy : Leaves rest s y) :
    Leaves rest s (if a then x else y) := by
  split <;> assumption

theorem Leaves.ite_of_not {a : Prop} [Decidable a] (hx : Leaves rest s x) (hy : ¬a → Leaves rest s y) :
    Leaves rest s (if a then x else y) := by
  by_cases ha : a
  · rwa [if_pos ha]
  · rw [if_neg ha]
    exact hy ha

theorem Leaves.bind {β : Type} {rest' : β → List Char} {f : α → Option β} (hx : Leaves rest s x)
    (hf : ∀ a, Leaves rest' (rest a) (f a)) : Leaves rest' s (x.bind f) := by
  intro b hb
  obtain ⟨a, ha, hb⟩ := Option.bind_eq_some_iff.1 hb
  exact (hf a b hb).trans (hx a ha)

theorem Leaves.map {β : Type} {rest' : β → List Char} {f : α → β} (hx : Leaves rest s x)
    (hf : ∀ a, rest' (f a) = rest a) : Leaves rest' s (x.map f) := by
  intro b hb
  obtain ⟨a, ha, rfl⟩ := Option.map_eq_some_iff.1 hb
  rw [hf]
  exact hx a ha

end Leaves

theorem readPlain_leaves (inFlow : Bool) (margin : Nat) (s : List Char) (p : Place) (text : List Char) (gap : Gap) :
    Leaves Scanned.rest s (readPlain inFlow margin s p text gap) := by
  induction s generalizing p text gap with
  | nil => exact leaves_some List.suffix_rfl
  | cons c s ih =>
    rw [readPlain]
    exact .ite (.ite leaves_none ((ih _ _ _).cons c)) <| .ite (leaves_some List.suffix_rfl) <| .ite leaves_none <|
      .ite (leaves_some List.suffix_rfl) ((ih _ _ _).cons c)

/-- A plain scalar takes its first character, unless that begins or ends something else. -/
theorem readPlain_leaves_tail {inFlow : Bool} {c : Char} {s : List Char} (margin : Nat) (p : Place)
    (hc : (c == ':' && atWordEnd s || inFlow && isFlowIndicator c) = false) :
    Leaves Scanned.rest s (readPlain inFlow margin (c :: s) p [] {}) := by
  have hempty : (!({} : Gap).isEmpty) = false := rfl
  simp only [readPlain, hempty, Bool.false_and, Bool.false_eq_true, if_false, hc]
  exact .ite (readPlain_leaves _ _ _ _ _ _) <| .ite leaves_none (readPlain_leaves _ _ _ _ _ _)

theorem readQuoted_leaves (isDouble : Bool) (s : List Char) (p : Place) (mode : QuoteMode) (text : List Char) (gap : Gap) :
    Leaves Scanned.rest s (readQuoted isDouble s p mode text gap) := by
  induction s generalizing p mode text gap with
  | nil => cases mode <;> first | exact leaves_none | exact leaves_some List.suffix_rfl
  | cons c s ih =>
    have hih := fun p mode text gap => (ih p mode text gap).cons c
    cases mode with
    | text =>
      rw [readQuoted]
      exact .ite (hih _ _ _ _) <| .ite leaves_none <| .ite (leaves_some (List.suffix_cons c s)) <|
        .ite (hih _ _ _ _) <| .ite (hih _ _ _ _) (hih _ _ _ _)
    | quote =>
      rw [readQuoted]
      exact .ite (hih _ _ _ _) (leaves_some List.suffix_rfl)
    | escape =>
      rw [readQuoted]
      refine .ite (hih _ _ _ _) ?_
      cases escaped? c with
      | some d => exact hih _ _ _ _
      | none =>
        cases escapeDigits? c with
        | some n => exact hih _ _ _ _
        | none => exact leaves_none
    | digits missing value =>
      rw [readQuoted]
      cases Ranges.hexDigit? c with
      | none => exact leaves_none
      | some d => exact .ite (hih _ _ _ _) (.ite (hih _ _ _ _) leaves_none)

theorem readChomping_suffix (s : List Char) : (readChomping s).2 <:+ s := by
  unfold readChomping
  split
  · exact List.suffix_cons _ _
  · exact List.suffix_cons _ _
  · exact List.suffix_rfl

theorem readStep?_leaves (s : List Char) : Leaves Prod.snd s (readStep? s) := by
  cases s with
  | nil => exact leaves_some List.suffix_rfl
  | cons c s =>
    rw [readStep?]
    exact .ite (leaves_some List.suffix_rfl) <| .ite leaves_none (leaves_some (List.suffix_cons c s))

theorem readBlockHeader?_leaves (s : List Char) : Leaves (·.2.2) s (readBlockHeader? s) := by
  rw [readBlockHeader?]
  have hsuffix := readChomping_suffix s
  generalize readChomping s = r at hsuffix ⊢
  obtain ⟨_ | chomping, s'⟩ := r
  · intro header hheader
    obtain ⟨⟨step, s''⟩, hstep, rfl⟩ := Option.map_eq_some_iff.1 hheader
    have hs'' := (readStep?_leaves s' _ hstep).trans hsuffix
    simp only
    split_ifs
    · exact hs''
    · have hlast := (readChomping_suffix s'').trans hs''
      generalize readChomping s'' = r at hlast ⊢
      obtain ⟨_ | chomping, rest⟩ := r <;> exact hlast
  · intro header hheader
    obtain ⟨r, hstep, rfl⟩ := Option.map_eq_some_iff.1 hheader
    exact (readStep?_leaves s' r hstep).trans hsuffix

theorem skipLineEnd?_leaves (inComment : Bool) (s : List Char) (p : Place) :
    Leaves Prod.fst s (skipLineEnd? inComment s p) := by
  induction s generalizing inComment p with
  | nil => exact leaves_some List.suffix_rfl
  | cons c s ih =>
    rw [skipLineEnd?]
    exact .ite (leaves_some (List.suffix_cons c s)) <| .ite ((ih _ _).cons c) <| .ite ((ih _ _).cons c) leaves_none

theorem findIndent?_leaves (s : List Char) (p : Place) (greatest : Nat) (breaks : List Char) :
    Leaves (·.2.2.1) s (findIndent? s p greatest breaks) := by
  induction s generalizing p greatest breaks with
  | nil => exact leaves_some List.suffix_rfl
  | cons c s ih =>
    rw [findIndent?]
    exact .ite ((ih _ _ _).cons c) <| .ite leaves_none <| .ite ((ih _ _ _).cons c) (leaves_some List.suffix_rfl)

theorem readBlock_leaves (isFolded : Bool) (indent : Nat) (s : List Char) (p : Place) (inLine : Bool) (b : BlockScan) :
    Leaves (·.2.1) s (readBlock isFolded indent s p inLine b) := by
  induction s generalizing p inLine b with
  | nil => rw [readBlock_nil]; exact leaves_some List.suffix_rfl
  | cons c s ih =>
    have hih := fun p inLine b => (ih p inLine b).cons c
    cases inLine with
    | true =>
      rw [readBlock]
      exact .ite (hih _ _ _) (hih _ _ _)
    | false =>
      rw [readBlock]
      exact .ite (hih _ _ _) <| .ite leaves_none <| .ite (hih _ _ _) <| .ite (hih _ _ _) (leaves_some List.suffix_rfl)

theorem readBlockScalar_leaves (isFolded : Bool) (margin : Nat) (s : List Char) (p : Place) :
    Leaves Scanned.rest s (readBlockScalar isFolded margin s p) := by
  rw [readBlockScalar_eq]
  refine (readBlockHeader?_leaves s).bind fun header => (skipLineEnd?_leaves false header.2.2 p).bind fun line => ?_
  have hlines : Leaves (·.2.1) line.1 (readLines isFolded margin header.2.1 line.1 line.2) :=
    .ite ((findIndent?_leaves _ _ _ _).bind fun r => readBlock_leaves _ _ _ _ _ _) (readBlock_leaves _ _ _ _ _ _)
  exact hlines.map fun _ => rfl

end ObjectRelay.Yaml
