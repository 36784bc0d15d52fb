import ObjectRelay.Yaml.Lexer
import ObjectRelay.Proofs.Yaml.Scalar
/-!
# Directives and tags in a longer text

The readers of directives and tags read the same in a text that goes on with spaces and line ends (`Stable`), and
leave the end of what they are given (`Leaves`).
-/
namespace ObjectRelay.Yaml

variable {w : List Char}

/-! ## Directives and tags -/

/-- A reader that reads the same in a longer text. -/
def Stable {α : Type} (read : List Char → Option (α × List Char)) : Prop :=
  ∀ s w, Trails w → read (s ++ w) = (read s).map fun r => (r.1, r.2 ++ w)

theorem drop_takeWhile_append (p : Char → Bool) (s w : List Char) :
    (s ++ w).drop (s.takeWhile p).length = s.drop (s.takeWhile p).length ++ w :=
  List.drop_append_of_le_length (List.takeWhile_prefix p).length_le

theorem Trails.dropWhile (hw : Trails w) (p : Char → Bool) : Trails (w.dropWhile p) :=
  fun c hc => hw c ((List.dropWhile_suffix p).subset hc)

/-- A reader that refuses the empty text may pass over gaps first. -/
theorem Stable.dropWhile {α : Type} {read : List Char → Option (α × List Char)} (h : Stable read) (hnil : read [] = none)
    (hw : Trails w) (p : Char → Bool) (s : List Char) :
    read ((s ++ w).dropWhile p) = (read (s.dropWhile p)).map fun r => (r.1, r.2 ++ w) := by
  rw [List.dropWhile_append]
  split
  · rename_i hs
    have hempty := h [] _ (hw.dropWhile p)
    rw [List.isEmpty_iff.1 hs, hnil]
    simpa [hnil] using hempty
  · exact h _ w hw

theorem isDigit_of_isLayout (c : Char) (hc : isLayout c = true) : c.isDigit = false := by
  rcases isLayout_iff.1 hc with rfl | rfl | rfl | rfl <;> decide

theorem isNameChar_of_isLayout (c : Char) (hc : isLayout c = true) : isNameChar c = false := by
  rcases isLayout_iff.1 hc with rfl | rfl | rfl | rfl <;> decide

theorem stable_readNumber? : Stable readNumber? := by
  intro s w hw
  simp only [readNumber?, takeWhile_append_of_trails hw isDigit_of_isLayout, drop_takeWhile_append]
  split <;> rfl

theorem stable_readVersion? : Stable readVersion? := by
  intro s w hw
  simp only [readVersion?, stable_readNumber? s w hw]
  cases readNumber? s with
  | none => rfl
  | some r =>
    obtain ⟨major, s⟩ := r
    cases s with
    | nil =>
      obtain rfl | ⟨v, rfl | rfl | rfl | rfl⟩ := hw.first <;> rfl
    | cons c s =>
      by_cases hc : c = '.'
      · subst hc
        change (readNumber? (s ++ w) >>= _) = Option.map _ (readNumber? s >>= _)
        rw [stable_readNumber? s w hw]
        cases readNumber? s <;> rfl
      · simp [hc]

theorem stable_readTagHandle? : Stable readTagHandle? := by
  intro s w hw
  cases s with
  | nil =>
    obtain rfl | ⟨v, rfl | rfl | rfl | rfl⟩ := hw.first <;> rfl
  | cons c s =>
    by_cases hc : c = '!'
    · subst hc
      simp only [List.cons_append, readTagHandle?, takeWhile_append_of_trails hw isNameChar_of_isLayout,
        drop_takeWhile_append]
      cases s.drop (s.takeWhile isNameChar).length with
      | nil =>
        obtain rfl | ⟨v, rfl | rfl | rfl | rfl⟩ := hw.first <;> rfl
      | cons d s =>
        by_cases hd : d = '!'
        · subst hd; rfl
        · simp [hd]
    · simp [readTagHandle?, hc]

theorem stable_readTagText? (isWhole : Bool) : Stable (readTagText? isWhole) := by
  intro s w hw
  have hbelongs (c : Char) (hc : isLayout c = true) : (isNameChar c || ";/?:@&=+$.!~*'()%".toList.contains c ||
      (isWhole && ",[]".toList.contains c)) = false := by
    rcases isLayout_iff.1 hc with rfl | rfl | rfl | rfl <;> cases isWhole <;> decide
  simp only [readTagText?, takeWhile_append_of_trails hw hbelongs, drop_takeWhile_append]
  generalize Utf8.decodeChars? _ = text
  cases text with
  | none => rfl
  | some text =>
    simp only [Option.bind_eq_bind, Option.bind_some]
    split <;> rfl

/-- The beginning of the tags that a handle abbreviates. -/
def readHandleText? (name s : List Char) : Option (Token × List Char) := (readTagText? true s).bind fun r =>
  if r.1.isEmpty || !atWordEnd r.2 then none else some (.handle name r.1, r.2)

theorem stable_readHandleText? (name : List Char) : Stable (readHandleText? name) := by
  intro s w hw
  rw [readHandleText?, readHandleText?, stable_readTagText? true s w hw]
  cases readTagText? true s with
  | none => rfl
  | some r =>
    simp only [Option.map_some, Option.bind_some, atWordEnd_append hw]
    split <;> rfl

theorem readHandle?_eq (s : List Char) : readHandle? s = (readTagHandle? s).bind fun r =>
    if r.1.getLast? != some '!' || !r.2.head?.any isGap then none else readHandleText? r.1 (r.2.dropWhile isGap) := rfl

theorem stable_readHandle? : Stable readHandle? := by
  intro s w hw
  rw [readHandle?_eq, readHandle?_eq, stable_readTagHandle? s w hw]
  cases readTagHandle? s with
  | none => rfl
  | some r =>
    obtain ⟨name, s⟩ := r
    have htext := (stable_readHandleText? name).dropWhile rfl hw isGap s
    simp only [Option.map_some, Option.bind_some, htext]
    cases s with
    | cons c s =>
      rw [List.cons_append, List.head?_cons, List.head?_cons]
      split <;> rfl
    | nil =>
      have hnone : readHandleText? name ([].dropWhile isGap) = none := rfl
      simp only [hnone]
      split <;> split <;> rfl

/-- A tag between angle brackets, behind the opening one. -/
def readWholeTag? (s : List Char) : Option (Token × List Char) := (readTagText? true s).bind fun r =>
  match r.2 with
  | '>' :: s => if r.1.isEmpty then none else some (.tag [] r.1, s)
  | _ => none

/-- A tag that a handle abbreviates, if it has one. -/
def readShortTag? (s : List Char) : Option (Token × List Char) :=
  (readTagHandle? s).bind fun h => (readTagText? false h.2).bind fun r =>
    if 1 < h.1.length && h.1.getLast? == some '!' then
      if r.1.isEmpty then none else some (.tag h.1 r.1, r.2)
    else
      match h.1.drop 1 ++ r.1 with
      | [] => some (.tag [] ['!'], r.2)
      | text => some (.tag ['!'] text, r.2)

/-- Whether a tag stands between angle brackets. -/
def isWholeTag (s : List Char) : Bool := s.take 2 == ['!', '<']

theorem readTag?_eq (s : List Char) :
    readTag? s = if isWholeTag s then readWholeTag? (s.drop 2) else readShortTag? s := by
  unfold readTag?
  split
  · rfl
  · rename_i hshort
    have hs : isWholeTag s = false := by
      match s with
      | [] | [_] => simp [isWholeTag]
      | a :: b :: s =>
        have hab : ¬(a = '!' ∧ b = '<') := fun h => hshort s (by rw [h.1, h.2])
        simpa [isWholeTag] using hab
    rw [hs]
    rfl

theorem isWholeTag_append (hw : Trails w) (s : List Char) : isWholeTag (s ++ w) = isWholeTag s := by
  match s with
  | a :: b :: s => rfl
  | [] | [_] =>
    obtain rfl | ⟨v, rfl | rfl | rfl | rfl⟩ := hw.first <;> simp [isWholeTag]

theorem stable_readWholeTag? : Stable readWholeTag? := by
  intro s w hw
  rw [readWholeTag?, readWholeTag?, stable_readTagText? true s w hw]
  cases readTagText? true s with
  | none => rfl
  | some r =>
    obtain ⟨text, s⟩ := r
    simp only [Option.map_some, Option.bind_some]
    cases s with
    | nil =>
      obtain rfl | ⟨v, rfl | rfl | rfl | rfl⟩ := hw.first <;> rfl
    | cons c s =>
      by_cases hc : c = '>'
      · subst hc
        simp only [List.cons_append]
        split <;> rfl
      · simp [hc]

theorem stable_readShortTag? : Stable readShortTag? := by
  intro s w hw
  rw [readShortTag?, readShortTag?, stable_readTagHandle? s w hw]
  cases readTagHandle? s with
  | none => rfl
  | some h =>
    simp only [Option.map_some, Option.bind_some, stable_readTagText? false h.2 w hw]
    cases readTagText? false h.2 with
    | none => rfl
    | some r =>
      simp only [Option.map_some, Option.bind_some]
      split
      · split <;> rfl
      · cases h.1.drop 1 ++ r.1 <;> rfl

theorem stable_readTag? : Stable readTag? := by
  intro s w hw
  rw [readTag?_eq, readTag?_eq, isWholeTag_append hw]
  cases h : isWholeTag s with
  | false => exact stable_readShortTag? s w hw
  | true =>
    have hlength : 2 ≤ s.length := by
      rw [isWholeTag, beq_iff_eq] at h
      have htake := congrArg List.length h
      rw [List.length_take] at htake
      simp at htake
      omega
    simp only [if_true, List.drop_append_of_le_length hlength]
    exact stable_readWholeTag? (s.drop 2) w hw

/-- What a directive with a name says. -/
def readDirective? (s : List Char) : Option (Token × List Char) :=
  let name := s.takeWhile isNameChar
  let s := s.drop name.length
  if !atWordEnd s then none
  else if name == "YAML".toList then readVersion? (s.dropWhile isGap)
  else if name == "TAG".toList then readHandle? (s.dropWhile isGap)
  else none

theorem stable_readDirective? : Stable readDirective? := by
  intro s w hw
  simp only [readDirective?, takeWhile_append_of_trails hw isNameChar_of_isLayout, drop_takeWhile_append,
    atWordEnd_append hw, stable_readVersion?.dropWhile rfl hw, stable_readHandle?.dropWhile rfl hw]
  split_ifs <;> rfl

/-! ## What directives and tags leave -/

theorem Leaves.mono {α : Type} {rest : α → List Char} {s t : List Char} {x : Option α} (h : Leaves rest s x)
    (hs : s <:+ t) : Leaves rest t x := fun a ha => (h a ha).trans hs

theorem readNumber?_leaves (s : List Char) : Leaves Prod.snd s (readNumber? s) :=
  .ite leaves_none (leaves_some (List.drop_suffix _ _))

theorem readVersion?_leaves (s : List Char) : Leaves Prod.snd s (readVersion? s) := by
  refine (readNumber?_leaves s).bind fun r => ?_
  obtain ⟨major, s⟩ := r
  simp only
  split
  · refine Leaves.cons ?_ '.'
    exact (readNumber?_leaves _).bind fun r => leaves_some List.suffix_rfl
  · exact leaves_none

theorem readTagHandle?_leaves (c : Char) (s : List Char) : Leaves Prod.snd s (readTagHandle? (c :: s)) := by
  by_cases hc : c = '!'
  · subst hc
    have hdrop : s.drop (s.takeWhile isNameChar).length <:+ s := List.drop_suffix _ _
    simp only [readTagHandle?]
    split
    · rename_i heq
      rw [heq] at hdrop
      exact leaves_some ((List.suffix_cons _ _).trans hdrop)
    · exact leaves_some hdrop
  · simpa [readTagHandle?, hc] using leaves_none

theorem readTagText?_leaves (isWhole : Bool) (s : List Char) : Leaves Prod.snd s (readTagText? isWhole s) := by
  intro r h
  obtain ⟨text, -, h⟩ := Option.bind_eq_some_iff.1 h
  split_ifs at h
  cases h
  exact List.drop_suffix _ _

theorem readHandle?_leaves (s : List Char) : Leaves Prod.snd s (readHandle? s) := by
  have hhandle : Leaves Prod.snd s (readTagHandle? s) := by
    cases s with
    | nil => exact leaves_none
    | cons c s => exact (readTagHandle?_leaves c s).cons c
  refine hhandle.bind fun r => .ite leaves_none ?_
  refine Leaves.mono ?_ (List.dropWhile_suffix isGap)
  exact (readTagText?_leaves true _).bind fun r => .ite leaves_none (leaves_some List.suffix_rfl)

/-- A tag takes a character or more. -/
theorem readTag?_leaves (c : Char) (s : List Char) : Leaves Prod.snd s (readTag? (c :: s)) := by
  rw [readTag?_eq]
  refine .ite ?_ ?_
  · refine Leaves.mono ?_ (List.drop_suffix 1 s)
    refine (readTagText?_leaves true _).bind fun r => ?_
    obtain ⟨text, s⟩ := r
    simp only
    split
    · exact .ite leaves_none (leaves_some (List.suffix_cons _ _))
    · exact leaves_none
  · refine (readTagHandle?_leaves c s).bind fun h => (readTagText?_leaves false h.2).bind fun r => ?_
    refine .ite (.ite leaves_none (leaves_some List.suffix_rfl)) ?_
    split <;> exact leaves_some List.suffix_rfl

theorem readDirective?_leaves (s : List Char) : Leaves Prod.snd s (readDirective? s) := by
  have hgaps : (s.drop (s.takeWhile isNameChar).length).dropWhile isGap <:+ s :=
    (List.dropWhile_suffix _).trans (List.drop_suffix _ _)
  exact .ite leaves_none <| .ite ((readVersion?_leaves _).mono hgaps) <| .ite ((readHandle?_leaves _).mono hgaps)
    leaves_none

end ObjectRelay.Yaml
