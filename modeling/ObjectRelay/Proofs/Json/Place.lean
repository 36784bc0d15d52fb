import ObjectRelay.Proofs.Json.Reading
/-!
# Where a value ends

A shape decides what is read and whether it is refused, but not where one value ends and the next one begins.  Two
readers of one text, each under a shape of its own, stand at the same place of it for as long as neither of them refuses
it (`Reader.step_together`).  So a text that holds one value under some shape gives out at most one value under any
(`Reader.play_of_readFrom`).
-/
namespace ObjectRelay.Json

/-! ## Strings -/

/-- Where the reader of a string stands, whatever becomes of what it reads. -/
inductive StringPlace where
  | plain
  | escape
  /-- Behind this many digits of an escape. -/
  | digits (n : Nat)
deriving DecidableEq

namespace StringPlace

/-- The place behind a byte that belongs to the string. -/
def next : StringPlace → UInt8 → StringPlace
  | plain, b => if b == 0x5C then escape else plain
  | escape, b => if b == 0x75 then digits 0 else plain
  | digits n, _ => if n < 3 then digits (n + 1) else plain

end StringPlace

namespace StringReader

/-- A reader behind the first half of a pair waits for another escape. -/
def place (s : StringReader) : StringPlace := match s.phase with
  | .plain | .half _ => .plain
  | .escape | .halfEscape _ => .escape
  | .digits read | .halfDigits _ read => .digits read.length

variable {s next : StringReader} {b : UInt8}

theorem place_escaped {n : Nat} (h : s.escaped n = .more next) : next.place = .plain := by
  unfold escaped at h
  repeat' split at h
  all_goals cases h
  all_goals rfl

theorem place_paired {high low : Nat} (h : s.paired high low = .more next) : next.place = .plain := by
  unfold paired at h
  split at h <;> cases h
  rfl

/-- A byte that belongs to the string takes the reader to the next place; the closing quote is none. -/
theorem place_of_more (h : s.step b = .more next) :
    next.place = s.place.next b ∧ ¬(s.place = .plain ∧ b = 0x22) := by
  obtain ⟨phase, read, ignored⟩ := s
  cases phase with
  | plain | escape | half | halfEscape =>
    simp only [step] at h
    repeat' split at h
    all_goals cases h
    all_goals simp_all [place, StringPlace.next]
  | digits ds =>
    simp only [step] at h
    repeat' split at h
    · cases h
      simp_all [place, StringPlace.next]
    · rename_i hlen _ _ _
      rw [place_escaped h]
      simp [place, StringPlace.next, hlen]
    · cases h
  | halfDigits high ds =>
    simp only [step] at h
    repeat' split at h
    · cases h
      simp_all [place, StringPlace.next]
    · rename_i hlen _ _ _
      rw [place_paired h]
      simp [place, StringPlace.next, hlen]
    · cases h

/-- Only the closing quote ends a string. -/
theorem place_of_ended {bytes : List UInt8} (h : s.step b = .ended bytes) : s.place = .plain ∧ b = 0x22 := by
  obtain ⟨phase, read, ignored⟩ := s
  cases phase with
  | plain =>
    simp only [step] at h
    repeat' split at h
    all_goals cases h
    rename_i hquote
    exact ⟨rfl, by simpa using hquote⟩
  | _ =>
    simp only [step, escaped, paired] at h
    repeat' split at h
    all_goals cases h

end StringReader

/-! ## Numbers -/

namespace NumberStep

/-- The step of a reader that passes over the number, or of one that does not. -/
def ignoring (ignored : Bool) : NumberStep → NumberStep
  | more r => more { r with ignored }
  | other => other

end NumberStep

namespace NumberReader

theorem appendPower_ignoring (n : NumberReader) (ignored : Bool) (d : Nat) :
    n.appendPower d = .broken ∨ { n with ignored }.appendPower d = .broken ∨
      { n with ignored }.appendPower d = (n.appendPower d).ignoring ignored := by
  simp only [appendPower]
  split
  · exact .inr (.inr rfl)
  · split
    · split
      · exact .inr (.inr rfl)
      · exact .inr (.inl rfl)
    · exact .inl rfl

/-- Whether a number is passed over only matters to an exponent that is too great. -/
theorem step_ignoring (n : NumberReader) (ignored : Bool) (b : UInt8) :
    n.step b = .broken ∨ { n with ignored }.step b = .broken ∨
      { n with ignored }.step b = (n.step b).ignoring ignored := by
  obtain ⟨phase, negative, significand, scale, powerNegative, power, before⟩ := n
  have happend := appendPower_ignoring ⟨phase, negative, significand, scale, powerNegative, power, before⟩ ignored
  cases phase with
  | mark | markSign | power =>
    cases hd : digit? b with
    | some d => simpa only [step, hd] using happend d
    | none =>
      refine .inr (.inr ?_)
      simp only [step, hd]
      repeat' split
      all_goals rfl
  | _ =>
    refine .inr (.inr ?_)
    simp only [step, appendDigit?, afterInteger, afterFraction]
    repeat' split
    all_goals first | rfl | simp_all

/-- A reader that goes on passes over the number as before. -/
theorem ignored_of_more {n next : NumberReader} {b : UInt8} (h : n.step b = .more next) : next.ignored = n.ignored := by
  rcases n.step_ignoring n.ignored b with hbroken | hbroken | hsame
  · rw [h] at hbroken
    cases hbroken
  · rw [show ({ n with ignored := n.ignored } : NumberReader) = n from rfl, h] at hbroken
    cases hbroken
  · rw [show ({ n with ignored := n.ignored } : NumberReader) = n from rfl, h] at hsame
    have heq : next = { next with ignored := n.ignored } := NumberStep.more.inj hsame
    rw [heq]

theorem ignored_of_start? {n : NumberReader} {ignored : Bool} {b : UInt8} (h : start? ignored b = some n) :
    n.ignored = ignored := by
  unfold start? at h
  repeat' split at h
  all_goals cases h
  all_goals rfl

end NumberReader

/-! ## Readers -/

theorem Shape.hasNames_of_open? {s : Shape} {b : UInt8} {frame : Frame} (h : s.open? b = some frame) :
    frame.hasNames = !(b == 0x5B) := by
  unfold Shape.open? at h
  split at h
  · rename_i hb
    split at h <;> cases h
    all_goals rw [hb]; rfl
  · rename_i hb
    rw [Bool.not_eq_true] at hb
    split at h <;> cases h
    all_goals rw [hb]; rfl

@[simp] theorem Frame.hasNames_add (frame : Frame) (v : Json) : (frame.add v).hasNames = frame.hasNames := by
  unfold Frame.add
  repeat' split
  all_goals rfl

theorem Frame.hasNames_of_named {frame next : Frame} {name : String} (h : frame.named name = some next) :
    next.hasNames = frame.hasNames := by
  cases frame with
  | record fields others before done =>
    simp only [Frame.named] at h
    split at h <;> cases h
    rfl
  | _ =>
    cases h
    rfl

/-- Two readers expect the same thing, whatever shape it has. -/
inductive Mode.SamePlace : Mode → Mode → Prop
  | value : SamePlace .value .value
  | opened : SamePlace .opened .opened
  | follow : SamePlace .follow .follow
  | name : SamePlace .name .name
  | colon : SamePlace .colon .colon
  | word (rest : List UInt8) (v v' : Json) : SamePlace (.word rest v) (.word rest v')
  | number (n : NumberReader) (ignored : Bool) : SamePlace (.number n) (.number { n with ignored })
  | string {s s' : StringReader} (isName : Bool) (h : s.place = s'.place) :
    SamePlace (.string s isName) (.string s' isName)
  | ending (v v' : Json) : SamePlace (.ending v) (.ending v')

namespace Reader

/-- Containers of the same kinds, one inside the other. -/
abbrev SameContainers : List Frame → List Frame → Prop :=
  List.Forall₂ fun frame frame' => frame.hasNames = frame'.hasNames

/-- Two readers stand at the same place of a text. -/
structure SamePlace (r r' : Reader) : Prop where
  mode : r.mode.SamePlace r'.mode
  containers : SameContainers r.stack r'.stack

/-- What a byte does to two readers leaves them at the same place, and completes a value for both of them or for
neither, unless it is a fault.  A fault may come right behind a value, and then it is no blank. -/
def Together (s s' : Step) : Prop :=
  match s.2, s'.2 with
  | .ok next, .ok next' => next.SamePlace next' ∧ s.1.isSome = s'.1.isSome
  | .error _, .ok next' => s.1.isSome = true → s'.1.isSome = true ∧ next'.isIdle = false
  | _, .error _ => True

variable {top top' : Shape} {r r' : Reader} {stack stack' : List Frame}

theorem samePlace_start : SamePlace {} {} := ⟨.value, .nil⟩

theorem together_fault (e : Fault) (s' : Step) : Together (fault e) s' := by
  rcases s' with ⟨v?, e | next⟩
  · trivial
  · exact fun h => nomatch h

theorem together_fault_right (s : Step) (e : Fault) : Together s (fault e) := by
  rcases s with ⟨v?, e | next⟩ <;> trivial

theorem together_going (h : r.SamePlace r') : Together (going r) (going r') := ⟨h, rfl⟩

/-- Two readers that look at the same byte decide in the same way. -/
theorem both_ite {R : Step → Step → Prop} {c : Prop} [Decidable c] {s s' t t' : Step} (hc : c → R s s')
    (hnot : ¬c → R t t') : R (if c then s else t) (if c then s' else t') := by
  split
  · exact hc ‹c›
  · exact hnot ‹¬c›

theorem together_deliver (h : SameContainers stack stack') (v v' : Json) :
    Together (deliver stack v) (deliver stack' v') := by
  cases h with
  | nil => exact ⟨samePlace_start, rfl⟩
  | cons hframe hrest => exact together_going ⟨.follow, .cons (by simpa using hframe) hrest⟩

theorem together_closing {frame frame' : Frame} (h : SameContainers stack stack') (b : UInt8) :
    Together (closing frame stack b) (closing frame' stack' b) := by
  unfold closing
  split
  · split
    · exact together_deliver h _ _
    · exact together_fault_right _ _
    · exact together_fault_right _ _
  · exact together_fault _ _
  · exact together_fault _ _

theorem together_word (h : SameContainers stack stack') (rest : List UInt8) (v v' : Json) :
    Together (going ⟨.word rest v, stack⟩) (going ⟨.word rest v', stack'⟩) :=
  together_going ⟨.word rest v v', h⟩

theorem together_string (h : SameContainers stack stack') (ignored ignored' isName : Bool) :
    Together (going ⟨.string { ignored } isName, stack⟩) (going ⟨.string { ignored := ignored' } isName, stack'⟩) :=
  together_going ⟨.string isName rfl, h⟩

theorem start?_ignored (ignored ignored' : Bool) (b : UInt8) :
    NumberReader.start? ignored' b = (NumberReader.start? ignored b).map fun n => { n with ignored := ignored' } := by
  unfold NumberReader.start?
  repeat' split
  all_goals rfl

theorem begin_together (h : SameContainers r.stack r'.stack) (b : UInt8) :
    Together (begin top r b) (begin top' r' b) := by
  unfold begin
  dsimp only
  refine both_ite (fun _ => together_word h _ _ _) fun _ => ?_
  refine both_ite (fun _ => together_word h _ _ _) fun _ => ?_
  refine both_ite (fun _ => together_word h _ _ _) fun _ => ?_
  refine both_ite (fun _ => together_string h _ _ _) fun _ => ?_
  refine both_ite (fun _ => ?_) fun _ => ?_
  · split
    · exact together_fault _ _
    · rename_i frame hframe
      split
      · exact together_fault _ _
      · split
        · exact together_fault_right _ _
        · rename_i frame' hframe'
          split
          · exact together_fault_right _ _
          · have hsame : frame.hasNames = frame'.hasNames := by
              rw [Shape.hasNames_of_open? hframe, Shape.hasNames_of_open? hframe']
            exact together_going ⟨.opened, .cons hsame h⟩
  · rw [start?_ignored (r.expected top).isIgnored (r'.expected top').isIgnored]
    cases NumberReader.start? (r.expected top).isIgnored b with
    | none => exact together_fault _ _
    | some n => exact together_going ⟨.number n _, h⟩

theorem between_together (top top' : Shape) (h : r.SamePlace r') (b : UInt8) :
    Together (between top r b) (between top' r' b) := by
  obtain ⟨mode, stack⟩ := r
  obtain ⟨mode', stack'⟩ := r'
  obtain ⟨hmode, hcontainers⟩ := h
  simp only at hmode hcontainers
  unfold between
  refine both_ite (fun _ => together_going ⟨hmode, hcontainers⟩) fun _ => ?_
  cases hcontainers with
  | nil =>
    cases hmode with
    | colon => exact both_ite (fun _ => together_going samePlace_start) fun _ => together_fault _ _
    | _ => exact begin_together .nil b
  | @cons frame frame' stack stack' hframe hstack =>
    have hcontainers : SameContainers (frame :: stack) (frame' :: stack') := .cons hframe hstack
    cases hmode with
    | opened =>
      refine both_ite (fun _ => together_closing hstack b) fun _ => ?_
      rw [hframe]
      refine both_ite (fun _ => ?_) fun _ => begin_together hcontainers b
      exact both_ite (fun _ => together_string hcontainers _ _ true) fun _ => together_fault _ _
    | follow =>
      refine both_ite (fun _ => ?_) fun _ => together_closing hstack b
      have hnext : Mode.SamePlace (if frame.hasNames then .name else .value)
          (if frame'.hasNames then .name else .value) := by
        rw [hframe]
        split
        · exact .name
        · exact .value
      generalize (if frame.hasNames = true then Mode.name else Mode.value) = next at hnext ⊢
      generalize (if frame'.hasNames = true then Mode.name else Mode.value) = next' at hnext ⊢
      split
      · exact together_fault _ _
      · split
        · exact together_fault_right _ _
        · exact together_going ⟨hnext, hcontainers⟩
    | name =>
      exact both_ite (fun _ => together_string hcontainers _ _ true) fun _ => together_fault _ _
    | colon =>
      exact both_ite (fun _ => together_going ⟨.value, hcontainers⟩) fun _ => together_fault _ _
    | _ => exact begin_together hcontainers b

/-- Whether a reader is behind a value, outside all containers.  No colon is waited for there, but if one was, it would
lead to such a place. -/
def isOutside (r : Reader) : Bool := match r.mode with
  | .value | .colon => r.stack.isEmpty
  | _ => false

theorem isOutside_of_isIdle (h : r.isIdle = true) : r.isOutside = true := by
  obtain ⟨mode, stack⟩ := r
  cases mode with
  | value => exact h
  | _ => cases h

theorem isOutside_begin {b : UInt8} {v? : Option Json} {next : Reader} (h : begin top r b = (v?, .ok next)) :
    next.isOutside = false := by
  unfold begin at h
  dsimp only at h
  repeat' split at h
  all_goals cases h
  all_goals rfl

/-- Only blanks leave a reader outside that has read nothing else. -/
theorem between_of_isOutside {b : UInt8} {v? : Option Json} {next : Reader} (h : between top {} b = (v?, .ok next))
    (houtside : next.isOutside = true) : isSpace b = true ∧ next = {} := by
  unfold between at h
  split at h
  · rename_i hspace
    cases h
    exact ⟨hspace, rfl⟩
  · cases houtside.symm.trans (isOutside_begin h)

theorem ended_together (v v' : Json) (b : UInt8) : Together (ended top v b) (ended top' v' b) := by
  refine both_ite (fun _ => ?_) fun _ => together_fault _ _
  have htogether : Together (between top {} b) (between top' {} b) := between_together top top' samePlace_start b
  rcases hs : between top {} b with ⟨v?, e | next⟩
  · rcases hs' : between top' {} b with ⟨v'?, e' | next'⟩
    · trivial
    · -- a blank is no fault
      refine fun _ => ⟨rfl, Bool.eq_false_iff.2 fun hidle => ?_⟩
      obtain ⟨hspace, -⟩ := between_of_isOutside hs' (isOutside_of_isIdle hidle)
      rw [between, if_pos hspace] at hs
      cases hs
  · rcases hs' : between top' {} b with ⟨v'?, e' | next'⟩
    · trivial
    · rw [hs, hs'] at htogether
      exact ⟨htogether.1, rfl⟩

/-- What the byte behind a number does, which may end more than the number. -/
def behindNumber (top : Shape) (stack : List Frame) (v : Json) (b : UInt8) : Step := match stack with
  | [] => ended top v b
  | frame :: rest => between top ⟨.follow, frame.add v :: rest⟩ b

/-- What the closing quote of a string does, which may be the name of a member. -/
def behindText (shape : Shape) (stack : List Frame) (isName : Bool) (text : String) : Step :=
  if isName then
    match stack with
    | [] => fault .malformed
    | frame :: rest => match frame.named text with
      | none => fault .mismatched
      | some frame => going ⟨.colon, frame :: rest⟩
  else match shape.scalar (.string text) with
    | none => fault .mismatched
    | some v => deliver stack v

theorem together_behindNumber (h : SameContainers stack stack') (v v' : Json) (b : UInt8) :
    Together (behindNumber top stack v b) (behindNumber top' stack' v' b) := by
  cases h with
  | nil => exact ended_together v v' b
  | cons hframe hrest => exact between_together top top' ⟨.follow, .cons (by simpa using hframe) hrest⟩ b

theorem together_behindText (h : SameContainers stack stack') (isName : Bool) (shape shape' : Shape)
    (text text' : String) :
    Together (behindText shape stack isName text) (behindText shape' stack' isName text') := by
  refine both_ite (fun _ => ?_) fun _ => ?_
  · cases h with
    | nil => exact together_fault _ _
    | @cons frame frame' stack stack' hframe hstack =>
      dsimp only
      cases hnext : frame.named text with
      | none => exact together_fault _ _
      | some next =>
        cases hnext' : frame'.named text' with
        | none => exact together_fault_right _ _
        | some next' =>
          have hsame : next.hasNames = next'.hasNames := by
            rw [Frame.hasNames_of_named hnext, Frame.hasNames_of_named hnext', hframe]
          exact together_going ⟨.colon, .cons hsame hstack⟩
  · cases shape.scalar (.string text) with
    | none => exact together_fault _ _
    | some v =>
      cases shape'.scalar (.string text') with
      | none => exact together_fault_right _ _
      | some v' => exact together_deliver h v v'

theorem step_together_word (h : SameContainers stack stack') (rest : List UInt8) (v v' : Json) (b : UInt8) :
    Together (step top ⟨.word rest v, stack⟩ b) (step top' ⟨.word rest v', stack'⟩ b) := by
  cases rest with
  | nil => exact together_fault _ _
  | cons c rest =>
    simp only [step]
    refine both_ite (fun _ => together_fault _ _) fun _ => ?_
    refine both_ite (fun _ => together_word h _ _ _) fun _ => ?_
    generalize Shape.scalar _ v = value?
    generalize Shape.scalar _ v' = value?'
    cases value? with
    | none => exact together_fault _ _
    | some w =>
      cases value?' with
      | none => exact together_fault_right _ _
      | some w' =>
        cases h with
        | nil => exact together_going ⟨.ending w w', .nil⟩
        | cons hframe hrest => exact together_deliver (.cons hframe hrest) w w'

theorem step_together_number (h : SameContainers stack stack') (n : NumberReader) (ignored : Bool) (b : UInt8) :
    Together (step top ⟨.number n, stack⟩ b) (step top' ⟨.number { n with ignored }, stack'⟩ b) := by
  simp only [step]
  rcases n.step_ignoring ignored b with hbroken | hbroken | hsame
  · rw [hbroken]
    exact together_fault _ _
  · rw [hbroken]
    exact together_fault_right _ _
  · rw [hsame]
    cases n.step b with
    | more next => exact together_going ⟨.number next ignored, h⟩
    | broken => exact together_fault _ _
    | ended =>
      dsimp only [NumberStep.ignoring]
      generalize step.numberValue n _ = value?
      generalize step.numberValue _ _ = value?'
      cases value? with
      | error e => exact together_fault _ _
      | ok v =>
        cases value?' with
        | error e => exact together_fault_right _ _
        | ok v' => exact together_behindNumber h v v' b

/-- Two readers of one string are in the middle of it together, and end it together. -/
theorem step_both_string {R : Step → Step → Prop} (hfault : ∀ e s', R (fault e) s') (hfaultRight : ∀ s e, R s (fault e))
    {s s' : StringReader} (hplace : s.place = s'.place) (isName : Bool) (b : UInt8)
    (hmore : ∀ next next', s.step b = .more next → s'.step b = .more next' → next.place = next'.place →
      R (going ⟨.string next isName, stack⟩) (going ⟨.string next' isName, stack'⟩))
    (hended : ∀ bytes bytes', s.step b = .ended bytes → s'.step b = .ended bytes' →
      ∀ text text', Utf8.decode? bytes = some text → Utf8.decode? bytes' = some text' →
        R (behindText (expected top ⟨.string s isName, stack⟩) stack isName text)
          (behindText (expected top' ⟨.string s' isName, stack'⟩) stack' isName text')) :
    R (step top ⟨.string s isName, stack⟩ b) (step top' ⟨.string s' isName, stack'⟩ b) := by
  simp only [step]
  cases hs : s.step b with
  | broken => exact hfault _ _
  | more next =>
    obtain ⟨hnext, hinside⟩ := StringReader.place_of_more hs
    cases hs' : s'.step b with
    | broken => exact hfaultRight _ _
    | more next' =>
      have hsame : next.place = next'.place := by rw [hnext, (StringReader.place_of_more hs').1, hplace]
      exact hmore next next' hs hs' hsame
    | ended bytes' => exact absurd (hplace ▸ StringReader.place_of_ended hs') hinside
  | ended bytes =>
    cases hs' : s'.step b with
    | broken => exact hfaultRight _ _
    | more next' => exact absurd (hplace ▸ StringReader.place_of_ended hs) (StringReader.place_of_more hs').2
    | ended bytes' =>
      dsimp only
      cases htext : Utf8.decode? bytes with
      | none => exact hfault _ _
      | some text =>
        cases htext' : Utf8.decode? bytes' with
        | none => exact hfaultRight _ _
        | some text' => exact hended bytes bytes' hs hs' text text' htext htext'

theorem step_together_string (h : SameContainers stack stack') {s s' : StringReader} (hplace : s.place = s'.place)
    (isName : Bool) (b : UInt8) :
    Together (step top ⟨.string s isName, stack⟩ b) (step top' ⟨.string s' isName, stack'⟩ b) :=
  step_both_string together_fault together_fault_right hplace isName b
    (fun _ _ _ _ hnext => together_going ⟨.string isName hnext, h⟩)
    fun _ _ _ _ text text' _ _ => together_behindText h isName _ _ text text'

/-- **Readers of one text stay together**, each under a shape of its own. -/
theorem step_together (h : r.SamePlace r') (b : UInt8) : Together (r.step top b) (r'.step top' b) := by
  obtain ⟨mode, stack⟩ := r
  obtain ⟨mode', stack'⟩ := r'
  obtain ⟨hmode, hcontainers⟩ := h
  simp only at hmode hcontainers
  cases hmode with
  | word rest v v' => exact step_together_word hcontainers rest v v' b
  | number n ignored => exact step_together_number hcontainers n ignored b
  | string isName hplace => exact step_together_string hcontainers hplace isName b
  | ending v v' => exact ended_together v v' b
  | value => exact between_together top top' ⟨.value, hcontainers⟩ b
  | opened => exact between_together top top' ⟨.opened, hcontainers⟩ b
  | follow => exact between_together top top' ⟨.follow, hcontainers⟩ b
  | name => exact between_together top top' ⟨.name, hcontainers⟩ b
  | colon => exact between_together top top' ⟨.colon, hcontainers⟩ b

/-! ## Texts -/

theorem SamePlace.isIdle (h : r.SamePlace r') : r.isIdle = r'.isIdle := by
  obtain ⟨mode, stack⟩ := r
  obtain ⟨mode', stack'⟩ := r'
  obtain ⟨hmode, hcontainers⟩ := h
  cases hmode with
  | value => cases hcontainers <;> rfl
  | _ => rfl

theorem eq_of_isIdle (h : r.isIdle = true) : r = {} := by
  obtain ⟨mode, stack⟩ := r
  cases mode with
  | value =>
    obtain rfl : stack = [] := List.isEmpty_iff.1 h
    rfl
  | _ => cases h

theorem play_spaces : ∀ {bytes : List UInt8}, bytes.all isSpace = true → play top {} bytes = ([], .ok {})
  | [], _ => rfl
  | b :: rest, h => by
    rw [List.all_cons, Bool.and_eq_true] at h
    have hstep : step top {} b = going {} := if_pos h.1
    rw [play_of_step hstep, play_spaces h.2]

/-- Only a word or a number outside all containers is complete at the end of a text. -/
theorem finish_eq_some {v : Json} (h : r.finish top = .ok (some v)) :
    r.mode = .ending v ∨ ∃ n, r = ⟨.number n, []⟩ ∧ n.isComplete = true ∧ step.numberValue n top = .ok v := by
  obtain ⟨mode, stack⟩ := r
  cases mode with
  | ending w =>
    cases h
    exact .inl rfl
  | number n =>
    simp only [finish] at h
    split at h
    · rename_i hcomplete
      split at h
      · cases h
      · rename_i hvalue
        split at h <;> cases h
        rename_i hempty
        obtain rfl := List.isEmpty_iff.1 hempty
        exact .inr ⟨n, rfl, hcomplete, hvalue⟩
    · cases h
  | value =>
    simp only [finish] at h
    split at h <;> cases h
  | _ => cases h

theorem eq_of_finish_none (h : r.finish top = .ok none) : r = {} := by
  obtain ⟨mode, stack⟩ := r
  cases mode with
  | value =>
    simp only [finish] at h
    split at h <;> cases h
    rename_i hempty
    obtain rfl := List.isEmpty_iff.1 hempty
    rfl
  | number n =>
    simp only [finish] at h
    repeat' split at h
    all_goals cases h
  | _ => cases h

theorem finish_of_readFrom {v : Json} (h : readFrom top r [] = .ok v) : r.finish top = .ok (some v) := by
  rw [readFrom] at h
  split at h <;> cases h
  assumption

/-- **A text that is one value gives out one value at most**, under whatever shape it is read. -/
theorem play_of_readFrom : ∀ {bytes : List UInt8} {r r' : Reader} {w : Json}, r.SamePlace r' →
    readFrom top' r' bytes = .ok w → (play top r bytes).1 = [] ∨ ∃ v, play top r bytes = ([v], .ok {})
  | [], r, r', w, _, _ => .inl rfl
  | b :: rest, r, r', w, hplace, h => by
    have htogether : Together (r.step top b) (r'.step top' b) := step_together hplace b
    rw [readFrom] at h
    rw [play_cons]
    generalize r.step top b = s at htogether ⊢
    generalize r'.step top' b = s' at htogether h
    rcases s' with ⟨_ | v', e' | next'⟩
    · cases h
    · -- the value goes on
      rcases s with ⟨_ | v, e | next⟩
      · exact .inl rfl
      · exact play_of_readFrom htogether.1 h
      · cases (htogether rfl).1
      · cases htogether.2
    · cases h
    · -- nothing but blanks may follow
      dsimp only at h
      split at h
      · rename_i hend
        obtain ⟨hidle, hspaces⟩ := Bool.and_eq_true_iff.1 hend
        rcases s with ⟨_ | v, e | next⟩
        · exact .inl rfl
        · cases htogether.2
        · cases hidle.symm.trans (htogether rfl).2
        · obtain rfl := eq_of_isIdle (htogether.1.isIdle.trans hidle)
          refine .inr ⟨v, ?_⟩
          rw [playOn, play_spaces hspaces]
          rfl
      · cases h

end Reader

/-- **Whether a text is one value**, of whatever shape, with blanks around it. -/
def IsOneValue (bytes : List UInt8) : Prop := ∃ v, readFrom .ignored {} bytes = .ok v

theorem IsOneValue.play {bytes : List UInt8} (h : IsOneValue bytes) (top : Shape) :
    (Reader.play top {} bytes).1 = [] ∨ ∃ v, Reader.play top {} bytes = ([v], .ok {}) := by
  obtain ⟨w, hw⟩ := h
  exact Reader.play_of_readFrom Reader.samePlace_start hw

end ObjectRelay.Json
