import ObjectRelay.Proofs.Json.Inside
import ObjectRelay.Proofs.Json.Single
/-!
# Arrays and objects as they are written

An array is written as the texts of its items, and an object as the texts of its names and values, whatever blanks and
escapes there are in these.  A reader that comes to such a text reads items and members one after another
(`Reader.readsInside_array`, `Reader.play_objectText`).
-/
namespace ObjectRelay.Json

open Utf8 (encodeChars)

/-- Texts with commas between them. -/
def commaJoined : List (List UInt8) → List UInt8
  | [] => []
  | [text] => text
  | text :: next :: rest => text ++ 0x2C :: commaJoined (next :: rest)

/-- An array as it is written. -/
def arrayText (items : List (List UInt8)) : List UInt8 := 0x5B :: (commaJoined items ++ [0x5D])

/-- A member of an object as it is written. -/
structure WrittenMember where
  name : List UInt8
  value : List UInt8

namespace WrittenMember

def text (m : WrittenMember) : List UInt8 := m.name ++ 0x3A :: m.value

/-- Whether a name is written there, with blanks around it or not, and with escapes or without. -/
def IsNamed (m : WrittenMember) (name : String) : Prop := readFrom .text {} m.name = .ok (.string name)

/-- A member in its own text. -/
def ofMember (m : String × Json) : WrittenMember := ⟨encodeChars (stringChars m.1), bytes m.2⟩

end WrittenMember

/-- An object as it is written. -/
def objectText (members : List WrittenMember) : List UInt8 := 0x7B :: (commaJoined (members.map (·.text)) ++ [0x7D])

namespace Reader

variable {top shape : Shape} {frame : Frame} {rest stack : List Frame}

/-- Whether a text is read as a value inside of these containers, or outside if there are none. -/
def ReadsInside (top : Shape) (stack : List Frame) (text : List UInt8) (v : Json) : Prop :=
  ∀ b : UInt8, isDelimiter b = true → ∀ more : List UInt8,
    play top ⟨.value, stack⟩ (text ++ b :: more) = playOn top (deliver stack v) (b :: more)

/-- **A text that is a value alone is that value inside of containers**, if they leave it room. -/
theorem readsInside_of_readFrom {text : List UInt8} {v : Json} (hread : readFrom frame.expected {} text = .ok v)
    (hroom : frame.expected ≠ .ignored → highest frame.expected {} text + (rest.length + 1) ≤ maxDepth) :
    ReadsInside top (frame :: rest) text v := fun _ hb more =>
  play_inside rfl (isReading_start _) hread hroom hb more

/-- Blanks around a value do not matter. -/
theorem ReadsInside.blanks {text before after : List UInt8} {v : Json} (h : ReadsInside top (frame :: rest) text v)
    (hbefore : before.all isSpace = true) (hafter : after.all isSpace = true) :
    ReadsInside top (frame :: rest) (before ++ text ++ after) v := by
  intro b hb more
  have hvalue : ∀ b, isSpace b = true → step top ⟨.value, frame :: rest⟩ b = going ⟨.value, frame :: rest⟩ :=
    fun b hb => if_pos hb
  rw [List.append_assoc, List.append_assoc, play_blanks hvalue hbefore]
  cases after with
  | nil => exact h b hb more
  | cons c after =>
    have hspace : isSpace c = true := (Bool.and_eq_true_iff.1 hafter).1
    have hdelimiter : isDelimiter c = true := by simp [isDelimiter, hspace]
    have hfirst := h c hdelimiter (after ++ b :: more)
    rw [List.cons_append, hfirst, deliver, playOn_going, playOn_going, ← List.cons_append]
    exact play_follow _ hafter _

/-! ## Names -/

/-- A word is no text. -/
theorem not_readFrom_word {v w : Json} (hv : Shape.text.scalar v = none) : ∀ {bytes rest : List UInt8},
    readFrom .text ⟨.word rest v, []⟩ bytes ≠ .ok w
  | [], _ => nofun
  | b :: bytes, [] => nofun
  | b :: bytes, c :: rest => by
    have hstep : step .text ⟨.word (c :: rest) v, []⟩ b = if b != c then fault .malformed
        else if !rest.isEmpty then going ⟨.word rest v, []⟩ else fault .mismatched := by
      have hexpected : (⟨.word (c :: rest) v, []⟩ : Reader).expected .text = .text := rfl
      simp only [step, hexpected, hv]
    rw [readFrom, hstep]
    by_cases hb : (b != c) = true
    · rw [if_pos hb]
      intro h
      cases h
    · rw [if_neg hb]
      by_cases hrest : (!rest.isEmpty) = true
      · rw [if_pos hrest]
        exact not_readFrom_word hv
      · rw [if_neg hrest]
        intro h
        cases h

theorem exists_numberValue_text {n : NumberReader} (hn : n.ignored = false) :
    ∃ e, step.numberValue n .text = .error e := by
  unfold step.numberValue
  rw [hn]
  cases n.number? <;> exact ⟨_, rfl⟩

/-- A number is no text. -/
theorem not_readFrom_number {w : Json} : ∀ {bytes : List UInt8} {n : NumberReader}, n.ignored = false →
    readFrom .text ⟨.number n, []⟩ bytes ≠ .ok w
  | [], n, hn => by
    obtain ⟨e, hvalue⟩ := exists_numberValue_text hn
    have hexpected : (⟨.number n, []⟩ : Reader).expected .text = .text := rfl
    rw [readFrom]
    simp only [finish, hexpected, hvalue]
    intro h
    cases hcomplete : n.isComplete <;> (rw [hcomplete] at h; cases h)
  | b :: bytes, n, hn => by
    obtain ⟨e, hvalue⟩ := exists_numberValue_text hn
    have hexpected : (⟨.number n, []⟩ : Reader).expected .text = .text := rfl
    rw [readFrom]
    cases hb : n.step b with
    | more next =>
      have hstep : step .text ⟨.number n, []⟩ b = going ⟨.number next, []⟩ := by simp only [step, hb]
      rw [hstep]
      exact not_readFrom_number ((NumberReader.ignored_of_more hb).trans hn)
    | broken =>
      have hstep : step .text ⟨.number n, []⟩ b = fault .malformed := by simp only [step, hb]
      rw [hstep]
      intro h
      cases h
    | ended =>
      have hstep : step .text ⟨.number n, []⟩ b = fault e := by simp only [step, hb, hexpected, hvalue]
      rw [hstep]
      intro h
      cases h

/-- **A name is read like any other text**, and behind the colon stands its value. -/
theorem play_nameString {named : Frame} {name : String} (hnamed : frame.named name = some named) (more : List UInt8) :
    ∀ {bytes : List UInt8} {s : StringReader}, readFrom .text ⟨.string s false, []⟩ bytes = .ok (.string name) →
      play top ⟨.string s true, frame :: rest⟩ (bytes ++ 0x3A :: more) = play top ⟨.value, named :: rest⟩ more
  | [], s, h => by cases h
  | b :: bytes, s, h => by
    have hexpected : (⟨.string s false, []⟩ : Reader).expected .text = .text := rfl
    rw [readFrom] at h
    rw [List.cons_append]
    cases hb : s.step b with
    | more next =>
      have halone : step .text ⟨.string s false, []⟩ b = going ⟨.string next false, []⟩ := by simp only [step, hb]
      have hinside : step top ⟨.string s true, frame :: rest⟩ b = going ⟨.string next true, frame :: rest⟩ := by
        simp only [step, hb]
      rw [halone] at h
      rw [play_of_step hinside]
      exact play_nameString hnamed more h
    | broken =>
      have halone : step .text ⟨.string s false, []⟩ b = fault .malformed := by simp only [step, hb]
      rw [halone] at h
      cases h
    | ended text =>
      cases hdecode : Utf8.decode? text with
      | none =>
        have halone : step .text ⟨.string s false, []⟩ b = fault .malformed := by simp only [step, hb, hdecode]
        rw [halone] at h
        cases h
      | some other =>
        have halone : step .text ⟨.string s false, []⟩ b = deliver [] (.string other) := by
          simp only [step, hb, hdecode, hexpected]
          rfl
        rw [halone] at h
        dsimp only [deliver] at h
        split at h
        · rename_i hidle
          cases h
          have hinside : step top ⟨.string s true, frame :: rest⟩ b = going ⟨.colon, named :: rest⟩ := by
            simp only [step, hb, hdecode, if_true, hnamed]
          have hblank : ∀ b, isSpace b = true → step top ⟨.colon, named :: rest⟩ b = going ⟨.colon, named :: rest⟩ :=
            fun b hb => if_pos hb
          have hcolon : step top ⟨.colon, named :: rest⟩ 0x3A = going ⟨.value, named :: rest⟩ := rfl
          rw [play_of_step hinside, play_blanks hblank (Bool.and_eq_true_iff.1 hidle).2, play_of_step hcolon]
        · cases h

/-- What does not begin with a quote is a word or a number, or refused as a text at once. -/
theorem begin_text {b : UInt8} (hb : b ≠ 0x22) : (∃ e, begin .text {} b = fault e) ∨
    (∃ w v, Shape.text.scalar v = none ∧ begin .text {} b = going ⟨.word w v, []⟩) ∨
      ∃ n : NumberReader, n.ignored = false ∧ begin .text {} b = going ⟨.number n, []⟩ := by
  have hexpected : (⟨.value, []⟩ : Reader).expected .text = .text := rfl
  have hopen : Shape.text.open? b = none := by
    unfold Shape.open?
    split <;> rfl
  simp only [begin, hexpected, hopen, beq_eq_false_iff_ne.2 hb, Bool.false_eq_true, if_false]
  split
  · exact .inr (.inl ⟨_, .null, rfl, rfl⟩)
  split
  · exact .inr (.inl ⟨_, .bool true, rfl, rfl⟩)
  split
  · exact .inr (.inl ⟨_, .bool false, rfl, rfl⟩)
  split
  · exact .inl ⟨_, rfl⟩
  split
  · rename_i n hstart
    exact .inr (.inr ⟨n, NumberReader.ignored_of_start? hstart, rfl⟩)
  · exact .inl ⟨_, rfl⟩

/-- A text begins with a quote. -/
theorem isSpace_or_quote_of_readFrom {b : UInt8} {bytes : List UInt8} {w : Json}
    (h : readFrom .text {} (b :: bytes) = .ok w) : isSpace b = true ∧ readFrom .text {} bytes = .ok w ∨
      b = 0x22 ∧ readFrom .text ⟨.string {} false, []⟩ bytes = .ok w := by
  have hstep : step .text {} b = if isSpace b then going {} else begin .text {} b := rfl
  rw [readFrom, hstep] at h
  by_cases hspace : isSpace b = true
  · rw [if_pos hspace] at h
    exact .inl ⟨hspace, h⟩
  rw [if_neg hspace] at h
  by_cases hquote : b = 0x22
  · subst hquote
    exact .inr ⟨rfl, h⟩
  rcases begin_text hquote with ⟨e, hbegin⟩ | ⟨w, v, hv, hbegin⟩ | ⟨n, hn, hbegin⟩
  all_goals rw [hbegin] at h
  · cases h
  · exact absurd h (not_readFrom_word hv)
  · exact absurd h (not_readFrom_number hn)

/-- **A member of a container is taken under its name.** -/
theorem play_nameText {mode : Mode} (hmode : mode = .name ∨ mode = .opened) (hnames : frame.hasNames = true)
    (hkept : frame.passesNames = false) {named : Frame} {name : String} (hnamed : frame.named name = some named)
    (more : List UInt8) : ∀ {bytes : List UInt8}, readFrom .text {} bytes = .ok (.string name) →
      play top ⟨mode, frame :: rest⟩ (bytes ++ 0x3A :: more) = play top ⟨.value, named :: rest⟩ more
  | [], h => by cases h
  | b :: bytes, h => by
    have hstep : step top ⟨mode, frame :: rest⟩ b = between top ⟨mode, frame :: rest⟩ b := by
      rcases hmode with rfl | rfl <;> rfl
    rw [List.cons_append]
    rcases isSpace_or_quote_of_readFrom h with ⟨hspace, hread⟩ | ⟨rfl, hread⟩
    · have hblank : step top ⟨mode, frame :: rest⟩ b = going ⟨mode, frame :: rest⟩ := by
        rw [hstep, between, if_pos hspace]
      rw [play_of_step hblank]
      exact play_nameText hmode hnames hkept hnamed more hread
    · have hquote : step top ⟨mode, frame :: rest⟩ 0x22 = going ⟨.string {} true, frame :: rest⟩ := by
        rw [hstep]
        rcases hmode with rfl | rfl <;> simp [between, isSpace, hnames, hkept]
      rw [play_of_step hquote]
      exact play_nameString hnamed more hread

/-! ## Arrays -/

/-- What ends a container begins no value. -/
theorem begin_bracket {b : UInt8} (hb : b = 0x5D ∨ b = 0x7D) (r : Reader) : begin top r b = fault .malformed := by
  rcases hb with rfl | rfl
  all_goals
    unfold begin
    cases (r.expected top).isIgnored <;> rfl

/-- The first item of an array is read like any other. -/
theorem play_openedText {done : List Json} {v : Json} (more : List UInt8) : ∀ {text : List UInt8},
    readFrom shape {} text = .ok v →
      play top ⟨.opened, .items shape done :: stack⟩ (text ++ more) =
        play top ⟨.value, .items shape done :: stack⟩ (text ++ more)
  | [], h => by cases h
  | b :: text, h => by
    have hstep : step shape {} b = if isSpace b then going {} else begin shape {} b := rfl
    rw [readFrom, hstep] at h
    by_cases hspace : isSpace b = true
    · rw [if_pos hspace] at h
      have hopened : step top ⟨.opened, .items shape done :: stack⟩ b = going ⟨.opened, .items shape done :: stack⟩ :=
        if_pos hspace
      have hvalue : step top ⟨.value, .items shape done :: stack⟩ b = going ⟨.value, .items shape done :: stack⟩ :=
        if_pos hspace
      rw [List.cons_append, play_of_step hopened, play_of_step hvalue, play_openedText more h]
    · rw [if_neg hspace] at h
      have hclosing : ¬(b = 0x5D ∨ b = 0x7D) := fun hb => by
        rw [begin_bracket hb] at h
        cases h
      have hstart : IsStart b := ⟨Bool.eq_false_iff.2 hspace, fun hb => hclosing (.inl hb), fun hb => hclosing (.inr hb)⟩
      rw [List.cons_append, play_cons, play_cons, step_opened hstart]

variable {α : Type} {text : α → List UInt8} {value : α → Json}

theorem play_itemTexts : ∀ {items : List α}, items ≠ [] →
    (∀ item ∈ items, ∀ done, ReadsInside top (.items shape done :: stack) (text item) (value item)) →
    ∀ (done : List Json) (more : List UInt8),
      play top ⟨.value, .items shape done :: stack⟩ (commaJoined (items.map text) ++ 0x5D :: more) =
        playOn top (deliver stack (.array (done.reverse ++ items.map value))) more
  | [], hne, _, _, _ => absurd rfl hne
  | [item], _, h, done, more => by
    have hitem := h item List.mem_cons_self done 0x5D rfl more
    rw [List.map_singleton, commaJoined, hitem, playOn_close_items, List.reverse_cons, List.map_singleton]
  | item :: next :: items, _, h, done, more => by
    have hjoined : commaJoined ((item :: next :: items).map text) =
        text item ++ 0x2C :: commaJoined ((next :: items).map text) := rfl
    have hitem := h item List.mem_cons_self done 0x2C rfl
    have hrest : ∀ i ∈ next :: items, ∀ done, ReadsInside top (.items shape done :: stack) (text i) (value i) :=
      fun i hi => h i (List.mem_cons_of_mem _ hi)
    rw [hjoined, List.append_assoc, List.cons_append, hitem, playOn_follow_item,
      play_itemTexts (List.cons_ne_nil _ _) hrest]
    simp

/-- **An array is read item by item**, if the containers around it leave its items room. -/
theorem readsInside_array {items : List α} (hkept : ((⟨.value, stack⟩ : Reader).expected top).isIgnored = false)
    (hopen : ((⟨.value, stack⟩ : Reader).expected top).open? 0x5B = some (.items shape []))
    (hdepth : stack.length < maxDepth)
    (hitems : ∀ item ∈ items, readFrom shape {} (text item) = .ok (value item) ∧
      highest shape {} (text item) + (stack.length + 1) ≤ maxDepth) :
    ReadsInside top stack (arrayText (items.map text)) (.array (items.map value)) := by
  intro b _ more
  have hinside : ∀ item ∈ items, ∀ done, ReadsInside top (.items shape done :: stack) (text item) (value item) := by
    intro item hitem done
    have hread : readFrom (Frame.items shape done).expected {} (text item) = .ok (value item) := (hitems item hitem).1
    exact readsInside_of_readFrom hread fun _ => (hitems item hitem).2
  rw [arrayText, List.cons_append, play_of_step (step_open hkept hdepth (.inl rfl) hopen), List.append_assoc,
    List.singleton_append]
  cases items with
  | nil => rfl
  | cons item items =>
    have hfirst : ∃ rest, commaJoined ((item :: items).map text) = text item ++ rest := by
      cases items with
      | nil => exact ⟨[], (List.append_nil _).symm⟩
      | cons next items => exact ⟨_, rfl⟩
    obtain ⟨rest, hrest⟩ := hfirst
    -- behind the bracket an item is read as behind a comma
    rw [hrest, List.append_assoc, play_openedText _ (hitems item List.mem_cons_self).1, ← List.append_assoc, ← hrest,
      play_itemTexts (List.cons_ne_nil _ _) hinside]
    rfl

/-! ## Objects -/

/-- What a container of members holds when members that are written one after another have been read. -/
inductive Gathers (top : Shape) (rest : List Frame) : Frame → List WrittenMember → Frame → Prop
  | nil (frame : Frame) : Gathers top rest frame [] frame
  | cons {frame named final : Frame} {name : String} {v : Json} {m : WrittenMember} {members : List WrittenMember}
    (hname : m.IsNamed name) (hnamed : frame.named name = some named)
    (hvalue : ReadsInside top (named :: rest) m.value v) (hrest : Gathers top rest (named.add v) members final) : Gathers top rest frame (m :: members) final

theorem Gathers.append {first second final : Frame} {front back : List WrittenMember}
    (hfront : Gathers top rest first front second) (hback : Gathers top rest second back final) :
    Gathers top rest first (front ++ back) final := by
  induction hfront with
  | nil => exact hback
  | cons hname hnamed hvalue _ ih => exact .cons hname hnamed hvalue (ih hback)

theorem passesNames_add (frame : Frame) (v : Json) : (frame.add v).passesNames = frame.passesNames := by
  cases frame with
  | items => rfl
  | ordered all coming => cases coming <;> rfl
  | table shape => cases shape <;> rfl
  | record fields others name =>
    simp only [Frame.add]
    split <;> rfl

theorem passesNames_of_named {frame named : Frame} {name : String} (h : frame.named name = some named) :
    named.passesNames = frame.passesNames := by
  cases frame with
  | record fields others before done =>
    simp only [Frame.named] at h
    split at h <;> cases h
    rfl
  | table shape before done =>
    cases h
    cases shape <;> rfl
  | _ =>
    cases h
    rfl

theorem step_comma (hnames : frame.hasNames = true) :
    step top ⟨.follow, frame :: rest⟩ 0x2C = going ⟨.name, frame :: rest⟩ := by
  cases frame with
  | items | ordered => cases hnames
  | _ => rfl

theorem play_memberTexts {mode : Mode} (hmode : mode = .name ∨ mode = .opened) {members : List WrittenMember}
    {final : Frame} (h : Gathers top rest frame members final) (hne : members ≠ []) (hnames : frame.hasNames = true)
    (hkept : frame.passesNames = false) (more : List UInt8) :
    play top ⟨mode, frame :: rest⟩ (commaJoined (members.map (·.text)) ++ 0x7D :: more) =
      playOn top (closing final rest 0x7D) more := by
  induction h generalizing mode with
  | nil => exact absurd rfl hne
  | @cons frame named final name v m members hname hnamed hvalue hrest ih =>
    have hnames' : (named.add v).hasNames = true := by
      rw [Frame.hasNames_add, Frame.hasNames_of_named hnamed, hnames]
    have hkept' : (named.add v).passesNames = false := by
      rw [passesNames_add, passesNames_of_named hnamed, hkept]
    cases members with
    | nil =>
      cases hrest
      have hclose := hvalue 0x7D rfl more
      rw [List.map_singleton, commaJoined, WrittenMember.text, List.append_assoc, List.cons_append,
        play_nameText hmode hnames hkept hnamed _ hname, hclose]
      rfl
    | cons next members =>
      have hjoined : commaJoined ((m :: next :: members).map (·.text)) =
          m.text ++ 0x2C :: commaJoined ((next :: members).map (·.text)) := rfl
      have hfollow := hvalue 0x2C rfl
      rw [hjoined, WrittenMember.text, List.append_assoc, List.append_assoc, List.cons_append, List.cons_append,
        play_nameText hmode hnames hkept hnamed _ hname, hfollow, deliver, playOn_going,
        play_of_step (step_comma hnames'), ih (.inl rfl) (List.cons_ne_nil _ _) hnames' hkept']

/-- **An object is read member by member.** -/
theorem play_objectText {members : List WrittenMember} {final : Frame}
    (hkept : ((⟨.value, stack⟩ : Reader).expected top).isIgnored = false)
    (hopen : ((⟨.value, stack⟩ : Reader).expected top).open? 0x7B = some frame) (hdepth : stack.length < maxDepth)
    (hnames : frame.passesNames = false) (h : Gathers top stack frame members final) (more : List UInt8) :
    play top ⟨.value, stack⟩ (objectText members ++ more) = playOn top (closing final stack 0x7D) more := by
  rw [objectText, List.cons_append, play_of_step (step_open hkept hdepth (.inr rfl) hopen), List.append_assoc,
    List.singleton_append]
  cases members with
  | nil =>
    cases h
    rfl
  | cons m members =>
    have hmembers : frame.hasNames = true := Shape.hasNames_of_open? hopen
    exact play_memberTexts (.inr rfl) h (List.cons_ne_nil _ _) hmembers hnames more

/-- Members that a record does not name are passed over. -/
theorem exists_gathers_passed {fields : List Field} : ∀ {members : List WrittenMember},
    (∀ m ∈ members, IsOneValue m.value ∧ ∃ name, m.IsNamed name ∧ Field.find? fields name = none) →
    ∀ (name : String) (done : List (String × Json)), ∃ name',
      Gathers top rest (.record fields .skipped name done) members (.record fields .skipped name' done)
  | [], _, name, done => ⟨name, .nil _⟩
  | m :: members, h, name, done => by
    obtain ⟨⟨⟨v, hv⟩, other, hname, hunknown⟩, hrest⟩ := List.forall_mem_cons.1 h
    obtain ⟨last, hgathers⟩ := exists_gathers_passed hrest other done
    have hnamed : (Frame.record fields .skipped name done).named other = some (.record fields .skipped other done) := by
      simp [Frame.named, hunknown]
    have hexpected : (Frame.record fields .skipped other done).expected = .ignored := by
      simp only [Frame.expected, hunknown]
    have hadd : (Frame.record fields .skipped other done).add v = .record fields .skipped other done := by
      simp only [Frame.add, hunknown]
    have hvalue : ReadsInside top (.record fields .skipped other done :: rest) m.value v :=
      readsInside_of_readFrom (hexpected ▸ hv) fun hkept => absurd hexpected hkept
    exact ⟨last, .cons hname hnamed hvalue (by rw [hadd]; exact hgathers)⟩

/-! ## Members in their own texts -/

theorem membersBytes_eq : ∀ members : List (String × Json),
    encodeChars (membersChars members) = commaJoined ((members.map WrittenMember.ofMember).map (·.text))
  | [] => rfl
  | [m] => by
    have h := membersBytes_singleton m.1 m.2 []
    rwa [List.append_nil, List.append_nil] at h
  | first :: m :: members => by
    have h := membersBytes_cons first.1 first.2 m members []
    rw [List.append_nil, List.append_nil, membersBytes_eq (m :: members)] at h
    rw [h]
    simp [commaJoined, WrittenMember.ofMember, WrittenMember.text]

theorem bytes_eq_objectText (members : List (String × Json)) :
    bytes (.object members) = objectText (members.map WrittenMember.ofMember) := by
  have h := bytes_object members []
  rw [List.append_nil, membersBytes_eq] at h
  exact h

theorem isNamed_ofMember (m : String × Json) : (WrittenMember.ofMember m).IsNamed m.1 := by
  have htakes : ((⟨.value, []⟩ : Reader).expected .text).Takes (.string m.1) := ⟨trivial, rfl⟩
  have hplay : play .text {} (encodeChars (stringChars m.1) ++ []) = ([.string m.1], .ok {}) := play_text htakes []
  rw [List.append_nil] at hplay
  exact readFrom_of_play hplay

/-- **Members of different names are taken into the fields of a record**, if the fields take them. -/
theorem exists_gathers_taken {fields : List Field} (rest : List Frame) : ∀ {members : List (String × Json)},
    Ordered members →
    (∀ m ∈ members, Fits (rest.length + 1) m.2 ∧ ∃ f, Field.find? fields m.1 = some f ∧ f.2.2.Takes m.2) →
    ∀ (name : String) {done : List (String × Json)}, (∀ m ∈ members, done.lookup m.1 = none) → ∃ name',
      Gathers top rest (.record fields .skipped name done) (members.map WrittenMember.ofMember)
        (.record fields .skipped name' (insertAll done members))
  | [], _, _, name, _, _ => ⟨name, .nil _⟩
  | (n, v) :: members, hordered, h, name, done, hnew => by
    obtain ⟨hfirst, hrest⟩ := List.pairwise_cons.1 hordered
    obtain ⟨⟨hfits, f, hf, htakes⟩, hothers⟩ := List.forall_mem_cons.1 h
    obtain ⟨hnone, hnew⟩ := List.forall_mem_cons.1 hnew
    have hnewRest : ∀ m ∈ members, (insert n v done).lookup m.1 = none := fun m hm => by
      have hne : m.1 ≠ n := fun heq => String.lt_irrefl _ (heq ▸ hfirst m hm)
      rw [lookup_insert, if_neg hne, hnew m hm]
    obtain ⟨last, hgathers⟩ := exists_gathers_taken rest hrest hothers n hnewRest
    have hnamed : (Frame.record fields .skipped name done).named n = some (.record fields .skipped n done) := by
      simp [Frame.named, hf, hnone]
    have hadd : (Frame.record fields .skipped n done).add v = .record fields .skipped n (insert n v done) := by
      simp only [Frame.add, hf]
    have hexpected : (Frame.record fields .skipped n done).expected = f.2.2 := by simp only [Frame.expected, hf]
    have htakes : ((⟨.value, .record fields .skipped n done :: rest⟩ : Reader).expected top).Takes v := by
      rw [← hexpected] at htakes
      exact htakes
    have hvalue : ReadsInside top (.record fields .skipped n done :: rest) (bytes v) v := fun _ hb more =>
      play_taken v _ htakes hfits hb more
    exact ⟨last, .cons (isNamed_ofMember (n, v)) hnamed hvalue (by rw [hadd]; exact hgathers)⟩

/-- **A record in its own text is read as it is.** -/
theorem readFrom_bytes_record {fields : List Field} {members : List (String × Json)} (hordered : Ordered members)
    (h : ∀ m ∈ members, Fits 1 m.2 ∧ ∃ f, Field.find? fields m.1 = some f ∧ f.2.2.Takes m.2)
    (hall : allPresent fields members = true) :
    readFrom (.record fields .skipped) {} (bytes (.object members)) = .ok (recordOf fields members) := by
  have hnone : ∀ m ∈ members, ([] : List (String × Json)).lookup m.1 = none := fun _ _ => rfl
  obtain ⟨name, hgathers⟩ : ∃ name, Gathers (.record fields .skipped) [] (.record fields .skipped "" [])
      (members.map WrittenMember.ofMember) (.record fields .skipped name (insertAll [] members)) :=
    exists_gathers_taken [] hordered h "" hnone
  have hplay : play (.record fields .skipped) {} (objectText (members.map WrittenMember.ofMember) ++ []) = _ :=
    play_objectText rfl rfl (by decide) rfl hgathers []
  rw [List.append_nil, ← bytes_eq_objectText, insertAll_nil hordered] at hplay
  refine readFrom_of_play (hplay.trans ?_)
  simp [closing, Frame.close?, hall, deliver, playOn, play]

end Reader
end ObjectRelay.Json
