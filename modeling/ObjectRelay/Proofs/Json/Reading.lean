import ObjectRelay.Proofs.Json.Plain
import ObjectRelay.Proofs.Json.Token
import ObjectRelay.Proofs.Json.Value
import Mathlib.Algebra.Order.Group.Nat
/-!
# What is written is read as it was

The reader looks at one byte at a time, so what bytes do to it is what the first one does and then the others
(`Reader.play`).  Behind the text of a value it has taken that value up, whatever container it is inside of, if a value
of that shape is due (`Reader.play_taken`), as long as all numbers are integers, the members of objects are in order, and
nothing is nested too deep.  Members of an object that are in no order are taken up as `objectOf` has it
(`Reader.play_object`).
-/
namespace ObjectRelay.Json

open Utf8 (encodeChars encodeChars_append encodeChars_singleton)

/-- **What can be written and read back** inside of `d` containers. -/
structure Fits (d : Nat) (v : Json) : Prop extends Nested d v where
  whole : v.IsWhole

theorem Fits.length_lt {d : Nat} {v : Json} (h : Fits d v) (hv : 0 < v.depth) : d < maxDepth := by
  have hle := h.depth_le
  omega

theorem Fits.items {d : Nat} {items : List Json} (h : Fits d (array items)) : ∀ item ∈ items, Fits (d + 1) item :=
  fun item hitem => {
    toNested := (nested_array (h.length_lt (Nat.succ_pos _))).1 h.toNested item hitem
    whole := isWhole_array.1 h.whole item hitem }

theorem Fits.members {d : Nat} {members : List (String × Json)} (h : Fits d (object members)) :
    ∀ m ∈ members, Fits (d + 1) m.2 :=
  fun m hm => {
    toNested := ((nested_object (h.length_lt (Nat.succ_pos _))).1 h.toNested).2 m hm
    whole := isWhole_object.1 h.whole m hm }

namespace Reader

/-- The values that bytes complete, and the reader behind the bytes. -/
def play (top : Shape) (r : Reader) : List UInt8 → List Json × Except Fault Reader
  | [] => ([], .ok r)
  | b :: rest => match r.step top b with
    | (v?, .error e) => (v?.toList, .error e)
    | (v?, .ok r) =>
      let (values, final) := play top r rest
      (v?.toList ++ values, final)

/-- What bytes do behind a step. -/
def playOn (top : Shape) (s : Step) (rest : List UInt8) : List Json × Except Fault Reader :=
  match s with
  | (v?, .error e) => (v?.toList, .error e)
  | (v?, .ok r) =>
    let (values, final) := play top r rest
    (v?.toList ++ values, final)

variable {top : Shape}

theorem play_cons (r : Reader) (b : UInt8) (rest : List UInt8) : play top r (b :: rest) = playOn top (r.step top b) rest :=
  rfl

@[simp] theorem playOn_going (r : Reader) (rest : List UInt8) : playOn top (going r) rest = play top r rest := rfl

theorem play_of_step {r next : Reader} {b : UInt8} (h : r.step top b = going next) (rest : List UInt8) :
    play top r (b :: rest) = play top next rest := by
  rw [play_cons, h, playOn_going]

/-! ## Tokens -/

/-- What the reader of a token takes, the reader takes. -/
theorem play_foldlM {σ : Type} {more? : σ → UInt8 → Option σ} {reader : σ → Reader}
    (hstep : ∀ {s b next}, more? s b = some next → (reader s).step top b = going (reader next)) :
    ∀ {bytes : List UInt8} {s s' : σ}, bytes.foldlM more? s = some s' → ∀ rest : List UInt8,
    play top (reader s) (bytes ++ rest) = play top (reader s') rest
  | [], s, s', h, rest => by rw [Option.some.inj h]; rfl
  | b :: bytes, s, s', h, rest => by
    rw [List.foldlM_cons] at h
    obtain ⟨next, hnext, hrest⟩ := Option.bind_eq_some_iff.1 h
    rw [List.cons_append, play_of_step (hstep hnext), play_foldlM hstep hrest rest]

theorem step_string {s next : StringReader} {b : UInt8} (isName : Bool) (stack : List Frame) (h : s.more? b = some next) :
    step top ⟨.string s isName, stack⟩ b = going ⟨.string next isName, stack⟩ := by
  unfold StringReader.more? at h
  split at h
  · rename_i hmore
    simp only [step, hmore, Option.some.inj h]
  · cases h

theorem step_number {n next : NumberReader} {b : UInt8} (stack : List Frame) (h : n.more? b = some next) :
    step top ⟨.number n, stack⟩ b = going ⟨.number next, stack⟩ := by
  unfold NumberReader.more? at h
  split at h
  · rename_i hmore
    simp only [step, hmore, Option.some.inj h]
  · cases h

theorem play_string (stack : List Frame) (isName : Bool) {bytes : List UInt8} {s s' : StringReader}
    (h : s.feed? bytes = some s') (rest : List UInt8) :
    play top ⟨.string s isName, stack⟩ (bytes ++ rest) = play top ⟨.string s' isName, stack⟩ rest :=
  play_foldlM (step_string isName stack) h rest

theorem play_number (stack : List Frame) {bytes : List UInt8} {n n' : NumberReader} (h : n.feed? bytes = some n')
    (rest : List UInt8) : play top ⟨.number n, stack⟩ (bytes ++ rest) = play top ⟨.number n', stack⟩ rest :=
  play_foldlM (step_number stack) h rest

theorem begin_fst (r : Reader) (b : UInt8) : (begin top r b).1 = none := by
  unfold begin
  dsimp only
  repeat' split
  all_goals rfl

/-- Outside all containers no byte between the parts of a text completes a value. -/
theorem between_fst (b : UInt8) : (between top {} b).1 = none := by
  unfold between
  split
  · rfl
  · exact begin_fst _ b

theorem playOn_ended {b : UInt8} (hb : isDelimiter b = true) (v : Json) (rest : List UInt8) :
    playOn top (ended top v b) rest = playOn top (deliver [] v) (b :: rest) := by
  have hstep : step top {} b = between top {} b := rfl
  have hnone : (between top {} b).1 = none := between_fst b
  rcases hbetween : between top {} b with ⟨v?, next⟩
  rw [hbetween] at hnone hstep
  cases hnone
  simp only [ended, hb, if_true, hbetween, deliver, playOn, play_cons, hstep]
  cases next <;> rfl

/-! ## Values -/

theorem play_word {stack : List Frame} {v : Json} (hv : ((⟨.value, stack⟩ : Reader).expected top).scalar v = some v)
    {b : UInt8} (hb : isDelimiter b = true) (rest : List UInt8) : ∀ (c : UInt8) (w : List UInt8),
    play top ⟨.word (c :: w) v, stack⟩ (c :: w ++ b :: rest) = playOn top (deliver stack v) (b :: rest)
  | c, [] => by
    have hscalar : ((⟨.word [c] v, stack⟩ : Reader).expected top).scalar v = some v := hv
    rw [List.singleton_append, play_cons, step]
    simp only [bne_self_eq_false, Bool.false_eq_true, if_false, List.isEmpty_nil, Bool.not_true, hscalar]
    cases stack with
    | nil => exact playOn_ended hb v rest
    | cons frame stack => rfl
  | c, d :: w => by
    have hgoing : step top ⟨.word (c :: d :: w) v, stack⟩ c = going ⟨.word (d :: w) v, stack⟩ := by
      simp [step]
    rw [List.cons_append, play_of_step hgoing]
    exact play_word hv hb rest d w

theorem stringChars_bytes (s : String) (rest : List UInt8) : encodeChars (stringChars s) ++ rest =
    0x22 :: (encodeChars (s.toList.flatMap escapeChar) ++ 0x22 :: rest) := by
  rw [stringChars, encodeChars_append, List.append_assoc]
  rfl

theorem step_closingQuote (s : String) :
    StringReader.step { read := (encodeChars s.toList).reverse ++ [] } 0x22 = .ended (Utf8.encode s) := by
  simp [StringReader.step, Utf8.encode]

theorem play_text {stack : List Frame} {s : String}
    (hs : ((⟨.value, stack⟩ : Reader).expected top).Takes (.string s)) (rest : List UInt8) :
    play top ⟨.value, stack⟩ (encodeChars (stringChars s) ++ rest) = playOn top (deliver stack (.string s)) rest := by
  have hopen : step top ⟨.value, stack⟩ 0x22 = going ⟨.string {} false, stack⟩ := by
    have hignored := hs.plain.isIgnored
    have hbegin : step top ⟨.value, stack⟩ 0x22 = begin top ⟨.value, stack⟩ 0x22 := rfl
    simp [hbegin, begin, hignored]
  have hclose : step top ⟨.string { read := (encodeChars s.toList).reverse ++ [] } false, stack⟩ 0x22 =
      deliver stack (.string s) := by
    have hscalar : ((⟨.string { read := (encodeChars s.toList).reverse ++ [] } false, stack⟩ : Reader).expected
        top).scalar (.string s) = some (.string s) := hs.scalar rfl
    simp only [step, step_closingQuote, Utf8.decode?_encode, Bool.false_eq_true, if_false, hscalar]
  rw [stringChars_bytes, play_of_step hopen, play_string stack false (StringReader.feed?_escapeChars s.toList []),
    play_cons, hclose]

theorem play_name {frame named : Frame} {s : String} (hkept : frame.passesNames = false)
    (hnamed : frame.named s = some named) (stack : List Frame) (rest : List UInt8) :
    play top ⟨.name, frame :: stack⟩ (encodeChars (stringChars s) ++ 0x3A :: rest) =
      play top ⟨.value, named :: stack⟩ rest := by
  have hclose : step top ⟨.string { read := (encodeChars s.toList).reverse ++ [] } true, frame :: stack⟩ 0x22 =
      going ⟨.colon, named :: stack⟩ := by
    simp only [step, step_closingQuote, Utf8.decode?_encode, if_true, hnamed]
  have hcolon : step top ⟨.colon, named :: stack⟩ 0x3A = going ⟨.value, named :: stack⟩ := rfl
  have hopen : step top ⟨.name, frame :: stack⟩ 0x22 = going ⟨.string {} true, frame :: stack⟩ := by
    have hbetween : step top ⟨.name, frame :: stack⟩ 0x22 = between top ⟨.name, frame :: stack⟩ 0x22 := rfl
    simp [hbetween, between, isSpace, hkept]
  rw [stringChars_bytes, play_of_step hopen, play_string _ true (StringReader.feed?_escapeChars s.toList []),
    play_of_step hclose, play_of_step hcolon]

theorem digit?_of_isDelimiter {b : UInt8} (hb : isDelimiter b = true) :
    NumberReader.digit? b = none ∧ b ≠ 0x2E ∧ NumberReader.isMark b = false := by
  simp only [isDelimiter, isSpace, Bool.or_eq_true, beq_iff_eq] at hb
  rcases hb with (((((((((((rfl | rfl) | rfl) | rfl) | rfl) | rfl) | rfl) | rfl) | rfl) | rfl) | rfl)) <;> decide

/-- What may stand behind a number ends it, if it is complete. -/
theorem step_delimiter {n : NumberReader} (h : n.isComplete = true) {b : UInt8} (hb : isDelimiter b = true) :
    n.step b = .ended := by
  obtain ⟨hdigit, hpoint, hmark⟩ := digit?_of_isDelimiter hb
  obtain ⟨phase, negative, significand, scale, powerNegative, power, ignored⟩ := n
  cases phase with
  | sign | point | mark | markSign => cases h
  | _ => simp [NumberReader.step, NumberReader.afterInteger, NumberReader.afterFraction, hdigit, hpoint, hmark]

theorem step_behindDigits {b : UInt8} (hb : isDelimiter b = true) (negative : Bool) (n : Nat) :
    (NumberReader.behindDigits negative n).step b = .ended := by
  refine step_delimiter ?_ hb
  by_cases hn : n = 0 <;> simp [NumberReader.behindDigits, NumberReader.isComplete, hn]

theorem ne_of_digit? {d : UInt8} {k : Nat} (hd : NumberReader.digit? d = some k) {c : UInt8}
    (hc : NumberReader.digit? c = none) : d ≠ c := by
  intro heq
  rw [heq, hc] at hd
  cases hd

/-- An integer begins with a digit. -/
theorem exists_digit {n : Nat} (h : n < UInt64.size) :
    ∃ d bytes k, encodeChars (Nat.toDigits 10 n) = d :: bytes ∧ NumberReader.digit? d = some k := by
  have hfeed := NumberReader.feed?_toDigits false n h
  cases hbytes : encodeChars (Nat.toDigits 10 n) with
  | nil =>
    rw [hbytes] at hfeed
    have hphase := congrArg NumberReader.phase (Option.some.inj hfeed)
    unfold NumberReader.behindDigits at hphase
    split at hphase <;> cases hphase
  | cons d bytes =>
    cases hd : NumberReader.digit? d with
    | some k => exact ⟨d, bytes, k, rfl, hd⟩
    | none =>
      rw [hbytes, NumberReader.feed?_cons, NumberReader.more?] at hfeed
      simp only [NumberReader.step, hd] at hfeed
      cases hfeed

theorem play_toDigits {stack : List Frame} (hignored : ((⟨.value, stack⟩ : Reader).expected top).isIgnored = false)
    {n : Nat} (h : n < UInt64.size) (rest : List UInt8) : play top ⟨.value, stack⟩ (encodeChars (Nat.toDigits 10 n) ++ rest) =
      play top ⟨.number (NumberReader.behindDigits false n), stack⟩ rest := by
  have hfeed := NumberReader.feed?_toDigits false n h
  obtain ⟨d, bytes, k, hbytes, hd⟩ := exists_digit h
  rw [hbytes, NumberReader.feed?_cons] at hfeed
  have hminus : (d == 0x2D) = false := beq_eq_false_iff_ne.2 (ne_of_digit? hd rfl)
  obtain ⟨next, hmore, hstart⟩ : ∃ next, NumberReader.more? { phase := .sign } d = some next ∧
      NumberReader.start? false d = some next := by
    cases k with
    | zero =>
      exact ⟨{ phase := .zero }, by simp [NumberReader.more?, NumberReader.step, hd],
        by simp [NumberReader.start?, hd, hminus]⟩
    | succ k =>
      exact ⟨{ phase := .integer, significand := k + 1 }, by simp [NumberReader.more?, NumberReader.step, hd],
        by simp [NumberReader.start?, hd, hminus]⟩
  rw [hmore, Option.bind_some] at hfeed
  have hspace : isSpace d = false := by
    simp [isSpace, ne_of_digit? hd (c := 0x20) rfl, ne_of_digit? hd (c := 0x0A) rfl, ne_of_digit? hd (c := 0x09) rfl,
      ne_of_digit? hd (c := 0x0D) rfl]
  have hopen : step top ⟨.value, stack⟩ d = going ⟨.number next, stack⟩ := by
    have hbetween : step top ⟨.value, stack⟩ d = between top ⟨.value, stack⟩ d := rfl
    rw [hbetween, between, hspace, if_neg Bool.false_ne_true]
    simp [begin, hignored, hstart, ne_of_digit? hd (c := 0x6E) rfl, ne_of_digit? hd (c := 0x74) rfl,
      ne_of_digit? hd (c := 0x66) rfl, ne_of_digit? hd (c := 0x22) rfl, ne_of_digit? hd (c := 0x5B) rfl,
      ne_of_digit? hd (c := 0x7B) rfl]
  rw [hbytes, List.cons_append, play_of_step hopen, play_number stack hfeed]

theorem natAbs_lt_of_isWhole {i : Int} (h : Number.IsWhole (.int i)) : i.natAbs < UInt64.size := by
  have hsize : UInt64.size = 0x10000000000000000 := rfl
  obtain ⟨hlow, hhigh⟩ := h
  omega

theorem number?_behindDigits {i : Int} (h : Number.IsWhole (.int i)) :
    (NumberReader.behindDigits (decide (i < 0)) i.natAbs).number? = some (.int i) := by
  obtain ⟨hlow, hhigh⟩ := h
  by_cases hneg : i < 0
  · have hne : i.natAbs ≠ 0 := by omega
    have hle : ¬0x8000000000000000 < i.natAbs := by omega
    have habs : -(i.natAbs : Int) = i := by omega
    rw [decide_eq_true hneg, NumberReader.number?_negative hne hle, habs]
  · have habs : (i.natAbs : Int) = i := by omega
    rw [decide_eq_false hneg, NumberReader.number?_positive, habs]

theorem play_behindDigits {stack : List Frame} {i : Int}
    (hi : ((⟨.value, stack⟩ : Reader).expected top).scalar (.number (.int i)) = some (.number (.int i)))
    (h : Number.IsWhole (.int i)) {b : UInt8} (hb : isDelimiter b = true) (rest : List UInt8) :
    play top ⟨.number (NumberReader.behindDigits (decide (i < 0)) i.natAbs), stack⟩ (b :: rest) =
      playOn top (deliver stack (.number (.int i))) (b :: rest) := by
  have hvalue : step.numberValue (NumberReader.behindDigits (decide (i < 0)) i.natAbs)
      ((⟨.number (NumberReader.behindDigits (decide (i < 0)) i.natAbs), stack⟩ : Reader).expected top) =
      .ok (.number (.int i)) := by
    have hscalar : ((⟨.number (NumberReader.behindDigits (decide (i < 0)) i.natAbs), stack⟩ : Reader).expected top).scalar
        (.number (.int i)) = some (.number (.int i)) := hi
    have hkept : (NumberReader.behindDigits (decide (i < 0)) i.natAbs).ignored = false := rfl
    rw [step.numberValue, hkept, number?_behindDigits h]
    simp only [hscalar, Bool.false_eq_true, if_false]
  cases stack with
  | nil =>
    have hstep : step top ⟨.number (NumberReader.behindDigits (decide (i < 0)) i.natAbs), []⟩ b =
        ended top (.number (.int i)) b := by
      simp only [step, step_behindDigits hb, hvalue]
    rw [play_cons, hstep, playOn_ended hb]
  | cons frame stack =>
    have hstep : step top ⟨.number (NumberReader.behindDigits (decide (i < 0)) i.natAbs), frame :: stack⟩ b =
        between top ⟨.follow, frame.add (.number (.int i)) :: stack⟩ b := by
      simp only [step, step_behindDigits hb, hvalue]
    rw [play_cons, hstep]
    rfl

theorem play_int {stack : List Frame} {i : Int}
    (hi : ((⟨.value, stack⟩ : Reader).expected top).Takes (.number (.int i))) (h : Number.IsWhole (.int i)) {b : UInt8}
    (hb : isDelimiter b = true) (rest : List UInt8) :
    play top ⟨.value, stack⟩ (encodeChars (intChars i) ++ b :: rest) =
      playOn top (deliver stack (.number (.int i))) (b :: rest) := by
  have hsize := natAbs_lt_of_isWhole h
  rw [← play_behindDigits (hi.scalar rfl) h hb, intChars]
  by_cases hneg : i < 0
  · have hminus : step top ⟨.value, stack⟩ 0x2D = going ⟨.number { phase := .sign, negative := true }, stack⟩ := by
      have hignored := hi.plain.isIgnored
      have hbegin : step top ⟨.value, stack⟩ 0x2D = begin top ⟨.value, stack⟩ 0x2D := rfl
      simp [hbegin, begin, hignored, NumberReader.start?]
    have hbytes : encodeChars ('-' :: Nat.toDigits 10 i.natAbs) = 0x2D :: encodeChars (Nat.toDigits 10 i.natAbs) := rfl
    rw [if_pos hneg, hbytes, List.cons_append, play_of_step hminus,
      play_number stack (NumberReader.feed?_toDigits true i.natAbs hsize), decide_eq_true hneg]
  · rw [if_neg hneg, play_toDigits hi.plain.isIgnored hsize, decide_eq_false hneg]

/-! ## Arrays and objects -/

/-- A byte that begins a value. -/
def IsStart (b : UInt8) : Prop := isSpace b = false ∧ b ≠ 0x5D ∧ b ≠ 0x7D

/-- The first item of an array begins like any other. -/
theorem step_opened {b : UInt8} (hb : IsStart b) (s : Shape) (done : List Json) (stack : List Frame) :
    step top ⟨.opened, .items s done :: stack⟩ b = step top ⟨.value, .items s done :: stack⟩ b := by
  obtain ⟨hspace, hbracket, hbrace⟩ := hb
  have hopened : step top ⟨.opened, .items s done :: stack⟩ b = between top ⟨.opened, .items s done :: stack⟩ b := rfl
  have hvalue : step top ⟨.value, .items s done :: stack⟩ b = between top ⟨.value, .items s done :: stack⟩ b := rfl
  rw [hopened, hvalue, between, between, hspace, if_neg Bool.false_ne_true, if_neg Bool.false_ne_true]
  simp [hbracket, hbrace, Frame.hasNames, begin, expected]

theorem exists_start : ∀ {v : Json}, v.IsWhole → ∃ b rest, bytes v = b :: rest ∧ IsStart b
  | null, _ => ⟨_, _, rfl, by decide, by decide, by decide⟩
  | bool true, _ => ⟨_, _, rfl, by decide, by decide, by decide⟩
  | bool false, _ => ⟨_, _, rfl, by decide, by decide, by decide⟩
  | number (.float x), h => h.elim
  | string s, _ => ⟨_, _, rfl, by decide, by decide, by decide⟩
  | array items, _ => ⟨_, _, rfl, by decide, by decide, by decide⟩
  | object members, _ => ⟨_, _, rfl, by decide, by decide, by decide⟩
  | number (.int i), h => by
    rw [bytes, chars, numberChars, intChars]
    split
    · exact ⟨_, _, rfl, by decide, by decide, by decide⟩
    · obtain ⟨d, rest, k, hbytes, hd⟩ := exists_digit (natAbs_lt_of_isWhole h)
      refine ⟨d, rest, hbytes, ?_, ne_of_digit? hd rfl, ne_of_digit? hd rfl⟩
      simp [isSpace, ne_of_digit? hd (c := 0x20) rfl, ne_of_digit? hd (c := 0x0A) rfl, ne_of_digit? hd (c := 0x09) rfl,
        ne_of_digit? hd (c := 0x0D) rfl]

theorem exists_start_items {item : Json} (h : item.IsWhole) (items : List Json) :
    ∃ b rest, encodeChars (itemsChars (item :: items)) = b :: rest ∧ IsStart b := by
  obtain ⟨b, rest, hbytes, hb⟩ := exists_start h
  cases items with
  | nil => exact ⟨b, rest, hbytes, hb⟩
  | cons next items =>
    refine ⟨b, rest ++ encodeChars (',' :: itemsChars (next :: items)), ?_, hb⟩
    have hchars : itemsChars (item :: next :: items) = chars item ++ ',' :: itemsChars (next :: items) := rfl
    rw [hchars, encodeChars_append, ← bytes, hbytes, List.cons_append]

section Close

variable {stack : List Frame}

theorem playOn_follow_item (shape : Shape) (done : List Json) (v : Json) (rest : List UInt8) :
    playOn top (deliver (.items shape done :: stack) v) (0x2C :: rest) =
      play top ⟨.value, .items shape (v :: done) :: stack⟩ rest := by
  rw [deliver, playOn_going]
  exact play_of_step rfl rest

theorem playOn_close_items (shape : Shape) (done : List Json) (v : Json) (rest : List UInt8) :
    playOn top (deliver (.items shape done :: stack) v) (0x5D :: rest) =
      playOn top (deliver stack (.array (v :: done).reverse)) rest := by
  rw [deliver, playOn_going]
  rfl

variable {shape : Shape} (hshape : shape.IsPlain)
include hshape

theorem playOn_follow_member (name : String) (done : List (String × Json)) (v : Json) (rest : List UInt8) :
    playOn top (deliver (.table shape name done :: stack) v) (0x2C :: rest) =
      play top ⟨.name, .table shape name (insert name v done) :: stack⟩ rest := by
  rw [deliver, playOn_going, hshape.add_table]
  exact play_of_step rfl rest

theorem playOn_close_table (name : String) (done : List (String × Json)) (v : Json) (rest : List UInt8) :
    playOn top (deliver (.table shape name done :: stack) v) (0x7D :: rest) =
      playOn top (deliver stack (.object (insert name v done))) rest := by
  rw [deliver, playOn_going, hshape.add_table]
  rfl

end Close

theorem step_open {stack : List Frame} (hignored : ((⟨.value, stack⟩ : Reader).expected top).isIgnored = false)
    (hdepth : stack.length < maxDepth) {b : UInt8} (hb : b = 0x5B ∨ b = 0x7B) {frame : Frame}
    (hopen : ((⟨.value, stack⟩ : Reader).expected top).open? b = some frame) :
    step top ⟨.value, stack⟩ b = going ⟨.opened, frame :: stack⟩ := by
  have hbegin : step top ⟨.value, stack⟩ b = begin top ⟨.value, stack⟩ b := by
    rcases hb with rfl | rfl <;> rfl
  rw [hbegin]
  rcases hb with rfl | rfl
  · simp [begin, hopen, hignored, Nat.not_le.2 hdepth]
  · simp [begin, hopen, hignored, Nat.not_le.2 hdepth]

theorem enclosed_bytes {a b : Char} (ha : a.toNat < 0x80) (hb : b.toNat < 0x80) (cs : List Char) (rest : List UInt8) :
    encodeChars (a :: cs ++ [b]) ++ rest = a.toNat.toUInt8 :: (encodeChars cs ++ b.toNat.toUInt8 :: rest) := by
  rw [← List.singleton_append, encodeChars_append, encodeChars_append, encodeChars_singleton, encodeChars_singleton,
    Utf8.encodeChar_ascii ha, Utf8.encodeChar_ascii hb, List.append_assoc, List.append_assoc, List.singleton_append,
    List.singleton_append]

theorem bytes_array (items : List Json) (rest : List UInt8) :
    bytes (array items) ++ rest = 0x5B :: (encodeChars (itemsChars items) ++ 0x5D :: rest) :=
  enclosed_bytes (a := '[') (b := ']') (by decide) (by decide) (itemsChars items) rest

theorem bytes_object (members : List (String × Json)) (rest : List UInt8) :
    bytes (object members) ++ rest = 0x7B :: (encodeChars (membersChars members) ++ 0x7D :: rest) :=
  enclosed_bytes (a := '\x7b') (b := '\x7d') (by decide) (by decide) (membersChars members) rest

theorem itemsBytes_cons (item next : Json) (items : List Json) (rest : List UInt8) :
    encodeChars (itemsChars (item :: next :: items)) ++ rest =
      bytes item ++ 0x2C :: (encodeChars (itemsChars (next :: items)) ++ rest) := by
  have hchars : itemsChars (item :: next :: items) = chars item ++ ',' :: itemsChars (next :: items) := rfl
  rw [hchars, encodeChars_append, List.append_assoc]
  rfl

theorem membersBytes_singleton (n : String) (v : Json) (rest : List UInt8) :
    encodeChars (membersChars [(n, v)]) ++ rest = encodeChars (stringChars n) ++ 0x3A :: (bytes v ++ rest) := by
  rw [membersChars, encodeChars_append, List.append_assoc]
  rfl

theorem membersBytes_cons (n : String) (v : Json) (m : String × Json) (members : List (String × Json))
    (rest : List UInt8) : encodeChars (membersChars ((n, v) :: m :: members)) ++ rest =
      encodeChars (stringChars n) ++ 0x3A :: (bytes v ++ 0x2C :: (encodeChars (membersChars (m :: members)) ++ rest)) := by
  have hchars : membersChars ((n, v) :: m :: members) =
      stringChars n ++ ':' :: (chars v ++ ',' :: membersChars (m :: members)) := rfl
  have hvalue : encodeChars (':' :: (chars v ++ ',' :: membersChars (m :: members))) =
      0x3A :: encodeChars (chars v ++ ',' :: membersChars (m :: members)) := rfl
  rw [hchars, encodeChars_append, hvalue, encodeChars_append, List.append_assoc, List.cons_append, List.append_assoc]
  rfl

section Object

variable {stack : List Frame} {shape : Shape} (hshape : (⟨.value, stack⟩ : Reader).expected top = shape)
  (hplain : shape.IsPlain) {value : Shape} (hvalue : shape.member? = some value) (hdepth : stack.length < maxDepth)
include hshape hplain hvalue hdepth

theorem step_brace : step top ⟨.value, stack⟩ 0x7B = going ⟨.opened, .table value "" [] :: stack⟩ := by
  subst hshape
  refine step_open hplain.isIgnored hdepth (.inr rfl) ?_
  rw [hplain.open?_brace rfl, hvalue]
  rfl

theorem play_object_nil (rest : List UInt8) :
    play top ⟨.value, stack⟩ (bytes (object []) ++ rest) = playOn top (deliver stack (.object [])) rest := by
  rw [bytes_object, play_of_step (step_brace hshape hplain hvalue hdepth)]
  rfl

/-- The first member of an object begins like any other. -/
theorem play_object_cons (m : String × Json) (members : List (String × Json)) (rest : List UInt8) :
    play top ⟨.value, stack⟩ (bytes (object (m :: members)) ++ rest) =
      play top ⟨.name, .table value "" [] :: stack⟩ (encodeChars (membersChars (m :: members)) ++ 0x7D :: rest) := by
  have hquote : ∃ tail, encodeChars (membersChars (m :: members)) = 0x22 :: tail := by
    cases members with
    | nil => exact ⟨_, rfl⟩
    | cons next members => exact ⟨_, rfl⟩
  obtain ⟨tail, htail⟩ := hquote
  rw [bytes_object, play_of_step (step_brace hshape hplain hvalue hdepth), htail]
  rfl

end Object

mutual

/-- **The text of a value is read as that value**, where one of its shape is due. -/
theorem play_taken : ∀ (v : Json) (stack : List Frame), ((⟨.value, stack⟩ : Reader).expected top).Takes v →
    Fits stack.length v → ∀ {b : UInt8}, isDelimiter b = true → ∀ rest : List UInt8,
    play top ⟨.value, stack⟩ (bytes v ++ b :: rest) = playOn top (deliver stack v) (b :: rest)
  | null, _, htakes, _, _, hb, rest => play_word (htakes.scalar rfl) hb rest 0x75 [0x6C, 0x6C]
  | bool true, _, htakes, _, _, hb, rest => play_word (htakes.scalar rfl) hb rest 0x72 [0x75, 0x65]
  | bool false, _, htakes, _, _, hb, rest => play_word (htakes.scalar rfl) hb rest 0x61 [0x6C, 0x73, 0x65]
  | number (.int i), _, htakes, h, _, hb, rest => play_int htakes h.whole hb rest
  | number (.float x), _, _, h, _, hb, rest => h.whole.elim
  | string s, _, htakes, _, b, hb, rest => play_text htakes (b :: rest)
  | array items, stack, htakes, h, b, hb, rest => by
    obtain ⟨item, hitem, hitems⟩ := (Shape.takes_array htakes.plain).1 htakes
    have hopen : step top ⟨.value, stack⟩ 0x5B = going ⟨.opened, .items item [] :: stack⟩ := by
      refine step_open htakes.plain.isIgnored (h.length_lt (Nat.succ_pos _)) (.inl rfl) ?_
      rw [htakes.plain.open?_bracket, hitem]
      rfl
    rw [bytes_array, play_of_step hopen]
    cases items with
    | nil => rfl
    | cons first items =>
      obtain ⟨c, tail, hbytes, hstart⟩ := exists_start_items (h.items first List.mem_cons_self).whole items
      rw [hbytes, List.cons_append, play_cons, step_opened hstart, ← play_cons, ← List.cons_append, ← hbytes,
        play_items (first :: items) (List.cons_ne_nil _ _) stack h.items hitems]
      rfl
  | object members, stack, htakes, h, b, hb, rest => by
    obtain ⟨value, hvalue, hmembers⟩ := (Shape.takes_object htakes.plain).1 htakes
    have hdepth : stack.length < maxDepth := h.length_lt (Nat.succ_pos _)
    cases members with
    | nil => exact play_object_nil rfl htakes.plain hvalue hdepth (b :: rest)
    | cons m members =>
      rw [play_object_cons rfl htakes.plain hvalue hdepth, play_members (m :: members) (List.cons_ne_nil _ _) stack
        h.members hmembers, insertAll_nil (isOrdered_object.1 h.ordered).1]

theorem play_items : ∀ (items : List Json), items ≠ [] → ∀ (stack : List Frame),
    (∀ item ∈ items, Fits (stack.length + 1) item) → ∀ {shape : Shape}, (∀ item ∈ items, shape.Takes item) →
    ∀ (done : List Json) (rest : List UInt8),
    play top ⟨.value, .items shape done :: stack⟩ (encodeChars (itemsChars items) ++ 0x5D :: rest) =
      playOn top (deliver stack (.array (done.reverse ++ items))) rest
  | [], hne, _, _, _, _, _, _ => absurd rfl hne
  | [item], _, stack, h, shape, htakes, done, rest => by
    rw [itemsChars, ← bytes, play_taken item (.items shape done :: stack) (htakes item List.mem_cons_self)
      (h item List.mem_cons_self) rfl, playOn_close_items, List.reverse_cons]
  | item :: next :: items, _, stack, h, shape, htakes, done, rest => by
    rw [itemsBytes_cons, play_taken item (.items shape done :: stack) (htakes item List.mem_cons_self)
      (h item List.mem_cons_self) rfl, playOn_follow_item,
      play_items (next :: items) (List.cons_ne_nil _ _) stack (fun i hi => h i (List.mem_cons_of_mem _ hi))
        fun i hi => htakes i (List.mem_cons_of_mem _ hi)]
    simp

theorem play_members : ∀ (members : List (String × Json)), members ≠ [] → ∀ (stack : List Frame),
    (∀ m ∈ members, Fits (stack.length + 1) m.2) → ∀ {shape : Shape}, (∀ m ∈ members, shape.Takes m.2) →
    ∀ (name : String) (done : List (String × Json)) (rest : List UInt8),
    play top ⟨.name, .table shape name done :: stack⟩ (encodeChars (membersChars members) ++ 0x7D :: rest) =
      playOn top (deliver stack (.object (insertAll done members))) rest
  | [], hne, _, _, _, _, _, _, _ => absurd rfl hne
  | [(n, v)], _, stack, h, shape, htakes, name, done, rest => by
    have htake : shape.Takes v := htakes (n, v) List.mem_cons_self
    rw [membersBytes_singleton, play_name htake.plain.passesNames_table rfl,
      play_taken v (.table shape n done :: stack) htake (h (n, v) List.mem_cons_self) rfl,
      playOn_close_table htake.plain]
    rfl
  | (n, v) :: m :: members, _, stack, h, shape, htakes, name, done, rest => by
    have htake : shape.Takes v := htakes (n, v) List.mem_cons_self
    rw [membersBytes_cons, play_name htake.plain.passesNames_table rfl,
      play_taken v (.table shape n done :: stack) htake (h (n, v) List.mem_cons_self) rfl,
      playOn_follow_member htake.plain,
      play_members (m :: members) (List.cons_ne_nil _ _) stack (fun m' hm' => h m' (List.mem_cons_of_mem _ hm'))
        fun m' hm' => htakes m' (List.mem_cons_of_mem _ hm')]
    rfl

end

/-- Where any value is due, the text of a value is read as that value. -/
theorem play_value (v : Json) (stack : List Frame) (hany : (⟨.value, stack⟩ : Reader).expected top = .any)
    (h : Fits stack.length v) {b : UInt8} (hb : isDelimiter b = true) (rest : List UInt8) :
    play top ⟨.value, stack⟩ (bytes v ++ b :: rest) = playOn top (deliver stack v) (b :: rest) :=
  play_taken v stack (hany ▸ Shape.takes_any v) h hb rest

/-- **An object is read with its members in order**, whatever order they are written in. -/
theorem play_object {members : List (String × Json)} {stack : List Frame}
    (hany : (⟨.value, stack⟩ : Reader).expected top = .any) (hdepth : stack.length < maxDepth)
    (h : ∀ m ∈ members, Fits (stack.length + 1) m.2) (rest : List UInt8) :
    play top ⟨.value, stack⟩ (bytes (object members) ++ rest) = playOn top (deliver stack (objectOf members)) rest := by
  cases members with
  | nil => exact play_object_nil hany trivial rfl hdepth rest
  | cons m members =>
    rw [play_object_cons hany trivial rfl hdepth, play_members (m :: members) (List.cons_ne_nil _ _) stack h
      (fun m _ => Shape.takes_any m.2), objectOf_eq]

end Reader
end ObjectRelay.Json
