import ObjectRelay.Proofs.Json.Nesting
import ObjectRelay.Proofs.Text.Utf8
import Mathlib.Algebra.Order.BigOperators.Group.List
import Mathlib.Algebra.Order.Group.Nat
/-!
# A text weighs no less than what it holds

A byte of a string that is read stands for itself in the text, or is written there as an escape, and the quotes come on
top of that.  So on a scale on which no escape weighs less than what it stands for (`Scale`), the strings that an array
or object holds weigh together no more than the text that it is read from (`loads_le_of_parse`).
-/
namespace ObjectRelay.Json

/-- **A scale for texts and for what is read from them.** -/
structure Scale where
  /-- What a byte of a text weighs. -/
  text : UInt8 → Nat
  /-- What a byte of a string weighs that has been read. -/
  read : UInt8 → Nat
  /-- No character weighs more than this. -/
  most : Nat
  plain : ∀ b, b ≠ 0x22 → b ≠ 0x5C → read b ≤ text b
  short : ∀ {b c}, StringReader.shortEscape? b = some c → read c ≤ text 0x5C + text b
  char : ∀ c, ((Utf8.encodeChar c).map read).sum ≤ most
  digits : ∀ ds : List UInt8, 4 ≤ ds.length → most ≤ text 0x5C + text 0x75 + (ds.map text).sum

namespace Scale

variable (w : Scale)

/-- What a text weighs. -/
def weight (bytes : List UInt8) : Nat := (bytes.map w.text).sum

/-- What a string weighs without its quotes. -/
def content (bytes : List UInt8) : Nat := (bytes.map w.read).sum

/-- What a string weighs with its quotes. -/
def quoted (s : String) : Nat := w.text 0x22 + w.content (Utf8.encode s) + w.text 0x22

/-- What a value weighs itself; only strings count. -/
def load : Json → Nat
  | .string s => w.quoted s
  | _ => 0

/-- What values weigh together. -/
def loads (vs : List Json) : Nat := (vs.map w.load).sum

theorem weight_cons (b : UInt8) (bytes : List UInt8) : w.weight (b :: bytes) = w.text b + w.weight bytes := by
  rw [weight, weight, List.map_cons, List.sum_cons]

theorem content_cons (b : UInt8) (bytes : List UInt8) : w.content (b :: bytes) = w.read b + w.content bytes := by
  rw [content, content, List.map_cons, List.sum_cons]

theorem content_append (a b : List UInt8) : w.content (a ++ b) = w.content a + w.content b := by
  rw [content, content, content, List.map_append, List.sum_append]

theorem content_reverse (bytes : List UInt8) : w.content bytes.reverse = w.content bytes := by
  rw [content, content, List.map_reverse, List.sum_reverse]

theorem loads_nil : w.loads [] = 0 := rfl

theorem loads_cons (v : Json) (vs : List Json) : w.loads (v :: vs) = w.load v + w.loads vs := by
  rw [loads, loads, List.map_cons, List.sum_cons]

theorem loads_le_of_subperm {vs vs' : List Json} (h : vs.Subperm vs') : w.loads vs ≤ w.loads vs' := by
  obtain ⟨l, hperm, hsub⟩ := h
  have hle : w.loads l ≤ w.loads vs' := (hsub.map w.load).sum_le_sum fun _ _ => Nat.zero_le _
  rwa [loads, (hperm.map w.load).sum_nat] at hle

end Scale

/-! ## Strings -/

namespace StringReader

/-- What has been read of a string weighs, with the escape that it is in. -/
def load (w : Scale) (s : StringReader) : Nat := w.content s.read + match s.phase with
  | .plain => 0
  | .escape => w.text 0x5C
  | .digits ds => w.text 0x5C + w.text 0x75 + w.weight ds
  | .half _ | .halfEscape _ | .halfDigits .. => w.most

variable {w : Scale} {s next : StringReader} {b : UInt8}

theorem load_push_le (s : StringReader) (n : Nat) : (s.push n).load w ≤ w.content s.read + w.most := by
  have hchar : w.content (Utf8.encodeChar (Char.ofNat n)) ≤ w.most := w.char _
  simp only [load, push, Scale.content_append, Scale.content_reverse]
  omega

theorem load_escaped_le {n : Nat} (h : s.escaped n = .more next) : next.load w ≤ w.content s.read + w.most := by
  unfold escaped at h
  repeat' split at h
  all_goals cases h
  · exact Nat.le_add_right _ _
  · exact Nat.le_refl _
  · exact load_push_le s n

theorem load_paired_le {high low : Nat} (h : s.paired high low = .more next) :
    next.load w ≤ w.content s.read + w.most := by
  unfold paired at h
  split at h <;> cases h
  exact load_push_le s _

/-- **No byte adds more than its weight** to what has been read of a string. -/
theorem load_step_le (h : s.step b = .more next) : next.load w ≤ s.load w + w.text b := by
  obtain ⟨phase, read, ignored⟩ := s
  cases phase with
  | plain =>
    simp only [step] at h
    split at h
    · cases h
    split at h
    · rename_i hb
      cases h
      rw [eq_of_beq hb]
      exact Nat.le_refl _
    split at h
    · cases h
    split at h
    · cases h
      exact Nat.le_add_right _ _
    · rename_i hquote hbackslash _ _
      cases h
      have hb := w.plain b (by simpa using hquote) (by simpa using hbackslash)
      simp only [load, Scale.content_cons]
      omega
  | escape =>
    simp only [step] at h
    repeat' split at h
    all_goals cases h
    · rename_i hb
      rw [eq_of_beq hb]
      simp [load, Scale.weight, Nat.add_assoc]
    · rename_i c hc
      have hshort := w.short hc
      simp only [load, Scale.content_cons]
      omega
  | digits ds =>
    simp only [step] at h
    split at h
    · cases h
      simp only [load, Scale.weight_cons]
      omega
    · rename_i hlength
      split at h
      · have hdigits := w.digits (b :: ds) (by rw [List.length_cons]; omega)
        have hle := load_escaped_le (w := w) h
        rw [List.map_cons, List.sum_cons] at hdigits
        simp only [load, Scale.weight] at hle ⊢
        omega
      · cases h
  | half high | halfEscape high =>
    simp only [step] at h
    split at h <;> cases h
    exact Nat.le_add_right _ _
  | halfDigits high ds =>
    simp only [step] at h
    repeat' split at h
    · cases h
      exact Nat.le_add_right _ _
    · exact Nat.le_trans (load_paired_le h) (Nat.le_add_right _ _)
    · cases h

/-- A string ends at its closing quote, behind all that has been read. -/
theorem eq_of_ended {bytes : List UInt8} (h : s.step b = .ended bytes) : b = 0x22 ∧ w.content bytes = s.load w := by
  obtain ⟨phase, read, ignored⟩ := s
  cases phase with
  | plain =>
    simp only [step] at h
    repeat' split at h
    all_goals cases h
    rename_i hb
    exact ⟨eq_of_beq hb, w.content_reverse read⟩
  | _ =>
    simp only [step, escaped, paired] at h
    repeat' split at h
    all_goals cases h

end StringReader

/-! ## Containers -/

/-- The items of an array and the values of an object. -/
def children : Json → List Json
  | array items => items
  | object members => members.map Prod.snd
  | _ => []

/-- The values that a container has taken up. -/
def Frame.held : Frame → List Json
  | .items _ done => done
  | .ordered _ _ done | .table _ _ done | .record _ _ _ done => done.map Prod.snd

namespace Frame

variable (w : Scale) {frame : Frame}

theorem loads_insert_le (name : String) (v : Json) : ∀ done : List (String × Json),
    w.loads ((insert name v done).map Prod.snd) ≤ w.load v + w.loads (done.map Prod.snd)
  | [] => Nat.le_refl _
  | (other, u) :: rest => by
    have ih := loads_insert_le name v rest
    rw [insert]
    repeat' split
    all_goals simp only [List.map_cons, Scale.loads_cons]
    all_goals omega

/-- A container takes up one value, or passes it over. -/
theorem loads_add_le (v : Json) : w.loads (frame.add v).held ≤ w.load v + w.loads frame.held := by
  unfold add
  repeat' split
  · exact Nat.le_of_eq (w.loads_cons v _)
  · exact loads_insert_le w _ v _
  · exact Nat.le_add_left _ _
  · exact Nat.le_add_left _ _
  · exact loads_insert_le w _ v _
  · exact Nat.le_add_left _ _
  · exact Nat.le_add_left _ _
  · exact loads_insert_le w _ v _

theorem held_named {next : Frame} {name : String} (h : frame.named name = some next) : next.held = frame.held := by
  cases frame with
  | record fields others before done =>
    simp only [named] at h
    split at h <;> cases h
    rfl
  | _ =>
    cases h
    rfl

theorem held_of_open? {s : Shape} {b : UInt8} (h : s.open? b = some frame) : frame.held = [] := by
  unfold Shape.open? at h
  repeat' split at h
  all_goals cases h
  all_goals rfl

/-- A container that ends holds nothing but what it has taken up. -/
theorem children_subperm_of_close? {b : UInt8} {v : Json} (h : frame.close? b = some (.ok v)) :
    v.children.Subperm frame.held ∧ w.load v = 0 := by
  have hrecord (fields : List Field) (done : List (String × Json)) :
      (recordOf fields done).children.Subperm (done.map Prod.snd) ∧ w.load (recordOf fields done) = 0 :=
    ⟨(List.filter_sublist.map Prod.snd).subperm, rfl⟩
  cases frame with
  | items shape done =>
    simp only [close?] at h
    split at h <;> cases h
    exact ⟨(List.reverse_perm done).subperm, rfl⟩
  | table shape name done =>
    simp only [close?] at h
    split at h <;> cases h
    exact ⟨List.Subperm.refl _, rfl⟩
  | ordered all coming done =>
    simp only [close?] at h
    repeat' split at h
    all_goals cases h
    exact hrecord all done
  | record fields others name done =>
    simp only [close?] at h
    repeat' split at h
    all_goals cases h
    exact hrecord fields done

end Frame

/-! ## Readers -/

/-- What has been read of a value that is not complete weighs. -/
def Mode.load (w : Scale) : Mode → Nat
  | .string s _ => w.text 0x22 + s.load w
  | .word _ v | .ending v => w.loads (v :: v.children)
  | _ => 0

namespace Reader

/-- What the containers weigh that a reader is inside of. -/
def stackLoad (w : Scale) (stack : List Frame) : Nat := (stack.map fun frame => w.loads frame.held).sum

/-- **What a reader has taken up so far weighs.** -/
def load (w : Scale) (r : Reader) : Nat := r.mode.load w + stackLoad w r.stack

/-- **What comes of a byte weighs no more than `k`.** -/
structure Within (w : Scale) (k : Nat) (s : Step) : Prop where
  given : ∀ v, s.1 = some v → w.loads (v :: v.children) ≤ k
  next : ∀ r, s.2 = .ok r → r.load w ≤ k

variable {w : Scale} {top : Shape} {k : Nat} {r : Reader} {stack : List Frame} {b : UInt8}

theorem stackLoad_cons (frame : Frame) (rest : List Frame) :
    stackLoad w (frame :: rest) = w.loads frame.held + stackLoad w rest := by
  rw [stackLoad, stackLoad, List.map_cons, List.sum_cons]

theorem within_fault (e : Fault) : Within w k (fault e) := ⟨fun _ h => (nomatch h), fun _ h => (nomatch h)⟩

theorem within_going (h : r.load w ≤ k) : Within w k (going r) where
  given _ hv := nomatch hv
  next r hr := by
    cases hr
    exact h

theorem within_deliver {v : Json} (h : w.loads (v :: v.children) + stackLoad w stack ≤ k) :
    Within w k (deliver stack v) := by
  cases stack with
  | nil =>
    refine ⟨fun u hu => ?_, fun r hr => ?_⟩
    · cases hu
      exact h
    · cases hr
      exact Nat.zero_le k
  | cons frame rest =>
    refine within_going ?_
    have hadd := frame.loads_add_le w v
    rw [Scale.loads_cons, stackLoad_cons] at h
    simp only [load, Mode.load, stackLoad_cons]
    omega

theorem within_begin {mode : Mode} (h : stackLoad w stack + w.text b ≤ k) :
    Within w k (begin top ⟨mode, stack⟩ b) := by
  have hstack : 0 + stackLoad w stack ≤ k := by omega
  unfold begin
  dsimp only
  repeat' split
  · exact within_going hstack
  · exact within_going hstack
  · exact within_going hstack
  · rename_i hquote
    refine within_going ?_
    rw [eq_of_beq hquote, Nat.add_comm] at h
    exact h
  · exact within_fault _
  · exact within_fault _
  · rename_i hopen _
    refine within_going ?_
    rw [load, stackLoad_cons, Frame.held_of_open? hopen]
    exact Nat.le_trans (Nat.le_of_eq (Nat.zero_add _)) hstack
  · exact within_going hstack
  · exact within_fault _

theorem within_closing {frame : Frame} (h : stackLoad w (frame :: stack) ≤ k) (b : UInt8) :
    Within w k (closing frame stack b) := by
  unfold closing
  split
  · rename_i v hclose
    obtain ⟨hchildren, hload⟩ := Frame.children_subperm_of_close? w hclose
    have hle := w.loads_le_of_subperm hchildren
    rw [stackLoad_cons] at h
    refine within_deliver ?_
    rw [Scale.loads_cons]
    omega
  · exact within_fault _
  · exact within_fault _

theorem within_between (top : Shape) (h : r.load w + w.text b ≤ k) : Within w k (between top r b) := by
  obtain ⟨mode, stack⟩ := r
  have hbegin : stackLoad w stack + w.text b ≤ k := by
    simp only [load] at h
    omega
  have hstack : stackLoad w stack ≤ k := Nat.le_of_add_right_le hbegin
  have hname {ignored : Bool} (hquote : (b == 0x22) = true) :
      load w ⟨.string { ignored } true, stack⟩ ≤ k := by
    rw [eq_of_beq hquote, Nat.add_comm] at hbegin
    exact hbegin
  unfold between
  split
  · exact within_going (Nat.le_of_add_right_le h)
  dsimp only
  split
  · repeat' split
    · exact within_closing hstack b
    · rename_i hquote
      exact within_going (hname hquote)
    · exact within_fault _
    · exact within_begin hbegin
  · split
    · split
      · exact within_fault _
      · refine within_going (Nat.le_trans (Nat.le_of_eq ?_) hstack)
        dsimp only [load]
        split <;> exact Nat.zero_add _
    · exact within_closing hstack b
  · split
    · rename_i hquote
      exact within_going (hname hquote)
    · exact within_fault _
  · split
    · exact within_going (Nat.le_trans (Nat.le_of_eq (Nat.zero_add _)) hstack)
    · exact within_fault _
  · exact within_begin hbegin

theorem within_ended {v : Json} (h : w.loads (v :: v.children) + w.text b ≤ k) : Within w k (ended top v b) := by
  unfold ended
  split
  · have hstart : load w {} + w.text b ≤ k := by
      have hnone : load w {} = 0 := rfl
      omega
    refine ⟨fun u hu => ?_, (within_between top hstart).next⟩
    cases hu
    exact Nat.le_of_add_right_le h
  · exact within_fault _

theorem loads_numberValue {n : NumberReader} {shape : Shape} {v : Json} (h : step.numberValue n shape = .ok v) :
    w.loads (v :: v.children) = 0 := by
  unfold step.numberValue at h
  repeat' split at h
  all_goals cases h
  · rfl
  · rename_i hscalar
    rw [Shape.scalar_eq hscalar]
    rfl

theorem loads_string (w : Scale) (s : String) : w.loads (string s :: (string s).children) = w.quoted s := Nat.add_zero _

/-- **No byte adds more than its weight.** -/
theorem within_step (top : Shape) (r : Reader) (b : UInt8) : Within w (r.load w + w.text b) (step top r b) := by
  obtain ⟨mode, stack⟩ := r
  cases mode with
  | word rest v =>
    have hle : w.loads (v :: v.children) + stackLoad w stack ≤ load w ⟨.word rest v, stack⟩ + w.text b :=
      Nat.le_add_right _ _
    cases rest with
    | nil => exact within_fault _
    | cons c rest =>
      simp only [step]
      split
      · exact within_fault _
      split
      · exact within_going hle
      split
      · exact within_fault _
      rename_i u hscalar
      obtain rfl := Shape.scalar_eq hscalar
      split
      · exact within_going hle
      · exact within_deliver hle
  | number n =>
    simp only [step]
    split
    · exact within_going (Nat.le_add_right _ _)
    · exact within_fault _
    · split
      · exact within_fault _
      · rename_i v hvalue
        have hv : w.loads (v :: v.children) = 0 := loads_numberValue hvalue
        cases stack with
        | nil => exact within_ended (Nat.le_of_eq (by rw [hv]; rfl))
        | cons frame rest =>
          refine within_between top ?_
          have hadd := frame.loads_add_le w v
          rw [Scale.loads_cons] at hv
          simp only [load, Mode.load, stackLoad_cons]
          omega
  | string s isName =>
    simp only [step]
    split
    · rename_i next hnext
      have hle := StringReader.load_step_le (w := w) hnext
      refine within_going ?_
      simp only [load, Mode.load]
      omega
    · exact within_fault _
    · rename_i bytes hended
      obtain ⟨rfl, hbytes⟩ := StringReader.eq_of_ended (w := w) hended
      split
      · exact within_fault _
      · rename_i text htext
        have hquoted : w.quoted text + stackLoad w stack = load w ⟨.string s isName, stack⟩ + w.text 0x22 := by
          rw [Scale.quoted, Utf8.decode?_eq_some_iff.1 htext, hbytes]
          simp only [load, Mode.load]
          omega
        split
        · cases stack with
          | nil => exact within_fault _
          | cons frame rest =>
            dsimp only
            split
            · exact within_fault _
            · rename_i named hnamed
              refine within_going ?_
              rw [load, stackLoad_cons, Frame.held_named hnamed, ← stackLoad_cons, ← hquoted]
              exact Nat.add_le_add_right (Nat.zero_le _) _
        · split
          · exact within_fault _
          · rename_i hscalar
            obtain rfl := Shape.scalar_eq hscalar
            exact within_deliver (Nat.le_of_eq (by rw [loads_string, hquoted]))
  | ending v => exact within_ended (by simp only [load, Mode.load]; omega)
  | _ => exact within_between top (Nat.le_refl _)

theorem loads_le_of_finish {v : Json} (h : r.finish top = .ok (some v)) : w.loads (v :: v.children) ≤ r.load w := by
  obtain ⟨mode, stack⟩ := r
  cases mode with
  | value =>
    simp only [finish] at h
    split at h <;> cases h
  | ending u =>
    cases h
    exact Nat.le_add_right _ _
  | number n =>
    simp only [finish] at h
    repeat' split at h
    all_goals cases h
    rename_i hvalue
    rw [loads_numberValue hvalue]
    exact Nat.zero_le _
  | _ => cases h

end Reader

theorem loads_le_of_readFrom (w : Scale) {top : Shape} {v : Json} : ∀ {bytes : List UInt8} {r : Reader},
    readFrom top r bytes = .ok v → w.loads (v :: v.children) ≤ r.load w + w.weight bytes
  | [], r, h => by
    rw [readFrom] at h
    split at h
    · rename_i hfinish
      cases h
      exact Reader.loads_le_of_finish hfinish
    · cases h
    · cases h
  | b :: rest, r, h => by
    have hstep := Reader.within_step (w := w) top r b
    rw [w.weight_cons, ← Nat.add_assoc]
    rw [readFrom] at h
    split at h
    · cases h
    · rename_i next hnext
      exact Nat.le_trans (loads_le_of_readFrom w h) (Nat.add_le_add_right (hstep.next next (by rw [hnext])) _)
    · rename_i u next hnext
      split at h
      · cases h
        exact Nat.le_trans (hstep.given v (by rw [hnext])) (Nat.le_add_right _ _)
      · cases h
    · cases h

/-- **A text weighs no less than the strings together that stand in it.** -/
theorem loads_le_of_parse (w : Scale) {text : String} {v : Json} (h : parse text = .ok v) :
    w.loads (v :: v.children) ≤ w.weight (Utf8.encode text) := by
  have hle := loads_le_of_readFrom w h
  rwa [show Reader.load w {} = 0 from rfl, Nat.zero_add] at hle

end ObjectRelay.Json
