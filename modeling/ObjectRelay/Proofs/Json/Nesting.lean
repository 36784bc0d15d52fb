import ObjectRelay.Proofs.Json.Value
import Mathlib.Tactic.SplitIfs
/-!
# What a reader has read

Under a shape that passes nothing over but unknown members (`Shape.IsSolid`), everything that is kept is in order
and not nested too deep, container by container (`Reader.Stacked`).  Values that are passed over may be anything,
and are never taken up.  So what is read is in order and not nested too deep (`nested_of_read`).
-/
namespace ObjectRelay.Json

/-! ## Shapes -/

mutual

/-- Whether no part of a shape is passed over as a whole. -/
def Shape.IsSolid : Shape → Prop
  | .ignored => False
  | .nullable s => Shape.IsSolid s
  | .list s => Shape.IsSolid s
  | .table s => Shape.IsSolid s
  | .record fields _ => FieldsSolid fields
  | _ => True

def FieldsSolid : List (String × Presence × Shape) → Prop
  | [] => True
  | (_, _, s) :: rest => Shape.IsSolid s ∧ FieldsSolid rest

end

theorem fieldsSolid_iff : ∀ {fields : List Field}, FieldsSolid fields ↔ ∀ f ∈ fields, Shape.IsSolid f.2.2
  | [] => by simp [FieldsSolid]
  | (name, p, s) :: rest => by
    rw [FieldsSolid, fieldsSolid_iff, List.forall_mem_cons]

theorem Shape.IsSolid.isIgnored {s : Shape} (h : s.IsSolid) : s.isIgnored = false := by
  cases s <;> first | rfl | exact h.elim

theorem Shape.IsSolid.present : ∀ {s : Shape}, s.IsSolid → s.present.IsSolid
  | .nullable s, h => IsSolid.present (s := s) h
  | .any, h | .text, h | .integer, h | .flag, h | .list _, h | .table _, h | .record .., h => h

/-- What is read under a shape stays as it is. -/
theorem Shape.scalar_eq : ∀ {s : Shape} {v w : Json}, s.scalar v = some w → w = v
  | .nullable s, v, w, h => by
    unfold scalar at h
    cases v with
    | null => exact (Option.some.inj h).symm
    | _ => exact scalar_eq (s := s) h
  | .any, v, w, h | .ignored, v, w, h => (Option.some.inj h).symm
  | .text, v, w, h | .flag, v, w, h => by
    cases v <;> first | exact (Option.some.inj h).symm | cases h
  | .integer, v, w, h => by
    cases v with
    | number n =>
      cases n with
      | int i =>
        rw [scalar] at h
        split at h
        · exact (Option.some.inj h).symm
        · cases h
      | float x => cases h
    | _ => cases h
  | .list _, v, w, h | .table _, v, w, h | .record .., v, w, h => by cases h

theorem nested_of_depth_eq_zero {d : Nat} (hd : d ≤ maxDepth) {v : Json} (h : v.depth = 0) : Nested d v := by
  refine ⟨by rwa [h], ?_⟩
  cases v with
  | array items => cases h
  | object members => cases h
  | _ => trivial

/-! ## Containers -/

/-- Whether a container is passed over. -/
def Frame.IsIgnored : Frame → Prop
  | .items .ignored _ | .table .ignored _ _ => True
  | _ => False

/-- **What a container keeps**, the `d`-th from outside. -/
inductive Frame.Holds (d : Nat) : Frame → Prop
  | items {s done} (hs : s.IsSolid) (hdone : ∀ v ∈ done, Nested d v) : Holds d (.items s done)
  | ordered {all coming done} (hcoming : FieldsSolid coming) (hordered : Ordered done)
      (hdone : ∀ m ∈ done, Nested d m.2) : Holds d (.ordered all coming done)
  | table {s name done} (hs : s.IsSolid) (hordered : Ordered done) (hdone : ∀ m ∈ done, Nested d m.2) :
      Holds d (.table s name done)
  | record {fields others name done} (hfields : FieldsSolid fields) (hordered : Ordered done)
      (hdone : ∀ m ∈ done, Nested d m.2) : Holds d (.record fields others name done)

namespace Frame.IsIgnored

variable {frame : Frame} (h : frame.IsIgnored)
include h

theorem expected : frame.expected = .ignored := by
  unfold Frame.IsIgnored at h
  split at h
  · rfl
  · rfl
  · exact h.elim

theorem add (v : Json) : (frame.add v).IsIgnored := by
  unfold Frame.IsIgnored at h
  split at h
  · trivial
  · trivial
  · exact h.elim

theorem named {named : Frame} {name : String} (hnamed : frame.named name = some named) : named.IsIgnored := by
  unfold Frame.IsIgnored at h
  split at h
  · cases hnamed; trivial
  · cases hnamed; trivial
  · exact h.elim

end Frame.IsIgnored

namespace Frame.Holds

variable {d : Nat} {frame : Frame}

theorem forall_mem_insert {name : String} {v : Json} {done : List (String × Json)} (hv : Nested d v)
    (hdone : ∀ m ∈ done, Nested d m.2) : ∀ m ∈ insert name v done, Nested d m.2 := by
  intro m hm
  rcases mem_insert hm with rfl | hm
  · exact hv
  · exact hdone m hm

/-- What is expected in a container is kept, or is passed over as a whole. -/
theorem expected (h : frame.Holds d) : frame.expected = .ignored ∨ frame.expected.IsSolid := by
  cases h with
  | items hs hdone => exact .inr hs
  | table hs hordered hdone => exact .inr hs
  | @ordered all coming done hcoming hordered hdone =>
    cases coming with
    | nil => exact .inl rfl
    | cons f coming => exact .inr (fieldsSolid_iff.1 hcoming f List.mem_cons_self)
  | @record fields others name done hfields hordered hdone =>
    cases hfind : Field.find? fields name with
    | some f =>
      simp only [Frame.expected, hfind]
      exact .inr (fieldsSolid_iff.1 hfields f (List.mem_of_find?_eq_some hfind))
    | none =>
      simp only [Frame.expected, hfind]
      cases others with
      | skipped => exact .inl rfl
      | refused => exact .inl rfl
      | kept => exact .inr trivial

/-- A value is taken up if it can be, and else nothing is. -/
theorem add (h : frame.Holds d) {v : Json} (hv : frame.expected = .ignored ∨ Nested d v) : (frame.add v).Holds d := by
  have hsolid : frame.expected.IsSolid → Nested d v := fun hs => hv.resolve_left fun hi => by
    rw [hi] at hs
    exact hs
  cases h with
  | items hs hdone => exact .items hs (List.forall_mem_cons.2 ⟨hsolid hs, hdone⟩)
  | @table s name done hs hordered hdone =>
    have hnested := hsolid hs
    cases s with
    | ignored => exact hs.elim
    | _ => exact .table hs (hordered.insert name v) (forall_mem_insert hnested hdone)
  | @ordered all coming done hcoming hordered hdone =>
    cases coming with
    | nil => exact .ordered hcoming hordered hdone
    | cons f coming =>
      have hnested := hsolid (fieldsSolid_iff.1 hcoming f List.mem_cons_self)
      exact .ordered hcoming.2 (hordered.insert f.1 v) (forall_mem_insert hnested hdone)
  | @record fields others name done hfields hordered hdone =>
    have hkept : Nested d v → Holds d (.record fields others name (insert name v done)) := fun hnested =>
      .record hfields (hordered.insert name v) (forall_mem_insert hnested hdone)
    cases hfind : Field.find? fields name with
    | some f =>
      simp only [Frame.expected, Frame.add, hfind] at hsolid ⊢
      exact hkept (hsolid (fieldsSolid_iff.1 hfields f (List.mem_of_find?_eq_some hfind)))
    | none =>
      simp only [Frame.expected, Frame.add, hfind] at hsolid ⊢
      cases others with
      | skipped => exact .record hfields hordered hdone
      | refused => exact .record hfields hordered hdone
      | kept => exact hkept (hsolid trivial)

theorem named (h : frame.Holds d) {named : Frame} {name : String} (hnamed : frame.named name = some named) :
    named.Holds d := by
  cases h with
  | items hs hdone => cases hnamed; exact .items hs hdone
  | ordered hcoming hordered hdone => cases hnamed; exact .ordered hcoming hordered hdone
  | table hs hordered hdone => cases hnamed; exact .table hs hordered hdone
  | record hfields hordered hdone =>
    simp only [Frame.named] at hnamed
    split at hnamed
    · cases hnamed
    · cases hnamed
      exact .record hfields hordered hdone

/-- **A container that ends is a value one level further out.** -/
theorem close {rest : Nat} (h : frame.Holds (rest + 1)) (hrest : rest < maxDepth) {b : UInt8} {v : Json}
    (hclose : frame.close? b = some (.ok v)) : Nested rest v := by
  have hrecord : ∀ (fields : List Field) {done : List (String × Json)}, Ordered done →
      (∀ m ∈ done, Nested (rest + 1) m.2) → Nested rest (recordOf fields done) := fun fields done hordered hdone =>
    (nested_object hrest).2 ⟨hordered.filter _, fun m hm => hdone m (List.mem_filter.1 hm).1⟩
  cases h with
  | items hs hdone =>
    simp only [Frame.close?] at hclose
    split at hclose
    · cases hclose
      exact (nested_array hrest).2 fun item hitem => hdone item (List.mem_reverse.1 hitem)
    · cases hclose
  | ordered hcoming hordered hdone =>
    simp only [Frame.close?] at hclose
    split at hclose
    · split at hclose
      · cases hclose
        exact hrecord _ hordered hdone
      · cases hclose
    · cases hclose
  | table hs hordered hdone =>
    simp only [Frame.close?] at hclose
    split at hclose
    · cases hclose
      exact (nested_object hrest).2 ⟨hordered, hdone⟩
    · cases hclose
  | record hfields hordered hdone =>
    simp only [Frame.close?] at hclose
    split at hclose
    · split at hclose
      · cases hclose
        exact hrecord _ hordered hdone
      · cases hclose
    · cases hclose

end Frame.Holds

theorem Shape.IsSolid.open_holds {s : Shape} (h : s.IsSolid) {b : UInt8} {frame : Frame} (hopen : s.open? b = some frame)
    (d : Nat) : frame.Holds d := by
  have hpresent := h.present
  have hnone : ∀ m ∈ ([] : List (String × Json)), Nested d m.2 := List.forall_mem_nil _
  unfold Shape.open? at hopen
  split at hopen <;> cases hs : s.present <;> rw [hs] at hpresent hopen
  case isTrue.any => cases hopen; exact .items trivial (List.forall_mem_nil _)
  case isTrue.list item => cases hopen; exact .items hpresent (List.forall_mem_nil _)
  case isTrue.record fields others =>
    cases others with
    | kept => cases hopen
    | _ => cases hopen; exact .ordered hpresent .nil hnone
  case isFalse.any => cases hopen; exact .table trivial .nil hnone
  case isFalse.table v => cases hopen; exact .table hpresent .nil hnone
  case isFalse.record fields others => cases hopen; exact .record hpresent .nil hnone
  all_goals first | exact hpresent.elim | cases hopen

theorem Frame.isIgnored_of_open {b : UInt8} {frame : Frame} (hopen : Shape.ignored.open? b = some frame) :
    frame.IsIgnored := by
  unfold Shape.open? at hopen
  split at hopen
  · cases hopen; trivial
  · cases hopen; trivial

/-! ## The reader -/

namespace Reader

/-- The shape of the next value inside of containers. -/
def expectedIn (top : Shape) : List Frame → Shape
  | [] => top
  | frame :: _ => frame.expected

/-- **The containers that a reader is inside of**: those that are passed over, and above them those that are kept. -/
inductive Stacked (top : Shape) : List Frame → Prop
  | nil : Stacked top []
  | ignored {frame rest} (hrest : Stacked top rest) (hexpected : expectedIn top rest = .ignored)
      (hframe : frame.IsIgnored) : Stacked top (frame :: rest)
  | kept {frame rest} (hrest : Stacked top rest) (hdepth : rest.length < maxDepth)
      (hframe : frame.Holds (rest.length + 1)) : Stacked top (frame :: rest)

/-- Whether a value can be taken up next, or is passed over. -/
def Allowed (top : Shape) (stack : List Frame) (v : Json) : Prop :=
  expectedIn top stack = .ignored ∨ Nested stack.length v

/-- Whether the value that a reader is about to give out is none of arrays and objects. -/
def Mode.IsShallow : Mode → Prop
  | .word _ v | .ending v => v.depth = 0
  | _ => True

/-- **What a reader has read so far.** -/
structure Standing (top : Shape) (r : Reader) : Prop where
  stacked : Stacked top r.stack
  shallow : Mode.IsShallow r.mode

/-- **What comes of a byte.** -/
structure Keeps (top : Shape) (s : Step) : Prop where
  given : ∀ v, s.1 = some v → Nested 0 v
  standing : ∀ r, s.2 = .ok r → Standing top r

variable {top : Shape}

theorem keeps_fault (e : Fault) : Keeps top (fault e) := ⟨fun _ h => (nomatch h), fun _ h => (nomatch h)⟩

theorem keeps_going {r : Reader} (h : Standing top r) : Keeps top (going r) where
  given _ hv := nomatch hv
  standing next hnext := by
    cases hnext
    exact h

theorem standing_start : Standing top {} := ⟨.nil, trivial⟩

namespace Stacked

variable {stack : List Frame}

theorem expected (h : Stacked top stack) (htop : top.IsSolid) :
    expectedIn top stack = .ignored ∨ (expectedIn top stack).IsSolid := by
  cases h with
  | nil => exact .inr htop
  | ignored hrest hexpected hframe => exact .inl hframe.expected
  | kept hrest hdepth hframe => exact hframe.expected

theorem allowed_of_depth (h : Stacked top stack) {v : Json} (hv : v.depth = 0) : Allowed top stack v := by
  cases h with
  | nil => exact .inr (nested_of_depth_eq_zero (Nat.zero_le _) hv)
  | ignored hrest hexpected hframe => exact .inl hframe.expected
  | kept hrest hdepth hframe => exact .inr (nested_of_depth_eq_zero hdepth hv)

theorem add {frame : Frame} (h : Stacked top (frame :: stack)) {v : Json} (hv : Allowed top (frame :: stack) v) :
    Stacked top (frame.add v :: stack) := by
  cases h with
  | ignored hrest hexpected hframe => exact .ignored hrest hexpected (hframe.add v)
  | kept hrest hdepth hframe => exact .kept hrest hdepth (hframe.add hv)

theorem named {frame named : Frame} (h : Stacked top (frame :: stack)) {name : String}
    (hnamed : frame.named name = some named) : Stacked top (named :: stack) := by
  cases h with
  | ignored hrest hexpected hframe => exact .ignored hrest hexpected (hframe.named hnamed)
  | kept hrest hdepth hframe => exact .kept hrest hdepth (hframe.named hnamed)

theorem outer {frame : Frame} (h : Stacked top (frame :: stack)) : Stacked top stack := by
  cases h with
  | ignored hrest hexpected hframe => exact hrest
  | kept hrest hdepth hframe => exact hrest

theorem allowed_of_close {frame : Frame} (h : Stacked top (frame :: stack)) {b : UInt8} {v : Json}
    (hclose : frame.close? b = some (.ok v)) : Allowed top stack v := by
  cases h with
  | ignored hrest hexpected hframe => exact .inl hexpected
  | kept hrest hdepth hframe => exact .inr (hframe.close hdepth hclose)

end Stacked

section Step

variable (htop : top.IsSolid)
include htop

theorem keeps_deliver {stack : List Frame} (h : Stacked top stack) {v : Json} (hv : Allowed top stack v) :
    Keeps top (deliver stack v) := by
  cases stack with
  | nil =>
    refine ⟨fun w hw => ?_, fun r hr => ?_⟩
    · cases hw
      refine hv.resolve_left fun hignored => ?_
      rw [show top = .ignored from hignored] at htop
      exact htop
    · cases hr
      exact standing_start
  | cons frame rest => exact keeps_going ⟨h.add hv, trivial⟩

theorem keeps_begin {r : Reader} (h : Standing top r) (b : UInt8) : Keeps top (begin top r b) := by
  obtain ⟨mode, stack⟩ := r
  have hstacked : Stacked top stack := h.stacked
  have hexpected : expected top ⟨mode, stack⟩ = expectedIn top stack := rfl
  simp only [begin, hexpected]
  split_ifs with hn ht hf hquote hopens hdeep
  · exact keeps_going ⟨hstacked, rfl⟩
  · exact keeps_going ⟨hstacked, rfl⟩
  · exact keeps_going ⟨hstacked, rfl⟩
  · exact keeps_going ⟨hstacked, trivial⟩
  · split
    · exact keeps_fault _
    · exact keeps_fault _
  · split
    · exact keeps_fault _
    · rename_i frame hopen
      refine keeps_going ⟨?_, trivial⟩
      rcases hstacked.expected htop with hignored | hsolid
      · rw [hignored] at hopen
        exact .ignored hstacked hignored (Frame.isIgnored_of_open hopen)
      · have hlength : stack.length < maxDepth := by simpa [hsolid.isIgnored] using hdeep
        exact .kept hstacked hlength (hsolid.open_holds hopen _)
  · split
    · exact keeps_going ⟨hstacked, trivial⟩
    · exact keeps_fault _

theorem keeps_closing {frame : Frame} {rest : List Frame} (h : Stacked top (frame :: rest)) (b : UInt8) :
    Keeps top (closing frame rest b) := by
  unfold closing
  split
  · rename_i v hclose
    exact keeps_deliver htop h.outer (h.allowed_of_close hclose)
  · exact keeps_fault _
  · exact keeps_fault _

theorem keeps_between {r : Reader} (h : Standing top r) (b : UInt8) : Keeps top (between top r b) := by
  unfold between
  split
  · exact keeps_going h
  · obtain ⟨mode, stack⟩ := r
    have hstacked : Stacked top stack := h.stacked
    dsimp only
    split
    · split_ifs
      · exact keeps_closing htop hstacked b
      · exact keeps_going ⟨hstacked, trivial⟩
      · exact keeps_fault _
      · exact keeps_begin htop h b
    · split
      · split
        · exact keeps_fault _
        · refine keeps_going ⟨hstacked, ?_⟩
          dsimp only
          split
          · trivial
          · trivial
      · exact keeps_closing htop hstacked b
    · split_ifs
      · exact keeps_going ⟨hstacked, trivial⟩
      · exact keeps_fault _
    · split_ifs
      · exact keeps_going ⟨hstacked, trivial⟩
      · exact keeps_fault _
    · exact keeps_begin htop h b

theorem keeps_ended {v : Json} (hv : v.depth = 0) (b : UInt8) : Keeps top (ended top v b) := by
  unfold ended
  split
  · refine ⟨fun w hw => ?_, (keeps_between htop standing_start b).standing⟩
    cases hw
    exact nested_of_depth_eq_zero (Nat.zero_le _) hv
  · exact keeps_fault _

omit htop in
theorem depth_numberValue {n : NumberReader} {s : Shape} {v : Json} (h : step.numberValue n s = .ok v) :
    v.depth = 0 := by
  unfold step.numberValue at h
  split at h
  · cases h; rfl
  · split at h
    · cases h
    · split at h
      · cases h
      · rename_i hscalar
        cases h
        rw [Shape.scalar_eq hscalar]
        rfl

theorem keeps_word {stack : List Frame} (hstacked : Stacked top stack) {c : UInt8} {rest : List UInt8} {v : Json}
    (hv : v.depth = 0) (b : UInt8) : Keeps top (step top ⟨.word (c :: rest) v, stack⟩ b) := by
  simp only [step]
  split
  · exact keeps_fault _
  · split
    · exact keeps_going ⟨hstacked, hv⟩
    · split
      · exact keeps_fault _
      · rename_i w hscalar
        obtain rfl := Shape.scalar_eq hscalar
        split
        · exact keeps_going ⟨hstacked, hv⟩
        · exact keeps_deliver htop hstacked (hstacked.allowed_of_depth hv)

theorem keeps_number {stack : List Frame} (hstacked : Stacked top stack) (n : NumberReader) (b : UInt8) :
    Keeps top (step top ⟨.number n, stack⟩ b) := by
  simp only [step]
  split
  · exact keeps_going ⟨hstacked, trivial⟩
  · exact keeps_fault _
  · split
    · exact keeps_fault _
    · rename_i v hvalue
      have hv := depth_numberValue hvalue
      cases stack with
      | nil => exact keeps_ended htop hv b
      | cons frame rest =>
        have hnext : Standing top ⟨.follow, frame.add v :: rest⟩ :=
          ⟨hstacked.add (hstacked.allowed_of_depth hv), trivial⟩
        exact keeps_between htop hnext b

theorem keeps_string {stack : List Frame} (hstacked : Stacked top stack) (s : StringReader) (isName : Bool)
    (b : UInt8) : Keeps top (step top ⟨.string s isName, stack⟩ b) := by
  simp only [step]
  split
  · exact keeps_going ⟨hstacked, trivial⟩
  · exact keeps_fault _
  · split
    · exact keeps_fault _
    · split
      · cases stack with
        | nil => exact keeps_fault _
        | cons frame rest =>
          dsimp only
          split
          · exact keeps_fault _
          · rename_i named hnamed
            exact keeps_going ⟨hstacked.named hnamed, trivial⟩
      · split
        · exact keeps_fault _
        · rename_i v hscalar
          refine keeps_deliver htop hstacked (hstacked.allowed_of_depth ?_)
          rw [Shape.scalar_eq hscalar]
          rfl

theorem keeps_step {r : Reader} (h : Standing top r) (b : UInt8) : Keeps top (step top r b) := by
  obtain ⟨mode, stack⟩ := r
  obtain ⟨hstacked, hshallow⟩ := h
  cases mode with
  | word rest v =>
    cases rest with
    | nil => exact keeps_fault _
    | cons c rest => exact keeps_word htop hstacked hshallow b
  | number n => exact keeps_number htop hstacked n b
  | string s isName => exact keeps_string htop hstacked s isName b
  | ending v => exact keeps_ended htop hshallow b
  | _ => exact keeps_between htop ⟨hstacked, trivial⟩ b

omit htop in
theorem nested_finish {r : Reader} (h : Standing top r) {v : Json} (hfinish : r.finish top = .ok (some v)) :
    Nested 0 v := by
  refine nested_of_depth_eq_zero (Nat.zero_le _) ?_
  obtain ⟨mode, stack⟩ := r
  obtain ⟨hstacked, hshallow⟩ := h
  cases mode with
  | value =>
    simp only [finish] at hfinish
    split at hfinish <;> cases hfinish
  | ending w =>
    cases hfinish
    exact hshallow
  | number n =>
    simp only [finish] at hfinish
    split at hfinish
    · split at hfinish
      · cases hfinish
      · rename_i hvalue
        split at hfinish
        · cases hfinish
          exact depth_numberValue hvalue
        · cases hfinish
    · cases hfinish
  | _ => cases hfinish

end Step
end Reader

open Reader in
theorem nested_of_readFrom {top : Shape} (htop : top.IsSolid) {v : Json} : ∀ {bytes : List UInt8} {r : Reader},
    Standing top r → readFrom top r bytes = .ok v → Nested 0 v
  | [], r, h, hread => by
    rw [readFrom] at hread
    split at hread
    · rename_i w hfinish
      cases hread
      exact nested_finish h hfinish
    · cases hread
    · cases hread
  | b :: rest, r, h, hread => by
    have hkeeps := keeps_step htop h b
    rw [readFrom] at hread
    split at hread
    · cases hread
    · rename_i next hstep
      exact nested_of_readFrom htop (hkeeps.standing next (by rw [hstep])) hread
    · rename_i w next hstep
      split at hread
      · cases hread
        exact hkeeps.given v (by rw [hstep])
      · cases hread
    · cases hread

/-- **What is read is in order and not nested too deep.** -/
theorem nested_of_read {top : Shape} (htop : top.IsSolid) {text : String} {v : Json} (h : read top text = .ok v) :
    Nested 0 v := nested_of_readFrom htop Reader.standing_start h

end ObjectRelay.Json
