import ObjectRelay.Proofs.Json.Equality
import ObjectRelay.Proofs.Json.Nesting
import ObjectRelay.Proofs.Json.Place
import ObjectRelay.Proofs.Json.Plain
import Mathlib.Data.List.Sort
/-!
# What a record takes from an object

A text may be read as a record, of fields with plain shapes, and as whatever it is.  The two readers go through it side
by side (`Reader.Alongside`): in a field they hold the same, and what the record passes over leaves its reader as it
was.  So the record has in its fields what the object has (`Reader.gathered_of_readFrom`).
-/
namespace ObjectRelay.Json

variable {fields : List Field} {done all : List (String × Json)}

/-- Whether all fields of a record have plain shapes. -/
def PlainFields (fields : List Field) : Prop := ∀ f ∈ fields, f.2.2.IsPlain

/-- **What the fields of a record hold of the members of an object.** -/
structure Gathered (fields : List Field) (done all : List (String × Json)) : Prop where
  ordered : Ordered done
  lookup : ∀ name, done.lookup name = if (Field.find? fields name).isSome then all.lookup name else none
  takes : ∀ {name : String} {f : Field} {v : Json}, Field.find? fields name = some f → all.lookup name = some v →
    f.2.2.Takes v

theorem Ordered.eq_of_mem_iff {members members' : List (String × Json)} (h : Ordered members) (h' : Ordered members')
    (hsame : ∀ m, m ∈ members ↔ m ∈ members') : members = members' := by
  have hirrefl : Std.Irrefl fun m m' : String × Json => m.1 < m'.1 := ⟨fun _ => String.lt_irrefl _⟩
  have hantisymm : Std.Antisymm fun m m' : String × Json => m.1 < m'.1 :=
    ⟨fun _ _ hlt hgt => absurd (String.lt_trans hlt hgt) (String.lt_irrefl _)⟩
  exact List.Pairwise.eq_of_mem_iff h h' hsame

theorem find?_isSome_iff {name : String} : (Field.find? fields name).isSome = true ↔ name ∈ fields.map (·.1) := by
  rw [Field.find?, List.find?_isSome, List.mem_map]
  simp only [beq_iff_eq]

namespace Gathered

theorem nil (fields : List Field) : Gathered fields [] [] := ⟨.nil, fun _ => by simp, fun _ h => nomatch h⟩

theorem add (h : Gathered fields done all) {name : String} {f : Field} (hf : Field.find? fields name = some f) {v : Json}
    (hv : f.2.2.Takes v) : Gathered fields (insert name v done) (insert name v all) where
  ordered := h.ordered.insert name v
  lookup other := by
    rw [lookup_insert, lookup_insert, h.lookup]
    by_cases heq : other = name
    · subst heq
      simp [hf]
    · simp [heq]
  takes {other g w} hg hw := by
    rw [lookup_insert] at hw
    split at hw
    · rename_i heq
      subst heq
      cases hw
      rw [hf] at hg
      cases hg
      exact hv
    · exact h.takes hg hw

theorem pass (h : Gathered fields done all) {name : String} (hunknown : Field.find? fields name = none) (v : Json) :
    Gathered fields done (insert name v all) where
  ordered := h.ordered
  lookup other := by
    rw [lookup_insert, h.lookup]
    by_cases heq : other = name
    · subst heq
      simp [hunknown]
    · simp [heq]
  takes {other g w} hg hw := by
    rw [lookup_insert] at hw
    split at hw
    · rename_i heq
      subst heq
      rw [hunknown] at hg
      cases hg
    · exact h.takes hg hw

/-- **A record of fields that may be `null` has the members of the object that its fields name**, but for `null`. -/
theorem recordOf_eq (h : Gathered fields done all) (hall : Ordered all) (hnullable : ∀ f ∈ fields, f.isNullable = true) :
    recordOf fields done = object (all.filter fun m => m.1 ∈ fields.map (·.1) ∧ m.2 ≠ .null) := by
  refine congrArg object (Ordered.eq_of_mem_iff (h.ordered.filter _) (hall.filter _) fun (name, v) => ?_)
  rw [List.mem_filter, List.mem_filter, ← h.ordered.lookup_eq_some_iff, ← hall.lookup_eq_some_iff, h.lookup,
    decide_eq_true_iff, ← find?_isSome_iff]
  cases hfind : Field.find? fields name with
  | none => simp
  | some f =>
    have hf := hnullable f (List.mem_of_find?_eq_some hfind)
    cases v <;> simp [hfind, hf]

end Gathered

theorem recordOf_of_forall_ne_null {members : List (String × Json)} (h : ∀ m ∈ members, m.2 ≠ .null) :
    recordOf fields members = object members := by
  refine congrArg object (List.filter_eq_self.2 fun (name, v) hm => ?_)
  have hv : v ≠ .null := h _ hm
  cases v <;> simp_all

/-! ## Two readers side by side -/

/-- Whether a reader is in the middle of something that it takes up. -/
def Mode.IsKept : Mode → Prop
  | .word _ v => v.depth = 0
  | .number n => n.ignored = false
  | .ending _ => False
  | _ => True

/-- What the two readers are in the middle of: the same, unless it is passed over. -/
inductive Mode.Beside (stack : List Frame) : Mode → Mode → Prop
  | same {mode : Mode} (h : mode.IsKept) : Beside stack mode mode
  | number {n : NumberReader} {frame : Frame} {rest : List Frame} (hstack : stack = frame :: rest)
    (hignored : frame.expected = .ignored) (ignored : Bool) : Beside stack (.number n) (.number { n with ignored })
  | text {s s' : StringReader} {frame : Frame} {rest : List Frame} (hstack : stack = frame :: rest)
    (hignored : frame.expected = .ignored) (hplace : s.place = s'.place) :
    Beside stack (.string s false) (.string s' false)
  | name {s s' : StringReader} {frame : Frame} {rest : List Frame} (hstack : stack = frame :: rest)
    (hframe : frame.IsIgnored) (hplace : s.place = s'.place) : Beside stack (.string s true) (.string s' true)

namespace Reader

/-- **The containers of a reader under a record and of one that takes everything.** -/
inductive Beside (fields : List Field) : List Frame → List Frame → Prop
  | nil : Beside fields [] []
  | record {name : String} {done all : List (String × Json)} (h : Gathered fields done all) :
    Beside fields [.record fields .skipped name done] [.table .any name all]
  /-- What is read as the array form of a record is no object. -/
  | ordered {coming : List Field} {done : List (String × Json)} {items : List Json} (h : PlainFields coming) :
    Beside fields [.ordered fields coming done] [.items .any items]
  | items {s : Shape} {done : List Json} {frame : Frame} {rest rest' : List Frame} (hplain : frame.expected.IsPlain)
    (hitem : frame.expected.item? = some s) (hdone : ∀ v ∈ done, s.Takes v) (h : Beside fields (frame :: rest) rest') :
    Beside fields (.items s done :: frame :: rest) (.items .any done :: rest')
  | table {s : Shape} {name : String} {done : List (String × Json)} {frame : Frame} {rest rest' : List Frame}
    (hplain : frame.expected.IsPlain) (hvalue : frame.expected.member? = some s) (hdone : ∀ m ∈ done, s.Takes m.2)
    (h : Beside fields (frame :: rest) rest') :
    Beside fields (.table s name done :: frame :: rest) (.table .any name done :: rest')
  | passed {inner inner' frame : Frame} {rest rest' : List Frame} (hinner : inner.IsIgnored)
    (hsame : inner.hasNames = inner'.hasNames) (hignored : frame.expected = .ignored)
    (h : Beside fields (frame :: rest) rest') : Beside fields (inner :: frame :: rest) (inner' :: rest')

/-- **Two readers go through a text side by side.** -/
structure Alongside (fields : List Field) (r r' : Reader) : Prop where
  containers : Beside fields r.stack r'.stack
  mode : Mode.Beside r.stack r.mode r'.mode

/-- What the two readers may take up next. -/
def Agree (fields : List Field) : List Frame → Json → Json → Prop
  | [], v, v' => ∀ all, v' = .object all → ∃ done, v = recordOf fields done ∧ Gathered fields done all
  | frame :: _, v, v' => frame.expected = .ignored ∨ v = v' ∧ frame.expected.Takes v

/-- What a byte does to the two readers leaves them side by side, if it is no fault for either of them. -/
def Follows (fields : List Field) (s s' : Step) : Prop :=
  match s.2, s'.2 with
  | .ok next, .ok next' => next.Alongside fields next' ∧ match s.1, s'.1 with
    | none, none => True
    | some v, some v' => Agree fields [] v v'
    | _, _ => False
  | _, _ => True

variable {r r' : Reader} {stack stack' : List Frame}

theorem alongside_start : Alongside fields {} {} := ⟨.nil, .same trivial⟩

theorem follows_fault (e : Fault) (s' : Step) : Follows fields (fault e) s' := trivial

theorem follows_fault_right (s : Step) (e : Fault) : Follows fields s (fault e) := by
  rcases s with ⟨v?, e | next⟩ <;> trivial

theorem follows_going (h : r.Alongside fields r') : Follows fields (going r) (going r') := ⟨h, trivial⟩

/-! ## Containers -/

theorem Beside.named {frame frame' next next' : Frame} {rest rest' : List Frame}
    (h : Beside fields (frame :: rest) (frame' :: rest')) {name name' : String} (hnext : frame.named name = some next)
    (hnext' : frame'.named name' = some next') (hname : frame.IsIgnored ∨ name = name') :
    Beside fields (next :: rest) (next' :: rest') := by
  cases h with
  | record h =>
    obtain rfl := hname.resolve_left id
    simp only [Frame.named] at hnext
    split at hnext <;> cases hnext
    cases hnext'
    exact .record h
  | ordered h =>
    cases hnext
    cases hnext'
    exact .ordered h
  | items hplain hitem hdone h =>
    cases hnext
    cases hnext'
    exact .items hplain hitem hdone h
  | @table s name done _ _ _ hplain hvalue hdone h =>
    have hs := hplain.of_member? hvalue
    have hkept : ¬(Frame.table s name done).IsIgnored := fun hignored => by
      cases s <;> first | exact hignored | exact hs
    obtain rfl := hname.resolve_left hkept
    cases hnext
    cases hnext'
    exact .table hplain hvalue hdone h
  | passed hinner hsame hignored h =>
    refine .passed (hinner.named hnext) ?_ hignored h
    rw [Frame.hasNames_of_named hnext, Frame.hasNames_of_named hnext', hsame]

/-- **A container that ends is the same for both readers**, or is passed over. -/
theorem Beside.close {frame frame' : Frame} (h : Beside fields (frame :: stack) (frame' :: stack')) {b : UInt8}
    {v v' : Json} (hclose : frame.close? b = some (.ok v)) (hclose' : frame'.close? b = some (.ok v')) :
    Beside fields stack stack' ∧ Agree fields stack v v' := by
  cases h with
  | @record name done all h =>
    simp only [Frame.close?] at hclose hclose'
    split at hclose
    · rename_i hb
      rw [if_pos hb] at hclose'
      split at hclose <;> cases hclose
      cases hclose'
      refine ⟨.nil, fun all' hall => ?_⟩
      cases hall
      exact ⟨done, rfl, h⟩
    · cases hclose
  | ordered h =>
    simp only [Frame.close?] at hclose'
    split at hclose' <;> cases hclose'
    -- one reader has an array, so there is no object to agree on
    refine ⟨.nil, fun _ hall => ?_⟩
    cases hall
  | @items s done outer rest rest' hplain hitem hdone h =>
    simp only [Frame.close?] at hclose hclose'
    split at hclose
    · rename_i hb
      rw [if_pos hb] at hclose'
      cases hclose
      cases hclose'
      have htakes : outer.expected.Takes (.array done.reverse) :=
        (Shape.takes_array hplain).2 ⟨s, hitem, fun v hv => hdone v (List.mem_reverse.1 hv)⟩
      exact ⟨h, .inr ⟨rfl, htakes⟩⟩
    · cases hclose
  | @table s name done outer rest rest' hplain hvalue hdone h =>
    simp only [Frame.close?] at hclose hclose'
    split at hclose
    · rename_i hb
      rw [if_pos hb] at hclose'
      cases hclose
      cases hclose'
      exact ⟨h, .inr ⟨rfl, (Shape.takes_object hplain).2 ⟨s, hvalue, hdone⟩⟩⟩
    · cases hclose
  | passed hinner hsame hignored h => exact ⟨h, .inl hignored⟩

theorem Beside.hasNames {frame frame' : Frame} {rest rest' : List Frame}
    (h : Beside fields (frame :: rest) (frame' :: rest')) : frame.hasNames = frame'.hasNames := by
  cases h with
  | passed hinner hsame hignored h => exact hsame
  | _ => rfl

theorem Beside.passesNames {frame frame' : Frame} {rest rest' : List Frame}
    (h : Beside fields (frame :: rest) (frame' :: rest')) :
    frame.IsIgnored ∨ frame.passesNames = false ∧ frame'.passesNames = false := by
  cases h with
  | passed hinner hsame hignored h => exact .inl hinner
  | table hplain hvalue hdone h => exact .inr ⟨(hplain.of_member? hvalue).passesNames_table, rfl⟩
  | _ => exact .inr ⟨rfl, rfl⟩

theorem follows_behindName (h : Beside fields stack stack') {text text' : String}
    (htext : text = text' ∨ ∃ frame rest, stack = frame :: rest ∧ frame.IsIgnored) (shape shape' : Shape) :
    Follows fields (behindText shape stack true text) (behindText shape' stack' true text') := by
  simp only [behindText, if_true]
  cases stack with
  | nil => exact follows_fault _ _
  | cons frame rest =>
    cases stack' with
    | nil => cases h
    | cons frame' rest' =>
      dsimp only
      split
      · exact follows_fault _ _
      rename_i next hnext
      split
      · exact follows_fault_right _ _
      rename_i next' hnext'
      have hname : frame.IsIgnored ∨ text = text' := by
        rcases htext with rfl | ⟨_, _, hstack, hignored⟩
        · exact .inr rfl
        · cases hstack
          exact .inl hignored
      exact follows_going ⟨h.named hnext hnext' hname, .same trivial⟩

/-! ## Bytes -/

theorem numberValue_eq_ok {n : NumberReader} {shape : Shape} {v : Json} (hn : n.ignored = false)
    (h : step.numberValue n shape = .ok v) : ∃ x, n.number? = some x ∧ shape.scalar (.number x) = some v := by
  simp only [step.numberValue, hn, Bool.false_eq_true, if_false] at h
  split at h
  · cases h
  · rename_i x hx
    split at h <;> cases h
    rename_i hscalar
    exact ⟨x, hx, hscalar⟩

theorem finish_ne_some (h : r.Alongside fields r') (v : Json) : r.finish (.record fields .skipped) ≠ .ok (some v) := by
  intro hfinish
  have hmode := h.mode
  rcases finish_eq_some hfinish with hending | ⟨n, rfl, -, hvalue⟩
  · rw [hending] at hmode
    generalize r'.mode = mode' at hmode
    cases hmode with
    | same hkept => exact hkept
  · generalize r'.mode = mode' at hmode
    cases hmode with
    | same hkept =>
      obtain ⟨x, -, hscalar⟩ := numberValue_eq_ok hkept hvalue
      cases hscalar
    | number hstack => cases hstack

section Step

variable (hfields : PlainFields fields)
include hfields

theorem Beside.expected {frame : Frame} {rest : List Frame} (h : Beside fields (frame :: rest) stack') :
    frame.expected = .ignored ∨ frame.expected.IsPlain ∧
      ∃ frame' rest', stack' = frame' :: rest' ∧ frame'.expected = .any := by
  cases h with
  | @record name done all h =>
    cases hfind : Field.find? fields name with
    | none => exact .inl (by simp only [Frame.expected, hfind])
    | some f =>
      have hplain : f.2.2.IsPlain := hfields f (List.mem_of_find?_eq_some hfind)
      exact .inr ⟨by simpa only [Frame.expected, hfind] using hplain, _, _, rfl, rfl⟩
  | @ordered coming done items h =>
    cases coming with
    | nil => exact .inl rfl
    | cons f coming => exact .inr ⟨h f List.mem_cons_self, _, _, rfl, rfl⟩
  | items hplain hitem hdone h => exact .inr ⟨hplain.of_item? hitem, _, _, rfl, rfl⟩
  | table hplain hvalue hdone h => exact .inr ⟨hplain.of_member? hvalue, _, _, rfl, rfl⟩
  | passed hinner hsame hignored h => exact .inl hinner.expected

theorem Beside.add {frame frame' : Frame} {rest rest' : List Frame} (h : Beside fields (frame :: rest) (frame' :: rest'))
    {v v' : Json} (hv : Agree fields (frame :: rest) v v') :
    Beside fields (frame.add v :: rest) (frame'.add v' :: rest') := by
  have hagree : frame.expected.IsPlain → v = v' ∧ frame.expected.Takes v := fun hplain =>
    hv.resolve_left fun hignored => by
      rw [hignored] at hplain
      exact hplain
  cases h with
  | @record name done all h =>
    cases hfind : Field.find? fields name with
    | none =>
      -- the member is no field, so only the object has it
      have hadd : (Frame.record fields .skipped name done).add v = .record fields .skipped name done := by
        simp only [Frame.add, hfind]
      rw [hadd]
      exact .record (h.pass hfind v')
    | some f =>
      have hexpected : (Frame.record fields .skipped name done).expected = f.2.2 := by simp only [Frame.expected, hfind]
      have hadd : (Frame.record fields .skipped name done).add v = .record fields .skipped name (insert name v done) := by
        simp only [Frame.add, hfind]
      rw [hexpected] at hagree
      obtain ⟨rfl, htakes⟩ := hagree (hfields f (List.mem_of_find?_eq_some hfind))
      rw [hadd]
      exact .record (h.add hfind htakes)
  | @ordered coming done items h =>
    cases coming with
    | nil => exact .ordered h
    | cons f coming => exact .ordered fun g hg => h g (List.mem_cons_of_mem _ hg)
  | items hplain hitem hdone h =>
    obtain ⟨rfl, htakes⟩ := hagree (hplain.of_item? hitem)
    exact .items hplain hitem (List.forall_mem_cons.2 ⟨htakes, hdone⟩) h
  | table hplain hvalue hdone h =>
    have hs := hplain.of_member? hvalue
    obtain ⟨rfl, htakes⟩ := hagree hs
    rw [hs.add_table]
    refine .table hplain hvalue (fun m hm => ?_) h
    rcases mem_insert hm with rfl | hm
    · exact htakes
    · exact hdone m hm
  | passed hinner hsame hignored h => exact .passed (hinner.add v) (by simpa using hsame) hignored h

theorem Beside.open {b : UInt8} {frame frame' : Frame} (h : Beside fields stack stack')
    (hopen : (expectedIn (.record fields .skipped) stack).open? b = some frame)
    (hopen' : (expectedIn .any stack').open? b = some frame') : Beside fields (frame :: stack) (frame' :: stack') := by
  cases stack with
  | nil =>
    cases h
    by_cases hb : (b == 0x5B) = true
    · simp only [expectedIn, Shape.open?, hb, if_true, Shape.present] at hopen hopen'
      cases hopen
      cases hopen'
      exact .ordered hfields
    · simp only [expectedIn, Shape.open?, hb, Shape.present] at hopen hopen'
      cases hopen
      cases hopen'
      exact .record (.nil fields)
  | cons outer rest =>
    rcases h.expected hfields with hignored | ⟨hplain, outer', rest', rfl, hany⟩
    · have hsame : frame.hasNames = frame'.hasNames := by
        rw [Shape.hasNames_of_open? hopen, Shape.hasNames_of_open? hopen']
      rw [expectedIn, hignored] at hopen
      exact .passed (Frame.isIgnored_of_open hopen) hsame hignored h
    · rw [expectedIn] at hopen hopen'
      rw [hany] at hopen'
      by_cases hb : (b == 0x5B) = true
      · obtain rfl := eq_of_beq hb
        rw [hplain.open?_bracket] at hopen
        obtain ⟨item, hitem, rfl⟩ := Option.map_eq_some_iff.1 hopen
        cases hopen'
        exact .items hplain hitem (List.forall_mem_nil _) h
      · rw [Bool.not_eq_true] at hb
        have hopenAny : Shape.any.open? b = some (.table .any "" []) := by simp [Shape.open?, hb, Shape.present]
        rw [hplain.open?_brace hb] at hopen
        rw [hopenAny] at hopen'
        obtain ⟨value, hvalue, rfl⟩ := Option.map_eq_some_iff.1 hopen
        cases hopen'
        exact .table hplain hvalue (List.forall_mem_nil _) h

theorem follows_deliver (h : Beside fields stack stack') {v v' : Json} (hv : Agree fields stack v v') :
    Follows fields (deliver stack v) (deliver stack' v') := by
  cases stack with
  | nil =>
    cases h
    exact ⟨alongside_start, hv⟩
  | cons frame rest =>
    cases stack' with
    | nil => cases h
    | cons frame' rest' => exact follows_going ⟨h.add hfields hv, .same trivial⟩

/-- What is no array and no object is taken up by both readers, or passed over. -/
theorem agree_of_scalar {frame : Frame} {rest : List Frame} (h : Beside fields (frame :: rest) stack') {v w : Json}
    (hdepth : v.depth = 0) (hscalar : frame.expected.scalar v = some w) : Agree fields (frame :: rest) w v := by
  refine (h.expected hfields).imp_right fun ⟨hplain, _⟩ => ?_
  obtain rfl := Shape.scalar_eq hscalar
  exact ⟨rfl, hplain, Shape.scalar_eq_conform hplain hdepth ▸ hscalar⟩

theorem follows_closing {frame frame' : Frame} (h : Beside fields (frame :: stack) (frame' :: stack')) (b : UInt8) :
    Follows fields (closing frame stack b) (closing frame' stack' b) := by
  unfold closing
  split
  · rename_i hclose
    split
    · rename_i hclose'
      obtain ⟨houter, hagree⟩ := h.close hclose hclose'
      exact follows_deliver hfields houter hagree
    · exact follows_fault_right _ _
    · exact follows_fault_right _ _
  · exact follows_fault _ _
  · exact follows_fault _ _

/-- A value is passed over, or is so by neither of the readers. -/
theorem Beside.isIgnored (h : Beside fields stack stack') :
    (∃ frame rest, stack = frame :: rest ∧ frame.expected = .ignored) ∨
      (expectedIn (.record fields .skipped) stack).isIgnored = false ∧ (expectedIn .any stack').isIgnored = false := by
  cases stack with
  | nil =>
    cases h
    exact .inr ⟨rfl, rfl⟩
  | cons frame rest =>
    rcases h.expected hfields with hignored | ⟨hplain, frame', rest', rfl, hany⟩
    · exact .inl ⟨frame, rest, rfl, hignored⟩
    · exact .inr ⟨hplain.isIgnored, by rw [expectedIn, hany]; rfl⟩

theorem begin_follows_string (h : Beside fields stack stack') :
    Follows fields
      (going ⟨.string { ignored := (expectedIn (.record fields .skipped) stack).isIgnored } false, stack⟩)
      (going ⟨.string { ignored := (expectedIn .any stack').isIgnored } false, stack'⟩) := by
  rcases h.isIgnored hfields with ⟨frame, rest, hstack, hignored⟩ | ⟨hkept, hkept'⟩
  · exact follows_going ⟨h, .text hstack hignored rfl⟩
  · rw [hkept, hkept']
    exact follows_going ⟨h, .same trivial⟩

theorem begin_follows_number (h : Beside fields stack stack') (b : UInt8) :
    Follows fields
      (match NumberReader.start? (expectedIn (.record fields .skipped) stack).isIgnored b with
      | some n => going ⟨.number n, stack⟩
      | none => fault .malformed)
      (match NumberReader.start? (expectedIn .any stack').isIgnored b with
      | some n => going ⟨.number n, stack'⟩
      | none => fault .malformed) := by
  rw [start?_ignored (expectedIn (.record fields .skipped) stack).isIgnored (expectedIn .any stack').isIgnored]
  cases hstart : NumberReader.start? (expectedIn (.record fields .skipped) stack).isIgnored b with
  | none => exact follows_fault _ _
  | some n =>
    rcases h.isIgnored hfields with ⟨frame, rest, hstack, hignored⟩ | ⟨hkept, hkept'⟩
    · exact follows_going ⟨h, .number hstack hignored _⟩
    · have hn : n.ignored = false := (NumberReader.ignored_of_start? hstart).trans hkept
      have hsame : ({ n with ignored := (expectedIn .any stack').isIgnored } : NumberReader) = n := by
        rw [hkept', ← hn]
      rw [Option.map_some, hsame]
      exact follows_going ⟨h, .same hn⟩

theorem begin_follows (h : Beside fields stack stack') (mode mode' : Mode) (b : UInt8) :
    Follows fields (begin (.record fields .skipped) ⟨mode, stack⟩ b) (begin .any ⟨mode', stack'⟩ b) := by
  have hexpected : expected (.record fields .skipped) ⟨mode, stack⟩ = expectedIn (.record fields .skipped) stack := rfl
  have hexpected' : expected .any ⟨mode', stack'⟩ = expectedIn .any stack' := rfl
  have hword : ∀ (rest : List UInt8) {v : Json}, v.depth = 0 →
      Follows fields (going ⟨.word rest v, stack⟩) (going ⟨.word rest v, stack'⟩) :=
    fun rest v hv => follows_going ⟨h, .same hv⟩
  simp only [begin, hexpected, hexpected']
  refine both_ite (fun _ => hword _ rfl) fun _ => ?_
  refine both_ite (fun _ => hword _ rfl) fun _ => ?_
  refine both_ite (fun _ => hword _ rfl) fun _ => ?_
  refine both_ite (fun _ => begin_follows_string hfields h) fun _ => ?_
  refine both_ite (fun _ => ?_) fun _ => ?_
  · split
    · exact follows_fault _ _
    · rename_i frame hopen
      split
      · exact follows_fault _ _
      · split
        · exact follows_fault_right _ _
        · rename_i frame' hopen'
          split
          · exact follows_fault_right _ _
          · exact follows_going ⟨h.open hfields hopen hopen', .same trivial⟩
  · exact begin_follows_number hfields h b

theorem between_follows (h : Beside fields stack stack') {mode : Mode} (hmode : mode.IsKept) (b : UInt8) :
    Follows fields (between (.record fields .skipped) ⟨mode, stack⟩ b) (between .any ⟨mode, stack'⟩ b) := by
  unfold between
  refine both_ite (fun _ => follows_going ⟨h, .same hmode⟩) fun _ => ?_
  cases stack with
  | nil =>
    cases h
    cases mode with
    | colon => exact both_ite (fun _ => follows_going alongside_start) fun _ => follows_fault _ _
    | _ => exact begin_follows hfields .nil _ _ b
  | cons frame rest =>
    cases stack' with
    | nil => cases h
    | cons frame' rest' =>
      have hname : Follows fields
          (if b == 0x22 then going ⟨.string { ignored := frame.passesNames } true, frame :: rest⟩ else fault .malformed)
          (if b == 0x22 then going ⟨.string { ignored := frame'.passesNames } true, frame' :: rest'⟩
            else fault .malformed) := by
        refine both_ite (fun _ => ?_) fun _ => follows_fault _ _
        rcases h.passesNames with hignored | ⟨hkept, hkept'⟩
        · exact follows_going ⟨h, .name rfl hignored rfl⟩
        · rw [hkept, hkept']
          exact follows_going ⟨h, .same trivial⟩
      cases mode with
      | opened =>
        refine both_ite (fun _ => follows_closing hfields h b) fun _ => ?_
        rw [h.hasNames]
        exact both_ite (fun _ => hname) fun _ => begin_follows hfields h _ _ b
      | follow =>
        refine both_ite (fun _ => ?_) fun _ => follows_closing hfields h b
        have hnext : (if frame'.hasNames then Mode.name else .value).IsKept := by
          split <;> trivial
        rw [h.hasNames]
        generalize (if frame'.hasNames then Mode.name else .value) = next at hnext ⊢
        split
        · exact follows_fault _ _
        · split
          · exact follows_fault_right _ _
          · exact follows_going ⟨h, .same hnext⟩
      | name => exact hname
      | colon => exact both_ite (fun _ => follows_going ⟨h, .same trivial⟩) fun _ => follows_fault _ _
      | _ => exact begin_follows hfields h _ _ b

/-! A value that is complete may end more than itself. -/

theorem follows_behindNumber (h : Beside fields stack stack') (hinside : stack ≠ []) {v v' : Json}
    (hv : Agree fields stack v v') (b : UInt8) :
    Follows fields (behindNumber (.record fields .skipped) stack v b) (behindNumber .any stack' v' b) := by
  cases stack with
  | nil => exact absurd rfl hinside
  | cons frame rest =>
    cases stack' with
    | nil => cases h
    | cons frame' rest' =>
      have hfollow : Mode.IsKept .follow := trivial
      exact between_follows hfields (h.add hfields hv) hfollow b

theorem follows_behindText (h : Beside fields stack stack') {text text' : String}
    (htext : text = text' ∨ ∃ frame rest, stack = frame :: rest ∧ frame.expected = .ignored) :
    Follows fields (behindText (expectedIn (.record fields .skipped) stack) stack false text)
      (behindText (expectedIn .any stack') stack' false text') := by
  simp only [behindText, Bool.false_eq_true, if_false]
  split
  · exact follows_fault _ _
  rename_i v hscalar
  split
  · exact follows_fault_right _ _
  rename_i v' hscalar'
  refine follows_deliver hfields h ?_
  cases stack with
  | nil => cases hscalar
  | cons frame rest =>
    rcases htext with rfl | ⟨_, _, hstack, hignored⟩
    · obtain rfl := Shape.scalar_eq hscalar'
      exact agree_of_scalar hfields h rfl hscalar
    · cases hstack
      exact .inl hignored

theorem agree_of_numberValue (h : Beside fields stack stack') {n : NumberReader} (hn : n.ignored = false) {v v' : Json}
    (hv : step.numberValue n (expectedIn (.record fields .skipped) stack) = .ok v)
    (hv' : step.numberValue n (expectedIn .any stack') = .ok v') : stack ≠ [] ∧ Agree fields stack v v' := by
  obtain ⟨x, hx, hscalar⟩ := numberValue_eq_ok hn hv
  obtain ⟨x', hx', hscalar'⟩ := numberValue_eq_ok hn hv'
  obtain rfl := Shape.scalar_eq hscalar'
  rw [hx] at hx'
  cases hx'
  cases stack with
  | nil => cases hscalar
  | cons frame rest => exact ⟨List.cons_ne_nil _ _, agree_of_scalar hfields h rfl hscalar⟩

theorem step_follows_number (h : Beside fields stack stack') {n : NumberReader} (hn : n.ignored = false) (b : UInt8) :
    Follows fields (step (.record fields .skipped) ⟨.number n, stack⟩ b) (step .any ⟨.number n, stack'⟩ b) := by
  have hexpected : ∀ (top : Shape) (stack : List Frame), expected top ⟨.number n, stack⟩ = expectedIn top stack :=
    fun _ _ => rfl
  simp only [step, hexpected]
  cases hb : n.step b with
  | more next => exact follows_going ⟨h, .same ((NumberReader.ignored_of_more hb).trans hn)⟩
  | broken => exact follows_fault _ _
  | ended =>
    dsimp only
    cases hv : step.numberValue n (expectedIn (.record fields .skipped) stack) with
    | error e => exact follows_fault _ _
    | ok v =>
      cases hv' : step.numberValue n (expectedIn .any stack') with
      | error e => exact follows_fault_right _ _
      | ok v' =>
        obtain ⟨hinside, hagree⟩ := agree_of_numberValue hfields h hn hv hv'
        exact follows_behindNumber hfields h hinside hagree b

/-- A number that is passed over may be of any size. -/
theorem step_follows_number_passed {frame : Frame} {rest : List Frame} (h : Beside fields (frame :: rest) stack')
    (hignored : frame.expected = .ignored) (n : NumberReader) (ignored : Bool) (b : UInt8) :
    Follows fields (step (.record fields .skipped) ⟨.number n, frame :: rest⟩ b)
      (step .any ⟨.number { n with ignored }, stack'⟩ b) := by
  simp only [step]
  rcases n.step_ignoring ignored b with hbroken | hbroken | hsame
  · rw [hbroken]
    exact follows_fault _ _
  · rw [hbroken]
    exact follows_fault_right _ _
  · rw [hsame]
    cases n.step b with
    | more next => exact follows_going ⟨h, .number rfl hignored ignored⟩
    | broken => exact follows_fault _ _
    | ended =>
      dsimp only [NumberStep.ignoring]
      generalize step.numberValue n _ = value?
      generalize step.numberValue _ _ = value?'
      cases value? with
      | error e => exact follows_fault _ _
      | ok v =>
        cases value?' with
        | error e => exact follows_fault_right _ _
        | ok v' => exact follows_behindNumber hfields h (List.cons_ne_nil _ _) (.inl hignored) b

theorem step_follows_word (h : Beside fields stack stack') (rest : List UInt8) {v : Json} (hv : v.depth = 0) (b : UInt8) :
    Follows fields (step (.record fields .skipped) ⟨.word rest v, stack⟩ b) (step .any ⟨.word rest v, stack'⟩ b) := by
  cases rest with
  | nil => exact follows_fault _ _
  | cons c rest =>
    have hexpected : ∀ (top : Shape) (stack : List Frame),
        expected top ⟨.word (c :: rest) v, stack⟩ = expectedIn top stack := fun _ _ => rfl
    simp only [step, hexpected]
    refine both_ite (fun _ => follows_fault _ _) fun _ => ?_
    refine both_ite (fun _ => follows_going ⟨h, .same hv⟩) fun _ => ?_
    cases hw : (expectedIn (.record fields .skipped) stack).scalar v with
    | none => exact follows_fault _ _
    | some w =>
      cases hw' : (expectedIn .any stack').scalar v with
      | none => exact follows_fault_right _ _
      | some w' =>
        obtain rfl := Shape.scalar_eq hw'
        cases stack with
        | nil => cases hw
        | cons frame outer =>
          cases stack' with
          | nil => cases h
          | cons frame' outer' => exact follows_deliver hfields h (agree_of_scalar hfields h hv hw)

/-- **Readers of one text stay side by side**, one under a record and one that takes everything. -/
theorem step_follows (h : r.Alongside fields r') (b : UInt8) :
    Follows fields (r.step (.record fields .skipped) b) (r'.step .any b) := by
  obtain ⟨mode, stack⟩ := r
  obtain ⟨mode', stack'⟩ := r'
  obtain ⟨hcontainers, hmode⟩ := h
  simp only at hmode hcontainers
  cases hmode with
  | @same mode hkept =>
    cases mode with
    | value | opened | follow | name | colon => exact between_follows hfields hcontainers hkept b
    | word rest v => exact step_follows_word hfields hcontainers rest hkept b
    | number n => exact step_follows_number hfields hcontainers hkept b
    | ending v => exact hkept.elim
    | string s isName =>
      refine step_both_string follows_fault follows_fault_right rfl isName b (fun next next' hs hs' _ => ?_)
        fun bytes bytes' hs hs' text text' htext htext' => ?_
      · rw [hs] at hs'
        cases hs'
        exact follows_going ⟨hcontainers, .same trivial⟩
      · rw [hs] at hs'
        cases hs'
        rw [htext] at htext'
        cases htext'
        cases isName with
        | true => exact follows_behindName hcontainers (.inl rfl) _ _
        | false => exact follows_behindText hfields hcontainers (.inl rfl)
  | number hstack hignored ignored =>
    subst hstack
    exact step_follows_number_passed hfields hcontainers hignored _ ignored b
  | text hstack hignored hplace =>
    refine step_both_string follows_fault follows_fault_right hplace false b
      (fun next next' _ _ hnext => follows_going ⟨hcontainers, .text hstack hignored hnext⟩)
      fun _ _ _ _ text text' _ _ => follows_behindText hfields hcontainers (.inr ⟨_, _, hstack, hignored⟩)
  | name hstack hframe hplace =>
    refine step_both_string follows_fault follows_fault_right hplace true b
      (fun next next' _ _ hnext => follows_going ⟨hcontainers, .name hstack hframe hnext⟩)
      fun _ _ _ _ text text' _ _ => follows_behindName hcontainers (.inr ⟨_, _, hstack, hframe⟩) _ _

/-! ## Texts -/

/-- **What is read as a record is what the object has in its fields.** -/
theorem agree_of_readFrom : ∀ {bytes : List UInt8} {r r' : Reader} {v v' : Json}, r.Alongside fields r' →
    readFrom (.record fields .skipped) r bytes = .ok v → readFrom .any r' bytes = .ok v' → Agree fields [] v v'
  | [], r, r', v, v', halong, h, _ => absurd (finish_of_readFrom h) (finish_ne_some halong v)
  | b :: rest, r, r', v, v', halong, h, h' => by
    have hfollows : Follows fields (r.step (.record fields .skipped) b) (r'.step .any b) := step_follows hfields halong b
    rw [readFrom] at h h'
    generalize r.step (.record fields .skipped) b = s at hfollows h
    generalize r'.step .any b = s' at hfollows h'
    rcases s with ⟨_ | w, e | next⟩ <;> rcases s' with ⟨_ | w', e' | next'⟩
    -- a fault ends a read, so both readers go on or both give out their value
    all_goals try cases h
    all_goals try cases h'
    · exact agree_of_readFrom hfollows.1 h h'
    · exact hfollows.2.elim
    · exact hfollows.2.elim
    · dsimp only at h h'
      split at h <;> cases h
      split at h' <;> cases h'
      exact hfollows.2

end Step

/-- **A record is what its fields have gathered of an object**, if a text is read as both. -/
theorem gathered_of_readFrom (hfields : PlainFields fields) {bytes : List UInt8} {v : Json}
    (h : readFrom (.record fields .skipped) {} bytes = .ok v) (hall : readFrom .any {} bytes = .ok (.object all)) :
    ∃ done, v = recordOf fields done ∧ Gathered fields done all :=
  agree_of_readFrom hfields alongside_start h hall all rfl

end Reader
end ObjectRelay.Json
