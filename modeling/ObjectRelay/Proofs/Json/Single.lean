import ObjectRelay.Proofs.Json.Place
/-!
# A text that is a single value

The reader of a document takes a value when it is complete and nothing but blanks behind it.  A byte that leads outside
all containers without completing a value has stood there itself (`Reader.settles_step`), so nothing but blanks can
stand behind the only value of a text at whose end the reader is idle (`Reader.readFrom_of_play`).
-/
namespace ObjectRelay.Json.Reader

variable {top : Shape} {r r' : Reader}

/-- Whether a byte that leads outside all containers stands outside itself, but for one that completes a value. -/
def Settles (r : Reader) (s : Step) : Prop :=
  ∀ next, s.2 = .ok next → next.isOutside = true → match s.1 with
    | none => r.isOutside = true
    | some _ => next = {}

theorem settles_fault (r : Reader) (e : Fault) : Settles r (fault e) := fun _ h => nomatch h

theorem settles_going {next : Reader} (h : next.isOutside = false) : Settles r (going next) := by
  intro next' hnext houtside
  cases hnext
  cases h.symm.trans houtside

theorem Settles.of_inside {s : Step} (h : Settles r s) (hr : r.isOutside = false) : Settles r' s := by
  rcases s with ⟨_ | v, next⟩
  · intro next hnext houtside
    cases hr.symm.trans (h next hnext houtside)
  · exact h

theorem settles_deliver (r : Reader) (stack : List Frame) (v : Json) : Settles r (deliver stack v) := by
  cases stack with
  | nil =>
    intro next hnext _
    cases hnext
    rfl
  | cons frame rest => exact settles_going rfl

theorem settles_begin (top : Shape) (r r' : Reader) (b : UInt8) : Settles r (begin top r' b) := by
  intro next hnext houtside
  cases (isOutside_begin (Prod.ext rfl hnext)).symm.trans houtside

theorem settles_closing (r : Reader) (frame : Frame) (rest : List Frame) (b : UInt8) :
    Settles r (closing frame rest b) := by
  unfold closing
  repeat' split
  · exact settles_deliver _ _ _
  · exact settles_fault _ _
  · exact settles_fault _ _

theorem settles_between (top : Shape) (r : Reader) (b : UInt8) : Settles r (between top r b) := by
  obtain ⟨mode, stack⟩ := r
  unfold between
  split
  · intro next hnext houtside
    cases hnext
    exact houtside
  cases stack with
  | nil =>
    cases mode with
    | colon =>
      dsimp only
      split
      · intro next hnext _
        cases hnext
        rfl
      · exact settles_fault _ _
    | _ => exact settles_begin _ _ _ _
  | cons frame rest =>
    cases mode with
    | opened =>
      dsimp only
      repeat' split
      · exact settles_closing _ _ _ _
      · exact settles_going rfl
      · exact settles_fault _ _
      · exact settles_begin _ _ _ _
    | follow =>
      dsimp only
      split
      · split
        · exact settles_fault _ _
        · refine settles_going ?_
          split <;> rfl
      · exact settles_closing _ _ _ _
    | name | colon =>
      dsimp only
      split
      · exact settles_going rfl
      · exact settles_fault _ _
    | _ => exact settles_begin _ _ _ _

theorem settles_ended (top : Shape) (r : Reader) (v : Json) (b : UInt8) : Settles r (ended top v b) := by
  unfold ended
  split
  · intro next hnext houtside
    exact (between_of_isOutside (Prod.ext rfl hnext) houtside).2
  · exact settles_fault _ _

theorem settles_step (top : Shape) (r : Reader) (b : UInt8) : Settles r (r.step top b) := by
  obtain ⟨mode, stack⟩ := r
  cases mode with
  | value | opened | follow | name | colon => exact settles_between top _ b
  | word rest v =>
    cases rest with
    | nil => exact settles_fault _ _
    | cons c rest =>
      simp only [step]
      repeat' split
      · exact settles_fault _ _
      · exact settles_going rfl
      · exact settles_fault _ _
      · exact settles_going rfl
      · exact settles_deliver _ _ _
  | number n =>
    simp only [step]
    repeat' split
    · exact settles_going rfl
    · exact settles_fault _ _
    · exact settles_fault _ _
    · exact settles_ended _ _ _ _
    · exact (settles_between top _ b).of_inside rfl
  | string s isName =>
    simp only [step]
    repeat' split
    · exact settles_going rfl
    · exact settles_fault _ _
    · exact settles_fault _ _
    · exact settles_fault _ _
    · exact settles_fault _ _
    · exact settles_going rfl
    · exact settles_fault _ _
    · exact settles_deliver _ _ _
  | ending v => exact settles_ended _ _ _ _

theorem isOutside_of_play : ∀ {bytes : List UInt8} {r next : Reader}, play top r bytes = ([], .ok next) →
    next.isOutside = true → r.isOutside = true
  | [], r, next, h, houtside => by
    cases h
    exact houtside
  | b :: rest, r, next, h, houtside => by
    have hsettles := settles_step top r b
    rw [play] at h
    rcases hstep : r.step top b with ⟨_ | v, e | between⟩
    all_goals
      rw [hstep] at h hsettles
      dsimp only at h
    · cases h
    · have hrest : play top between rest = ([], .ok next) := h
      exact hsettles between rfl (isOutside_of_play hrest houtside)
    · cases h
    · cases h

theorem all_isSpace_of_play : ∀ {bytes : List UInt8}, play top {} bytes = ([], .ok {}) → bytes.all isSpace = true
  | [], _ => rfl
  | b :: rest, h => by
    have hstep : step top {} b = between top {} b := rfl
    rw [play, hstep] at h
    rcases hbetween : between top {} b with ⟨_ | v, e | next⟩
    all_goals
      rw [hbetween] at h
      dsimp only at h
    · cases h
    · have hrest : play top next rest = ([], .ok {}) := h
      obtain ⟨hspace, rfl⟩ := between_of_isOutside hbetween (isOutside_of_play hrest rfl)
      rw [List.all_cons, hspace, all_isSpace_of_play hrest]
      rfl
    · cases h
    · cases h

/-- **A text that gives out a single value is that value.** -/
theorem readFrom_of_play : ∀ {bytes : List UInt8} {r : Reader} {v : Json}, play top r bytes = ([v], .ok {}) →
    readFrom top r bytes = .ok v
  | [], r, v, h => by cases h
  | b :: rest, r, v, h => by
    have hsettles := settles_step top r b
    rw [play] at h
    rw [readFrom]
    rcases hstep : r.step top b with ⟨_ | w, e | next⟩
    all_goals
      rw [hstep] at h hsettles
      dsimp only at h
    · cases h
    · exact readFrom_of_play h
    · cases h
    · rcases hplay : play top next rest with ⟨values, final⟩
      rw [hplay] at h
      cases h
      obtain rfl := hsettles next rfl (isOutside_of_play hplay rfl)
      have hspaces := all_isSpace_of_play hplay
      simp [hspaces, isIdle]

end ObjectRelay.Json.Reader
