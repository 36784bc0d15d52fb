import ObjectRelay.Proofs.Json.Nesting
import ObjectRelay.Proofs.Json.Place
/-!
# A value inside of containers

A value inside of containers is read as it is read alone.  Every byte does to a reader inside what it does to one that
stands alone (`Reader.inside_step`), until the value is complete: then one of them has given it out, and the other one
has added it to the container (`Reader.play_inside`).  Only the containers around it may leave it too little room.
-/
namespace ObjectRelay.Json

namespace Reader

/-- A reader inside of further containers. -/
def inside (base : List Frame) (r : Reader) : Reader := ⟨r.mode, r.stack ++ base⟩

/-- Whether a reader that stands in this mode outside all containers is at or in a value. -/
def Mode.isAtValue : Mode → Bool
  | .value | .word .. | .number _ | .string _ false => true
  | _ => false

/-- Whether a reader stands behind a word that is complete. -/
def Mode.isEnding : Mode → Bool
  | .ending _ => true
  | _ => false

/-- Whether a reader is at or in its first value, which is not yet complete. -/
structure IsReading (top : Shape) (r : Reader) : Prop where
  outside : r.stack = [] → Mode.isAtValue r.mode = true
  going : Mode.isEnding r.mode = false
  passed : top = .ignored → ∀ frame ∈ r.stack, frame.IsIgnored

theorem isReading_start (top : Shape) : IsReading top {} := ⟨fun _ => rfl, rfl, fun _ => List.forall_mem_nil _⟩

/-- Inside of a container a reader may be anywhere. -/
theorem isReading_cons {top : Shape} {mode : Mode} {frame : Frame} {rest : List Frame}
    (hmode : Mode.isEnding mode = false) (hpassed : top = .ignored → ∀ f ∈ frame :: rest, f.IsIgnored) :
    IsReading top ⟨mode, frame :: rest⟩ := ⟨fun hnil => absurd hnil (List.cons_ne_nil _ _), hmode, hpassed⟩

/-- What a byte does to a reader inside of containers, given what it does to one that stands alone. -/
inductive Inside (top shape : Shape) (frame : Frame) (rest : List Frame) (b : UInt8) : Step → Step → Prop
  | going {r : Reader} (h : r.IsReading shape) :
    Inside top shape frame rest b (going r) (going (r.inside (frame :: rest)))
  | complete (v : Json) :
    Inside top shape frame rest b (some v, .ok {}) (going ⟨.follow, frame.add v :: rest⟩)
  /-- A word outside all containers is complete behind the next byte only. -/
  | word (v : Json) :
    Inside top shape frame rest b (going ⟨.ending v, []⟩) (going ⟨.follow, frame.add v :: rest⟩)
  /-- The byte behind a number belongs to what is around it. -/
  | number (v : Json) :
    Inside top shape frame rest b (ended shape v b) (between top ⟨.follow, frame.add v :: rest⟩ b)
  | fault (e : Fault) : Inside top shape frame rest b (fault e) (fault e)
  | tooDeep {r : Reader} (h : shape ≠ .ignored) (hdepth : maxDepth < r.stack.length + (rest.length + 1)) :
    Inside top shape frame rest b (going r) (fault .malformed)

section Step

variable {top shape : Shape} {frame : Frame} {rest stack : List Frame} {b : UInt8} {r : Reader}

theorem expected_inside (hshape : frame.expected = shape) (r : Reader) :
    (r.inside (frame :: rest)).expected top = r.expected shape := by
  obtain ⟨mode, stack⟩ := r
  cases stack with
  | nil => exact hshape
  | cons inner stack => rfl

theorem inside_deliver (hpassed : shape = .ignored → ∀ f ∈ stack, f.IsIgnored) (v : Json) :
    Inside top shape frame rest b (deliver stack v) (deliver (stack ++ frame :: rest) v) := by
  cases stack with
  | nil => exact .complete v
  | cons inner stack =>
    refine .going (isReading_cons rfl fun hignored => ?_)
    obtain ⟨hinner, hstack⟩ := List.forall_mem_cons.1 (hpassed hignored)
    exact List.forall_mem_cons.2 ⟨hinner.add v, hstack⟩

theorem inside_closing (hpassed : shape = .ignored → ∀ f ∈ stack, f.IsIgnored) (inner : Frame) :
    Inside top shape frame rest b (closing inner stack b) (closing inner (stack ++ frame :: rest) b) := by
  unfold closing
  split
  · exact inside_deliver hpassed _
  · exact .fault _
  · exact .fault _

theorem IsReading.expected_of_ignored (hr : r.IsReading .ignored) : r.expected .ignored = .ignored := by
  obtain ⟨mode, stack⟩ := r
  cases stack with
  | nil => rfl
  | cons inner stack => exact (hr.passed rfl inner List.mem_cons_self).expected

/-- A container is opened inside of others if it is alone, unless they leave it no room. -/
theorem inside_opening (hr : r.IsReading shape) {opened : Frame} (hopened : (r.expected shape).open? b = some opened) :
    Inside top shape frame rest b
      (if !(r.expected shape).isIgnored && maxDepth ≤ r.stack.length then fault .malformed
      else going ⟨.opened, opened :: r.stack⟩)
      (if !(r.expected shape).isIgnored && maxDepth ≤ (r.inside (frame :: rest)).stack.length then fault .malformed
      else going ⟨.opened, opened :: (r.inside (frame :: rest)).stack⟩) := by
  have hlength : (r.inside (frame :: rest)).stack.length = r.stack.length + (rest.length + 1) := List.length_append
  have hpassed : shape = .ignored → ∀ f ∈ opened :: r.stack, f.IsIgnored := by
    rintro rfl
    rw [hr.expected_of_ignored] at hopened
    exact List.forall_mem_cons.2 ⟨Frame.isIgnored_of_open hopened, hr.passed rfl⟩
  by_cases halone : !(r.expected shape).isIgnored && maxDepth ≤ r.stack.length
  · have hinside : !(r.expected shape).isIgnored && maxDepth ≤ (r.inside (frame :: rest)).stack.length := by
      simp only [Bool.and_eq_true, decide_eq_true_eq] at halone ⊢
      exact ⟨halone.1, by omega⟩
    rw [if_pos halone, if_pos hinside]
    exact .fault _
  · rw [if_neg halone]
    split
    · rename_i hinside
      simp only [Bool.and_eq_true, decide_eq_true_eq] at hinside
      refine .tooDeep (fun hignored => ?_) ?_
      · subst hignored
        rw [hr.expected_of_ignored] at hinside
        cases hinside.1
      · simp only [List.length_cons]
        omega
    · exact .going (isReading_cons rfl hpassed)

theorem inside_begin (hshape : frame.expected = shape) (hr : r.IsReading shape) :
    Inside top shape frame rest b (begin shape r b) (begin top (r.inside (frame :: rest)) b) := by
  have hgoing : ∀ mode : Mode, Mode.isAtValue mode = true → Mode.isEnding mode = false →
      Inside top shape frame rest b (going { r with mode }) (going { r.inside (frame :: rest) with mode }) :=
    fun mode hmode hending => .going ⟨fun _ => hmode, hending, hr.passed⟩
  unfold begin
  rw [expected_inside hshape]
  dsimp only
  split
  · exact hgoing _ rfl rfl
  split
  · exact hgoing _ rfl rfl
  split
  · exact hgoing _ rfl rfl
  split
  · exact hgoing _ rfl rfl
  split
  · split
    · exact .fault _
    · rename_i opened hopened
      exact inside_opening hr hopened
  · split
    · exact hgoing _ rfl rfl
    · exact .fault _

/-- Between the parts of a text that a reader alone is inside of, what is around does not matter. -/
theorem inside_between (hshape : frame.expected = shape) (hr : r.IsReading shape) :
    Inside top shape frame rest b (between shape r b) (between top (r.inside (frame :: rest)) b) := by
  unfold between
  split
  · exact .going hr
  obtain ⟨mode, stack⟩ := r
  have hbegin : Inside top shape frame rest b (begin shape ⟨mode, stack⟩ b)
      (begin top (inside (frame :: rest) ⟨mode, stack⟩) b) := inside_begin hshape hr
  cases stack with
  | nil =>
    cases mode with
    | opened | follow | name | colon => cases hr.outside rfl
    | _ => exact hbegin
  | cons inner stack =>
    have hpassed : shape = .ignored → ∀ f ∈ stack, f.IsIgnored := fun h =>
      (List.forall_mem_cons.1 (hr.passed h)).2
    have hgoing : ∀ mode : Mode, Mode.isEnding mode = false → Inside top shape frame rest b
        (going ⟨mode, inner :: stack⟩) (going (inside (frame :: rest) ⟨mode, inner :: stack⟩)) :=
      fun mode hending => .going (isReading_cons hending hr.passed)
    cases mode with
    | opened =>
      dsimp only [inside, List.cons_append]
      split
      · exact inside_closing hpassed inner
      split
      · split
        · exact hgoing _ rfl
        · exact .fault _
      · exact hbegin
    | follow =>
      dsimp only [inside, List.cons_append]
      split
      · split
        · exact .fault _
        · refine hgoing _ ?_
          split <;> rfl
      · exact inside_closing hpassed inner
    | name =>
      dsimp only [inside, List.cons_append]
      split
      · exact hgoing _ rfl
      · exact .fault _
    | colon =>
      dsimp only [inside, List.cons_append]
      split
      · exact hgoing _ rfl
      · exact .fault _
    | _ => exact hbegin

/-- **A byte does inside of containers what it does alone.** -/
theorem inside_step (hshape : frame.expected = shape) (hr : r.IsReading shape) (b : UInt8) :
    Inside top shape frame rest b (r.step shape b) ((r.inside (frame :: rest)).step top b) := by
  obtain ⟨mode, stack⟩ := r
  have hexpected : (inside (frame :: rest) ⟨mode, stack⟩).expected top = _ := expected_inside hshape ⟨mode, stack⟩
  cases mode with
  | value | opened | follow | name | colon => exact inside_between hshape hr
  | ending v => cases hr.going
  | word w v =>
    cases w with
    | nil => exact .fault _
    | cons c w =>
      simp only [inside, step] at hexpected ⊢
      rw [hexpected]
      split
      · exact .fault _
      split
      · exact .going ⟨fun _ => rfl, rfl, hr.passed⟩
      split
      · exact .fault _
      · rename_i v' _
        cases stack with
        | nil => exact .word v'
        | cons inner stack => exact inside_deliver hr.passed v'
  | number n =>
    simp only [inside, step] at hexpected ⊢
    rw [hexpected]
    split
    · exact .going ⟨fun _ => rfl, rfl, hr.passed⟩
    · exact .fault _
    · split
      · exact .fault _
      · rename_i v _
        cases stack with
        | nil => exact .number v
        | cons inner stack =>
          have hfollow : IsReading shape ⟨.follow, inner.add v :: stack⟩ := isReading_cons rfl fun hignored => by
            obtain ⟨hinner, hstack⟩ := List.forall_mem_cons.1 (hr.passed hignored)
            exact List.forall_mem_cons.2 ⟨hinner.add v, hstack⟩
          exact inside_between hshape hfollow
  | string s isName =>
    simp only [inside, step] at hexpected ⊢
    rw [hexpected]
    split
    · rename_i next _
      refine .going ⟨fun hnil => ?_, rfl, hr.passed⟩
      have hvalue := hr.outside hnil
      cases isName with
      | true => cases hvalue
      | false => rfl
    · exact .fault _
    · split
      · exact .fault _
      split
      · rename_i hname
        subst hname
        cases stack with
        | nil => cases hr.outside rfl
        | cons inner stack =>
          dsimp only [List.cons_append]
          split
          · exact .fault _
          · rename_i named hnamed
            refine .going (isReading_cons rfl fun hignored => ?_)
            obtain ⟨hinner, hstack⟩ := List.forall_mem_cons.1 (hr.passed hignored)
            exact List.forall_mem_cons.2 ⟨hinner.named hnamed, hstack⟩
      · split
        · exact .fault _
        · exact inside_deliver hr.passed _

end Step

/-! ## Texts -/

section Texts

variable {top shape : Shape} {r : Reader}

/-- The greatest number of containers that a reader is inside of while it reads. -/
def highest (top : Shape) (r : Reader) : List UInt8 → Nat
  | [] => r.stack.length
  | b :: rest => match r.step top b with
    | (_, .error _) => r.stack.length
    | (_, .ok next) => max r.stack.length (highest top next rest)

theorem play_blanks (h : ∀ b, isSpace b = true → r.step top b = going r) : ∀ {blanks : List UInt8},
    blanks.all isSpace = true → ∀ rest : List UInt8, play top r (blanks ++ rest) = play top r rest
  | [], _, _ => rfl
  | b :: blanks, hblanks, rest => by
    rw [List.all_cons, Bool.and_eq_true] at hblanks
    rw [List.cons_append, play_of_step (h b hblanks.1), play_blanks h hblanks.2]

theorem play_follow (stack : List Frame) {blanks : List UInt8} (h : blanks.all isSpace = true) (rest : List UInt8) :
    play top ⟨.follow, stack⟩ (blanks ++ rest) = play top ⟨.follow, stack⟩ rest := by
  have hstep : ∀ b, isSpace b = true → step top ⟨.follow, stack⟩ b = going ⟨.follow, stack⟩ := fun b hb => if_pos hb
  exact play_blanks hstep h rest

theorem length_le_highest (top : Shape) (r : Reader) (bytes : List UInt8) : r.stack.length ≤ highest top r bytes := by
  cases bytes with
  | nil => exact Nat.le_refl _
  | cons b rest =>
    rw [highest]
    split
    · exact Nat.le_refl _
    · exact Nat.le_max_left _ _

theorem highest_spaces : ∀ {bytes : List UInt8}, bytes.all isSpace = true → highest top {} bytes = 0
  | [], _ => rfl
  | b :: rest, h => by
    rw [List.all_cons, Bool.and_eq_true] at h
    have hstep : step top {} b = going {} := if_pos h.1
    rw [highest, hstep]
    exact (Nat.zero_max _).trans (highest_spaces h.2)

/-- **A text is nested as deep under one shape as under another**, if it is a value of both. -/
theorem highest_eq {top' : Shape} : ∀ {bytes : List UInt8} {r r' : Reader} {v w : Json}, r.SamePlace r' →
    readFrom top r bytes = .ok v → readFrom top' r' bytes = .ok w → highest top r bytes = highest top' r' bytes
  | [], r, r', v, w, hplace, _, _ => hplace.containers.length_eq
  | b :: rest, r, r', v, w, hplace, hread, hread' => by
    have htogether : Together (r.step top b) (r'.step top' b) := step_together hplace b
    rw [readFrom] at hread hread'
    rw [highest, highest, hplace.containers.length_eq]
    generalize r.step top b = s at htogether hread ⊢
    generalize r'.step top' b = s' at htogether hread' ⊢
    rcases s with ⟨_ | v', e | next⟩ <;> rcases s' with ⟨_ | w', e' | next'⟩
    all_goals try cases hread
    all_goals try cases hread'
    · exact congrArg (max _) (highest_eq htogether.1 hread hread')
    · cases htogether.2
    · cases htogether.2
    · dsimp only at hread hread'
      split at hread
      · rename_i hend
        split at hread'
        · rename_i hend'
          obtain ⟨hidle, hspaces⟩ := Bool.and_eq_true_iff.1 hend
          obtain ⟨hidle', -⟩ := Bool.and_eq_true_iff.1 hend'
          obtain rfl := eq_of_isIdle hidle
          obtain rfl := eq_of_isIdle hidle'
          simp only [highest_spaces hspaces]
        · cases hread'
      · cases hread

/-- Nothing but blanks stands behind a word or number that is a whole text. -/
theorem all_isSpace_of_ended {v w : Json} {b : UInt8} {rest : List UInt8}
    (h : (match ended top v b with
      | (none, .error e) => .error e
      | (none, .ok r) => readFrom top r rest
      | (some v, .ok r) => if r.isIdle && rest.all isSpace then .ok v else .error .malformed
      | (some _, .error _) => .error .malformed) = Except.ok w) : w = v ∧ (b :: rest).all isSpace = true := by
  unfold ended at h
  split at h
  · cases h
  · rename_i hstep
    split at hstep <;> cases hstep
  · rename_i v' next hstep
    split at hstep
    · rw [Prod.mk.injEq, Option.some_inj] at hstep
      obtain ⟨rfl, hnext⟩ := hstep
      split at h
      · rename_i hidle
        cases h
        obtain ⟨hidle, hblanks⟩ := Bool.and_eq_true_iff.1 hidle
        obtain ⟨hspace, -⟩ := between_of_isOutside (Prod.ext rfl hnext) (isOutside_of_isIdle hidle)
        exact ⟨rfl, by rw [List.all_cons, hspace, hblanks]; rfl⟩
      · cases h
    · cases hstep
  · cases h

theorem all_isSpace_of_readFrom_ending {v w : Json} {bytes : List UInt8}
    (h : readFrom top ⟨.ending v, []⟩ bytes = .ok w) : w = v ∧ bytes.all isSpace = true := by
  cases bytes with
  | nil =>
    cases h
    exact ⟨rfl, rfl⟩
  | cons b rest => exact all_isSpace_of_ended h

variable {frame : Frame} {rest : List Frame}

/-- **What is read alone is read inside of containers**, if they leave it room. -/
theorem play_inside (hshape : frame.expected = shape) : ∀ {bytes : List UInt8} {r : Reader} {v : Json},
    r.IsReading shape → readFrom shape r bytes = .ok v →
    (shape ≠ .ignored → highest shape r bytes + (rest.length + 1) ≤ maxDepth) →
    ∀ {b : UInt8}, isDelimiter b = true → ∀ more : List UInt8,
      play top (r.inside (frame :: rest)) (bytes ++ b :: more) = play top ⟨.follow, frame.add v :: rest⟩ (b :: more)
  | [], r, v, hr, hread, _, b, hb, more => by
    -- only a number is complete at the end of its text without being known to be
    rcases finish_eq_some (finish_of_readFrom hread) with hending | ⟨n, rfl, hcomplete, hvalue⟩
    · have hgoing := hr.going
      rw [hending] at hgoing
      cases hgoing
    · have hexpected : (⟨.number n, frame :: rest⟩ : Reader).expected top = shape := hshape
      have hstep : step top ⟨.number n, frame :: rest⟩ b = between top ⟨.follow, frame.add v :: rest⟩ b := by
        simp only [step, step_delimiter hcomplete hb, hexpected, hvalue]
      exact congrArg (playOn top · more) hstep
  | c :: bytes, r, v, hr, hread, hdepth, b, hb, more => by
    have hinside : Inside top shape frame rest c _ _ := inside_step hshape hr c
    rw [readFrom] at hread
    rw [highest] at hdepth
    rw [List.cons_append, play_cons]
    generalize r.step shape c = s at hinside hread hdepth
    generalize (r.inside (frame :: rest)).step top c = s' at hinside ⊢
    cases hinside with
    | going hnext =>
      have hroom := fun hkept => Nat.le_trans (Nat.add_le_add_right (Nat.le_max_right _ _) _) (hdepth hkept)
      exact play_inside hshape hnext hread hroom hb more
    | complete w =>
      dsimp only at hread
      split at hread
      · rename_i hidle
        cases hread
        exact play_follow _ (Bool.and_eq_true_iff.1 hidle).2 _
      · cases hread
    | word w =>
      obtain ⟨rfl, hblanks⟩ := all_isSpace_of_readFrom_ending hread
      exact play_follow _ hblanks _
    | number w =>
      obtain ⟨rfl, hblanks⟩ := all_isSpace_of_ended hread
      have hfollow : play top ⟨.follow, frame.add v :: rest⟩ (c :: (bytes ++ b :: more)) = _ := play_follow _ hblanks _
      exact hfollow
    | fault e => cases hread
    | @tooDeep next hkept hdeep =>
      have hroom := hdepth hkept
      have hlength : next.stack.length ≤ highest shape next bytes := length_le_highest _ _ _
      have hmax : highest shape next bytes ≤ max r.stack.length (highest shape next bytes) := Nat.le_max_right _ _
      exact absurd hroom (by simp only [going]; omega)

end Texts

end Reader
end ObjectRelay.Json
