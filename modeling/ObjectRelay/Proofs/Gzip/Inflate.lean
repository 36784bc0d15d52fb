import ObjectRelay.Gzip.Inflate
/-!
# What has been inflated stays

An inflater writes behind what it has written and takes nothing back, whatever bits it reads (`Inflater.output_step`).
So data may be handed on while the rest of it is still packed.
-/
namespace ObjectRelay.Gzip.Inflater

variable (m : Inflater)

@[simp] theorem output_become (phase : InflatePhase) : (m.become phase).output = m.output := rfl

@[simp] theorem output_expect (field : Field) (bits : Nat) : (m.expect field bits).output = m.output := rfl

@[simp] theorem output_expectLiteral (codes : Codes) : (m.expectLiteral codes).output = m.output := rfl

@[simp] theorem output_endBlock : m.endBlock.output = m.output := by
  unfold endBlock
  split <;> rfl

@[simp] theorem output_beginDynamic (literals : Nat) (lengths : List Nat) :
    (m.beginDynamic literals lengths).output = m.output := by
  unfold beginDynamic
  split <;> rfl

@[simp] theorem output_nextLength (code : Code) (literals distances : Nat) (read : List Nat) :
    (m.nextLength code literals distances read).output = m.output := by
  unfold nextLength
  split
  · rfl
  split
  · exact m.output_beginDynamic _ _
  · rfl

@[simp] theorem output_nextLengthOfLength (literals distances left : Nat) (read : List Nat) :
    (m.nextLengthOfLength literals distances left read).output = m.output := by
  unfold nextLengthOfLength
  split
  · rfl
  dsimp only
  split
  · exact m.output_nextLength _ _ _ _
  · rfl

/-- Whether one inflater has all that another one has inflated, and what comes behind it. -/
def Continues (m m' : Inflater) : Prop := m.output.toList <+: m'.output.toList

theorem Continues.of_eq {m m' : Inflater} (h : m'.output = m.output) : m.Continues m' :=
  ⟨[], by rw [List.append_nil, h]⟩

theorem Continues.trans {m m' m'' : Inflater} (h : m.Continues m') (h' : m'.Continues m'') : m.Continues m'' :=
  List.IsPrefix.trans h h'

theorem isPrefix_push (out : Array UInt8) (b : UInt8) : out.toList <+: (out.push b).toList := by
  rw [Array.toList_push]
  exact List.prefix_append _ _

theorem isPrefix_copyBack (distance : Nat) : ∀ (length : Nat) (out : Array UInt8),
    out.toList <+: (copyBack distance length out).toList
  | 0, _ => List.prefix_rfl
  | length + 1, out => (isPrefix_push out _).trans (isPrefix_copyBack distance length _)

theorem continues_numberRead (field : Field) (value : Nat) : m.Continues (m.numberRead field value) := by
  cases field with
  | header =>
    refine .of_eq ?_
    simp only [numberRead]
    split <;> rfl
  | storedLength =>
    refine .of_eq ?_
    simp only [numberRead]
    split
    · rfl
    split
    · exact m.output_endBlock
    · rfl
  | storedByte left =>
    have hpush := isPrefix_push m.output value.toUInt8
    simp only [numberRead]
    split
    · rwa [Continues, output_endBlock]
    · exact hpush
  | counts =>
    refine .of_eq ?_
    simp only [numberRead]
    split
    · rfl
    · exact m.output_nextLengthOfLength _ _ _ _
  | lengthOfLength literals distances left read => exact .of_eq (m.output_nextLengthOfLength _ _ _ _)
  | repeated code literals distances read length base => exact .of_eq (m.output_nextLength _ _ _ _)
  | lengthExtra codes base => exact .of_eq rfl
  | distanceExtra codes length base => exact isPrefix_copyBack _ _ _

theorem continues_wordRead (word : Word) (symbol : Nat) : m.Continues (m.wordRead word symbol) := by
  cases word with
  | codeLength code literals distances read =>
    refine .of_eq ?_
    simp only [wordRead]
    split
    · exact m.output_nextLength _ _ _ _
    split
    · split <;> rfl
    split <;> rfl
  | literal codes =>
    simp only [wordRead]
    split
    · exact isPrefix_push _ _
    refine .of_eq ?_
    split
    · exact m.output_endBlock
    split <;> rfl
  | distance codes length =>
    simp only [wordRead]
    split
    · exact .of_eq rfl
    · exact isPrefix_copyBack _ _ _
    · exact .of_eq rfl

/-- **A bit takes nothing back.** -/
theorem continues_step (bit : Bool) : m.Continues (m.step bit) := by
  obtain ⟨phase, last, output⟩ := m
  cases phase with
  | number field left got value =>
    simp only [step]
    split
    · exact continues_numberRead ⟨.corrupt, last, output⟩ _ _
    · exact .of_eq rfl
  | word w code =>
    cases code with
    | choice zero one =>
      simp only [step]
      split
      · exact continues_wordRead ⟨.corrupt, last, output⟩ _ _
      · exact .of_eq rfl
      · exact .of_eq rfl
    | _ => exact .of_eq rfl
  | _ => exact .of_eq rfl

theorem continues_byteEnd : m.Continues m.byteEnd := by
  unfold byteEnd
  split <;> exact .of_eq rfl

/-- **Nor does a byte.** -/
theorem continues_readByte (b : UInt8) : m.Continues (m.readByte b) := by
  have hbits : ∀ (bits : List Nat) (m : Inflater),
      m.Continues (bits.foldl (fun m i => m.step (b.toNat.testBit i)) m) := by
    intro bits
    induction bits with
    | nil => exact fun m => .of_eq rfl
    | cons i bits ih => exact fun m => (m.continues_step _).trans (ih _)
  exact (hbits _ m).trans (continues_byteEnd _)

end ObjectRelay.Gzip.Inflater
