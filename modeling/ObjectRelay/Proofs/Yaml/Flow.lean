import ObjectRelay.Yaml.Node
import ObjectRelay.Proofs.Yaml.Lexer
/-!
# Flow sequences and mappings

The lexer counts the flow sequences and mappings that are open (`Lexer.Nested`), and whatever is read from tokens has
closed as many as it has opened (`Read.Closes`).  So a text that leaves one open holds no document.
-/
namespace ObjectRelay.Yaml

/-- How many flow sequences and mappings are open behind a token, nothing if one has been closed that was not open. -/
def Token.nest (t : Token) : Option Nat → Option Nat
  | none => none
  | some open? => match t with
    | .flowSequence | .flowMapping => some (open? + 1)
    | .flowSequenceEnd | .flowMappingEnd => if open? = 0 then none else some (open? - 1)
    | _ => some open?

/-- Whether a token begins or ends a flow sequence or mapping. -/
def Token.isFlow : Token → Bool
  | .flowSequence | .flowMapping | .flowSequenceEnd | .flowMappingEnd => true
  | _ => false

theorem Token.nest_of_not_isFlow {t : Token} (h : t.isFlow = false) (depth? : Option Nat) : t.nest depth? = depth? := by
  cases depth? with
  | none => rfl
  | some depth => cases t <;> first | rfl | cases h

/-- How many flow sequences and mappings are open behind tokens, the last first. -/
def openFlows (found : List Token) : Option Nat := found.foldr Token.nest (some 0)

theorem openFlows_cons {t : Token} (h : t.isFlow = false) (found : List Token) :
    openFlows (t :: found) = openFlows found := Token.nest_of_not_isFlow h _

theorem openFlows_insertIdx {t : Token} (h : t.isFlow = false) : ∀ (found : List Token) (i : Nat),
    openFlows (found.insertIdx i t) = openFlows found
  | found, 0 => by rw [List.insertIdx_zero, openFlows_cons h]
  | [], _ + 1 => rfl
  | u :: found, i + 1 => by
    rw [List.insertIdx_succ_cons]
    exact congrArg u.nest (openFlows_insertIdx h found i)

theorem isFlow_of_readVersion? {s : List Char} {r : Token × List Char} (h : readVersion? s = some r) :
    r.1.isFlow = false := by
  obtain ⟨⟨major, s⟩, -, h⟩ := Option.bind_eq_some_iff.1 h
  simp only at h
  split at h
  · obtain ⟨⟨minor, s⟩, -, h⟩ := Option.bind_eq_some_iff.1 h
    cases h
    rfl
  · cases h

theorem isFlow_of_readHandle? {s : List Char} {r : Token × List Char} (h : readHandle? s = some r) :
    r.1.isFlow = false := by
  rw [readHandle?_eq] at h
  obtain ⟨handle, -, h⟩ := Option.bind_eq_some_iff.1 h
  split at h
  · cases h
  · obtain ⟨start, -, h⟩ := Option.bind_eq_some_iff.1 h
    split at h
    · cases h
    · cases h
      rfl

theorem isFlow_of_readDirective? {s : List Char} {r : Token × List Char} (h : readDirective? s = some r) :
    r.1.isFlow = false := by
  simp only [readDirective?] at h
  split_ifs at h
  · exact isFlow_of_readVersion? h
  · exact isFlow_of_readHandle? h

theorem isFlow_of_readTag? {s : List Char} {r : Token × List Char} (h : readTag? s = some r) : r.1.isFlow = false := by
  rw [readTag?_eq] at h
  split at h
  · obtain ⟨⟨text, s⟩, -, h⟩ := Option.bind_eq_some_iff.1 h
    simp only at h
    split at h
    · split at h
      · cases h
      · cases h
        rfl
    · cases h
  · obtain ⟨handle, -, h⟩ := Option.bind_eq_some_iff.1 h
    obtain ⟨text, -, h⟩ := Option.bind_eq_some_iff.1 h
    split at h
    · split at h
      · cases h
      · cases h
        rfl
    · split at h
      · cases h
        rfl
      · cases h
        rfl

namespace Lexer

/-! ## The lexer -/

/-- Whether a lexer knows how many flow sequences and mappings are open. -/
def Nested (l : Lexer) : Prop := ∀ depth, openFlows l.tokens = some depth → depth = l.outerKeys.length

/-- Whether as many are open as before. -/
def SameFlows (l m : Lexer) : Prop := openFlows m.tokens = openFlows l.tokens ∧ m.outerKeys.length = l.outerKeys.length

variable {l m n : Lexer}

theorem SameFlows.trans (h : SameFlows l m) (h' : SameFlows m n) : SameFlows l n :=
  ⟨h'.1.trans h.1, h'.2.trans h.2⟩

theorem SameFlows.nested (h : SameFlows l m) (hl : l.Nested) : m.Nested := by
  intro depth hdepth
  rw [h.1] at hdepth
  rw [h.2]
  exact hl depth hdepth

theorem sameFlows_emit {t : Token} (h : t.isFlow = false) (l : Lexer) : SameFlows l (l.emit t) :=
  ⟨openFlows_cons h l.tokens, rfl⟩

theorem sameFlows_of_dropKey? (h : l.dropKey? = some m) : SameFlows l m := by
  rw [dropKey?] at h
  split at h
  · cases h; exact ⟨rfl, rfl⟩
  · split at h
    · cases h
    · cases h; exact ⟨rfl, rfl⟩

theorem sameFlows_of_saveKey? (h : l.saveKey? = some m) : SameFlows l m := by
  rw [saveKey?] at h
  split at h
  · obtain ⟨m', hm', h⟩ := Option.bind_eq_some_iff.1 h
    cases h
    exact (sameFlows_of_dropKey? hm').trans ⟨rfl, rfl⟩
  · cases h; exact ⟨rfl, rfl⟩

theorem sameFlows_openBlock (l : Lexer) (column index : Nat) {t : Token} (h : t.isFlow = false) :
    SameFlows l (l.openBlock column index t) := by
  rw [openBlock]
  split
  · exact ⟨rfl, rfl⟩
  · exact ⟨openFlows_insertIdx h _ _, rfl⟩

theorem openFlows_closeBlocksFrom (target : Nat) : ∀ (margin : Nat) (outer : List Nat) (found : List Token),
    openFlows (closeBlocksFrom target margin outer found).2.2 = openFlows found
  | _, [], _ => rfl
  | margin, _ :: _, found => by
    rw [closeBlocksFrom]
    split
    · rw [openFlows_closeBlocksFrom, openFlows_cons rfl]
    · rfl

theorem sameFlows_closeBlocks (l : Lexer) (target : Nat) : SameFlows l (l.closeBlocks target) := by
  rw [closeBlocks]
  split
  · exact ⟨rfl, rfl⟩
  · exact ⟨openFlows_closeBlocksFrom _ _ _ _, rfl⟩

theorem sameFlows_of_openHere? {t : Token} (ht : t.isFlow = false) (h : l.openHere? t = some m) : SameFlows l m := by
  rw [openHere?] at h
  split at h
  · cases h; exact ⟨rfl, rfl⟩
  · split at h
    · cases h
    · cases h
      exact sameFlows_openBlock _ _ _ ht

/-- Whether what a reader finds keeps the count right. -/
def NestedStep (x : Option Lexer) : Prop := ∀ m, x = some m → m.Nested

theorem nestedStep_bind {x : Option Lexer} {f : Lexer → Option Lexer} (hl : l.Nested)
    (hx : ∀ m, x = some m → SameFlows l m) (hf : ∀ m, m.Nested → NestedStep (f m)) : NestedStep (x.bind f) := by
  intro n h
  obtain ⟨m, hm, h⟩ := Option.bind_eq_some_iff.1 h
  exact hf m ((hx m hm).nested hl) n h

theorem nestedStep_none : NestedStep none := by
  rintro _ ⟨⟩

theorem nestedStep_some (h : m.Nested) : NestedStep (some m) := by
  rintro _ ⟨⟩
  exact h

theorem nestedStep_ite {a : Prop} [Decidable a] {x y : Option Lexer} (hx : NestedStep x) (hy : NestedStep y) :
    NestedStep (if a then x else y) := by
  split <;> assumption

section Tokens

variable (hl : l.Nested)

include hl

theorem nested_emit {t : Token} (ht : t.isFlow = false) : (l.emit t).Nested := (sameFlows_emit ht l).nested hl

theorem directive?_nested : NestedStep l.directive? := by
  rw [directive?_eq]
  refine nestedStep_bind hl (fun m hm => (sameFlows_closeBlocks l 0).trans (sameFlows_of_dropKey? hm)) fun m hm => ?_
  intro n h
  obtain ⟨r, hr, h⟩ := Option.bind_eq_some_iff.1 h
  obtain ⟨line, -, h⟩ := Option.bind_eq_some_iff.1 h
  cases h
  exact nested_emit hm (isFlow_of_readDirective? hr)

theorem mark?_nested {t : Token} (ht : t.isFlow = false) : NestedStep (l.mark? t) :=
  nestedStep_bind hl (fun _ hm => (sameFlows_closeBlocks l 0).trans (sameFlows_of_dropKey? hm)) fun _ hm =>
    nestedStep_some (nested_emit hm ht)

theorem flowStart?_nested {t : Token} (ht : ∀ depth?, t.nest depth? = depth?.map (· + 1)) :
    NestedStep (l.flowStart? t) := by
  refine nestedStep_bind hl (fun _ hm => sameFlows_of_saveKey? hm) fun m hm => nestedStep_some ?_
  intro depth hdepth
  obtain ⟨d, hd, rfl⟩ := Option.map_eq_some_iff.1 ((ht _).symm.trans hdepth)
  exact congrArg (· + 1) (hm d hd)

theorem flowEnd?_nested {t : Token}
    (ht : ∀ depth, t.nest (some depth) = if depth = 0 then none else some (depth - 1)) : NestedStep (l.flowEnd? t) := by
  refine nestedStep_bind hl (fun _ hm => sameFlows_of_dropKey? hm) fun m hm => nestedStep_some ?_
  intro depth hdepth
  change t.nest (openFlows m.tokens) = some depth at hdepth
  cases hfound : openFlows m.tokens with
  | none => rw [hfound] at hdepth; cases hdepth
  | some before =>
    have hbefore : before = m.outerKeys.length := hm before hfound
    rw [hfound, ht] at hdepth
    split at hdepth
    · cases hdepth
    · cases hdepth
      cases houter : m.outerKeys with
      | nil =>
        rw [houter] at hbefore
        contradiction
      | cons key keys =>
        rw [houter, List.length_cons] at hbefore
        simp only [hbefore, Nat.add_sub_cancel]

theorem comma?_nested : NestedStep l.comma? :=
  nestedStep_bind hl (fun _ hm => sameFlows_of_dropKey? hm) fun _ hm => nestedStep_some (nested_emit hm rfl)

theorem dash?_nested : NestedStep l.dash? :=
  nestedStep_bind hl (fun _ hm => sameFlows_of_openHere? rfl hm) fun _ hm =>
    nestedStep_bind hm (fun _ hm' => sameFlows_of_dropKey? hm') fun _ hm' => nestedStep_some (nested_emit hm' rfl)

theorem key?_nested : NestedStep l.key? :=
  nestedStep_bind hl (fun _ hm => sameFlows_of_openHere? rfl hm) fun _ hm =>
    nestedStep_bind hm (fun _ hm' => sameFlows_of_dropKey? hm') fun _ hm' => nestedStep_some (nested_emit hm' rfl)

theorem value?_nested : NestedStep l.value? := by
  rw [value?]
  split
  · rename_i k _
    have hkey : SameFlows l (l.emitAt k.index .key) := ⟨openFlows_insertIdx rfl _ _, rfl⟩
    exact nestedStep_some (nested_emit ((hkey.trans (sameFlows_openBlock _ _ _ rfl)).nested hl) rfl)
  · exact nestedStep_bind hl (fun _ hm => sameFlows_of_openHere? rfl hm) fun _ hm =>
      nestedStep_some (nested_emit hm rfl)

theorem named?_nested {token : List Char → Token} (ht : ∀ name, (token name).isFlow = false) :
    NestedStep (l.named? token) :=
  nestedStep_bind hl (fun _ hm => sameFlows_of_saveKey? hm) fun _ hm =>
    nestedStep_ite nestedStep_none (nestedStep_some (nested_emit hm (ht _)))

theorem tag?_nested : NestedStep l.tag? := by
  refine nestedStep_bind hl (fun _ hm => sameFlows_of_saveKey? hm) fun m hm => ?_
  intro n h
  obtain ⟨⟨token, s⟩, hr, h⟩ := Option.bind_eq_some_iff.1 h
  simp only at h
  split at h
  · cases h
    exact nested_emit hm (isFlow_of_readTag? hr)
  · cases h

theorem nested_take (style : Style) (scanned : Scanned) (keyAllowed : Bool) : (l.take style scanned keyAllowed).Nested :=
  nested_emit hl rfl

theorem quoted?_nested (isDouble : Bool) : NestedStep (l.quoted? isDouble) := by
  refine nestedStep_bind hl (fun _ hm => sameFlows_of_saveKey? hm) fun m hm => ?_
  intro n h
  obtain ⟨scanned, -, h⟩ := Option.bind_eq_some_iff.1 h
  cases h
  exact nested_take hm _ _ _

theorem block?_nested (isFolded : Bool) : NestedStep (l.block? isFolded) := by
  refine nestedStep_bind hl (fun _ hm => sameFlows_of_dropKey? hm) fun m hm => ?_
  intro n h
  obtain ⟨scanned, -, h⟩ := Option.bind_eq_some_iff.1 h
  cases h
  exact nested_take hm _ _ _

theorem plain?_nested : NestedStep l.plain? := by
  refine nestedStep_bind hl (fun _ hm => sameFlows_of_saveKey? hm) fun m hm => ?_
  intro n h
  obtain ⟨scanned, -, h⟩ := Option.bind_eq_some_iff.1 h
  cases h
  exact nested_take hm _ _ _

/-- **Every token keeps the count right.** -/
theorem token?_nested (c : Char) (next : List Char) : NestedStep (l.token? c next) := by
  have hmark : (if c == '-' then Token.documentStart else .documentEnd).isFlow = false := by split <;> rfl
  have hstart : ∀ t : Token, t = .flowSequence ∨ t = .flowMapping → NestedStep (l.flowStart? t) := by
    rintro t (rfl | rfl) <;> exact flowStart?_nested hl fun depth? => by cases depth? <;> rfl
  have hend : ∀ t : Token, t = .flowSequenceEnd ∨ t = .flowMappingEnd → NestedStep (l.flowEnd? t) := by
    rintro t (rfl | rfl) <;> exact flowEnd?_nested hl fun depth => rfl
  rw [token?]
  exact nestedStep_ite (directive?_nested hl) <| nestedStep_ite (mark?_nested hl hmark) <|
    nestedStep_ite (hstart _ (.inl rfl)) <| nestedStep_ite (hstart _ (.inr rfl)) <|
    nestedStep_ite (hend _ (.inl rfl)) <| nestedStep_ite (hend _ (.inr rfl)) <| nestedStep_ite (comma?_nested hl) <|
    nestedStep_ite (dash?_nested hl) <| nestedStep_ite (key?_nested hl) <| nestedStep_ite (value?_nested hl) <|
    nestedStep_ite (named?_nested hl fun _ => rfl) <| nestedStep_ite (named?_nested hl fun _ => rfl) <|
    nestedStep_ite (tag?_nested hl) <| nestedStep_ite (block?_nested hl _) <| nestedStep_ite (block?_nested hl _) <|
    nestedStep_ite (quoted?_nested hl _) <| nestedStep_ite (quoted?_nested hl _) <| nestedStep_ite nestedStep_none <|
    plain?_nested hl

end Tokens
end Lexer
end ObjectRelay.Yaml
