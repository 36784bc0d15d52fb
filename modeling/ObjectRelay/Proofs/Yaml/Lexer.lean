import ObjectRelay.Proofs.Yaml.Directive
/-!
# Tokens in a longer text

A lexer finds the same tokens in a text with lines in front of it and with spaces and line ends behind it, unless the
text ends in a block scalar.
-/
namespace ObjectRelay.Yaml

/-- The place where a key may have begun, in a text with more in front. -/
def KeyStart.later (chars lines : Nat) (k : KeyStart) : KeyStart := { k with place := k.place.later chars lines }

namespace Lexer

/-- The lexer in a text with `chars` more characters and `lines` more lines in front, and with `w` behind. -/
def carry (chars lines : Nat) (w : List Char) (l : Lexer) : Lexer :=
  { l with
    rest := l.rest ++ w, place := l.place.later chars lines, key := l.key.map (KeyStart.later chars lines)
    outerKeys := l.outerKeys.map (Option.map (KeyStart.later chars lines)) }

section Carry

variable {chars lines : Nat} {w : List Char} {l l' : Lexer}

/-! ## Keys and blocks -/

@[simp] theorem rest_carry (l : Lexer) : (l.carry chars lines w).rest = l.rest ++ w := rfl

@[simp] theorem margin_carry (l : Lexer) : (l.carry chars lines w).margin = l.margin := rfl

@[simp] theorem tokens_carry (l : Lexer) : (l.carry chars lines w).tokens = l.tokens := rfl

@[simp] theorem keyAllowed_carry (l : Lexer) : (l.carry chars lines w).keyAllowed = l.keyAllowed := rfl

@[simp] theorem place_carry (l : Lexer) : (l.carry chars lines w).place = l.place.later chars lines := rfl

@[simp] theorem inFlow_carry (l : Lexer) : (l.carry chars lines w).inFlow = l.inFlow := by simp [inFlow, carry]

theorem skip_carry {n : Nat} (h : n ≤ l.rest.length) :
    (l.carry chars lines w).skip n = (l.skip n).carry chars lines w := by
  simp only [skip, carry, List.drop_append_of_le_length h, List.take_append_of_le_length h, Place.behind_later]

theorem dropKey?_carry (l : Lexer) : (l.carry chars lines w).dropKey? = l.dropKey?.map (carry chars lines w) := by
  obtain ⟨rest, place, tokens, margin, outerMargins, key, outerKeys, keyAllowed⟩ := l
  cases key with
  | none => rfl
  | some k =>
    simp only [dropKey?, carry, Option.map_some, KeyStart.later]
    split <;> rfl

theorem saveKey?_carry (l : Lexer) : (l.carry chars lines w).saveKey? = l.saveKey?.map (carry chars lines w) := by
  rw [saveKey?, saveKey?, keyAllowed_carry, dropKey?_carry]
  split
  · cases l.dropKey? with
    | none => rfl
    | some l =>
      simp only [Option.map_some, Option.bind_eq_bind, Option.bind_some, inFlow_carry, margin_carry, place_carry,
        Place.column_later]
      rfl
  · rfl

theorem openBlock_carry (l : Lexer) (column index : Nat) (t : Token) :
    (l.carry chars lines w).openBlock column index t = (l.openBlock column index t).carry chars lines w := by
  simp only [openBlock, inFlow_carry, margin_carry]
  exact rel_ite (R := fun l l' : Lexer => l' = l.carry chars lines w) .rfl rfl rfl

theorem closeBlocks_carry (l : Lexer) (target : Nat) :
    (l.carry chars lines w).closeBlocks target = (l.closeBlocks target).carry chars lines w := by
  simp only [closeBlocks, inFlow_carry]
  exact rel_ite (R := fun l l' : Lexer => l' = l.carry chars lines w) .rfl rfl rfl

theorem openHere?_carry (l : Lexer) (t : Token) :
    (l.carry chars lines w).openHere? t = (l.openHere? t).map (carry chars lines w) := by
  simp only [openHere?, inFlow_carry, keyAllowed_carry, place_carry, Place.column_later, tokens_carry, openBlock_carry]
  split
  · rfl
  · split <;> rfl

theorem rest_of_dropKey? (h : l.dropKey? = some l') : l'.rest = l.rest := by
  rw [dropKey?] at h
  split at h
  · cases h; rfl
  · split at h
    · cases h
    · cases h; rfl

theorem rest_of_saveKey? (h : l.saveKey? = some l') : l'.rest = l.rest := by
  rw [saveKey?] at h
  split at h
  · obtain ⟨m, hm, h⟩ := Option.bind_eq_some_iff.1 h
    cases h
    have hrest : m.rest = l.rest := rest_of_dropKey? hm
    exact hrest
  · cases h; rfl

theorem outerKeys_of_dropKey? (h : l.dropKey? = some l') : l'.outerKeys = l.outerKeys := by
  rw [dropKey?] at h
  split at h
  · cases h; rfl
  · split at h
    · cases h
    · cases h; rfl

theorem key_of_dropKey? (h : l.dropKey? = some l') : l'.key = none := by
  rw [dropKey?] at h
  split at h
  · rename_i hkey
    cases h
    exact hkey
  · split at h
    · cases h
    · cases h; rfl

theorem outerKeys_of_saveKey? (h : l.saveKey? = some l') : l'.outerKeys = l.outerKeys := by
  rw [saveKey?] at h
  split at h
  · obtain ⟨m, hm, h⟩ := Option.bind_eq_some_iff.1 h
    cases h
    have houterKeys : m.outerKeys = l.outerKeys := outerKeys_of_dropKey? hm
    exact houterKeys
  · cases h; rfl

theorem rest_openBlock (l : Lexer) (column index : Nat) (t : Token) : (l.openBlock column index t).rest = l.rest := by
  rw [openBlock]
  split <;> rfl

theorem rest_closeBlocks (l : Lexer) (target : Nat) : (l.closeBlocks target).rest = l.rest := by
  rw [closeBlocks]
  split <;> rfl

theorem rest_of_openHere? {t : Token} (h : l.openHere? t = some l') : l'.rest = l.rest := by
  rw [openHere?] at h
  split at h
  · cases h; rfl
  · split at h
    · cases h
    · cases h
      exact rest_openBlock _ _ _ _

/-! ## Tokens of a fixed length -/

theorem bind_carry {x x' : Option Lexer} {f : Lexer → Option Lexer} (hx : x' = x.map (carry chars lines w))
    (hf : ∀ m, x = some m → f (m.carry chars lines w) = (f m).map (carry chars lines w)) :
    x'.bind f = (x.bind f).map (carry chars lines w) := by
  subst hx
  cases x with
  | none => rfl
  | some m => exact hf m rfl

section Tokens

variable (hl : l.rest ≠ [])

include hl

theorem skip_one_carry {m : Lexer} (hm : m.rest = l.rest) :
    (m.carry chars lines w).skip 1 = (m.skip 1).carry chars lines w :=
  skip_carry (hm ▸ List.length_pos_iff.2 hl)

theorem flowStart?_carry (t : Token) :
    (l.carry chars lines w).flowStart? t = (l.flowStart? t).map (carry chars lines w) := by
  refine bind_carry (saveKey?_carry l) fun m hm => ?_
  rw [skip_one_carry hl (rest_of_saveKey? hm)]
  rfl

theorem flowEnd?_carry (t : Token) :
    (l.carry chars lines w).flowEnd? t = (l.flowEnd? t).map (carry chars lines w) := by
  refine bind_carry (dropKey?_carry l) fun m hm => ?_
  rw [skip_one_carry hl (rest_of_dropKey? hm)]
  obtain ⟨rest, place, tokens, margin, outerMargins, key, outerKeys, keyAllowed⟩ := m
  cases outerKeys <;> rfl

theorem comma?_carry : (l.carry chars lines w).comma? = l.comma?.map (carry chars lines w) := by
  refine bind_carry (dropKey?_carry l) fun m hm => ?_
  rw [skip_one_carry hl (rest_of_dropKey? hm)]
  rfl

theorem dash?_carry : (l.carry chars lines w).dash? = l.dash?.map (carry chars lines w) := by
  refine bind_carry (openHere?_carry l _) fun m hm => bind_carry (dropKey?_carry m) fun m' hm' => ?_
  rw [skip_one_carry hl ((rest_of_dropKey? hm').trans (rest_of_openHere? hm))]
  rfl

theorem key?_carry : (l.carry chars lines w).key? = l.key?.map (carry chars lines w) := by
  refine bind_carry (openHere?_carry l _) fun m hm => bind_carry (dropKey?_carry m) fun m' hm' => ?_
  rw [skip_one_carry hl ((rest_of_dropKey? hm').trans (rest_of_openHere? hm)), inFlow_carry]
  rfl

theorem value?_carry : (l.carry chars lines w).value? = l.value?.map (carry chars lines w) := by
  have hkey : (l.carry chars lines w).key = l.key.map (KeyStart.later chars lines) := rfl
  rw [value?, value?, hkey]
  cases l.key with
  | none =>
    refine bind_carry (openHere?_carry l _) fun m hm => ?_
    rw [skip_one_carry hl (rest_of_openHere? hm), inFlow_carry]
    rfl
  | some k =>
    let opened (l : Lexer) := (l.emitAt k.index .key).openBlock k.place.column k.index .blockMapping
    have hopened : opened (l.carry chars lines w) = (opened l).carry chars lines w :=
      openBlock_carry (l.emitAt k.index .key) k.place.column k.index .blockMapping
    have hrest : (opened l).rest = l.rest := rest_openBlock _ _ _ _
    change some { ((opened (l.carry chars lines w)).skip 1).emit .value with key := none, keyAllowed := false } = _
    rw [hopened, skip_one_carry hl hrest]
    rfl

end Tokens

theorem mark?_carry (h : 3 ≤ l.rest.length) (t : Token) :
    (l.carry chars lines w).mark? t = (l.mark? t).map (carry chars lines w) := by
  rw [mark?, mark?, closeBlocks_carry]
  refine bind_carry (dropKey?_carry _) fun m hm => ?_
  rw [skip_carry (by rw [rest_of_dropKey? hm, rest_closeBlocks]; exact h)]
  rfl

/-! ## Tokens that are read -/

theorem head?_eq_append {s : List Char} (hw : Trails w) {c : Char} (hc : isLayout c = false) :
    ((s ++ w).head? == some c) = (s.head? == some c) := by
  cases s with
  | cons d s => rfl
  | nil =>
    cases w with
    | nil => rfl
    | cons d w =>
      have hne : d ≠ c := fun h => by
        have hd := hw d List.mem_cons_self
        rw [h, hc] at hd
        cases hd
      simp [hne]

theorem named?_carry (hw : Trails w) (hl : l.rest ≠ []) (token : List Char → Token) :
    (l.carry chars lines w).named? token = (l.named? token).map (carry chars lines w) := by
  refine bind_carry (saveKey?_carry l) fun m hm => ?_
  have hlength : 1 ≤ m.rest.length := by
    rw [rest_of_saveKey? hm]
    exact List.length_pos_iff.2 hl
  have hends (s : List Char) : ((s ++ w).head?.any fun c => ['?', ':', ',', ']', '}', '%', '@', '\x60'].contains c) =
      s.head?.any fun c => ['?', ':', ',', ']', '}', '%', '@', '\x60'].contains c := head?_any_append hw fun c hc => by
    rcases isLayout_iff.1 hc with rfl | rfl | rfl | rfl <;> decide
  have hname : ((m.rest.drop 1).takeWhile isNameChar).length + 1 ≤ m.rest.length := by
    have hle := (List.takeWhile_prefix isNameChar (l := m.rest.drop 1)).length_le
    rw [List.length_drop] at hle
    omega
  simp only [rest_carry, List.drop_append_of_le_length hlength, takeWhile_append_of_trails hw isNameChar_of_isLayout,
    drop_takeWhile_append, atWordEnd_append hw, hends, skip_carry hname]
  split <;> rfl

theorem tag?_carry (hw : Trails w) : (l.carry chars lines w).tag? = l.tag?.map (carry chars lines w) := by
  refine bind_carry (saveKey?_carry l) fun m hm => ?_
  simp only [rest_carry, stable_readTag? m.rest w hw]
  cases readTag? m.rest with
  | none => rfl
  | some r =>
    obtain ⟨token, s⟩ := r
    have hlength : (m.rest ++ w).length - (s ++ w).length = m.rest.length - s.length := by
      rw [List.length_append, List.length_append, Nat.add_sub_add_right]
    simp only [Option.map_some, Option.bind_eq_bind, Option.bind_some, atWordEnd_append hw, inFlow_carry, hlength,
      head?_eq_append hw (c := ',') rfl, skip_carry (Nat.sub_le m.rest.length s.length)]
    split <;> rfl

/-- Whether two lexers have found the same tokens, and are in the same blocks, flow sequences and mappings. -/
structure SameBlocks (l l' : Lexer) : Prop where
  tokens : l'.tokens = l.tokens
  margin : l'.margin = l.margin
  outerMargins : l'.outerMargins = l.outerMargins
  key : l'.key.map (·.required) = l.key.map (·.required)
  outerKeys : l'.outerKeys.length = l.outerKeys.length

theorem sameBlocks_carry (l : Lexer) : SameBlocks l (l.carry chars lines w) where
  tokens := rfl
  margin := rfl
  outerMargins := rfl
  key := by simp only [carry, Option.map_map]; rfl
  outerKeys := by simp [carry]

/-- A lexer has reached the end of a text, and another one, in a longer text, the white space behind it. -/
structure Ended (l l' : Lexer) : Prop where
  rest : l.rest = []
  trails : Trails l'.rest
  blocks : SameBlocks l l'

theorem ended_take (l : Lexer) (style : Style) {scanned scanned' : Scanned} (h : scanned.Ended scanned')
    (keyAllowed keyAllowed' : Bool) :
    Ended (l.take style scanned keyAllowed) ((l.carry chars lines w).take style scanned' keyAllowed') := by
  have hblocks : SameBlocks l (l.carry chars lines w) := sameBlocks_carry l
  have hrest : ((l.carry chars lines w).take style scanned' keyAllowed').rest = [] := h.2.1
  have htokens : ((l.carry chars lines w).take style scanned' keyAllowed').tokens =
      (l.take style scanned keyAllowed).tokens := by simp only [take, emit, carry, h.2.2]
  exact ⟨h.1, hrest ▸ nofun, htokens, rfl, rfl, hblocks.key, hblocks.outerKeys⟩

theorem take_follows {x y : Option Scanned} (h : Follows (Scanned.carry chars lines w) Scanned.Ended x y) (l : Lexer)
    (style : Style) (keyAllowed : Scanned → Bool)
    (hkey : ∀ scanned : Scanned, keyAllowed (scanned.carry chars lines w) = keyAllowed scanned) :
    Follows (carry chars lines w) Ended (x.bind fun scanned => some (l.take style scanned (keyAllowed scanned)))
      (y.bind fun scanned => some ((l.carry chars lines w).take style scanned (keyAllowed scanned))) := by
  cases h with
  | refused => exact .refused
  | carried scanned =>
    rw [Option.bind_some, Option.bind_some, hkey]
    exact .carried (l.take style scanned (keyAllowed scanned))
  | ended h => exact .ended (ended_take l style h _ _)

theorem quoted?_follows (hw : Trails w) (hl : l.rest ≠ []) (isDouble : Bool) :
    Follows (carry chars lines w) Ended (l.quoted? isDouble) ((l.carry chars lines w).quoted? isDouble) := by
  rw [quoted?, quoted?, saveKey?_carry]
  cases hm : l.saveKey? with
  | none => exact .refused
  | some m =>
    simp only [Option.map_some, Option.bind_eq_bind, Option.bind_some, skip_one_carry hl (rest_of_saveKey? hm)]
    exact take_follows (readQuoted_follows isDouble hw _ _ _ _ _) (m.skip 1) .quoted (fun _ => false)
      fun _ => rfl

theorem plain?_follows (hw : Trails w) (l : Lexer) :
    Follows (carry chars lines w) Ended l.plain? (l.carry chars lines w).plain? := by
  rw [plain?, plain?, saveKey?_carry]
  cases l.saveKey? with
  | none => exact .refused
  | some m =>
    simp only [Option.map_some, Option.bind_eq_bind, Option.bind_some, inFlow_carry, margin_carry, rest_carry]
    exact take_follows (readPlain_follows m.inFlow m.margin hw _ _ _ _) m .plain Scanned.broken fun _ => rfl

/-- Whether a token is a scalar that keeps its lines or folds them by their indentation. -/
def isBlockScalar : Token → Bool
  | .scalar .literal _ | .scalar .folded _ => true
  | _ => false

/-- What a lexer makes of a token, and what it makes of it in a longer text, unless a block scalar ends the text. -/
def FollowsStep (chars lines : Nat) (w : List Char) (x y : Option Lexer) : Prop :=
  (∀ m, x = some m → m.rest = [] → m.key = none → m.outerKeys = [] → m.tokens.head?.any isBlockScalar = false) →
    Follows (carry chars lines w) Ended x y

theorem followsStep_of_follows {x y : Option Lexer} (h : Follows (carry chars lines w) Ended x y) :
    FollowsStep chars lines w x y := fun _ => h

theorem followsStep_of_eq_map {x y : Option Lexer} (h : y = x.map (carry chars lines w)) :
    FollowsStep chars lines w x y := by
  subst h
  cases x with
  | none => exact fun _ => .refused
  | some m => exact fun _ => .carried m

theorem block?_follows (hw : Trails w) (hl : l.rest ≠ []) (hflow : l.inFlow = false) (isFolded : Bool) :
    FollowsStep chars lines w (l.block? isFolded) ((l.carry chars lines w).block? isFolded) := by
  have houterKeys : l.outerKeys = [] := by simpa [inFlow] using hflow
  rw [block?, block?, dropKey?_carry]
  cases hm : l.dropKey? with
  | none => exact fun _ => .refused
  | some m =>
    simp only [Option.map_some, Option.bind_eq_bind, Option.bind_some, skip_one_carry hl (rest_of_dropKey? hm)]
    intro h
    have hscalar : FollowsWithin _ (Scanned.carry chars lines w) _ _ :=
      readBlockScalar_follows (m.skip 1).margin hw isFolded (m.skip 1).rest (m.skip 1).place
    have hrest : ∀ scanned, readBlockScalar isFolded (m.skip 1).margin (m.skip 1).rest (m.skip 1).place = some scanned →
        scanned.rest ≠ [] := by
      intro scanned hscanned hnil
      have hkey : m.key = none := key_of_dropKey? hm
      have houterKeys' : m.outerKeys = [] := (outerKeys_of_dropKey? hm).trans houterKeys
      have hblock := h ((m.skip 1).take _ scanned true) (by rw [hscanned]; rfl) hnil hkey houterKeys'
      cases isFolded <;> exact absurd hblock (by simp [take, emit, isBlockScalar])
    have heq := hscalar hrest
    simp only [margin_carry, rest_carry, place_carry, heq]
    cases readBlockScalar isFolded (m.skip 1).margin (m.skip 1).rest (m.skip 1).place with
    | none => exact .refused
    | some scanned => exact .carried ((m.skip 1).take _ scanned true)

theorem directive?_eq (l : Lexer) : l.directive? = (l.closeBlocks 0).dropKey?.bind fun m =>
    (readDirective? (m.rest.drop 1)).bind fun r =>
      (skipLineEnd? false r.2 (m.place.behind (m.rest.take (m.rest.length - r.2.length)))).bind fun line =>
        some { m.emit r.1 with rest := line.1, place := line.2, keyAllowed := false } := by
  rw [directive?]
  cases (l.closeBlocks 0).dropKey? with
  | none => rfl
  | some m =>
    simp only [Option.bind_eq_bind, Option.bind_some, readDirective?]
    split_ifs <;> rfl

theorem directive?_follows (hw : Trails w) (hl : l.rest ≠ []) :
    Follows (carry chars lines w) Ended l.directive? (l.carry chars lines w).directive? := by
  rw [directive?_eq, directive?_eq, closeBlocks_carry, dropKey?_carry]
  cases hm : (l.closeBlocks 0).dropKey? with
  | none => exact .refused
  | some m =>
    have hlength : 1 ≤ m.rest.length := by
      rw [rest_of_dropKey? hm, rest_closeBlocks]
      exact List.length_pos_iff.2 hl
    simp only [Option.map_some, Option.bind_some, rest_carry, List.drop_append_of_le_length hlength,
      stable_readDirective? _ w hw]
    cases readDirective? (m.rest.drop 1) with
    | none => exact .refused
    | some r =>
      have hplace : (m.carry chars lines w).place.behind
          ((m.rest ++ w).take ((m.rest ++ w).length - (r.2 ++ w).length)) =
            (m.place.behind (m.rest.take (m.rest.length - r.2.length))).later chars lines := by
        rw [List.length_append, List.length_append, Nat.add_sub_add_right,
          List.take_append_of_le_length (Nat.sub_le _ _), place_carry, Place.behind_later]
      simp only [Option.map_some, Option.bind_some, hplace]
      generalize m.place.behind (m.rest.take (m.rest.length - r.2.length)) = p
      have hline : Follows _ LineEnded _ (skipLineEnd? false (r.2 ++ w) (p.later chars lines)) :=
        skipLineEnd?_follows hw false r.2 p
      generalize skipLineEnd? false r.2 p = line at hline ⊢
      generalize skipLineEnd? false (r.2 ++ w) (p.later chars lines) = line' at hline ⊢
      cases hline with
      | refused => exact .refused
      | carried line =>
        exact .carried { m.emit r.1 with rest := line.1, place := line.2, keyAllowed := false }
      | ended h =>
        have hblocks : SameBlocks m (m.carry chars lines w) := sameBlocks_carry m
        exact .ended ⟨h.1, h.2, congrArg (r.1 :: ·) hblocks.tokens, rfl, rfl, hblocks.key, hblocks.outerKeys⟩

theorem three_le_of_atDocumentMark {p : Place} {s : List Char} (h : atDocumentMark p s = true) : 3 ≤ s.length := by
  match s with
  | _ :: _ :: _ :: _ => simp
  | [] | [_] | [_, _] =>
    rw [atDocumentMark_eq] at h
    simp at h

/-- **A token in a longer text** is the same token, unless it is a block scalar at the end of the text. -/
theorem token?_follows (hw : Trails w) {c : Char} {next : List Char} (hl : l.rest = c :: next) :
    FollowsStep chars lines w (l.token? c next) ((l.carry chars lines w).token? c (next ++ w)) := by
  have hne : l.rest ≠ [] := by rw [hl]; exact List.cons_ne_nil c next
  have hmark : atDocumentMark (l.place.later chars lines) (c :: (next ++ w)) = atDocumentMark l.place (c :: next) :=
    atDocumentMark_append hw l.place (c :: next)
  have hlength (hm : atDocumentMark l.place (c :: next) = true) : 3 ≤ l.rest.length := by
    rw [hl]
    exact three_le_of_atDocumentMark hm
  have notInFlow {isBar : Bool} (h : (isBar && !l.inFlow) = true) : l.inFlow = false := by
    simpa using (Bool.and_eq_true_iff.1 h).2
  simp only [token?, place_carry, hmark, atWordEnd_append hw, inFlow_carry]
  -- both lexers ask the same questions now, so that their answers are compared branch by branch
  refine rel_ite .rfl (followsStep_of_follows (directive?_follows hw hne)) ?_
  refine rel_ite_of .rfl (fun hm => followsStep_of_eq_map (mark?_carry (hlength hm) _)) ?_
  refine rel_ite .rfl (followsStep_of_eq_map (flowStart?_carry hne _)) ?_
  refine rel_ite .rfl (followsStep_of_eq_map (flowStart?_carry hne _)) ?_
  refine rel_ite .rfl (followsStep_of_eq_map (flowEnd?_carry hne _)) ?_
  refine rel_ite .rfl (followsStep_of_eq_map (flowEnd?_carry hne _)) ?_
  refine rel_ite .rfl (followsStep_of_eq_map (comma?_carry hne)) ?_
  refine rel_ite .rfl (followsStep_of_eq_map (dash?_carry hne)) ?_
  refine rel_ite .rfl (followsStep_of_eq_map (key?_carry hne)) ?_
  refine rel_ite .rfl (followsStep_of_eq_map (value?_carry hne)) ?_
  refine rel_ite .rfl (followsStep_of_eq_map (named?_carry hw hne _)) ?_
  refine rel_ite .rfl (followsStep_of_eq_map (named?_carry hw hne _)) ?_
  refine rel_ite .rfl (followsStep_of_eq_map (tag?_carry hw)) ?_
  refine rel_ite_of .rfl (fun hpipe => block?_follows hw hne (notInFlow hpipe) _) ?_
  refine rel_ite_of .rfl (fun hangle => block?_follows hw hne (notInFlow hangle) _) ?_
  refine rel_ite .rfl (followsStep_of_follows (quoted?_follows hw hne _)) ?_
  refine rel_ite .rfl (followsStep_of_follows (quoted?_follows hw hne _)) ?_
  exact rel_ite .rfl (fun _ => .refused) (followsStep_of_follows (plain?_follows hw l))

end Carry

/-! ## What tokens leave -/

section Leaves

variable {l m : Lexer} {c : Char} {next : List Char}

theorem rest_skip_suffix {n : Nat} (hm : m.rest = c :: next) (hn : n ≠ 0) : (m.skip n).rest <:+ next := by
  obtain ⟨k, rfl⟩ := Nat.exists_eq_succ_of_ne_zero hn
  rw [skip, hm, List.drop_succ_cons]
  exact List.drop_suffix k next

theorem leaves_bind {x : Option Lexer} {f : Lexer → Option Lexer} (hx : ∀ m, x = some m → m.rest = l.rest)
    (hf : ∀ m, m.rest = l.rest → Leaves Lexer.rest next (f m)) : Leaves Lexer.rest next (x.bind f) := by
  intro m h
  obtain ⟨m', hm', h⟩ := Option.bind_eq_some_iff.1 h
  exact hf m' (hx m' hm') m h

variable (hl : l.rest = c :: next)

include hl

theorem directive?_leaves : Leaves Lexer.rest next l.directive? := by
  rw [directive?_eq]
  refine leaves_bind (fun m hm => (rest_of_dropKey? hm).trans (rest_closeBlocks l 0)) fun m hm => ?_
  rw [hm, hl, List.drop_succ_cons, List.drop_zero]
  exact (readDirective?_leaves next).bind fun r => (skipLineEnd?_leaves _ _ _).bind fun line =>
    leaves_some List.suffix_rfl

theorem mark?_leaves (t : Token) : Leaves Lexer.rest next (l.mark? t) :=
  leaves_bind (fun m hm => (rest_of_dropKey? hm).trans (rest_closeBlocks l 0)) fun m hm =>
    leaves_some (rest_skip_suffix (hm.trans hl) (by decide))

theorem flowStart?_leaves (t : Token) : Leaves Lexer.rest next (l.flowStart? t) :=
  leaves_bind (fun m hm => rest_of_saveKey? hm) fun m hm =>
    leaves_some (rest_skip_suffix (hm.trans hl) (by decide))

theorem flowEnd?_leaves (t : Token) : Leaves Lexer.rest next (l.flowEnd? t) := by
  refine leaves_bind (fun _ hm => rest_of_dropKey? hm) fun m hm => ?_
  have hrest := rest_skip_suffix (hm.trans hl) (n := 1) (by decide)
  obtain ⟨rest, place, tokens, margin, outerMargins, key, outerKeys, keyAllowed⟩ := m
  cases outerKeys <;> exact leaves_some hrest

theorem comma?_leaves : Leaves Lexer.rest next l.comma? :=
  leaves_bind (fun _ hm => rest_of_dropKey? hm) fun _ hm =>
    leaves_some (rest_skip_suffix (hm.trans hl) (by decide))

theorem dash?_leaves : Leaves Lexer.rest next l.dash? :=
  leaves_bind (fun m hm => rest_of_openHere? hm) fun m hm =>
    leaves_bind (fun m' hm' => (rest_of_dropKey? hm').trans hm) fun m' hm' =>
      leaves_some (rest_skip_suffix (hm'.trans hl) (by decide))

theorem key?_leaves : Leaves Lexer.rest next l.key? :=
  leaves_bind (fun m hm => rest_of_openHere? hm) fun m hm =>
    leaves_bind (fun m' hm' => (rest_of_dropKey? hm').trans hm) fun m' hm' =>
      leaves_some (rest_skip_suffix (hm'.trans hl) (by decide))

theorem value?_leaves : Leaves Lexer.rest next l.value? := by
  rw [value?]
  split
  · refine leaves_some ?_
    exact rest_skip_suffix (Eq.trans (rest_openBlock (l.emitAt _ .key) _ _ _) hl) (by decide)
  · exact leaves_bind (fun m hm => rest_of_openHere? hm) fun m hm =>
      leaves_some (rest_skip_suffix (hm.trans hl) (by decide))

theorem named?_leaves (token : List Char → Token) : Leaves Lexer.rest next (l.named? token) :=
  leaves_bind (fun _ hm => rest_of_saveKey? hm) fun _ hm =>
    .ite leaves_none (leaves_some (rest_skip_suffix (hm.trans hl) (Nat.succ_ne_zero _)))

theorem tag?_leaves : Leaves Lexer.rest next l.tag? := by
  refine leaves_bind (fun m hm => rest_of_saveKey? hm) fun m hm => ?_
  intro m' h
  obtain ⟨⟨token, s⟩, hr, h⟩ := Option.bind_eq_some_iff.1 h
  rw [hm.trans hl] at hr
  have hlength : s.length ≤ next.length := (readTag?_leaves c next _ hr).length_le
  have htaken : m.rest.length - s.length ≠ 0 := by
    rw [hm, hl, List.length_cons]
    omega
  simp only at h
  split at h
  · cases h
    exact rest_skip_suffix (hm.trans hl) htaken
  · cases h

theorem quoted?_leaves (isDouble : Bool) : Leaves Lexer.rest next (l.quoted? isDouble) := by
  refine leaves_bind (fun m hm => rest_of_saveKey? hm) fun m hm => ?_
  refine Leaves.mono ?_ (rest_skip_suffix (hm.trans hl) (by decide : 1 ≠ 0))
  exact (readQuoted_leaves _ _ _ _ _ _).bind fun scanned => leaves_some List.suffix_rfl

theorem block?_leaves (isFolded : Bool) : Leaves Lexer.rest next (l.block? isFolded) := by
  refine leaves_bind (fun m hm => rest_of_dropKey? hm) fun m hm => ?_
  refine Leaves.mono ?_ (rest_skip_suffix (hm.trans hl) (by decide : 1 ≠ 0))
  exact (readBlockScalar_leaves _ _ _ _).bind fun scanned => leaves_some List.suffix_rfl

theorem plain?_leaves (hc : (c == ':' && atWordEnd next || l.inFlow && isFlowIndicator c) = false) :
    Leaves Lexer.rest next l.plain? := by
  intro m' h
  obtain ⟨m, hm, h⟩ := Option.bind_eq_some_iff.1 h
  have hflow : m.inFlow = l.inFlow := by rw [inFlow, inFlow, outerKeys_of_saveKey? hm]
  rw [(rest_of_saveKey? hm).trans hl] at h
  rw [← hflow] at hc
  obtain ⟨scanned, hscanned, h⟩ := Option.bind_eq_some_iff.1 h
  cases h
  exact readPlain_leaves_tail m.margin m.place hc scanned hscanned

/-- **Every token takes a character or more.** -/
theorem token?_leaves : Leaves Lexer.rest next (l.token? c next) := by
  rw [token?]
  refine .ite (directive?_leaves hl) <| .ite (mark?_leaves hl _) <| .ite_of_not (flowStart?_leaves hl _) fun hopen =>
    .ite_of_not (flowStart?_leaves hl _) fun hopen' => .ite_of_not (flowEnd?_leaves hl _) fun hclose =>
    .ite_of_not (flowEnd?_leaves hl _) fun hclose' => .ite_of_not (comma?_leaves hl) fun hcomma =>
    .ite (dash?_leaves hl) <| .ite (key?_leaves hl) <| .ite_of_not (value?_leaves hl) fun hcolon =>
    .ite (named?_leaves hl _) <| .ite (named?_leaves hl _) <| .ite (tag?_leaves hl) <| .ite (block?_leaves hl _) <|
    .ite (block?_leaves hl _) <| .ite (quoted?_leaves hl _) <| .ite (quoted?_leaves hl _) <| .ite leaves_none <|
    plain?_leaves hl ?_
  have hflow : isFlowIndicator c = false := by simp_all [isFlowIndicator]
  rw [hflow, Bool.and_false, Bool.or_false]
  cases hc : c == ':' with
  | false => rfl
  | true =>
    rw [hc, Bool.true_and, Bool.or_eq_true, not_or] at hcolon
    simpa using hcolon.2

end Leaves

end Lexer
end ObjectRelay.Yaml
