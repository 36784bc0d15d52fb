import ObjectRelay.Proofs.Yaml.Flow
/-!
# All tokens of a longer text

A lexer finds the same tokens in a longer text, unless the text leaves a flow sequence or mapping open: then the place
where the longer text ends may tell whether a key is given up, but neither text holds a document.
-/
namespace ObjectRelay.Yaml
namespace Lexer

/-! ## Between tokens -/

theorem skipBlanks_trails {w : List Char} (hw : Trails w) (inFlow : Bool) (p : Place) (keyAllowed inComment : Bool) :
    (skipBlanks inFlow w p keyAllowed inComment).1 = [] := by
  induction w generalizing p keyAllowed inComment with
  | nil => rfl
  | cons c w ih =>
    rw [skipBlanks]
    rcases hw.head with rfl | hc
    · simpa [isBreak] using ih hw.tail _ _ _
    · rw [if_pos hc]
      exact ih hw.tail _ _ _

theorem skipBlanks_suffix (inFlow : Bool) (s : List Char) (p : Place) (keyAllowed inComment : Bool) :
    (skipBlanks inFlow s p keyAllowed inComment).1 <:+ s := by
  induction s generalizing p keyAllowed inComment with
  | nil => exact List.suffix_rfl
  | cons c s ih =>
    rw [skipBlanks]
    split_ifs
    · exact (ih _ _ _).trans (List.suffix_cons c s)
    · exact (ih _ _ _).trans (List.suffix_cons c s)
    · exact (ih _ _ _).trans (List.suffix_cons c s)
    · exact List.suffix_rfl

section Settle

variable {chars lines : Nat} {w : List Char} {l m : Lexer}

/-- What is passed over in a longer text: the same up to the next token, and everything if none comes. -/
def PassesAlike (chars lines : Nat) (w : List Char) (x y : List Char × Place × Bool) : Prop :=
  (x.1 ≠ [] → y = (x.1 ++ w, x.2.1.later chars lines, x.2.2)) ∧ (x.1 = [] → y.1 = [])

theorem skipBlanks_passesAlike (hw : Trails w) (inFlow : Bool) (s : List Char) (p : Place)
    (keyAllowed inComment : Bool) : PassesAlike chars lines w (skipBlanks inFlow s p keyAllowed inComment)
      (skipBlanks inFlow (s ++ w) (p.later chars lines) keyAllowed inComment) := by
  induction s generalizing p keyAllowed inComment with
  | nil => exact ⟨fun h => absurd rfl h, fun _ => skipBlanks_trails hw inFlow _ _ _⟩
  | cons c s ih =>
    simp only [List.cons_append, skipBlanks, Place.next_later, Place.column_later]
    exact rel_ite .rfl (ih _ _ _) <| rel_ite .rfl (ih _ _ _) <| rel_ite .rfl (ih _ _ _) ⟨fun _ => rfl, nofun⟩

/-- Gives up a place from which a key can no longer reach `p`. -/
def expire? (p : Place) : Option KeyStart → Option (Option KeyStart)
  | none => some none
  | some k => if !k.isPast p then some (some k) else if k.required then none else some none

theorem expireKeys?_eq (l : Lexer) : l.expireKeys? = (expire? l.place l.key).bind fun key =>
    (l.outerKeys.mapM (expire? l.place)).bind fun outerKeys => some { l with key, outerKeys } := by
  rw [expireKeys?]
  rfl

theorem expire?_later (p : Place) (key : Option KeyStart) :
    expire? (p.later chars lines) (key.map (KeyStart.later chars lines)) =
      (expire? p key).map (Option.map (KeyStart.later chars lines)) := by
  cases key with
  | none => rfl
  | some k =>
    have hpast : (k.later chars lines).isPast (p.later chars lines) = k.isPast p := by
      simp only [KeyStart.isPast, KeyStart.later, Place.later]
      congr 1
      · exact decide_eq_decide.2 (by omega)
      · exact decide_eq_decide.2 (by omega)
    have hrequired : (k.later chars lines).required = k.required := rfl
    simp only [expire?, Option.map_some, hpast, hrequired]
    split_ifs <;> rfl

theorem mapM_expire?_later (p : Place) : ∀ keys : List (Option KeyStart),
    (keys.map (Option.map (KeyStart.later chars lines))).mapM (expire? (p.later chars lines)) =
      (keys.mapM (expire? p)).map (List.map (Option.map (KeyStart.later chars lines)))
  | [] => rfl
  | key :: keys => by
    rw [List.map_cons, List.mapM_cons, List.mapM_cons, mapM_expire?_later p keys, expire?_later]
    cases expire? p key with
    | none => rfl
    | some key => cases keys.mapM (expire? p) <;> rfl

theorem expireKeys?_carry (l : Lexer) :
    (l.carry chars lines w).expireKeys? = l.expireKeys?.map (carry chars lines w) := by
  have hkey : (l.carry chars lines w).key = l.key.map (KeyStart.later chars lines) := rfl
  have houterKeys : (l.carry chars lines w).outerKeys = l.outerKeys.map (Option.map (KeyStart.later chars lines)) := rfl
  rw [expireKeys?_eq, expireKeys?_eq, place_carry, hkey, houterKeys, expire?_later, mapM_expire?_later]
  cases expire? l.place l.key with
  | none => rfl
  | some key => cases l.outerKeys.mapM (expire? l.place) <;> rfl

/-- The lexer behind what may stand between two tokens. -/
def passed (l : Lexer) : Lexer :=
  { l with
    rest := (skipBlanks l.inFlow l.rest l.place l.keyAllowed false).1
    place := (skipBlanks l.inFlow l.rest l.place l.keyAllowed false).2.1
    keyAllowed := (skipBlanks l.inFlow l.rest l.place l.keyAllowed false).2.2 }

theorem settle?_eq (l : Lexer) :
    l.settle? = l.passed.expireKeys?.map fun m => m.closeBlocks (m.place.column + 1) := by
  change l.passed.expireKeys?.bind (fun m => some (m.closeBlocks (m.place.column + 1))) = _
  cases l.passed.expireKeys? <;> rfl

theorem passed_carry (hw : Trails w) (h : l.passed.rest ≠ []) :
    (l.carry chars lines w).passed = l.passed.carry chars lines w := by
  have hskip : skipBlanks l.inFlow (l.rest ++ w) (l.place.later chars lines) l.keyAllowed false = _ :=
    (skipBlanks_passesAlike hw l.inFlow l.rest l.place l.keyAllowed false).1 h
  simp only [passed, inFlow_carry, rest_carry, place_carry, keyAllowed_carry, hskip]
  rfl

theorem settle?_carry (hw : Trails w) (h : l.passed.rest ≠ []) :
    (l.carry chars lines w).settle? = l.settle?.map (carry chars lines w) := by
  rw [settle?_eq, settle?_eq, passed_carry hw h, expireKeys?_carry, Option.map_map, Option.map_map]
  congr 1
  funext m
  exact closeBlocks_carry m _

theorem length_of_mapM {α β : Type} {f : α → Option β} : ∀ {as : List α} {bs : List β}, as.mapM f = some bs →
    bs.length = as.length
  | [], _, rfl => rfl
  | a :: as, bs, h => by
    rw [List.mapM_cons] at h
    obtain ⟨b, -, h⟩ := Option.bind_eq_some_iff.1 h
    obtain ⟨bs', hbs', h⟩ := Option.bind_eq_some_iff.1 h
    cases h
    exact congrArg (· + 1) (length_of_mapM hbs')

theorem exists_of_settle? (h : l.settle? = some m) : ∃ key outerKeys,
    l.outerKeys.mapM (expire? l.passed.place) = some outerKeys ∧
      m = { l.passed with key := key, outerKeys := outerKeys }.closeBlocks (l.passed.place.column + 1) := by
  rw [settle?_eq, expireKeys?_eq] at h
  obtain ⟨m', hm', rfl⟩ := Option.map_eq_some_iff.1 h
  obtain ⟨key, -, hm'⟩ := Option.bind_eq_some_iff.1 hm'
  obtain ⟨outerKeys, houterKeys, hm'⟩ := Option.bind_eq_some_iff.1 hm'
  cases hm'
  exact ⟨key, outerKeys, houterKeys, rfl⟩

theorem rest_of_settle? (h : l.settle? = some m) : m.rest = l.passed.rest := by
  obtain ⟨key, outerKeys, -, rfl⟩ := exists_of_settle? h
  exact rest_closeBlocks _ _

theorem sameFlows_of_settle? (h : l.settle? = some m) : SameFlows l m := by
  obtain ⟨key, outerKeys, houterKeys, rfl⟩ := exists_of_settle? h
  have hlength : outerKeys.length = l.outerKeys.length := length_of_mapM houterKeys
  have hexpired : SameFlows l { l.passed with key := key, outerKeys := outerKeys } := ⟨rfl, hlength⟩
  exact hexpired.trans (sameFlows_closeBlocks _ _)

end Settle

/-! ## The end of a text -/

section End

variable {l l' m : Lexer} {n n' : Nat}

/-- The tokens that have been found once all blocks are closed, last first. -/
def closedTokens (l : Lexer) : List Token := (closeBlocksFrom 0 l.margin l.outerMargins l.tokens).2.2

theorem closeBlocksFrom_zero_closeBlocksFrom (target : Nat) : ∀ (margin : Nat) (outer : List Nat) (found : List Token),
    closeBlocksFrom 0 (closeBlocksFrom target margin outer found).1 (closeBlocksFrom target margin outer found).2.1
      (closeBlocksFrom target margin outer found).2.2 = closeBlocksFrom 0 margin outer found
  | _, [], _ => rfl
  | margin, outer :: margins, found => by
    by_cases h : target < margin
    · have hpos : 0 < margin := Nat.zero_lt_of_lt h
      rw [closeBlocksFrom, if_pos h, closeBlocksFrom_zero_closeBlocksFrom target outer margins, closeBlocksFrom, if_pos hpos]
    · rw [closeBlocksFrom, if_neg h]

theorem run?_of_passed_nil (h : l.passed.rest = []) (n : Nat) :
    run? (n + 1) l = l.settle?.bind fun m => (m.closeBlocks 0).dropKey?.map fun m => m.tokens.reverse := by
  rw [run?]
  cases hm : l.settle? with
  | none => rfl
  | some m =>
    have hrest : m.rest = [] := (rest_of_settle? hm).trans h
    simp only [Option.bind_eq_bind, Option.bind_some, hrest]
    cases (m.closeBlocks 0).dropKey? <;> rfl

/-- Outside flow sequences and mappings all blocks are closed, and only a key that must be there can be missing. -/
theorem finish_of_outerKeys_nil (h : l.outerKeys = []) (target : Nat) :
    ((l.closeBlocks target).closeBlocks 0).dropKey?.map (fun m : Lexer => m.tokens.reverse) =
      if l.key.map (·.required) = some true then none else some l.closedTokens.reverse := by
  have hclosed := closeBlocksFrom_zero_closeBlocksFrom target l.margin l.outerMargins l.tokens
  have hflow : l.inFlow = false := by rw [inFlow, h]; rfl
  have hfields : (l.closeBlocks target).closeBlocks 0 =
      { l with
        margin := (closeBlocksFrom 0 l.margin l.outerMargins l.tokens).1
        outerMargins := (closeBlocksFrom 0 l.margin l.outerMargins l.tokens).2.1
        tokens := l.closedTokens } := by
    rw [closedTokens, ← hclosed]
    have hflow' : ∀ margin outerMargins tokens,
        ({ l with margin := margin, outerMargins := outerMargins, tokens := tokens } : Lexer).inFlow = false :=
      fun _ _ _ => hflow
    simp only [closeBlocks, hflow, hflow', Bool.false_eq_true, if_false]
  rw [hfields]
  cases hkey : l.key with
  | none => simp [dropKey?]
  | some k => cases hrequired : k.required <;> simp [dropKey?, hrequired]

/-- A key that must be there is not given up. -/
theorem expire?_required (p : Place) (key : Option KeyStart) :
    expire? p key = none ∧ key.map (·.required) = some true ∨ ∃ key', expire? p key = some key' ∧
      (key'.map (·.required) = some true ↔ key.map (·.required) = some true) := by
  cases key with
  | none => exact .inr ⟨none, rfl, .rfl⟩
  | some k =>
    by_cases hpast : k.isPast p = true
    · cases hrequired : k.required with
      | false => exact .inr ⟨none, by simp [expire?, hpast, hrequired], by simp [hrequired]⟩
      | true => exact .inl ⟨by simp [expire?, hpast, hrequired], by simp [hrequired]⟩
    · exact .inr ⟨some k, by simp [expire?, hpast], .rfl⟩

theorem run?_of_outerKeys_nil (h : l.passed.rest = []) (houterKeys : l.outerKeys = []) (n : Nat) :
    run? (n + 1) l = if l.key.map (·.required) = some true then none else some l.closedTokens.reverse := by
  have houterKeys' : l.passed.outerKeys = [] := houterKeys
  have hkey : l.passed.key = l.key := rfl
  rw [run?_of_passed_nil h, settle?_eq, expireKeys?_eq, houterKeys', hkey]
  rcases expire?_required l.passed.place l.key with ⟨hexpire, hrequired⟩ | ⟨key, hexpire, hrequired⟩
  · rw [hexpire, if_pos hrequired]
    rfl
  · have hfinish := finish_of_outerKeys_nil (l := { l.passed with key := key, outerKeys := [] }) rfl
      (l.passed.place.column + 1)
    rw [hexpire]
    exact hfinish.trans (ite_congr (propext hrequired) (fun _ => rfl) fun _ => rfl)

theorem sameFlows_of_run? {tokens : List Token} (h : l.passed.rest = []) (hrun : run? (n + 1) l = some tokens) :
    openFlows tokens.reverse = openFlows l.tokens := by
  rw [run?_of_passed_nil h] at hrun
  obtain ⟨m, hm, hrun⟩ := Option.bind_eq_some_iff.1 hrun
  obtain ⟨m', hm', rfl⟩ := Option.map_eq_some_iff.1 hrun
  rw [List.reverse_reverse]
  exact ((sameFlows_of_settle? hm).trans ((sameFlows_closeBlocks m 0).trans (sameFlows_of_dropKey? hm'))).1

/-- Whether tokens, if there are any, leave a flow sequence or mapping open, or close one that is not open. -/
def Unclosed (found : Option (List Token)) : Prop := ∀ tokens, found = some tokens → openFlows tokens.reverse ≠ some 0

theorem run?_unclosed (hl : l.Nested) (h : l.passed.rest = []) (houterKeys : l.outerKeys ≠ []) (n : Nat) :
    Unclosed (run? (n + 1) l) := by
  intro tokens hrun hzero
  have hlength : 0 = l.outerKeys.length := hl 0 ((sameFlows_of_run? h hrun).symm.trans hzero)
  exact houterKeys (List.eq_nil_of_length_eq_zero hlength.symm)

/-- Whether the same tokens have been found, or none that can be read. -/
def ReadAlike (found found' : Option (List Token)) : Prop := found' = found ∨ Unclosed found ∧ Unclosed found'

/-- At the end of a text only the tokens and blocks count. -/
theorem run?_of_sameBlocks (hl : l.Nested) (hblocks : SameBlocks l l') (h : l.passed.rest = [])
    (h' : l'.passed.rest = []) (n n' : Nat) : ReadAlike (run? (n + 1) l) (run? (n' + 1) l') := by
  have hl' : l'.Nested := SameFlows.nested ⟨congrArg openFlows hblocks.tokens, hblocks.outerKeys⟩ hl
  by_cases houterKeys : l.outerKeys = []
  · have houterKeys' : l'.outerKeys = [] := by
      rw [← List.length_eq_zero_iff, hblocks.outerKeys, houterKeys, List.length_nil]
    have hclosed : l'.closedTokens = l.closedTokens := by
      rw [closedTokens, closedTokens, hblocks.margin, hblocks.outerMargins, hblocks.tokens]
    left
    rw [run?_of_outerKeys_nil h houterKeys, run?_of_outerKeys_nil h' houterKeys', hblocks.key, hclosed]
  · have houterKeys' : l'.outerKeys ≠ [] := by
      rwa [← List.length_pos_iff, hblocks.outerKeys, List.length_pos_iff]
    exact .inr ⟨run?_unclosed hl h houterKeys n, run?_unclosed hl' h' houterKeys' n'⟩

end End

/-! ## All tokens -/

/-- Whether the last thing in a document is a scalar that keeps its lines or folds them by their indentation. -/
def endsInBlockScalar (tokens : List Token) : Bool :=
  (tokens.reverse.dropWhile (· == .blockEnd)).head?.any isBlockScalar

theorem dropWhile_closeBlocksFrom (target : Nat) : ∀ (margin : Nat) (outer : List Nat) (found : List Token),
    (closeBlocksFrom target margin outer found).2.2.dropWhile (· == .blockEnd) = found.dropWhile (· == .blockEnd)
  | _, [], _ => rfl
  | margin, outer :: margins, found => by
    rw [closeBlocksFrom]
    split
    · exact dropWhile_closeBlocksFrom target outer margins (.blockEnd :: found)
    · rfl

section All

variable {chars lines : Nat} {w : List Char} {l : Lexer}

/-- Blocks that end behind a block scalar do not hide it. -/
theorem endsInBlockScalar_of_run? (h : l.passed.rest = []) (houterKeys : l.outerKeys = []) (hkey : l.key = none)
    (hblock : l.tokens.head?.any isBlockScalar = true) (n : Nat) :
    ∃ tokens, run? (n + 1) l = some tokens ∧ endsInBlockScalar tokens = true := by
  refine ⟨l.closedTokens.reverse, by rw [run?_of_outerKeys_nil h houterKeys, hkey]; rfl, ?_⟩
  rw [endsInBlockScalar, List.reverse_reverse, closedTokens, dropWhile_closeBlocksFrom]
  cases htokens : l.tokens with
  | nil => rw [htokens] at hblock; cases hblock
  | cons t found =>
    rw [htokens] at hblock
    have hend : (t == .blockEnd) = false := by
      cases t <;> first | rfl | cases hblock
    rw [List.dropWhile_cons_of_neg (by rw [hend]; exact Bool.false_ne_true)]
    exact hblock

theorem passed_of_trails (h : Trails l.rest) : l.passed.rest = [] := skipBlanks_trails h _ _ _ _

/-- **A longer text holds the same tokens**, unless the text ends in a block scalar or leaves a flow sequence or mapping
open. -/
theorem run?_carry (hw : Trails w) : ∀ (n n' : Nat) (l : Lexer), l.rest.length < n → (l.rest ++ w).length < n' →
    l.Nested → (∀ tokens, run? n l = some tokens → endsInBlockScalar tokens = false) →
      ReadAlike (run? n l) (run? n' (l.carry chars lines w))
  | n + 1, n' + 1, l, hn, hn', hl, hends => by
    -- by induction on the steps that are left; that the count of open sequences is right is kept by every token
    cases hrest : l.passed.rest with
    | nil =>
      have hrest' : (l.carry chars lines w).passed.rest = [] := by
        simp only [passed, inFlow_carry, rest_carry, place_carry, keyAllowed_carry]
        exact (skipBlanks_passesAlike hw l.inFlow l.rest l.place l.keyAllowed false).2 hrest
      exact run?_of_sameBlocks hl (sameBlocks_carry l) hrest hrest' n n'
    | cons c next =>
      have hsettle : (l.carry chars lines w).settle? = l.settle?.map (carry chars lines w) :=
        settle?_carry hw (by rw [hrest]; exact List.cons_ne_nil c next)
      cases hm : l.settle? with
      | none =>
        left
        rw [run?, run?, hsettle, hm]
        rfl
      | some m =>
        have hmrest : m.rest = c :: next := (rest_of_settle? hm).trans hrest
        have hrun : run? (n + 1) l = (m.token? c next).bind (run? n) := by
          rw [run?, hm]
          simp only [Option.bind_eq_bind, Option.bind_some, hmrest]
        have hrun' : run? (n' + 1) (l.carry chars lines w) =
            ((m.carry chars lines w).token? c (next ++ w)).bind (run? n') := by
          rw [run?, hsettle, hm]
          simp only [Option.map_some, Option.bind_eq_bind, Option.bind_some, rest_carry, hmrest, List.cons_append]
        have hnext : next.length + 1 ≤ l.rest.length := by
          have hsuffix : l.passed.rest <:+ l.rest := skipBlanks_suffix l.inFlow l.rest l.place l.keyAllowed false
          simpa [hrest] using hsuffix.length_le
        obtain ⟨n, rfl⟩ : ∃ k, n = k + 1 := Nat.exists_eq_succ_of_ne_zero (by omega)
        rw [List.length_append] at hn'
        obtain ⟨n', rfl⟩ : ∃ k, n' = k + 1 := Nat.exists_eq_succ_of_ne_zero (by omega)
        have hnested : NestedStep (m.token? c next) := token?_nested ((sameFlows_of_settle? hm).nested hl) c next
        have hleaves : Leaves Lexer.rest next (m.token? c next) := token?_leaves hmrest
        have hfollows : Follows (carry chars lines w) Ended (m.token? c next)
            ((m.carry chars lines w).token? c (next ++ w)) := by
          refine token?_follows hw hmrest fun a ha hnil hkey houterKeys => ?_
          -- a block scalar that takes the rest of the text would be the last thing in it
          rw [← Bool.not_eq_true]
          intro hblock
          obtain ⟨tokens, htokens, hlast⟩ :=
            endsInBlockScalar_of_run? (passed_of_trails (hnil ▸ nofun)) houterKeys hkey hblock n
          rw [hends tokens (by rw [hrun, ha]; exact htokens)] at hlast
          cases hlast
        rw [hrun] at hends ⊢
        rw [hrun']
        generalize m.token? c next = x at *
        generalize (m.carry chars lines w).token? c (next ++ w) = y at *
        cases hfollows with
        | refused => exact .inl rfl
        | carried a =>
          have hle := (hleaves a rfl).length_le
          exact run?_carry hw (n + 1) (n' + 1) a (by omega) (by rw [List.length_append]; omega) (hnested a rfl) hends
        | ended h =>
          exact run?_of_sameBlocks (hnested _ rfl) h.blocks (passed_of_trails (h.rest ▸ nofun))
            (passed_of_trails h.trails) n n'

end All
end Lexer
end ObjectRelay.Yaml
