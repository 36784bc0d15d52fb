import ObjectRelay.Proofs.Yaml.Flow
/-!
# What is read from tokens
-/
namespace ObjectRelay.Yaml

/-- How many flow sequences and mappings are open behind tokens, if `depth` are open in front of them. -/
def depthAfter (depth : Nat) (tokens : List Token) : Option Nat := tokens.foldl (fun depth? t => t.nest depth?) (some depth)

/-- Whether the tokens that have been read close `k` flow sequences and mappings more than they open. -/
def Closes (k : Nat) (before after : List Token) : Prop := ∀ depth, depthAfter (depth + k) before = depthAfter depth after

section Closes

variable {j k : Nat} {t : Token} {ts us vs : List Token}

theorem closes_refl (ts : List Token) : Closes 0 ts ts := fun _ => rfl

theorem Closes.trans (h : Closes j ts us) (h' : Closes k us vs) : Closes (j + k) ts vs := by
  intro depth
  rw [Nat.add_comm j k, ← Nat.add_assoc, h, h']

theorem closes_of_not_isFlow (ht : t.isFlow = false) (ts : List Token) : Closes 0 (t :: ts) ts := by
  intro depth
  rw [depthAfter, List.foldl_cons, Token.nest_of_not_isFlow ht]
  rfl

theorem closes_end (ht : t = .flowSequenceEnd ∨ t = .flowMappingEnd) (ts : List Token) : Closes 1 (t :: ts) ts := by
  intro depth
  rcases ht with rfl | rfl <;> rfl

theorem Closes.start (h : Closes (k + 1) ts us) (ht : t = .flowSequence ∨ t = .flowMapping) : Closes k (t :: ts) us := by
  intro depth
  have hdepth := h depth
  rw [← Nat.add_assoc] at hdepth
  rcases ht with rfl | rfl <;> exact hdepth

end Closes

namespace Read

/-- Whether whatever a reader reads closes `k` flow sequences and mappings more than it opens. -/
def Closing {α : Type} (k : Nat) (x : Read α) : Prop :=
  ∀ r a r', x.run r = some (a, r') → Closes k r.tokens r'.tokens

section Closing

variable {α β : Type} {j k : Nat} {x : Read α} {f : α → Read β}

theorem Closing.bind (hx : Closing j x) (hf : ∀ a, Closing k (f a)) : Closing (j + k) (x >>= f) := by
  intro r b r'' h
  rw [StateT.run_bind] at h
  obtain ⟨⟨a, r'⟩, hr', h⟩ := Option.bind_eq_some_iff.1 h
  exact (hx r a r' hr').trans (hf a r' b r'' h)

theorem closing_pure (a : α) : Closing 0 (pure a : Read α) := by
  rintro r _ _ ⟨⟩
  exact closes_refl _

theorem closing_failure : Closing k (failure : Read α) := nofun

theorem Closing.ite {a : Prop} [Decidable a] {y : Read α} (hx : Closing k x) (hy : Closing k y) :
    Closing k (if a then x else y) := by
  split <;> assumption

/-- First something that closes what it opens. -/
theorem Closing.andThen (hx : Closing 0 x) (hf : ∀ a, Closing k (f a)) : Closing k (x >>= f) := by
  rw [← Nat.zero_add k]
  exact hx.bind hf

/-- At last something that closes what it opens. -/
theorem Closing.map (hx : Closing k x) (hf : ∀ a, Closing 0 (f a)) : Closing k (x >>= f) := hx.bind hf

theorem closing_get : Closing 0 (get : Read Reading) := by
  rintro r _ _ ⟨⟩
  exact closes_refl _

theorem closing_modify {g : Reading → Reading} (hg : ∀ r, (g r).tokens = r.tokens) : Closing 0 (modify g : Read Unit) := by
  rintro r _ _ ⟨⟩
  rw [hg]
  exact closes_refl _

/-! ## The next token -/

/-- The same, when it is known which token comes next. -/
def ClosingFrom (t? : Option Token) (k : Nat) (x : Read α) : Prop :=
  ∀ r a r', r.tokens.head? = t? → x.run r = some (a, r') → Closes k r.tokens r'.tokens

theorem Closing.closingFrom (hx : Closing k x) (t? : Option Token) : ClosingFrom t? k x := fun r a r' _ => hx r a r'

theorem closing_peek {f : Option Token → Read β} (hf : ∀ t?, ClosingFrom t? k (f t?)) : Closing k (peek >>= f) :=
  fun r b r' h => hf r.tokens.head? r b r' rfl h

theorem closingFrom_failure {f : α → Read β} {t? : Option Token} : ClosingFrom t? k (failure >>= f) := by
  rintro r b r' - ⟨⟩

theorem closingFrom_get {f : Reading → Read β} {t? : Option Token} (hf : ∀ r, ClosingFrom t? k (f r)) :
    ClosingFrom t? k (get >>= f) := fun r b r' hhead h => hf r r b r' hhead h

variable {g : Unit → Read β} {t : Token}

theorem closingFrom_skip (ht : t.isFlow = false) (hg : Closing k (g ())) : ClosingFrom (some t) k (skip >>= g) := by
  intro r b r' hhead h
  obtain ⟨ts, hts⟩ := List.head?_eq_some_iff.1 hhead
  have hrest := hg { r with tokens := r.tokens.drop 1 } b r' h
  rw [hts] at hrest ⊢
  rw [← Nat.zero_add k]
  exact (closes_of_not_isFlow ht ts).trans hrest

theorem closingFrom_start (ht : t = .flowSequence ∨ t = .flowMapping) (hg : Closing (k + 1) (g ())) :
    ClosingFrom (some t) k (skip >>= g) := by
  intro r b r' hhead h
  obtain ⟨ts, hts⟩ := List.head?_eq_some_iff.1 hhead
  have hrest := hg { r with tokens := r.tokens.drop 1 } b r' h
  rw [hts] at hrest ⊢
  exact hrest.start ht

theorem run_takes (t : Token) (r : Reading) : (takes t).run r =
    if r.tokens.head? = some t then some (true, { r with tokens := r.tokens.drop 1 }) else some (false, r) := by
  have hsees : (r.tokens.head?.any [t].contains) = decide (r.tokens.head? = some t) := by
    cases r.tokens.head? <;> simp
  change (if (r.tokens.head?.any [t].contains) = true then skip >>= fun _ => pure true else pure false : Read Bool).run r = _
  rw [hsees]
  by_cases h : r.tokens.head? = some t <;> simp only [h, decide_true, decide_false, if_true, if_false] <;> rfl

theorem closing_takes {f : Bool → Read β} (ht : t.isFlow = false) (hyes : Closing k (f true)) (hno : Closing k (f false)) :
    Closing k (takes t >>= f) := by
  intro r b r' h
  rw [StateT.run_bind, run_takes] at h
  split at h
  · rename_i hhead
    exact closingFrom_skip ht (g := fun _ => f true) hyes r b r' hhead h
  · exact hno r b r' h

theorem closing_takes_end {f : Bool → Read β} (ht : t = .flowSequenceEnd ∨ t = .flowMappingEnd)
    (hyes : Closing k (f true)) (hno : Closing (k + 1) (f false)) : Closing (k + 1) (takes t >>= f) := by
  intro r b r' h
  rw [StateT.run_bind, run_takes] at h
  split at h
  · rename_i hhead
    obtain ⟨ts, hts⟩ := List.head?_eq_some_iff.1 hhead
    have hrest := hyes { r with tokens := r.tokens.drop 1 } b r' h
    rw [hts] at hrest ⊢
    rw [Nat.add_comm]
    exact (closes_end ht ts).trans hrest
  · exact hno r b r' h

theorem closing_expects (ht : t.isFlow = false) : Closing 0 (expects t) :=
  closing_takes ht (closing_pure ()) closing_failure

end Closing

/-! ## Anchors and tags -/

theorem closing_anchor : Closing 0 anchor := by
  refine closing_peek fun t? => ?_
  split
  · exact closingFrom_skip rfl (closing_pure _)
  · exact (closing_pure _).closingFrom _

theorem closing_resolveTag (handle rest : List Char) : Closing 0 (resolveTag handle rest) := by
  refine .ite (closing_pure _) (closing_get.andThen fun r => ?_)
  simp only
  split
  · exact closing_pure _
  · exact closing_failure

theorem closing_tag : Closing 0 tag := by
  refine closing_peek fun t? => ?_
  split
  · exact closingFrom_skip rfl ((closing_resolveTag _ _).andThen fun _ => closing_pure _)
  · exact (closing_pure _).closingFrom _

theorem closing_sees {tokens : List Token} : Closing 0 (sees tokens) := by
  rintro r _ _ ⟨⟩
  exact closes_refl _

theorem closing_bind (name : Option (List Char)) (node : Option Node) : Closing 0 (bind name node) := by
  cases name with
  | none => exact closing_pure ()
  | some name => exact closing_modify fun _ => rfl

/-! ## Nodes -/

/-- Whether with `n` steps a node closes what it opens, and the items of a flow sequence or mapping close one more. -/
structure ClosingWithin (n : Nat) : Prop where
  node : ∀ inBlock isMember, Closing 0 (node n inBlock isMember)
  content : ∀ inBlock isMember tag mayBeEmpty, Closing 0 (content n inBlock isMember tag mayBeEmpty)
  nodeUnless : ∀ ends inBlock isMember, Closing 0 (nodeUnless n ends inBlock isMember)
  blockEntries : Closing 0 (blockEntries n)
  memberEntries : Closing 0 (memberEntries n)
  blockMembers : Closing 0 (blockMembers n)
  flowEntries : ∀ isFirst, Closing 1 (flowEntries n isFirst)
  flowMembers : ∀ isFirst, Closing 1 (flowMembers n isFirst)

section Step

variable {n : Nat} (h : ClosingWithin n)

include h

theorem closing_node (inBlock isMember : Bool) : Closing 0 (node (n + 1) inBlock isMember) := by
  rw [node]
  refine closing_peek fun t? => ?_
  split
  · refine closingFrom_skip rfl (closing_get.andThen fun r => ?_)
    split
    · exact closing_pure _
    · exact closing_failure
  · refine Closing.closingFrom ?_ _
    refine closing_anchor.andThen fun first => closing_tag.andThen fun tag => ?_
    have hrest (name : Option (List Char)) : Closing 0 (do
        bind name none
        let node ← content n inBlock isMember tag (name.isSome || tag.isSome)
        bind name (some node)
        return node) :=
      (closing_bind _ _).andThen fun _ => (h.content _ _ _ _).andThen fun _ => (closing_bind _ _).andThen fun _ =>
        closing_pure _
    exact .ite ((closing_pure _).andThen hrest) (closing_anchor.andThen hrest)

theorem closing_content (inBlock isMember : Bool) (tag : Option (List Char)) (mayBeEmpty : Bool) :
    Closing 0 (content (n + 1) inBlock isMember tag mayBeEmpty) := by
  have hempty : Closing 0 (if mayBeEmpty then pure (.scalar .plain tag []) else failure : Read Node) :=
    .ite (closing_pure _) closing_failure
  rw [content]
  refine closing_peek fun t? => ?_
  split
  · exact (Closing.ite (h.memberEntries.map fun _ => closing_pure _) hempty).closingFrom _
  · exact closingFrom_skip rfl (closing_pure _)
  · exact closingFrom_start (.inl rfl) ((h.flowEntries _).map fun _ => closing_pure _)
  · exact closingFrom_start (.inr rfl) ((h.flowMembers _).map fun _ => closing_pure _)
  · split
    · exact closingFrom_skip rfl (h.blockEntries.map fun _ => closing_pure _)
    · exact hempty.closingFrom _
  · split
    · exact closingFrom_skip rfl (h.blockMembers.map fun _ => closing_pure _)
    · exact hempty.closingFrom _
  · exact hempty.closingFrom _

theorem closing_nodeUnless (ends : List Token) (inBlock isMember : Bool) :
    Closing 0 (nodeUnless (n + 1) ends inBlock isMember) := by
  rw [nodeUnless]
  exact closing_sees.andThen fun _ => .ite (closing_pure _) (h.node _ _)

theorem closing_blockEntries : Closing 0 (blockEntries (n + 1)) := by
  rw [blockEntries]
  exact closing_takes rfl ((h.nodeUnless _ _ _).andThen fun _ => h.blockEntries.map fun _ => closing_pure _)
    ((closing_expects rfl).andThen fun _ => closing_pure _)

theorem closing_memberEntries : Closing 0 (memberEntries (n + 1)) := by
  rw [memberEntries]
  exact closing_takes rfl ((h.nodeUnless _ _ _).andThen fun _ => h.memberEntries.map fun _ => closing_pure _)
    (closing_pure _)

theorem closing_blockMembers : Closing 0 (blockMembers (n + 1)) := by
  rw [blockMembers]
  have hrest (key value : Node) : Closing 0 (do return (key, value) :: (← blockMembers n)) :=
    h.blockMembers.map fun _ => closing_pure _
  exact closing_takes rfl
    ((h.nodeUnless _ _ _).andThen fun key => closing_takes rfl ((h.nodeUnless _ _ _).andThen (hrest key))
      ((closing_pure _).andThen (hrest key)))
    ((closing_expects rfl).andThen fun _ => closing_pure _)

theorem closing_flowEntries (isFirst : Bool) : Closing 1 (flowEntries (n + 1) isFirst) := by
  rw [flowEntries]
  have hrest (key value : Node) : Closing 1 (do return Node.mapping [(key, value)] :: (← flowEntries n false)) :=
    (h.flowEntries _).map fun _ => closing_pure _
  have hmember : Closing 1 (do
      let key ← nodeUnless n [.value, .comma, .flowSequenceEnd] false false
      let value ←
        if ← takes .value then nodeUnless n [.comma, .flowSequenceEnd] false false
        else pure .nothing
      return .mapping [(key, value)] :: (← flowEntries n false)) :=
    (h.nodeUnless _ _ _).andThen fun key => closing_takes rfl ((h.nodeUnless _ _ _).andThen (hrest key))
      ((closing_pure _).andThen (hrest key))
  have hitem : Closing 1 (do
      let item ← node n false false
      return item :: (← flowEntries n false)) :=
    (h.node _ _).andThen fun _ => (h.flowEntries _).map fun _ => closing_pure _
  refine closing_takes_end (.inl rfl) (closing_pure _) ?_
  rw [if_neg Bool.false_ne_true]
  -- the same entry may come with a comma in front of it or without
  refine .ite ((closing_expects rfl).andThen fun _ => ?_) ?_
  all_goals exact closing_takes rfl hmember (closing_takes_end (.inl rfl) (closing_pure _) hitem)

theorem closing_flowMembers (isFirst : Bool) : Closing 1 (flowMembers (n + 1) isFirst) := by
  rw [flowMembers]
  have hrest (key value : Node) : Closing 1 (do return (key, value) :: (← flowMembers n false)) :=
    (h.flowMembers _).map fun _ => closing_pure _
  have hmember : Closing 1 (do
      let key ← nodeUnless n [.value, .comma, .flowMappingEnd] false false
      let value ←
        if ← takes .value then nodeUnless n [.comma, .flowMappingEnd] false false
        else pure .nothing
      return (key, value) :: (← flowMembers n false)) :=
    (h.nodeUnless _ _ _).andThen fun key => closing_takes rfl ((h.nodeUnless _ _ _).andThen (hrest key))
      ((closing_pure _).andThen (hrest key))
  have hkey : Closing 1 (do
      let key ← node n false false
      return (key, .nothing) :: (← flowMembers n false)) :=
    (h.node _ _).andThen fun _ => (h.flowMembers _).map fun _ => closing_pure _
  refine closing_takes_end (.inr rfl) (closing_pure _) ?_
  rw [if_neg Bool.false_ne_true]
  refine .ite ((closing_expects rfl).andThen fun _ => ?_) ?_
  all_goals exact closing_takes rfl hmember (closing_takes_end (.inr rfl) (closing_pure _) hkey)

end Step

/-- **Whatever is read closes what it opens.** -/
theorem closingWithin : ∀ n, ClosingWithin n
  | 0 =>
    { node := fun _ _ => closing_failure, content := fun _ _ _ _ => closing_failure
      nodeUnless := fun _ _ _ => closing_failure, blockEntries := closing_failure, memberEntries := closing_failure
      blockMembers := closing_failure, flowEntries := fun _ => closing_failure, flowMembers := fun _ => closing_failure }
  | n + 1 =>
    have h := closingWithin n
    { node := closing_node h, content := closing_content h, nodeUnless := closing_nodeUnless h
      blockEntries := closing_blockEntries h, memberEntries := closing_memberEntries h
      blockMembers := closing_blockMembers h, flowEntries := closing_flowEntries h, flowMembers := closing_flowMembers h }

/-! ## Documents -/

theorem closing_directives : ∀ (n : Nat) (hasVersion : Bool), Closing 0 (directives n hasVersion)
  | 0, _ => closing_failure
  | n + 1, hasVersion => by
    rw [directives]
    refine closing_peek fun t? => ?_
    split
    · split
      · exact closingFrom_failure
      · exact closingFrom_skip rfl (closing_directives n _)
    · rename_i name start
      have hmodify : Closing 0 (modify fun r : Reading => { r with handles := (name, start) :: r.handles }) :=
        closing_modify fun _ => rfl
      refine closingFrom_get fun r => ?_
      split
      · exact closingFrom_failure
      · exact closingFrom_skip rfl (hmodify.andThen fun _ => closing_directives n _)
    · exact (closing_pure _).closingFrom _

theorem closing_documentEnds : ∀ n : Nat, Closing 0 (documentEnds n)
  | 0 => closing_failure
  | n + 1 => by
    rw [documentEnds]
    exact closing_takes rfl (closing_documentEnds n) (closing_pure _)

section Finishing

variable {α β : Type}

/-- Whether whatever a reader reads is the rest of the tokens, and closes what it opens. -/
def Finishing (x : Read α) : Prop := ∀ r a r', x.run r = some (a, r') → Closes 0 r.tokens []

/-- The same, when it is known which token comes next. -/
def FinishingFrom (t? : Option Token) (x : Read α) : Prop :=
  ∀ r a r', r.tokens.head? = t? → x.run r = some (a, r') → Closes 0 r.tokens []

theorem Finishing.finishingFrom {x : Read α} (hx : Finishing x) (t? : Option Token) : FinishingFrom t? x :=
  fun r a r' _ => hx r a r'

theorem finishingFrom_none (x : Read α) : FinishingFrom none x := by
  intro r a r' hhead h
  rw [List.head?_eq_none_iff.1 hhead]
  exact closes_refl []

theorem finishing_peek {f : Option Token → Read β} (hf : ∀ t?, FinishingFrom t? (f t?)) : Finishing (peek >>= f) :=
  fun r b r' h => hf r.tokens.head? r b r' rfl h

theorem Closing.finishing {x : Read α} {f : α → Read β} (hx : Closing 0 x) (hf : ∀ a, Finishing (f a)) :
    Finishing (x >>= f) := by
  intro r b r'' h
  rw [StateT.run_bind] at h
  obtain ⟨⟨a, r'⟩, hr', h⟩ := Option.bind_eq_some_iff.1 h
  exact (hx r a r' hr').trans (hf a r' b r'' h)

end Finishing

/-- Behind a document stand marks of its end, and nothing else. -/
theorem finishing_documentEnds (n : Nat) (node : Node) : Finishing (do
    documentEnds n
    if (← peek).isSome then failure
    return some node) := by
  refine (closing_documentEnds n).finishing fun _ => finishing_peek fun t? => ?_
  cases t? with
  | none => exact finishingFrom_none _
  | some t => rintro r found r' - ⟨⟩

/-- **A document that can be read** has closed all flow sequences and mappings. -/
theorem finishing_document (n : Nat) : Finishing (document n) := by
  have hnode {x : Read Node} (hx : Closing 0 x) : Finishing (do
      let node ← x
      documentEnds n
      if (← peek).isSome then failure
      return some node) := hx.finishing (finishing_documentEnds n)
  rw [document]
  refine finishing_peek fun t? => ?_
  split
  case h_1 => exact finishingFrom_none _
  case h_5 => exact (hnode ((closingWithin n).node _ _)).finishingFrom _
  all_goals
    refine Finishing.finishingFrom ((closing_directives n false).finishing fun _ => (closing_expects rfl).finishing
      fun _ => finishing_peek fun t? => Finishing.finishingFrom ?_ _) _
    split
    · exact hnode (closing_pure _)
    · exact hnode (closing_pure _)
    · exact hnode (closing_pure _)
    · exact hnode ((closingWithin n).nodeUnless _ _ _)

end Read
end ObjectRelay.Yaml
