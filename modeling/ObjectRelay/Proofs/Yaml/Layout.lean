import ObjectRelay.Proofs.Text.Blank
import ObjectRelay.Proofs.Yaml.Node
import ObjectRelay.Proofs.Yaml.Tokens
/-!
# White space around a document

Lines of spaces in front of a document say nothing, and neither do spaces and line ends behind it, unless it ends in a
scalar that keeps its lines.
-/
namespace ObjectRelay.Yaml

/-! ## Line ends of all systems -/

/-- A space, or what ends a line in one of the systems. -/
def isSpacing (c : Char) : Bool := isLayout c || c == '\r' || c == '\u0085'

/-- The line feed for a line end of another system. -/
def unified (c : Char) : Char := if c == '\r' || c == '\u0085' then '\n' else c

theorem unifyBreaks_cons {c : Char} {s : List Char} (h : ¬(c = '\r' ∧ s.head? = some '\n')) :
    unifyBreaks (c :: s) = unified c :: unifyBreaks s := by
  rw [unifyBreaks.eq_def]
  split
  · contradiction
  · rename_i s' heq
    cases heq
    exact absurd ⟨rfl, rfl⟩ h
  · rename_i heq
    cases heq
    rfl

theorem unifyBreaks_append {s t : List Char} (h : ¬(s.getLast? = some '\r' ∧ t.head? = some '\n')) :
    unifyBreaks (s ++ t) = unifyBreaks s ++ unifyBreaks t := by
  fun_induction unifyBreaks s with
  | case1 => rfl
  | case2 s ih =>
    have hrest : ¬(s.getLast? = some '\r' ∧ t.head? = some '\n') := fun hs =>
      h ⟨by simp [List.getLast?_cons, hs.1], hs.2⟩
    exact congrArg ('\n' :: ·) (ih hrest)
  | case3 c s hpair ih =>
    have hrest : ¬(s.getLast? = some '\r' ∧ t.head? = some '\n') := fun hs =>
      h ⟨by simp [List.getLast?_cons, hs.1], hs.2⟩
    have hcons : ¬(c = '\r' ∧ (s ++ t).head? = some '\n') := by
      rintro ⟨rfl, hhead⟩
      cases s with
      | nil => exact h ⟨rfl, hhead⟩
      | cons d s =>
        cases hhead
        exact hpair s rfl rfl
    rw [List.cons_append, unifyBreaks_cons hcons, ih hrest]
    rfl

theorem isLayout_unified {c : Char} (h : isSpacing c = true) : isLayout (unified c) = true := by
  rw [unified]
  split
  · rfl
  · simp_all [isSpacing]

theorem trails_unifyBreaks {s : List Char} (h : ∀ c ∈ s, isSpacing c = true) : Trails (unifyBreaks s) := by
  fun_induction unifyBreaks s with
  | case1 => nofun
  | case2 s ih =>
    rw [List.forall_mem_cons, List.forall_mem_cons] at h
    exact List.forall_mem_cons.2 ⟨rfl, ih h.2.2⟩
  | case3 c s hpair ih =>
    rw [List.forall_mem_cons] at h
    exact List.forall_mem_cons.2 ⟨isLayout_unified h.1, ih h.2⟩

theorem getLast?_unifyBreaks (s : List Char) : (unifyBreaks s).getLast? = s.getLast?.map unified := by
  fun_induction unifyBreaks s with
  | case1 => rfl
  | case2 s ih =>
    rw [List.getLast?_cons, List.getLast?_cons, List.getLast?_cons, ih]
    cases s.getLast? <;> rfl
  | case3 c s hpair ih =>
    rw [List.getLast?_cons, List.getLast?_cons, ih]
    cases s.getLast? <;> rfl

/-- Spacing that does not end in a space ends a line. -/
theorem isBreak_of_getLast? {s : List Char} (h : ∀ c ∈ s, isSpacing c = true) (hlast : s.getLast? ≠ some ' ') :
    (unifyBreaks s).getLast?.all isBreak = true := by
  rw [getLast?_unifyBreaks]
  cases hc : s.getLast? with
  | none => rfl
  | some c =>
    have hspace : c ≠ ' ' := fun heq => hlast (heq ▸ hc)
    have hspacing : isSpacing c = true := h c (List.mem_of_getLast? hc)
    change isBreak (unified c) = true
    rw [unified]
    split
    · rfl
    · simp_all [isSpacing, isLayout]

/-! ## In front of a document -/

theorem exists_later_of_getLast? {s : List Char} (h : s.getLast?.all isBreak = true) :
    ∃ chars lines, ({} : Place).behind s = ({} : Place).later chars lines := by
  rcases s.eq_nil_or_concat with rfl | ⟨s, c, rfl⟩
  · exact ⟨0, 0, rfl⟩
  · have hc : isBreak c = true := by simpa using h
    refine ⟨(({} : Place).behind s).index + 1, (({} : Place).behind s).line + 1, ?_⟩
    simp [Place.behind, Place.next, hc, Place.later]

namespace Lexer

theorem skipBlanks_append_of_trails {s : List Char} (hs : Trails s) (t : List Char) (p : Place) :
    skipBlanks false (s ++ t) p true false = skipBlanks false t (p.behind s) true false := by
  induction s generalizing p with
  | nil => rfl
  | cons c s ih =>
    have hnext : skipBlanks false (s ++ t) (p.next c) true false = _ := ih hs.tail (p.next c)
    rw [List.cons_append, skipBlanks, Bool.true_or, Bool.false_or, hnext]
    rcases hs.head with rfl | hc
    · rfl
    · rw [if_pos hc]
      rfl

/-- What stands in front of a document only moves it. -/
theorem exists_run?_append {lead : List Char} (hlead : Trails lead) (hlast : lead.getLast?.all isBreak = true)
    (text w : List Char) (n : Nat) : ∃ chars lines,
      run? (n + 1) { rest := lead ++ (text ++ w) } = run? (n + 1) (({ rest := text } : Lexer).carry chars lines w) := by
  obtain ⟨chars, lines, hplace⟩ := exists_later_of_getLast? hlast
  refine ⟨chars, lines, ?_⟩
  -- a lexer that has passed the white space no longer knows where it began
  have hpassed : ({ rest := lead ++ (text ++ w) } : Lexer).passed = (({ rest := text } : Lexer).carry chars lines w).passed := by
    have hskip := skipBlanks_append_of_trails hlead (text ++ w) {}
    rw [hplace] at hskip
    have hflow : ∀ s : List Char, ({ rest := s } : Lexer).inFlow = false := fun _ => rfl
    simp only [passed, inFlow_carry, hflow, hskip, rest_carry, place_carry, keyAllowed_carry]
    rfl
  rw [run?, run?, settle?_eq, settle?_eq, hpassed]

end Lexer

/-! ## Documents -/

section Documents

variable {lead text trail : List Char}

theorem isAllowed_of_isSpacing {c : Char} (h : isSpacing c = true) : isAllowed c = true := by
  have hc : c = ' ' ∨ c = '\n' ∨ c = '\u2028' ∨ c = '\u2029' ∨ c = '\r' ∨ c = '\u0085' := by
    simpa [isSpacing, isLayout_iff, or_assoc] using h
  rcases hc with rfl | rfl | rfl | rfl | rfl | rfl <;> decide

theorem all_isAllowed_append (hlead : ∀ c ∈ lead, isSpacing c = true) (htrail : ∀ c ∈ trail, isSpacing c = true) :
    (lead ++ (text ++ trail)).all isAllowed = text.all isAllowed := by
  have hall {s : List Char} (hs : ∀ c ∈ s, isSpacing c = true) : s.all isAllowed = true :=
    List.all_eq_true.2 fun c hc => isAllowed_of_isSpacing (hs c hc)
  rw [List.all_append, List.all_append, hall hlead, hall htrail, Bool.true_and, Bool.and_true]

/-- **The tokens of a document** between lines of spaces and spaces and line ends are its tokens, unless it ends in a
scalar that keeps its lines or leaves a flow sequence or mapping open. -/
theorem tokens?_append (htext : text ≠ []) (hlead : ∀ c ∈ lead, isSpacing c = true) (hlast : lead.getLast? ≠ some ' ')
    (htrail : ∀ c ∈ trail, isSpacing c = true) (hfirst : text.head? ≠ some '\n') (hreturn : text.getLast? ≠ some '\r')
    (hends : (tokens? text).any Lexer.endsInBlockScalar = false) :
    Lexer.ReadAlike (tokens? text) (tokens? (lead ++ (text ++ trail))) := by
  have hunified : unifyBreaks (lead ++ (text ++ trail)) = unifyBreaks lead ++ (unifyBreaks text ++ unifyBreaks trail) := by
    have hhead : (text ++ trail).head? = text.head? := by
      cases text with
      | nil => contradiction
      | cons c text => rfl
    rw [unifyBreaks_append fun h => hfirst (hhead ▸ h.2), unifyBreaks_append fun h => hreturn h.1]
  rw [tokens?] at hends
  rw [tokens?, tokens?, all_isAllowed_append hlead htrail, hunified]
  split
  · rename_i hallowed
    rw [if_pos hallowed] at hends
    obtain ⟨chars, lines, hrun⟩ := Lexer.exists_run?_append (trails_unifyBreaks hlead) (isBreak_of_getLast? hlead hlast)
      (unifyBreaks text) (unifyBreaks trail) (unifyBreaks lead ++ (unifyBreaks text ++ unifyBreaks trail)).length
    simp only [hrun]
    refine Lexer.run?_carry (trails_unifyBreaks htrail) _ _ { rest := unifyBreaks text } (Nat.lt_succ_self _) ?_ ?_ ?_
    · simp only [List.length_append]
      omega
    · rintro _ ⟨⟩
      rfl
    · intro tokens htokens
      rw [htokens] at hends
      exact hends
  · exact .inl rfl

theorem depthAfter_eq (tokens : List Token) : depthAfter 0 tokens = openFlows tokens.reverse :=
  List.foldr_reverse.symm

theorem read?_of_unclosed (h : Lexer.Unclosed (tokens? text)) : read? text = none := by
  rw [read?]
  cases htokens : tokens? text with
  | none => rfl
  | some tokens =>
    have hnone : (Read.document (4 * tokens.length + 4)).run { tokens } = none := by
      rw [Option.eq_none_iff_forall_ne_some]
      rintro ⟨node, r'⟩ hread
      refine h tokens htokens ?_
      rw [← depthAfter_eq]
      exact Read.finishing_document _ _ _ _ hread 0
    simp only [Option.bind_eq_bind, Option.bind_some, hnone, Option.bind_none]

theorem read?_of_readAlike {text' : List Char} (h : Lexer.ReadAlike (tokens? text) (tokens? text')) :
    read? text' = read? text := by
  rcases h with h | h
  · rw [read?, read?, h]
  · rw [read?_of_unclosed h.1, read?_of_unclosed h.2]

/-- Whether the white space around a document says nothing: lines of spaces in front of it, spaces and line ends behind
it, and no scalar at its end that could keep these. -/
def isTidy (document : List Char) : Bool :=
  (document.takeWhile isBlank).all isSpacing && (document.takeWhile isBlank).getLast? != some ' ' &&
    (behindBy isBlank document).all isSpacing &&
    !(tokens? (trimBy isBlank document)).any Lexer.endsInBlockScalar

/-- **A tidy document** holds the same without the white space around it. -/
theorem read?_trimBy {document : List Char} (htidy : isTidy document = true) (hne : trimBy isBlank document ≠ []) :
    read? (trimBy isBlank document) = read? document := by
  simp only [isTidy, Bool.and_eq_true, bne_iff_ne, List.all_eq_true, Bool.not_eq_true'] at htidy
  obtain ⟨⟨⟨hlead, hlast⟩, htrail⟩, hends⟩ := htidy
  have hfirst : (trimBy isBlank document).head? ≠ some '\n' := fun h => absurd (of_head?_trimBy h) (by decide)
  have hreturn : (trimBy isBlank document).getLast? ≠ some '\r' := fun h => absurd (of_getLast?_trimBy h) (by decide)
  have halike := tokens?_append hne hlead hlast htrail hfirst hreturn hends
  rw [takeWhile_append_trimBy_append] at halike
  exact (read?_of_readAlike halike).symm

example : isTidy "\n  \n# first\n- a\n- b\n\n".toList = true ∧ isTidy "  - a\n  - b\n".toList = false ∧
    isTidy "- |\n  a\n\n".toList = false := by decide

end Documents
end ObjectRelay.Yaml
