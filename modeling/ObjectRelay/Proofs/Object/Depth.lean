import ObjectRelay.Proofs.Object.Envelope
import Mathlib.Tactic.Ring
/-!
# Bodies inside of bodies

What a body names is found out in finitely many steps (`Names`), because the body in an envelope is smaller than the
envelope.  It takes few of them: the subject and the body in an envelope stand between four quotes, and every quote and
backslash of the body is written there as an escape.  So with each envelope a body gains four such marks, and as many
bytes as there were marks before (`Opens.grows`), and the square of the number of envelopes is bounded by the size of the
outermost one (`copyRecords_terminates`).
-/
namespace ObjectRelay.Notification

open Json (Scale)
open Json.Scale (markCount)

/-- Whether what `body` names depends on what `inner` names, which is the body in it. -/
def Opens (body inner : String) : Prop := ∃ v, Json.parse body = .ok v ∧ enveloped? v = some inner

/-- **What a body names, found out step by step**, `depth` bodies inside of each other being opened. -/
inductive Names : Nat → String → List CopyRecord → Prop
  /-- It cannot be read. -/
  | unread {body e} (hbody : Json.parse body = .error e) : Names 0 body []
  /-- It is no envelope. -/
  | bare {body v} (hbody : Json.parse body = .ok v) (hv : enveloped? v = none) : Names 0 body (ownRecords v)
  /-- The body in it names something. -/
  | opened {depth body v inner found} (hbody : Json.parse body = .ok v) (hv : enveloped? v = some inner)
      (hinner : Names depth inner found) (hfound : found ≠ []) : Names (depth + 1) body found
  /-- The body in it names nothing. -/
  | fallback {depth body v inner} (hbody : Json.parse body = .ok v) (hv : enveloped? v = some inner)
      (hinner : Names depth inner []) : Names (depth + 1) body (ownRecords v)

/-! ## How bodies grow -/

namespace Opens

variable {body inner : String} (h : Opens body inner)
include h

theorem ne_empty : body ≠ "" := by
  rintro rfl
  obtain ⟨v, hbody, -⟩ := h
  cases hbody

theorem quotes_le : 2 ≤ markCount body ∧ 2 ≤ body.utf8ByteSize := by
  obtain ⟨v, hbody, hv⟩ := h
  have hmarks := (quoted_le_of_enveloped? Scale.marks hbody hv).1
  have hsizes := (quoted_le_of_enveloped? Scale.sizes hbody hv).1
  rw [Scale.quoted_marks, Scale.weight_marks] at hmarks
  rw [Scale.quoted_sizes, Scale.weight_sizes] at hsizes
  omega

/-- **An envelope has four marks more than the body in it**, and a byte more for each mark of that body. -/
theorem grows (hne : inner ≠ "") : markCount inner + 4 ≤ markCount body ∧
    inner.utf8ByteSize + markCount inner + 4 ≤ body.utf8ByteSize := by
  obtain ⟨v, hbody, hv⟩ := h
  have hmarks := (quoted_le_of_enveloped? Scale.marks hbody hv).2 hne
  have hsizes := (quoted_le_of_enveloped? Scale.sizes hbody hv).2 hne
  rw [Scale.quoted_marks, Scale.quoted_marks, Scale.weight_marks] at hmarks
  rw [Scale.quoted_sizes, Scale.quoted_sizes, Scale.weight_sizes] at hsizes
  omega

theorem size_lt : inner.utf8ByteSize < body.utf8ByteSize := by
  by_cases hne : inner = ""
  · subst hne
    exact Nat.lt_of_lt_of_le Nat.two_pos h.quotes_le.2
  · have hgrows := (h.grows hne).2
    omega

end Opens

/-- **What a body has gained that has `n` bodies inside**: four marks with each, but for the last of them, which may be
missing from its envelope. -/
theorem marks_and_size_le_of_isChain : ∀ {inners : List String} {body : String}, (body :: inners).IsChain Opens →
    4 * inners.length ≤ markCount body + 2 ∧ 2 * inners.length * (inners.length - 1) ≤ body.utf8ByteSize
  | [], _, _ => ⟨Nat.zero_le _, Nat.zero_le _⟩
  | [inner], body, h => by
    have hquotes := (List.isChain_cons_cons.1 h).1.quotes_le
    exact ⟨Nat.add_le_add_right hquotes.1 2, Nat.zero_le _⟩
  | inner :: next :: rest, body, h => by
    obtain ⟨hopens, hrest⟩ := List.isChain_cons_cons.1 h
    have hne : inner ≠ "" := (List.isChain_cons_cons.1 hrest).1.ne_empty
    obtain ⟨hmarks, hsize⟩ := hopens.grows hne
    obtain ⟨ihmarks, ihsize⟩ := marks_and_size_le_of_isChain hrest
    simp only [List.length_cons, Nat.add_sub_cancel] at *
    refine ⟨by omega, ?_⟩
    calc 2 * (rest.length + 1 + 1) * (rest.length + 1)
        = 2 * (rest.length + 1) * rest.length + 4 * (rest.length + 1) := by ring
      _ ≤ inner.utf8ByteSize + (markCount inner + 2) := Nat.add_le_add ihsize ihmarks
      _ ≤ body.utf8ByteSize := by omega

/-! ## What a body names is found -/

theorem exists_names (body : String) : ∃ depth, Names depth body (copyRecords body) := by
  rw [copyRecords_eq]
  cases hbody : Json.parse body with
  | error e => exact ⟨0, .unread hbody⟩
  | ok v =>
    dsimp only
    cases hv : enveloped? v with
    | none => exact ⟨0, .bare hbody hv⟩
    | some inner =>
      have hsmaller : inner.utf8ByteSize < body.utf8ByteSize := Opens.size_lt ⟨v, hbody, hv⟩
      obtain ⟨depth, hinner⟩ := exists_names inner
      dsimp only
      cases hfound : copyRecords inner with
      | nil =>
        rw [hfound] at hinner
        exact ⟨depth + 1, .fallback hbody hv hinner⟩
      | cons record found =>
        rw [hfound] at hinner
        exact ⟨depth + 1, .opened hbody hv hinner (List.cons_ne_nil _ _)⟩
termination_by body.utf8ByteSize

namespace Names

variable {depth : Nat} {body : String} {found : List CopyRecord}

/-- Nothing else is found. -/
theorem eq_copyRecords (h : Names depth body found) : found = copyRecords body := by
  induction h with
  | unread hbody => rw [copyRecords_eq, hbody]
  | bare hbody hv =>
    rw [copyRecords_eq, hbody]
    simp only [hv]
  | opened hbody hv hinner hfound ih =>
    rw [copyRecords_eq, hbody]
    simp only [hv, ← ih]
  | fallback hbody hv hinner ih =>
    rw [copyRecords_eq, hbody]
    simp only [hv, ← ih]

/-- The bodies that are opened on the way are inside of each other. -/
theorem exists_isChain (h : Names depth body found) :
    ∃ inners : List String, inners.length = depth ∧ (body :: inners).IsChain Opens := by
  induction h with
  | unread hbody | bare hbody hv => exact ⟨[], rfl, List.IsChain.singleton _⟩
  | @opened _ _ v inner _ hbody hv hinner hfound ih | @fallback _ _ v inner hbody hv hinner ih =>
    obtain ⟨inners, hlength, hchain⟩ := ih
    exact ⟨inner :: inners, congrArg (· + 1) hlength, List.isChain_cons_cons.2 ⟨⟨v, hbody, hv⟩, hchain⟩⟩

end Names

/-- **What a body names is found out in finitely many steps**, and nothing else is.  Of bodies inside of each other each
is smaller than the one around it, and the square of their number is bounded by the size of the outermost one. -/
theorem copyRecords_terminates (body : String) :
    (∃ depth, Names depth body (copyRecords body)) ∧
      (∀ depth found, Names depth body found →
        found = copyRecords body ∧ 2 * depth * (depth - 1) ≤ body.utf8ByteSize) ∧
      ∀ inners : List String, (body :: inners).IsChain Opens →
        (body :: inners).IsChain (fun outer inner => inner.utf8ByteSize < outer.utf8ByteSize) ∧
          2 * inners.length * (inners.length - 1) ≤ body.utf8ByteSize := by
  refine ⟨exists_names body, fun depth found h => ⟨h.eq_copyRecords, ?_⟩, fun inners h => ⟨?_, ?_⟩⟩
  · obtain ⟨inners, rfl, hchain⟩ := h.exists_isChain
    exact (marks_and_size_le_of_isChain hchain).2
  · exact h.imp fun outer inner => Opens.size_lt
  · exact (marks_and_size_le_of_isChain h).2

/-- An envelope that is an object, around one that is an array. -/
theorem copyRecords_terminates_twoEnvelopes :
    let inner := "[\"Amazon S3 Notification\",\"x\"]"
    let outer := Envelope.plain.text inner
    [outer, inner, "x"].IsChain Opens ∧
      [outer, inner, "x"].IsChain (fun outer inner => inner.utf8ByteSize < outer.utf8ByteSize) ∧
      2 * 2 * (2 - 1) ≤ outer.utf8ByteSize := by
  intro inner outer
  have hobject : Opens outer inner := ⟨_, Envelope.plain.parse_text inner, Envelope.plain.enveloped?_objectOf inner⟩
  have harray : Opens "[\"Amazon S3 Notification\",\"x\"]" "x" := ⟨_, rfl, rfl⟩
  have hchain : [outer, inner, "x"].IsChain Opens := .cons_cons hobject (.cons_cons harray (.singleton _))
  exact ⟨hchain, (copyRecords_terminates outer).2.2 [inner, "x"] hchain⟩

end ObjectRelay.Notification
