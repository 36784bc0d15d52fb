import ObjectRelay.Object.Notification
import ObjectRelay.Proofs.Json.Length
import ObjectRelay.Proofs.Json.Single
import ObjectRelay.Proofs.Json.Text
import Mathlib.Data.List.Perm.Subperm
/-!
# Envelopes

A body is longer than the one in its envelope, so opening one envelope after another comes to an end, and the bound that
the reader of bodies puts on their number is never reached (`copyRecords_eq`).  An envelope around a body names what the
body names, and so does an envelope around that (`copyRecords_enveloped`).
-/
namespace ObjectRelay
namespace Notification

open Json (Shape)

/-! ## Opening an envelope -/

theorem scalar_text {v w : Json} (h : Shape.scalar .text v = some w) : ∃ s, v = .string s ∧ w = .string s := by
  cases v <;> cases h
  exact ⟨_, rfl, rfl⟩

theorem enveloped?_of_conform {v envelope : Json} (h : envelopeShape.conform v = some envelope) :
    enveloped? v = if envelope.textAt "Subject" = subject then some (envelope.textAt "Message") else none := by
  simp [enveloped?, h]

section Object

variable {members : List (String × Json)}

theorem nodup_envelope :
    ([("Subject", Json.Presence.optional, Shape.text), ("Message", .optional, .text)].map (·.1)).Nodup := by
  decide

/-- A text field is a string, or missing. -/
theorem lookup_of_fits_text {name : String} {p : Json.Presence} (h : Json.Field.Fits (name, p, .text) members) :
    members.lookup name = none ∨ ∃ s, members.lookup name = some (.string s) := by
  refine h.imp_right fun hread => ?_
  obtain ⟨w, hw⟩ := Option.isSome_iff_exists.1 hread
  obtain ⟨v, hv, hscalar⟩ := Option.bind_eq_some_iff.1 hw
  obtain ⟨s, rfl, -⟩ := scalar_text hscalar
  exact ⟨s, hv⟩

theorem fits_of_conform {envelope : Json} (h : envelopeShape.conform (.object members) = some envelope) :
    Json.Field.Fits ("Subject", .optional, .text) members ∧ Json.Field.Fits ("Message", .optional, .text) members := by
  obtain ⟨found, hfound, -⟩ := Option.bind_eq_some_iff.1 (Json.conform_record _ members ▸ h)
  obtain ⟨-, hfields, -⟩ := Json.lookup_conformNamed nodup_envelope hfound
  exact ⟨(hfields _ (by simp)).1, (hfields _ (by simp)).1⟩

theorem textAt_of_conform {envelope : Json} (h : envelopeShape.conform (.object members) = some envelope) :
    envelope.textAt "Subject" = (Json.object members).textAt "Subject" ∧
      envelope.textAt "Message" = (Json.object members).textAt "Message" :=
  ⟨Json.textAt_of_conform_record (p := .optional) nodup_envelope h (by simp),
    Json.textAt_of_conform_record (p := .optional) nodup_envelope h (by simp)⟩

/-- **Which objects are envelopes**: those with the right subject, around the body in them or around nothing. -/
theorem enveloped?_object {inner : String} : enveloped? (.object members) = some inner ↔
    members.lookup "Subject" = some (.string subject) ∧
      (members.lookup "Message" = some (.string inner) ∨ members.lookup "Message" = none ∧ inner = "") := by
  constructor
  · intro h
    obtain ⟨envelope, henvelope, -⟩ := Option.bind_eq_some_iff.1 h
    obtain ⟨hsubject, hmessage⟩ := fits_of_conform henvelope
    rw [enveloped?_of_conform henvelope, (textAt_of_conform henvelope).1, (textAt_of_conform henvelope).2] at h
    split at h <;> cases h
    rename_i hright
    rw [Json.textAt, Json.member?] at hright
    rw [Json.textAt, Json.member?]
    refine ⟨?_, ?_⟩
    · rcases lookup_of_fits_text hsubject with hnone | ⟨s, hs⟩
      · rw [hnone] at hright
        exact absurd hright (by decide)
      · rw [hs] at hright ⊢
        rw [← hright]
    · rcases lookup_of_fits_text hmessage with hnone | ⟨s, hs⟩
      · exact .inr ⟨hnone, by rw [hnone]⟩
      · exact .inl (by rw [hs])
  · rintro ⟨hsubject, hmessage⟩
    have hread : (∃ w, Json.Field.read? ("Message", .optional, .text) members = some w) ∨
        Json.Presence.optional ≠ .required ∧ members.lookup "Message" = none :=
      hmessage.imp (fun h => ⟨_, Json.read?_text h⟩) fun h => ⟨by decide, h.1⟩
    obtain ⟨envelope, henvelope, -⟩ := Json.conform_record_of_read
      [("Subject", .optional, .text), ("Message", .optional, .text)] members nodup_envelope
      (List.forall_mem_cons.2 ⟨.inl ⟨_, Json.read?_text hsubject⟩, List.forall_mem_singleton.2 hread⟩)
    have hinner : (Json.object members).textAt "Message" = inner := by
      rw [Json.textAt, Json.member?]
      rcases hmessage with hmessage | ⟨hnone, rfl⟩
      · rw [hmessage]
      · rw [hnone]
    rw [enveloped?_of_conform henvelope, (textAt_of_conform henvelope).1, (textAt_of_conform henvelope).2, hinner,
      if_pos (Json.textAt_eq (v := .object members) hsubject)]

end Object

/-- **Which arrays are envelopes**: the right subject, and behind it the body in them or nothing. -/
theorem enveloped?_array {items : List Json} {inner : String} : enveloped? (.array items) = some inner ↔
    items = [.string subject, .string inner] ∨ items = [.string subject] ∧ inner = "" := by
  constructor
  · intro h
    obtain ⟨envelope, henvelope, -⟩ := Option.bind_eq_some_iff.1 h
    rw [enveloped?_of_conform henvelope] at h
    split at h <;> cases h
    rename_i hsubject
    obtain ⟨found, hfound, hrecord⟩ := Option.bind_eq_some_iff.1 henvelope
    cases hrecord
    rcases items with _ | ⟨first, _ | ⟨second, _ | ⟨third, items⟩⟩⟩
    · cases hfound
      exact absurd hsubject (by decide)
    · obtain ⟨w, hw, hrest⟩ := Option.bind_eq_some_iff.1 hfound
      obtain ⟨s, rfl, rfl⟩ := scalar_text hw
      cases hrest
      obtain rfl : s = subject := hsubject
      exact .inr ⟨rfl, rfl⟩
    · obtain ⟨w, hw, hrest⟩ := Option.bind_eq_some_iff.1 hfound
      obtain ⟨s, rfl, rfl⟩ := scalar_text hw
      obtain ⟨rest, hrest, hinsert⟩ := Option.bind_eq_some_iff.1 hrest
      obtain ⟨w, hw, hnil⟩ := Option.bind_eq_some_iff.1 hrest
      obtain ⟨inner, rfl, rfl⟩ := scalar_text hw
      cases hnil
      cases hinsert
      obtain rfl : s = subject := hsubject
      exact .inl rfl
    · obtain ⟨_, -, hrest⟩ := Option.bind_eq_some_iff.1 hfound
      obtain ⟨_, hrest, -⟩ := Option.bind_eq_some_iff.1 hrest
      obtain ⟨_, -, hnone⟩ := Option.bind_eq_some_iff.1 hrest
      cases hnone
  · rintro (rfl | ⟨rfl, rfl⟩)
    · rfl
    · rfl

/-- **What an envelope holds**: the subject, and the body in it if there is one. -/
theorem subperm_children_of_enveloped? {v : Json} {inner : String} (h : enveloped? v = some inner) :
    [.string subject].Subperm v.children ∧ (inner ≠ "" → [.string subject, .string inner].Subperm v.children) := by
  cases v with
  | object members =>
    obtain ⟨hsubject, hmessage⟩ := enveloped?_object.1 h
    have hmem := mem_of_lookup_eq_some hsubject
    refine ⟨List.singleton_subperm_iff.2 (List.mem_map_of_mem hmem), fun hne => ?_⟩
    have hmem' := mem_of_lookup_eq_some (hmessage.resolve_right fun hnone => hne hnone.2)
    -- The two are values of members of different names, so they are found in two places.
    have hsubset : [("Subject", Json.string subject), ("Message", .string inner)] ⊆ members :=
      List.cons_subset.2 ⟨hmem, List.cons_subset.2 ⟨hmem', List.nil_subset _⟩⟩
    obtain ⟨l, hperm, hsub⟩ := List.Nodup.subperm (by simp) hsubset
    exact ⟨l.map Prod.snd, hperm.map Prod.snd, hsub.map Prod.snd⟩
  | array items =>
    rcases enveloped?_array.1 h with rfl | ⟨rfl, rfl⟩
    · exact ⟨List.singleton_subperm_iff.2 List.mem_cons_self, fun _ => List.Subperm.refl _⟩
    · exact ⟨List.Subperm.refl _, fun hne => absurd rfl hne⟩
  | _ => cases h

/-- **An envelope weighs no less than its subject and the body in it**, on any scale. -/
theorem quoted_le_of_enveloped? (w : Json.Scale) {body inner : String} {v : Json} (hbody : Json.parse body = .ok v)
    (h : enveloped? v = some inner) : w.quoted subject ≤ w.weight (Utf8.encode body) ∧
      (inner ≠ "" → w.quoted subject + w.quoted inner ≤ w.weight (Utf8.encode body)) := by
  obtain ⟨hsubject, hinner⟩ := subperm_children_of_enveloped? h
  have hle : w.loads v.children ≤ w.weight (Utf8.encode body) := by
    have hparse := Json.loads_le_of_parse w hbody
    rw [w.loads_cons] at hparse
    omega
  refine ⟨Nat.le_trans ?_ hle, fun hne => Nat.le_trans ?_ hle⟩
  · have hloads := w.loads_le_of_subperm hsubject
    rwa [w.loads_cons, w.loads_nil, Json.Scale.load, Nat.add_zero] at hloads
  · have hloads := w.loads_le_of_subperm (hinner hne)
    rwa [w.loads_cons, w.loads_cons, w.loads_nil, Json.Scale.load, Json.Scale.load, Nat.add_zero] at hloads

theorem length_lt_of_enveloped? {body inner : String} {v : Json} (hbody : Json.parse body = .ok v)
    (h : enveloped? v = some inner) : inner.length < body.length := by
  obtain ⟨hsubject, hinner⟩ := quoted_le_of_enveloped? .characters hbody h
  rw [Json.Scale.weight_characters, Json.Scale.quoted_characters] at hsubject hinner
  rw [Json.Scale.quoted_characters] at hinner
  by_cases hne : inner = ""
  · subst hne
    exact Nat.lt_of_lt_of_le (Nat.succ_pos _) hsubject
  · have hle := hinner hne
    omega

/-- **More than enough envelopes are enough.** -/
theorem recordsWithin_eq : ∀ {depth depth' : Nat} {body : String}, body.length < depth → body.length < depth' →
    recordsWithin depth body = recordsWithin depth' body
  | 0, _, _, h, _ => absurd h (Nat.not_lt_zero _)
  | _, 0, _, _, h => absurd h (Nat.not_lt_zero _)
  | depth + 1, depth' + 1, body, h, h' => by
    rw [recordsWithin, recordsWithin]
    cases hparse : Json.parse body with
    | error e => rfl
    | ok v =>
      dsimp only
      cases hinner : enveloped? v with
      | none => rfl
      | some inner =>
        have hlt := length_lt_of_enveloped? hparse hinner
        have hwithin : recordsWithin depth inner = recordsWithin depth' inner :=
          recordsWithin_eq (Nat.lt_of_lt_of_le hlt (Nat.le_of_lt_succ h))
            (Nat.lt_of_lt_of_le hlt (Nat.le_of_lt_succ h'))
        dsimp only
        rw [hwithin]

/-- **What a body names**: what the body in its envelope names, or what it names itself. -/
theorem copyRecords_eq (body : String) : copyRecords body = match Json.parse body with
    | .error _ => []
    | .ok v => match enveloped? v with
      | none => ownRecords v
      | some inner => match copyRecords inner with
        | [] => ownRecords v
        | found => found := by
  rw [copyRecords, recordsWithin]
  cases hparse : Json.parse body with
  | error e => rfl
  | ok v =>
    dsimp only
    cases hinner : enveloped? v with
    | none => rfl
    | some inner =>
      have hwithin : recordsWithin body.length inner = copyRecords inner :=
        recordsWithin_eq (length_lt_of_enveloped? hparse hinner) (Nat.lt_add_one inner.length)
      dsimp only
      generalize recordsWithin body.length inner = found at hwithin
      subst hwithin
      rfl

end Notification

/-! ## Putting a body into an envelope -/

/-- The members of an envelope, in front of the one that holds the body and behind it.  It has the right subject, and no
member that would name objects itself. -/
structure Envelope where
  front : List (String × Json)
  back : List (String × Json)
  addressed : ("Subject", .string Notification.subject) ∈ front ++ back
  distinct : ((front ++ back).map Prod.fst).Nodup
  names : ∀ m ∈ front ++ back, m.1 ∉ ["Message", "Records", "copy"]
  fits : ∀ m ∈ front ++ back, Json.Fits 1 m.2

namespace Envelope

/-- The envelope that says no more than it has to. -/
def plain : Envelope where
  front := [("Type", .string "Notification"), ("Subject", .string Notification.subject)]
  back := []
  addressed := List.mem_cons_of_mem _ List.mem_cons_self
  distinct := by decide
  names := by decide
  fits m hm := by
    have hdepth : m.2.depth = 0 ∧ m.2.IsWhole := by
      simp only [List.append_nil, List.mem_cons, List.not_mem_nil, or_false] at hm
      rcases hm with rfl | rfl
      all_goals exact ⟨rfl, trivial⟩
    exact ⟨Json.nested_of_depth_eq_zero (by decide) hdepth.1, hdepth.2⟩

open Json (Shape)
open Notification (enveloped? enveloped?_object ownRecords createdRecords listedRecords copyRecords copyRecords_eq)

variable (e : Envelope) (body : String)

def members : List (String × Json) := e.front ++ ("Message", .string body) :: e.back

/-- The text of an envelope around a body. -/
def text : String := (Json.object (e.members body)).text

theorem mem_members {m : String × Json} :
    m ∈ e.members body ↔ m = ("Message", .string body) ∨ m ∈ e.front ++ e.back := by
  simp only [members, List.mem_append, List.mem_cons]
  exact or_left_comm

theorem nodup_members : ((e.members body).map Prod.fst).Nodup := by
  have hperm : ((e.members body).map Prod.fst).Perm ("Message" :: (e.front ++ e.back).map Prod.fst) :=
    List.perm_middle.map Prod.fst
  refine hperm.nodup_iff.2 (List.nodup_cons.2 ⟨fun hmem => ?_, e.distinct⟩)
  obtain ⟨m, hm, hname⟩ := List.mem_map.1 hmem
  exact e.names m hm (hname ▸ List.mem_cons_self)

theorem fits_members : ∀ m ∈ e.members body, Json.Fits 1 m.2 := by
  intro m hm
  rcases (e.mem_members body).1 hm with rfl | hm
  · have hdepth : (Json.string body).depth = 0 := rfl
    exact ⟨Json.nested_of_depth_eq_zero (by decide) hdepth, trivial⟩
  · exact e.fits m hm

/-- **An envelope is read as it was written**, its members in order. -/
theorem parse_text : Json.parse (e.text body) = .ok (Json.objectOf (e.members body)) := by
  have hplay : Json.Reader.play .any {} (Json.bytes (.object (e.members body)) ++ []) =
      ([Json.objectOf (e.members body)], .ok {}) :=
    Json.Reader.play_object rfl (by decide) (e.fits_members body) []
  rw [List.append_nil, ← Json.encode_text] at hplay
  exact Json.Reader.readFrom_of_play hplay

theorem lookup_members {name : String} {v : Json} (h : (name, v) ∈ e.members body) :
    (Json.insertAll [] (e.members body)).lookup name = some v :=
  (Json.member?_objectOf_of_nodup (e.nodup_members body)).2 h

theorem lookup_members_eq_none {name : String} (h : name ∈ ["Records", "copy"]) :
    (Json.insertAll [] (e.members body)).lookup name = none := by
  cases hlookup : (Json.insertAll [] (e.members body)).lookup name with
  | none => rfl
  | some v =>
    rcases (e.mem_members body).1 (Json.mem_of_member?_objectOf hlookup) with heq | hm
    · cases heq
      exact absurd h (by decide)
    · exact absurd (List.mem_cons_of_mem _ h) (e.names _ hm)

theorem enveloped?_objectOf : enveloped? (Json.objectOf (e.members body)) = some body := by
  have hsubject := e.lookup_members body ((e.mem_members body).2 (.inr e.addressed))
  have hmessage := e.lookup_members body ((e.mem_members body).2 (.inl rfl))
  rw [Json.objectOf_eq]
  exact enveloped?_object.2 ⟨hsubject, .inl hmessage⟩

/-- A record whose only member is missing holds no items. -/
theorem itemsAt_of_missing (name : String) (h : name ∈ ["Records", "copy"]) (item : Shape) : ∃ r,
    (Shape.record [(name, .optional, .list item)] .skipped).conform (Json.objectOf (e.members body)) = some r ∧
      r.itemsAt name = [] := by
  have hnone := e.lookup_members_eq_none body h
  obtain ⟨r, hr, hmember⟩ := Json.conform_record_of_read
    [(name, .optional, .list item)] (Json.insertAll [] (e.members body)) (by simp)
    (List.forall_mem_singleton.2 (.inr ⟨fun h => (nomatch h), hnone⟩))
  have hmissing : r.member? name = none := by
    rw [hmember _ List.mem_cons_self, Json.Field.read?, hnone]
    rfl
  exact ⟨r, hr, by rw [Json.itemsAt, hmissing]⟩

/-- **An envelope names nothing itself.** -/
theorem ownRecords_objectOf : ownRecords (Json.objectOf (e.members body)) = [] := by
  obtain ⟨events, hevents, hnone⟩ := e.itemsAt_of_missing body "Records" (by simp) Notification.eventShape
  have hcreated : createdRecords (Json.objectOf (e.members body)) = [] := by
    rw [createdRecords, Notification.eventsShape, hevents]
    simp [hnone]
  obtain ⟨list, hlist, hnone⟩ := e.itemsAt_of_missing body "copy" (by simp) _
  have hlisted : listedRecords (Json.objectOf (e.members body)) = [] := by
    rw [listedRecords, Notification.listShape, hlist]
    simp [hnone]
  rw [ownRecords, hcreated, hlisted]

theorem copyRecords_text : copyRecords (e.text body) = copyRecords body := by
  rw [copyRecords_eq, e.parse_text]
  simp only [e.enveloped?_objectOf, e.ownRecords_objectOf]
  cases copyRecords body <;> rfl

end Envelope

/-- **Envelopes are transparent**: a body in any number of them, one around the other, names what it names on its own,
which may be nothing. -/
theorem Notification.copyRecords_enveloped (envelopes : List Envelope) (body : String) :
    copyRecords (envelopes.foldr Envelope.text body) = copyRecords body := by
  induction envelopes with
  | nil => rfl
  | cons e envelopes ih => rw [List.foldr_cons, e.copyRecords_text, ih]

example : [Envelope.plain].foldr Envelope.text "\"" =
    "\x7b\"Type\":\"Notification\",\"Subject\":\"Amazon S3 Notification\",\"Message\":\"\\\"\"\x7d" := by
  decide

end ObjectRelay
