import ObjectRelay.Proofs.Json.Equality
import ObjectRelay.Proofs.Message.Received
import ObjectRelay.Proofs.Record.Lines
import ObjectRelay.Proofs.Relay.Sequential
/-!
# Reading the audit log

The audit log of an event has one line for every message, and each line is read back as one object
(`Audit.decode_lineText`) that tells everything about its message and the error that failed it (`Audit.body_told`).
One thing is lost: an object has no two members of one name, so an attribute with the name `error` gives way to the
error of a message that failed (`Audit.line_overwriting`).
-/
namespace ObjectRelay

open Json (Fits Nested Ordered Reader insertAll objectOf)

namespace Audit

def members (message : Message) (error? : Option MessageError) : List (String × Json) :=
  message.members ++ (error?.map fun e => ("error", Json.string e.message)).toList

/-- **What a record tells about a message**: its id, its body and its attributes as they came, the error that failed
it, and nothing else.  An attribute may be missing if it is called `error` and the message has failed. -/
structure Told (message : Message) (error? : Option MessageError) (record : Record) : Prop where
  isObject : ∃ members, record = .object members
  id : record.member? "messageId" = some (.string message.id)
  body : record.member? "body" = some (.string message.body)
  attributes : ∀ a ∈ message.attributes, a.1 ≠ "error" ∨ error? = none → record.member? a.1 = some a.2
  error : ∀ e, error? = some e → record.member? "error" = some (.string e.message)
  nothingElse : ∀ name v, record.member? name = some v →
    (name, v) = ("messageId", .string message.id) ∨ (name, v) = ("body", .string message.body) ∨
      (name, v) ∈ message.attributes ∨ ∃ e, error? = some e ∧ (name, v) = ("error", .string e.message)

theorem lineText_eq (message : Message) (error? : Option MessageError) :
    lineText message error? = Json.bytes (.object (members message error?)) := by
  rw [lineText, Json.encode_text, Message.auditJson, members]
  cases error? <;> rfl

section Line

variable {message : Message} (hmessage : message.Received) (error? : Option MessageError)
include hmessage

theorem fits_members (hwhole : ∀ a ∈ message.attributes, a.2.IsWhole) : ∀ m ∈ members message error?, Fits 1 m.2 := by
  have hstring : ∀ s : String, Fits 1 (.string s) := fun s =>
    ⟨Json.nested_of_depth_eq_zero (by decide) rfl, trivial⟩
  intro m hm
  simp only [members, Message.members, List.cons_append, List.mem_cons, List.mem_append, Option.mem_toList,
    Option.map_eq_some_iff] at hm
  rcases hm with rfl | rfl | hm | ⟨e, -, rfl⟩
  · exact hstring _
  · exact hstring _
  · exact ⟨(hmessage.nested m hm).mono (by decide), hwhole m hm⟩
  · exact hstring _

theorem play_lineText (hwhole : ∀ a ∈ message.attributes, a.2.IsWhole) (rest : List UInt8) :
    Reader.play .any {} (lineText message error? ++ rest) =
      Reader.playOn .any (Reader.deliver [] (objectOf (members message error?))) rest := by
  rw [lineText_eq]
  exact Reader.play_object rfl (by decide) (fits_members hmessage error? hwhole) rest

theorem isLineOf_lineText (hwhole : ∀ a ∈ message.attributes, a.2.IsWhole) :
    Decoding.IsLineOf (lineText message error?) (objectOf (members message error?)) :=
  fun rest => play_lineText hmessage error? hwhole (lineEnd :: rest)

theorem told_objectOf : Told message error? (objectOf (members message error?)) := by
  have herror : ∀ m ∈ (error?.map fun e => ("error", Json.string e.message)).toList, m.1 = "error" := by
    cases error? <;> simp
  have hothers : ∀ m ∈ message.attributes ++ (error?.map fun e => ("error", Json.string e.message)).toList,
      m.1 ≠ "messageId" ∧ m.1 ≠ "body" := by
    intro m hm
    rcases List.mem_append.1 hm with hm | hm
    · exact hmessage.name_ne m hm
    · rw [herror m hm]
      decide
  refine ⟨⟨_, rfl⟩, ?_, ?_, fun a ha hname => ?_, fun e he => ?_, fun name v hmember => ?_⟩
  · refine Json.member?_objectOf_of_last [] fun m hm => ?_
    rcases List.mem_cons.1 hm with rfl | hm
    · exact (by decide : "body" ≠ "messageId")
    · exact (hothers m hm).1
  · exact Json.member?_objectOf_of_last [("messageId", .string message.id)] fun m hm => (hothers m hm).2
  · obtain ⟨before, after, hsplit, hafter⟩ := hmessage.ordered.exists_split ha
    have hmembers : members message error? = ("messageId", .string message.id) :: ("body", .string message.body) ::
        before ++ a :: (after ++ (error?.map fun e => ("error", Json.string e.message)).toList) := by
      simp [members, Message.members, hsplit]
    rw [hmembers]
    refine Json.member?_objectOf_of_last _ fun m hm => ?_
    rcases List.mem_append.1 hm with hm | hm
    · exact hafter m hm
    · rcases hname with hname | rfl
      · rw [herror m hm]
        exact hname.symm
      · cases hm
  · subst he
    exact Json.member?_objectOf_of_last _ (List.forall_mem_nil _)
  · have hmem := Json.mem_of_member?_objectOf hmember
    simp only [members, Message.members, List.cons_append, List.mem_cons, List.mem_append, Option.mem_toList,
      Option.map_eq_some_iff] at hmem
    rcases hmem with h | h | h | ⟨e, he, h⟩
    · exact .inl h
    · exact .inr (.inl h)
    · exact .inr (.inr (.inl h))
    · exact .inr (.inr (.inr ⟨e, he, h.symm⟩))

/-- **A line is read back as one object.** -/
theorem decode_lineText (hwhole : ∀ a ∈ message.attributes, a.2.IsWhole) :
    Decoding.lines.decode (lineText message error?) = { records := [objectOf (members message error?)] } := by
  have hplay := play_lineText hmessage error? hwhole []
  rw [List.append_nil] at hplay
  have hdecode := Decoding.decode_of_play hplay []
  rwa [List.append_nil] at hdecode

end Line

/-- **The audit log tells everything.** -/
theorem body_told {text : String} {messages : List Message} (hread : Message.readEvent text = .ok messages)
    (hwhole : ∀ m ∈ messages, ∀ a ∈ m.attributes, a.2.IsWhole) {outcomes : List (Message × Option MessageError)}
    (hmessages : outcomes.map (·.1) = messages) (destination : ObjectUri) (key : String) :
    linesOf (request destination key outcomes).body = (outcomes.map fun o => lineText o.1 o.2) ++ [[]] ∧
      ∃ decoding records, Decoding.resolve none (request destination key outcomes).contentType = .ok decoding ∧
        decoding.decode (request destination key outcomes).body = { records } ∧
        List.Forall₂ (fun o record => decoding.decode (lineText o.1 o.2) = { records := [record] } ∧
          Told o.1 o.2 record) outcomes records := by
  have hreceived : ∀ o ∈ outcomes, o.1.Received := fun o ho =>
    Message.received_of_readEvent hread o.1 (hmessages ▸ List.mem_map_of_mem ho)
  have hall : ∀ o ∈ outcomes, ∀ a ∈ o.1.attributes, a.2.IsWhole := fun o ho =>
    hwhole o.1 (hmessages ▸ List.mem_map_of_mem ho)
  have hbody : (request destination key outcomes).body = framed (outcomes.map fun o => lineText o.1 o.2) :=
    body_eq_framed outcomes
  refine ⟨linesOf_body outcomes, .lines, outcomes.map fun o => objectOf (members o.1 o.2),
    Decoding.resolve_lines, ?_, ?_⟩
  · rw [hbody]
    exact Decoding.decode_framed _ _ fun o ho => isLineOf_lineText (hreceived o ho) o.2 (hall o ho)
  · refine List.forall₂_map_right_iff.2 (List.forall₂_same.2 fun o ho => ⟨?_, told_objectOf (hreceived o ho) o.2⟩)
    exact decode_lineText (hreceived o ho) o.2 (hall o ho)

/-- A message that was handled and one that was not. -/
def handledAndFailed : List (Message × Option MessageError) := [
  (⟨"m1", "two\nlines", [("sent", .number (.int 7))]⟩, none),
  (⟨"m2", "", []⟩, some (.source (.missingScheme "nowhere")))]

theorem body_told_pair : ∃ text messages, ∃ first second : Record, Message.readEvent text = .ok messages ∧
    (∀ m ∈ messages, ∀ a ∈ m.attributes, a.2.IsWhole) ∧ handledAndFailed.map (·.1) = messages ∧
    Decoding.lines.decode (body handledAndFailed) = { records := [first, second] } ∧
    first.member? "body" = some (.string "two\nlines") ∧ first.member? "sent" = some (.number (.int 7)) ∧
    second.member? "error" = some (.string "invalid source: \"nowhere\" has no scheme") := by
  obtain ⟨text, hread⟩ : ∃ text, Json.read Message.eventShape text = .ok (.object [("Records", .array [
      .object [("body", .string "two\nlines"), ("messageId", .string "m1"), ("sent", .number (.int 7))],
      .object [("body", .string ""), ("messageId", .string "m2")]])]) :=
    ⟨"\x7b\"Records\":[\x7b\"messageId\":\"m1\",\"body\":\"two\\nlines\",\"sent\":7\x7d," ++
      "\x7b\"messageId\":\"m2\",\"body\":\"\"\x7d]\x7d", Json.read_eq_ok (by decide +kernel)⟩
  have hevent : Message.readEvent text = .ok (handledAndFailed.map (·.1)) := Message.readEvent_of_read hread
  have hwhole : ∀ m ∈ handledAndFailed.map (·.1), ∀ a ∈ m.attributes, a.2.IsWhole := by
    simp [handledAndFailed, Json.IsWhole, Json.Everywhere, Json.Number.IsWhole]
  obtain ⟨-, decoding, records, hresolve, hdecode, htold⟩ := body_told hevent hwhole rfl ⟨"s3", "out", ""⟩ "log"
  obtain rfl := Except.ok.inj (Decoding.resolve_lines.symm.trans hresolve)
  rcases htold with _ | ⟨⟨-, hfirst⟩, _ | ⟨⟨-, hsecond⟩, _ | _⟩⟩
  refine ⟨text, _, _, _, hevent, hwhole, rfl, hdecode, hfirst.body, ?_, hsecond.error _ rfl⟩
  exact hfirst.attributes _ List.mem_cons_self (.inr rfl)

/-- **An attribute called `error` is lost** when its message has failed: the line has two members of that name, and
reading it back keeps the second one. -/
theorem line_overwriting : ∃ text message, ∃ error : MessageError, ∃ record,
    Message.readEvent text = .ok [message] ∧ (∀ a ∈ message.attributes, a.2.IsWhole) ∧
    Decoding.lines.decode (lineText message (some error)) = { records := [record] } ∧
    ("error", .string "x") ∈ message.attributes ∧ record.member? "error" = some (.string error.message) ∧
    record.member? "error" ≠ some (.string "x") := by
  obtain ⟨text, hread⟩ : ∃ text, Json.read Message.eventShape text = .ok (.object [("Records", .array [
      .object [("body", .string "\x7b\"copy\":[\x7b\"uri\":\"nowhere\"\x7d]\x7d"), ("error", .string "x"),
        ("messageId", .string "m1")]])]) :=
    ⟨"\x7b\"Records\":[\x7b\"messageId\":\"m1\"," ++
      "\"body\":\"\x7b\\\"copy\\\":[\x7b\\\"uri\\\":\\\"nowhere\\\"\x7d]\x7d\",\"error\":\"x\"\x7d]\x7d",
      Json.read_eq_ok (by decide +kernel)⟩
  have hevent : Message.readEvent text =
      .ok [⟨"m1", "\x7b\"copy\":[\x7b\"uri\":\"nowhere\"\x7d]\x7d", [("error", .string "x")]⟩] :=
    Message.readEvent_of_read hread
  have hwhole : ∀ a ∈ [("error", Json.string "x")], a.2.IsWhole := by
    simp [Json.IsWhole, Json.Everywhere]
  have hreceived := Message.received_of_readEvent hevent _ List.mem_cons_self
  have herror := (told_objectOf hreceived (some (.source (.missingScheme "nowhere")))).error _ rfl
  refine ⟨text, _, _, _, hevent, hwhole, decode_lineText hreceived _ hwhole, List.mem_cons_self, herror, ?_⟩
  rw [herror]
  decide

end Audit
end ObjectRelay
