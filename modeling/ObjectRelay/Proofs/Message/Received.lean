import ObjectRelay.Message.Event
import ObjectRelay.Proofs.Json.Nesting
/-!
# Messages of an event

A message that has been read from an event has its attributes in order, none of them stands for its id or its body,
and none is nested so deep that it could not be written and read again (`Message.received_of_readEvent`).
-/
namespace ObjectRelay

open Json (Nested Ordered)

namespace Message

/-- **What a message is like that came with an event.** -/
structure Received (m : Message) : Prop where
  ordered : Ordered m.attributes
  nested : ∀ a ∈ m.attributes, Nested 3 a.2
  name_ne : ∀ a ∈ m.attributes, a.1 ≠ "messageId" ∧ a.1 ≠ "body"

theorem isSolid_eventShape : eventShape.IsSolid := ⟨⟨trivial, trivial, trivial⟩, trivial⟩

theorem received_ofJson {v : Json} (h : Nested 2 v) : (ofJson v).Received := by
  cases v with
  | object members =>
    obtain ⟨hordered, hnested⟩ := (Json.nested_object (by decide)).1 h
    refine ⟨hordered.filter _, fun a ha => hnested a (List.mem_filter.1 ha).1, fun a ha => ?_⟩
    have hnames := (List.mem_filter.1 ha).2
    rw [Bool.and_eq_true, bne_iff_ne, bne_iff_ne] at hnames
    exact hnames
  | _ => exact ⟨.nil, List.forall_mem_nil _, List.forall_mem_nil _⟩

theorem nested_itemsAt {v : Json} (h : Nested 0 v) (name : String) : ∀ item ∈ v.itemsAt name, Nested 2 item := by
  unfold Json.itemsAt
  split
  · rename_i items hmember
    cases v with
    | object members =>
      have hitems := ((Json.nested_object (by decide)).1 h).2 _ (mem_of_lookup_eq_some hmember)
      exact (Json.nested_array (by decide)).1 hitems
    | _ => cases hmember
  · exact List.forall_mem_nil _

theorem readEvent_of_read {text : String} {event : Json} (h : Json.read eventShape text = .ok event) :
    readEvent text = .ok ((event.itemsAt "Records").map ofJson) := by
  rw [readEvent, h]
  rfl

/-- **All messages of an event.** -/
theorem received_of_readEvent {text : String} {messages : List Message} (h : readEvent text = .ok messages) :
    ∀ m ∈ messages, m.Received := by
  intro m hm
  cases hread : Json.read eventShape text with
  | error e =>
    rw [readEvent, hread] at h
    cases h
  | ok event =>
    rw [readEvent_of_read hread] at h
    cases h
    obtain ⟨item, hitem, rfl⟩ := List.mem_map.1 hm
    exact received_ofJson (nested_itemsAt (Json.nested_of_read isSolid_eventShape hread) _ item hitem)

end Message
end ObjectRelay
