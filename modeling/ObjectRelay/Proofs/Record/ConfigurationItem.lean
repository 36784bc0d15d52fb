import ObjectRelay.Proofs.Json.Container
import ObjectRelay.Proofs.Json.Gathering
import ObjectRelay.Proofs.Record.Document
/-!
# The record of a configuration item

The record of an object has the members that a configuration item names, as they are, but for those that are `null`.
What the other members hold does not matter.  A record is written and read again without a change
(`Decoding.decodeAs_item`).
-/
namespace ObjectRelay

open Json (Shape Field Ordered readFrom)

/-- **The members of an object that its record has.** -/
def itemMembers (members : List (String × Json)) : List (String × Json) :=
  members.filter fun m => m.1 ∈ configurationFields.map (·.1) ∧ m.2 ≠ .null

theorem plainFields_configurationFields : Json.PlainFields configurationFields := by
  simp [Json.PlainFields, configurationFields, textField, anyField, Shape.IsPlain]

theorem isNullable_of_mem_configurationFields : ∀ f ∈ configurationFields, f.isNullable = true := by decide

theorem allPresent_configurationFields (members : List (String × Json)) :
    Json.allPresent configurationFields members = true := by
  have hmissing : ∀ f ∈ configurationFields, f.mayBeMissing = true := by decide
  exact List.all_eq_true.2 fun f hf => by rw [hmissing f hf, Bool.true_or]

namespace Decoding

variable {text : List UInt8} {members : List (String × Json)} {v : Json}

theorem nested_of_readFrom_any (hread : readFrom .any {} text = .ok (.object members)) :
    Ordered members ∧ ∀ m ∈ members, Json.Nested 1 m.2 := by
  have hsolid : Shape.any.IsSolid := trivial
  exact (Json.nested_object (by decide)).1 (Json.nested_of_readFrom hsolid Json.Reader.standing_start hread)

/-- **An object is read as the members that its record has**, and these are what its fields take. -/
theorem readFrom_item (hread : readFrom .any {} text = .ok (.object members))
    (hitem : readFrom configurationShape {} text = .ok v) : v = .object (itemMembers members) ∧
      ∀ m ∈ itemMembers members, ∃ f, Field.find? configurationFields m.1 = some f ∧ f.2.2.Takes m.2 := by
  obtain ⟨hordered, -⟩ := nested_of_readFrom_any hread
  obtain ⟨done, rfl, hgathered⟩ := Json.Reader.gathered_of_readFrom plainFields_configurationFields hitem hread
  refine ⟨hgathered.recordOf_eq hordered isNullable_of_mem_configurationFields, fun m hm => ?_⟩
  obtain ⟨hmem, hkept⟩ := List.mem_filter.1 hm
  obtain ⟨hname, -⟩ := of_decide_eq_true hkept
  obtain ⟨f, hf⟩ := Option.isSome_iff_exists.1 (Json.find?_isSome_iff.2 hname)
  exact ⟨f, hf, hgathered.takes hf (hordered.lookup_eq_some_iff.2 hmem)⟩

/-- **A record is read as it was written.** -/
theorem readFrom_itemMembers (hread : readFrom .any {} text = .ok (.object members))
    (hitem : readFrom configurationShape {} text = .ok v) (hwhole : (Json.object members).IsWhole) :
    readFrom configurationShape {} (Json.bytes (.object (itemMembers members))) =
      .ok (.object (itemMembers members)) := by
  obtain ⟨hordered, hnested⟩ := nested_of_readFrom_any hread
  obtain ⟨-, htakes⟩ := readFrom_item hread hitem
  have hitemOrdered : Ordered (itemMembers members) := hordered.filter _
  have hmem : ∀ m ∈ itemMembers members, m ∈ members := fun m hm => (List.mem_filter.1 hm).1
  have hfits : ∀ m ∈ itemMembers members, Json.Fits 1 m.2 := fun m hm =>
    { toNested := hnested m (hmem m hm), whole := Json.isWhole_object.1 hwhole m (hmem m hm) }
  have hnull : ∀ m ∈ itemMembers members, m.2 ≠ .null := fun m hm =>
    (of_decide_eq_true (List.mem_filter.1 hm).2).2
  rw [configurationShape, Json.Reader.readFrom_bytes_record hitemOrdered (fun m hm => ⟨hfits m hm, htakes m hm⟩)
    (allPresent_configurationFields _)]
  exact congrArg Except.ok (Json.recordOf_of_forall_ne_null hnull)

/-- **The record of a configuration item** has those members of the object that are named and not `null`, with their
values.  If the numbers in the object are integers, the record is decoded to itself. -/
theorem decodeAs_item (hread : readFrom .any {} text = .ok (.object members))
    (haccepted : IsAccepted "application/x-aws-change" text) :
    decodeAs "application/x-aws-change" text = .ok { records := [.object (itemMembers members)] } ∧
    ((Json.object members).IsWhole →
      decodeAs "application/x-aws-change" (Json.bytes (.object (itemMembers members))) =
        .ok { records := [.object (itemMembers members)] }) := by
  obtain ⟨d, hdecode, herror⟩ := haccepted
  rw [decodeAs_change] at hdecode
  cases hdecode
  obtain ⟨v, hv⟩ := RecordDecoder.exists_readFrom_of_error hread herror
  refine ⟨?_, fun hwhole => ?_⟩
  · rw [decodeAs_change, RecordDecoder.runFrom_of_readFrom hv, (readFrom_item hread hv).1]
  · rw [decodeAs_change, RecordDecoder.runFrom_of_readFrom (readFrom_itemMembers hread hv hwhole)]

def busyItem : List UInt8 :=
  Utf8.encode "\x7b\"other\":\x7b\"ARN\":1\x7d,\"configuration\":[5],\"awsRegion\":null,\"ARN\":\"a\"\x7d"

/-- The members of the object, in order. -/
def busyMembers : List (String × Json) :=
  [("ARN", .string "a"), ("awsRegion", .null), ("configuration", .array [.number (.int 5)]),
    ("other", .object [("ARN", .number (.int 1))])]

theorem decodeAs_item_busyItem :
    readFrom .any {} busyItem = .ok (.object busyMembers) ∧ IsAccepted "application/x-aws-change" busyItem ∧
    (Json.object busyMembers).IsWhole ∧
    itemMembers busyMembers = [("ARN", .string "a"), ("configuration", .array [.number (.int 5)])] ∧
    decodeAs "application/x-aws-change" busyItem = .ok { records := [.object (itemMembers busyMembers)] } ∧
    decodeAs "application/x-aws-change" (Json.bytes (.object (itemMembers busyMembers))) =
      .ok { records := [.object (itemMembers busyMembers)] } := by
  have hread : readFrom .any {} busyItem = .ok (.object busyMembers) := rfl
  have haccepted : IsAccepted "application/x-aws-change" busyItem := ⟨_, decodeAs_change busyItem, rfl⟩
  have hwhole : (Json.object busyMembers).IsWhole := by
    simp [busyMembers, Json.IsWhole, Json.Everywhere, Json.MembersEverywhere, Json.ItemsEverywhere, Json.Number.IsWhole]
  obtain ⟨hrecord, hagain⟩ := decodeAs_item hread haccepted
  exact ⟨hread, haccepted, hwhole, by decide, hrecord, hagain hwhole⟩

end Decoding
end ObjectRelay
