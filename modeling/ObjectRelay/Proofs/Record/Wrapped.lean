import ObjectRelay.Proofs.Json.Container
import ObjectRelay.Proofs.Record.Document
/-!
# Records in a file and on lines

A trail file and a configuration file hold their records in one list, which is read as a whole and inside of two
containers.  What they give is what the same texts give one to a line, each read alone (`Decoding.decodeAs_wrapped`).
-/
namespace ObjectRelay

open Json (Frame Reader Shape readFrom arrayText objectText WrittenMember IsOneValue)
open Json.Reader (Gathers ReadsInside highest)

/-- **Whether a file holds these texts in a list under a name**, with members of other names around it. -/
inductive IsFileOf (name : String) (texts : List (List UInt8)) : List UInt8 → Prop
  | intro {front back : List WrittenMember} {list : WrittenMember} {before after : List UInt8}
    (hname : list.IsNamed name) (hlist : list.value = before ++ arrayText texts ++ after)
    (hbefore : before.all Json.isSpace = true) (hafter : after.all Json.isSpace = true)
    (hothers : ∀ m ∈ front ++ back, IsOneValue m.value ∧ ∃ other, m.IsNamed other ∧ other ≠ name) :
    IsFileOf name texts (objectText (front ++ list :: back))

namespace IsFileOf

/-- The only field of a file that is read. -/
def listField (name : String) (item : Shape) : Json.Field := (name, .optional, .list item)

/-- What a file holds that is read. -/
def shapeOf (name : String) (item : Shape) : Shape := .record [listField name item] .skipped

/-- A file that is being read, and what it holds under the name of its list. -/
def opened (name : String) (item : Shape) (before : String) (done : List (String × Json)) : Frame :=
  .record [listField name item] .skipped before done

variable {top item : Shape} {name : String} {texts : List (List UInt8)} {file : List UInt8} {value : List UInt8 → Json}

theorem find?_listField : Json.Field.find? [listField name item] name = some (listField name item) := by
  simp [Json.Field.find?, listField]

theorem find?_listField_of_ne {other : String} (h : other ≠ name) :
    Json.Field.find? [listField name item] other = none := by
  simp [Json.Field.find?, listField, h.symm]

theorem expected_opened (done : List (String × Json)) : (opened name item name done).expected = .list item := by
  rw [opened, Frame.expected, find?_listField]
  rfl

theorem named_opened (before : String) : (opened name item before []).named name = some (opened name item name []) := by
  simp [opened, Frame.named, find?_listField]

theorem add_opened (v : Json) : (opened name item name []).add v = opened name item name [(name, v)] := by
  simp only [opened, Frame.add, find?_listField]
  rfl

/-- The list of a file is read item by item. -/
theorem readsInside_list (htexts : ∀ text ∈ texts, readFrom item {} text = .ok (value text) ∧
    highest item {} text ≤ 125) :
    ReadsInside top [opened name item name []] (arrayText texts) (.array (texts.map value)) := by
  have hexpected : (⟨.value, [opened name item name []]⟩ : Reader).expected top = .list item := expected_opened []
  have hroom : ∀ text ∈ texts, readFrom item {} (id text) = .ok (value text) ∧
      highest item {} (id text) + ([opened name item name []].length + 1) ≤ Json.maxDepth :=
    fun text htext => ⟨(htexts text htext).1, Nat.add_le_add_right (htexts text htext).2 2⟩
  have hdepth : [opened name item name []].length < Json.maxDepth := by simp [Json.maxDepth]
  have hread := Reader.readsInside_array (by rw [hexpected]; rfl) (by rw [hexpected]; rfl) hdepth hroom
  rwa [List.map_id] at hread

/-- Members of other names are passed over. -/
theorem exists_gathers {members : List WrittenMember}
    (h : ∀ m ∈ members, IsOneValue m.value ∧ ∃ other, m.IsNamed other ∧ other ≠ name) (before : String)
    (done : List (String × Json)) :
    ∃ last, Gathers top [] (opened name item before done) members (opened name item last done) := by
  refine Reader.exists_gathers_passed (fun m hm => ?_) before done
  obtain ⟨hone, other, hnamed, hne⟩ := h m hm
  exact ⟨hone, other, hnamed, find?_listField_of_ne hne⟩

theorem closing_opened (before : String) (items : List Json) :
    Reader.closing (opened name item before [(name, .array items)]) [] 0x7D =
      (some (.object [(name, .array items)]), .ok {}) := by
  simp [Reader.closing, opened, Frame.close?, Json.allPresent, listField, Json.Field.mayBeMissing, Json.recordOf,
    Reader.deliver]

/-- **A file is read as the list that it holds.** -/
theorem readFrom_eq (h : IsFileOf name texts file) (htexts : ∀ text ∈ texts,
    readFrom item {} text = .ok (value text) ∧ highest item {} text ≤ 125) :
    readFrom (shapeOf name item) {} file = .ok (.object [(name, .array (texts.map value))]) := by
  obtain @⟨front, back, list, before, after, hname, hlist, hbefore, hafter, hothers⟩ := h
  obtain ⟨hothersFront, hothersBack⟩ := List.forall_mem_append.1 hothers
  obtain ⟨last, hfront⟩ := exists_gathers hothersFront "" []
  obtain ⟨final, hback⟩ := exists_gathers hothersBack name [(name, .array (texts.map value))]
  have hvalue : ReadsInside (shapeOf name item) [opened name item name []] list.value (.array (texts.map value)) :=
    hlist ▸ (readsInside_list htexts).blanks hbefore hafter
  have hgathers : Gathers (shapeOf name item) [] (opened name item "" []) (front ++ list :: back)
      (opened name item final [(name, .array (texts.map value))]) :=
    hfront.append (.cons hname (named_opened last) hvalue (by rw [add_opened]; exact hback))
  have hplay : Reader.play (shapeOf name item) {} (objectText (front ++ list :: back) ++ []) = _ :=
    Reader.play_objectText rfl rfl (by decide) rfl hgathers []
  rw [List.append_nil, closing_opened] at hplay
  exact Reader.readFrom_of_play hplay

theorem itemsAt_list (items : List Json) : (Json.object [(name, .array items)]).itemsAt name = items := by
  simp [Json.itemsAt, Json.member?]

/-- **A file gives the items of its list as records.** -/
theorem runFrom_eq (h : IsFileOf name texts file) (htexts : ∀ text ∈ texts,
    readFrom item {} text = .ok (value text) ∧ highest item {} text ≤ 125) :
    (RecordDecoder.ofJson (shapeOf name item) (Json.itemsAt name)).runFrom .complete {} file =
      { records := texts.map value } := by
  rw [RecordDecoder.runFrom_of_readFrom (h.readFrom_eq htexts), itemsAt_list]

end IsFileOf

namespace Decoding

variable {texts : List (List UInt8)} {value : List UInt8 → Json}

/-- What is accepted as a configuration item is nested as deep as it is. -/
theorem exists_item
    (htexts : ∀ text ∈ texts, readFrom .any {} text = .ok (value text) ∧ highest .any {} text ≤ 125)
    (haccepted : ∀ text ∈ texts, IsAccepted "application/x-aws-change" text) : ∃ item : List UInt8 → Record,
      ∀ text ∈ texts, readFrom configurationShape {} text = .ok (item text) ∧
        highest configurationShape {} text ≤ 125 := by
  refine ⟨fun text => (readFrom configurationShape {} text).toOption.getD .null, fun text htext => ?_⟩
  obtain ⟨hread, hdepth⟩ := htexts text htext
  obtain ⟨d, hdecode, herror⟩ := haccepted text htext
  rw [decodeAs_change] at hdecode
  cases hdecode
  obtain ⟨v, hv⟩ := RecordDecoder.exists_readFrom_of_error hread herror
  have hsame : highest configurationShape {} text = highest .any {} text :=
    Reader.highest_eq Reader.samePlace_start hv hread
  refine ⟨?_, hsame ▸ hdepth⟩
  dsimp only
  rw [hv]
  rfl

/-- **The records of a file are those of its texts on lines.**  A trail file gives what its texts are as JSON, and a
configuration file what they are as configuration items, if all of them are accepted as such. -/
theorem decodeAs_wrapped
    (htexts : ∀ text ∈ texts, readFrom .any {} text = .ok (value text) ∧ highest .any {} text ≤ 125) :
    (decodeAs "application/x-ndjson" (framed texts) = .ok { records := texts.map value } ∧
      ∀ file, IsFileOf "Records" texts file →
        decodeAs "application/x-aws-cloudtrail" file = .ok { records := texts.map value }) ∧
    ((∀ text ∈ texts, IsAccepted "application/x-aws-change" text) → ∃ item : List UInt8 → Record,
      (∀ text ∈ texts, decodeAs "application/x-aws-change" text = .ok { records := [item text] }) ∧
      decodeAs "application/x-aws-change" (framed texts) = .ok { records := texts.map item } ∧
      ∀ file, IsFileOf "configurationItems" texts file →
        decodeAs "application/x-aws-config" file = .ok { records := texts.map item }) := by
  refine ⟨⟨?_, fun file hfile => ?_⟩, fun haccepted => ?_⟩
  · rw [decodeAs_lines, RecordDecoder.runFrom_framed fun text htext => (htexts text htext).1, ← List.map_eq_flatMap]
  · rw [decodeAs_trail]
    exact congrArg Except.ok (hfile.runFrom_eq htexts)
  · obtain ⟨item, hitem⟩ := exists_item htexts haccepted
    refine ⟨item, fun text htext => ?_, ?_, fun file hfile => ?_⟩
    · rw [decodeAs_change, RecordDecoder.runFrom_of_readFrom (hitem text htext).1]
    · rw [decodeAs_change, RecordDecoder.runFrom_framed fun text htext => (hitem text htext).1, ← List.map_eq_flatMap]
    · rw [decodeAs_configuration]
      exact congrArg Except.ok (hfile.runFrom_eq hitem)

def twoItems : List (List UInt8) :=
  [Utf8.encode "\x7b\"ARN\":\"a\",\"b\":[1,2]\x7d", Utf8.encode " \x7b\"tags\":\x7b\"t\":\"u\"\x7d,\"ARN\":null\x7d"]

/-- The items under this name, between two other members. -/
def twoItemsFile (name : String) : List UInt8 :=
  objectText ([⟨Utf8.encode "\"v\"", Utf8.encode "1"⟩] ++
    ⟨Utf8.encode (" \"" ++ name ++ "\""), [0x20] ++ arrayText twoItems ++ [0x0A]⟩ ::
      [⟨Utf8.encode "\"w\"", Utf8.encode "\x7b\x7d"⟩])

theorem isFileOf_twoItemsFile {name : String} (hv : "v" ≠ name) (hw : "w" ≠ name)
    (hname : readFrom .text {} (Utf8.encode (" \"" ++ name ++ "\"")) = .ok (.string name)) :
    IsFileOf name twoItems (twoItemsFile name) :=
  .intro hname rfl rfl rfl
    (List.forall_mem_cons.2 ⟨⟨⟨_, rfl⟩, "v", rfl, hv⟩, List.forall_mem_singleton.2 ⟨⟨_, rfl⟩, "w", rfl, hw⟩⟩)

/-- What a text is as JSON, if it is. -/
def valueOf (text : List UInt8) : Json := (readFrom .any {} text).toOption.getD .null

theorem decodeAs_wrapped_twoItems :
    (∀ text ∈ twoItems, readFrom .any {} text = .ok (valueOf text) ∧ highest .any {} text ≤ 125) ∧
    IsFileOf "Records" twoItems (twoItemsFile "Records") ∧
    (∀ text ∈ twoItems, IsAccepted "application/x-aws-change" text) ∧
    IsFileOf "configurationItems" twoItems (twoItemsFile "configurationItems") ∧
    decodeAs "application/x-aws-cloudtrail" (twoItemsFile "Records") =
      decodeAs "application/x-ndjson" (framed twoItems) ∧
    decodeAs "application/x-aws-config" (twoItemsFile "configurationItems") =
      decodeAs "application/x-aws-change" (framed twoItems) := by
  have htexts : ∀ text ∈ twoItems, readFrom .any {} text = .ok (valueOf text) ∧ highest .any {} text ≤ 125 :=
    List.forall_mem_cons.2 ⟨⟨rfl, by decide⟩, List.forall_mem_singleton.2 ⟨rfl, by decide⟩⟩
  have haccepted : ∀ text ∈ twoItems, IsAccepted "application/x-aws-change" text :=
    List.forall_mem_cons.2 ⟨⟨_, decodeAs_change _, rfl⟩, List.forall_mem_singleton.2 ⟨_, decodeAs_change _, rfl⟩⟩
  have htrail : IsFileOf "Records" twoItems (twoItemsFile "Records") :=
    isFileOf_twoItemsFile (by decide) (by decide) rfl
  have hconfiguration : IsFileOf "configurationItems" twoItems (twoItemsFile "configurationItems") :=
    isFileOf_twoItemsFile (by decide) (by decide) rfl
  obtain ⟨⟨hlines, hfile⟩, hitems⟩ := decodeAs_wrapped htexts
  obtain ⟨item, -, hchanges, hitemFile⟩ := hitems haccepted
  exact ⟨htexts, htrail, haccepted, hconfiguration, (hfile _ htrail).trans hlines.symm,
    (hitemFile _ hconfiguration).trans hchanges.symm⟩

end Decoding
end ObjectRelay
