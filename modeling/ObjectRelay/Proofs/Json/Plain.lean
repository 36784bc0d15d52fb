import ObjectRelay.Json.Reader
import ObjectRelay.Proofs.Json.Value
/-!
# Shapes without records

What is read under a shape that has no record in it, and passes nothing over, stays as it is (`Shape.IsPlain`).  A value
that such a shape takes is made of values that the shapes inside of it take (`Shape.Takes.array`, `Shape.Takes.object`).
-/
namespace ObjectRelay.Json
namespace Shape

/-- Whether a shape has no record in it and passes nothing over. -/
def IsPlain : Shape → Prop
  | .any | .text | .integer | .flag => True
  | .nullable s | .list s | .table s => IsPlain s
  | .ignored | .record .. => False

/-- **Whether a value can be read under a plain shape.** -/
structure Takes (s : Shape) (v : Json) : Prop where
  plain : s.IsPlain
  conform : s.conform v = some v

variable {s : Shape} {v : Json}

theorem takes_any (v : Json) : any.Takes v := ⟨trivial, rfl⟩

theorem IsPlain.isIgnored (h : s.IsPlain) : s.isIgnored = false := by
  cases s <;> first | rfl | cases h

theorem IsPlain.present : ∀ {s : Shape}, s.IsPlain → s.present.IsPlain
  | .nullable s, h => IsPlain.present (s := s) h
  | .any, h | .text, h | .integer, h | .flag, h | .list _, h | .table _, h => h

/-- The shape of the items of an array, if it may be one. -/
def item? (s : Shape) : Option Shape := match s.present with
  | .any => some .any
  | .list item => some item
  | _ => none

/-- The shape of the members of an object, if it may be one and all of them have the same. -/
def member? (s : Shape) : Option Shape := match s.present with
  | .any => some .any
  | .table value => some value
  | _ => none

theorem IsPlain.of_item? (h : s.IsPlain) {item : Shape} (hitem : s.item? = some item) : item.IsPlain := by
  have hpresent := h.present
  unfold item? at hitem
  split at hitem <;> cases hitem
  · trivial
  · rename_i hlist
    rwa [hlist] at hpresent

theorem IsPlain.of_member? (h : s.IsPlain) {value : Shape} (hvalue : s.member? = some value) : value.IsPlain := by
  have hpresent := h.present
  unfold member? at hvalue
  split at hvalue <;> cases hvalue
  · trivial
  · rename_i htable
    rwa [htable] at hpresent

theorem IsPlain.open?_bracket (h : s.IsPlain) : s.open? 0x5B = s.item?.map fun item => .items item [] := by
  have hpresent := h.present
  unfold open? item?
  cases hs : s.present with
  | ignored | record => rw [hs] at hpresent; cases hpresent
  | _ => rfl

theorem IsPlain.open?_brace (h : s.IsPlain) {b : UInt8} (hb : (b == 0x5B) = false) :
    s.open? b = s.member?.map fun value => .table value "" [] := by
  have hpresent := h.present
  unfold open? member?
  rw [hb]
  cases hs : s.present with
  | ignored | record => rw [hs] at hpresent; cases hpresent
  | _ => rfl

theorem IsPlain.passesNames_table (h : s.IsPlain) {name : String} {done : List (String × Json)} :
    (Frame.table s name done).passesNames = false := by
  cases s <;> first | rfl | cases h

theorem IsPlain.add_table (h : s.IsPlain) (name : String) (done : List (String × Json)) (v : Json) :
    (Frame.table s name done).add v = .table s name (insert name v done) := by
  cases s <;> first | rfl | cases h

/-! ## Values -/

/-- Outside of arrays and objects, reading under a shape is the same for what is known and for what is being read. -/
theorem scalar_eq_conform : ∀ {s : Shape}, s.IsPlain → ∀ {v : Json}, v.depth = 0 → s.scalar v = s.conform v
  | .any, _, _, _ => by rw [Shape.conform]; rfl
  | .text, _, _, _ | .integer, _, _, _ | .flag, _, _, _ => by rw [Shape.conform]
  | .nullable s, h, v, hv => by
    cases v with
    | null => rfl
    | array | object => cases hv
    | _ => exact scalar_eq_conform (s := s) h hv
  | .list s, _, v, hv | .table s, _, v, hv => by
    cases v with
    | array | object => cases hv
    | _ => rfl

theorem Takes.scalar (h : s.Takes v) (hv : v.depth = 0) : s.scalar v = some v := by
  rw [scalar_eq_conform h.plain hv, h.conform]

theorem mapM_eq_self {α : Type} {f : α → Option α} : ∀ {l : List α}, l.mapM f = some l ↔ ∀ a ∈ l, f a = some a
  | [] => by simp
  | a :: l => by
    rw [List.mapM_cons, List.forall_mem_cons, ← mapM_eq_self (l := l)]
    cases f a with
    | none => simp
    | some b => cases l.mapM f <;> simp

theorem conform_array : ∀ {s : Shape}, s.IsPlain → ∀ items : List Json,
    s.conform (.array items) = s.item?.bind fun item => (items.mapM item.conform).map .array
  | .any, _, items => by
    have hitems : items.mapM (Shape.conform .any) = some items := mapM_eq_self.2 fun _ _ => by rw [Shape.conform]
    have hany : Shape.item? .any = some .any := rfl
    rw [hany, Option.bind_some, hitems, Shape.conform]
    rfl
  | .text, _, _ | .integer, _, _ | .flag, _, _ => by rw [Shape.conform]; rfl
  | .table _, _, _ => by
    rw [Shape.conform]
    · rfl
    · intro _ h
      cases h
  | .nullable s, h, items => by
    have hpresent : (Shape.nullable s).item? = s.item? := rfl
    rw [Shape.conform, hpresent, conform_array (s := s) h]
    intro h
    cases h
  | .list s, _, items => by
    rw [Shape.conform]
    rfl

theorem conform_object : ∀ {s : Shape}, s.IsPlain → ∀ members : List (String × Json),
    s.conform (.object members) = s.member?.bind fun value =>
      (members.mapM fun m => (value.conform m.2).map fun v => (m.1, v)).map .object
  | .any, _, members => by
    have hmembers : (members.mapM fun m => (Shape.conform .any m.2).map fun v => (m.1, v)) = some members :=
      mapM_eq_self.2 fun _ _ => by rw [Shape.conform]; rfl
    have hany : Shape.member? .any = some .any := rfl
    rw [hany, Option.bind_some, hmembers, Shape.conform]
    rfl
  | .text, _, _ | .integer, _, _ | .flag, _, _ => by rw [Shape.conform]; rfl
  | .list _, _, _ => by
    rw [Shape.conform]
    · rfl
    · intro _ h
      cases h
  | .nullable s, h, members => by
    have hpresent : (Shape.nullable s).member? = s.member? := rfl
    rw [Shape.conform, hpresent, conform_object (s := s) h]
    intro h
    cases h
  | .table s, _, members => by
    rw [Shape.conform]
    rfl

/-- **An array is taken with its items.** -/
theorem takes_array (h : s.IsPlain) {items : List Json} :
    s.Takes (.array items) ↔ ∃ item, s.item? = some item ∧ ∀ v ∈ items, item.Takes v := by
  refine ⟨fun htakes => ?_, fun ⟨item, hitem, hitems⟩ => ⟨h, ?_⟩⟩
  · have hconform := htakes.conform
    rw [conform_array h] at hconform
    obtain ⟨item, hitem, hmap⟩ := Option.bind_eq_some_iff.1 hconform
    obtain ⟨items', hitems, heq⟩ := Option.map_eq_some_iff.1 hmap
    cases heq
    exact ⟨item, hitem, fun v hv => ⟨h.of_item? hitem, mapM_eq_self.1 hitems v hv⟩⟩
  · rw [conform_array h, hitem, Option.bind_some, mapM_eq_self.2 fun v hv => (hitems v hv).conform]
    rfl

/-- **An object is taken with its members.** -/
theorem takes_object (h : s.IsPlain) {members : List (String × Json)} :
    s.Takes (.object members) ↔ ∃ value, s.member? = some value ∧ ∀ m ∈ members, value.Takes m.2 := by
  have hself : ∀ {value : Shape} {m : String × Json},
      (value.conform m.2).map (fun v => (m.1, v)) = some m ↔ value.conform m.2 = some m.2 := by
    rintro value ⟨name, v⟩
    simp
  refine ⟨fun htakes => ?_, fun ⟨value, hvalue, hmembers⟩ => ⟨h, ?_⟩⟩
  · have hconform := htakes.conform
    rw [conform_object h] at hconform
    obtain ⟨value, hvalue, hmap⟩ := Option.bind_eq_some_iff.1 hconform
    obtain ⟨members', hmembers, heq⟩ := Option.map_eq_some_iff.1 hmap
    cases heq
    exact ⟨value, hvalue, fun m hm => ⟨h.of_member? hvalue, hself.1 (mapM_eq_self.1 hmembers m hm)⟩⟩
  · rw [conform_object h, hvalue, Option.bind_some, mapM_eq_self.2 fun m hm => hself.2 (hmembers m hm).conform]
    rfl

end Shape
end ObjectRelay.Json
