import ObjectRelay.Json.Shape
import ObjectRelay.Proofs.Lists
/-!
# Records under a shape

What `Shape.conform` makes of an object, field by field: a record is read by its fields alone, whatever other members
there are (`conform_record_of_read`), and holds in each field what the object holds there
(`member?_of_conform_record`).
-/
namespace ObjectRelay.Json

variable {name : String} {members found : List (String × Json)}

theorem lookup_insert (name other : String) (v : Json) : ∀ members : List (String × Json),
    (insert name v members).lookup other = if other = name then some v else members.lookup other
  | [] => lookup_cons_eq name other v []
  | (n, w) :: rest => by
    by_cases hn : name = n
    · subst hn
      rw [insert, if_pos (by simp), lookup_cons_eq, lookup_cons_eq]
      by_cases h : other = name <;> simp [h]
    · rw [insert, if_neg (by simpa using hn)]
      by_cases hlt : name < n
      · rw [if_pos hlt, lookup_cons_eq]
      · rw [if_neg hlt, lookup_cons_eq, lookup_cons_eq, lookup_insert name other v rest]
        by_cases h : other = n
        · subst h; simp [Ne.symm hn]
        · simp [h]

theorem mem_names_insert (name other : String) (v : Json) : ∀ members : List (String × Json),
    other ∈ (insert name v members).map (·.1) ↔ other = name ∨ other ∈ members.map (·.1)
  | [] => by simp [insert]
  | (n, w) :: rest => by
    by_cases hn : name = n
    · subst hn; simp [insert]
    · rw [insert, if_neg (by simpa using hn)]
      split
      · simp
      · simp only [List.map_cons, List.mem_cons, mem_names_insert name other v rest]
        exact or_left_comm

theorem nodup_names_insert (name : String) (v : Json) : ∀ members : List (String × Json),
    (members.map (·.1)).Nodup → name ∉ members.map (·.1) → ((insert name v members).map (·.1)).Nodup
  | [], _, _ => by simp [insert]
  | (n, w) :: rest, hnd, hm => by
    rw [List.map_cons, List.mem_cons, not_or] at hm
    rw [List.map_cons, List.nodup_cons] at hnd
    rw [insert, if_neg (by simpa using hm.1)]
    split
    · simp only [List.map_cons, List.nodup_cons, List.mem_cons, not_or]
      exact ⟨hm, hnd⟩
    · simp only [List.map_cons, List.nodup_cons, mem_names_insert, not_or]
      exact ⟨⟨Ne.symm hm.1, hnd.1⟩, nodup_names_insert name v rest hnd.2 hm.2⟩

theorem lookup_eq_none_of_notMem (h : name ∉ members.map (·.1)) : members.lookup name = none := by
  rw [List.lookup_eq_none_iff]
  intro p hp
  have : name ≠ p.1 := fun hn => h (hn ▸ List.mem_map_of_mem hp)
  simpa using this

theorem lookup_filter (p : String × Json → Bool) (name : String) : ∀ members : List (String × Json),
    (members.map (·.1)).Nodup → (members.filter p).lookup name = (members.lookup name).filter fun v => p (name, v)
  | [], _ => rfl
  | (n, w) :: rest, hnd => by
    rw [List.map_cons, List.nodup_cons] at hnd
    rw [lookup_cons_eq]
    by_cases hn : name = n
    · subst hn
      rw [List.filter_cons, if_pos rfl, Option.filter_some]
      split
      · rw [lookup_cons_eq, if_pos rfl]
      · exact lookup_eq_none_of_notMem fun h => hnd.1 (by
          obtain ⟨m, hm, hmn⟩ := List.mem_map.1 h
          exact List.mem_map.2 ⟨m, (List.mem_filter.1 hm).1, hmn⟩)
    · rw [if_neg hn, ← lookup_filter p name rest hnd.2, List.filter_cons]
      split
      · rw [lookup_cons_eq, if_neg hn]
      · rfl

/-! ## The fields of a record -/

/-- What a field holds in an object, read under its shape. -/
def Field.read? (f : Field) (members : List (String × Json)) : Option Json :=
  (members.lookup f.1).bind f.2.2.conform

/-- Whether the object has nothing for the field, or something of its shape. -/
def Field.Fits (f : Field) (members : List (String × Json)) : Prop :=
  members.lookup f.1 = none ∨ (f.read? members).isSome

/-- Whether a value stands for itself in the field, and not for a missing one. -/
def Field.keeps (f : Field) (v : Json) : Bool := match v with
  | .null => !f.isNullable
  | _ => true

theorem filter_keeps {f : Field} (h : f.isNullable = false) (v? : Option Json) : v?.filter f.keeps = v? := by
  cases v? with
  | none => rfl
  | some v => cases v <;> simp [Option.filter, Field.keeps, h]

theorem conformNamed_of_fits : ∀ {fields : List Field}, (∀ f ∈ fields, f.Fits members) →
    ∃ found, conformNamed fields members = some found
  | [], _ => ⟨[], rfl⟩
  | (name, p, s) :: fields, h => by
    obtain ⟨rest, hrest⟩ := conformNamed_of_fits fun f hf => h f (List.mem_cons_of_mem _ hf)
    rw [conformNamed, hrest]
    rcases h _ List.mem_cons_self with hnone | hsome
    · exact ⟨rest, by simp [hnone]⟩
    · obtain ⟨v, hv⟩ := Option.isSome_iff_exists.1 hsome
      obtain ⟨w, hw, hc⟩ := Option.bind_eq_some_iff.1 hv
      exact ⟨insert name v rest, by simp [hw, hc]⟩

/-- **The members read for the fields of a record are what the fields hold, and no others.** -/
theorem lookup_conformNamed : ∀ {fields : List Field} {found : List (String × Json)}, (fields.map (·.1)).Nodup →
    conformNamed fields members = some found → (found.map (·.1)).Nodup ∧
      (∀ f ∈ fields, f.Fits members ∧ found.lookup f.1 = f.read? members) ∧
      ∀ name ∈ found.map (·.1), name ∈ fields.map (·.1)
  | [], found, _, h => by
    rw [conformNamed] at h
    cases h
    simp
  | (name, p, s) :: fields, found, hnd, h => by
    rw [List.map_cons, List.nodup_cons] at hnd
    rw [conformNamed] at h
    obtain ⟨rest, hrest, h⟩ := Option.bind_eq_some_iff.1 h
    obtain ⟨hnodup, hfields, hnames⟩ := lookup_conformNamed hnd.2 hrest
    have hnew : name ∉ rest.map (·.1) := fun hm => hnd.1 (hnames name hm)
    cases hv : members.lookup name with
    | none =>
      rw [hv] at h
      cases h
      refine ⟨hnodup, fun f hf => ?_, fun n hn => List.mem_cons_of_mem _ (hnames n hn)⟩
      rcases List.mem_cons.1 hf with rfl | hf
      · exact ⟨.inl hv, by rw [lookup_eq_none_of_notMem hnew, Field.read?, hv]; rfl⟩
      · exact hfields f hf
    | some v =>
      rw [hv] at h
      obtain ⟨w, hw, h⟩ := Option.bind_eq_some_iff.1 h
      cases h
      have hread : Field.read? (name, p, s) members = some w := by rw [Field.read?, hv]; exact hw
      refine ⟨nodup_names_insert name w rest hnodup hnew, fun f hf => ?_, fun n hn => ?_⟩
      · rcases List.mem_cons.1 hf with rfl | hf
        · exact ⟨.inr (by rw [hread]; rfl), by rw [lookup_insert, if_pos rfl, hread]⟩
        · have hne : f.1 ≠ name := fun he => hnd.1 (List.mem_map.2 ⟨f, hf, he⟩)
          exact ⟨(hfields f hf).1, by rw [lookup_insert, if_neg hne, (hfields f hf).2]⟩
      · rcases (mem_names_insert name n w rest).1 hn with rfl | hn
        · exact List.mem_cons_self
        · exact List.mem_cons_of_mem _ (hnames n hn)

theorem find?_eq_some_of_nodup : ∀ {fields : List Field} {f : Field}, (fields.map (·.1)).Nodup → f ∈ fields →
    Field.find? fields f.1 = some f
  | [], _, _, h => nomatch h
  | g :: fields, f, hnd, h => by
    rw [List.map_cons, List.nodup_cons] at hnd
    rcases List.mem_cons.1 h with rfl | h
    · simp [Field.find?]
    · have hne : g.1 ≠ f.1 := fun he => hnd.1 (he ▸ List.mem_map_of_mem h)
      rw [Field.find?, List.find?_cons_of_neg (by simpa using hne), ← Field.find?]
      exact find?_eq_some_of_nodup hnd.2 h

/-- A record that passes over other members is read by its fields alone. -/
theorem conform_record (fields : List Field) (members : List (String × Json)) :
    Shape.conform (.record fields .skipped) (.object members) = (conformNamed fields members).bind fun found =>
      if allPresent fields found then some (recordOf fields found) else none := by
  rw [Shape.conform]
  cases conformNamed fields members with
  | none => rfl
  | some found => cases h : allPresent fields found <;> simp [h]

theorem member?_recordOf {fields : List Field} {f : Field} (hnd : (fields.map (·.1)).Nodup) (hf : f ∈ fields)
    (hfound : (found.map (·.1)).Nodup) : (recordOf fields found).member? f.1 = (found.lookup f.1).filter f.keeps := by
  have hfind := find?_eq_some_of_nodup hnd hf
  rw [recordOf, member?, lookup_filter _ _ _ hfound]
  congr 1
  funext v
  cases v <;> simp [hfind, Field.keeps]

/-- **What a record that was read holds**: in each field what the object holds there, read under the shape of the
field, but for a `null` that means a missing value. -/
theorem member?_of_conform_record {fields : List Field} {r : Json} (hnd : (fields.map (·.1)).Nodup)
    (h : Shape.conform (.record fields .skipped) (.object members) = some r) {f : Field} (hf : f ∈ fields) :
    r.member? f.1 = (f.read? members).filter f.keeps := by
  rw [conform_record] at h
  obtain ⟨found, hfound, h⟩ := Option.bind_eq_some_iff.1 h
  obtain ⟨hnodup, hfields, -⟩ := lookup_conformNamed hnd hfound
  split at h
  · cases h
    rw [member?_recordOf hnd hf hnodup, (hfields f hf).2]
  · cases h

/-- **Which objects are records**: those with something of the right shape in every field, but for fields that may
be missing. -/
theorem conform_record_of_read (fields : List Field) (members : List (String × Json)) (hnd : (fields.map (·.1)).Nodup)
    (h : ∀ f ∈ fields, (∃ w, f.read? members = some w) ∨ f.2.1 ≠ .required ∧ members.lookup f.1 = none) :
    ∃ r, Shape.conform (.record fields .skipped) (.object members) = some r ∧
      ∀ f ∈ fields, r.member? f.1 = (f.read? members).filter f.keeps := by
  have hfit : ∀ f ∈ fields, f.Fits members := fun f hf =>
    (h f hf).elim (fun ⟨w, hw⟩ => .inr (by rw [hw]; rfl)) fun hnone => .inl hnone.2
  obtain ⟨found, hfound⟩ := conformNamed_of_fits hfit
  obtain ⟨-, hfields, -⟩ := lookup_conformNamed hnd hfound
  have hall : allPresent fields found = true := by
    refine List.all_eq_true.2 fun f hf => ?_
    rcases h f hf with ⟨w, hw⟩ | ⟨hp, -⟩
    · rw [(hfields f hf).2, hw, Option.isSome_some, Bool.or_true]
    · have : f.mayBeMissing = true := by simpa [Field.mayBeMissing] using hp
      rw [this, Bool.true_or]
  have hr : Shape.conform (.record fields .skipped) (.object members) = some (recordOf fields found) := by
    rw [conform_record, hfound]
    simp [hall]
  exact ⟨_, hr, fun f hf => member?_of_conform_record hnd hr hf⟩

/-! ## Looking into a record that was read -/

theorem eq_object_of_member? {v value : Json} {name : String} (h : v.member? name = some value) :
    ∃ members, v = .object members ∧ members.lookup name = some value := by
  cases v with
  | object members => exact ⟨members, rfl, h⟩
  | _ => cases h

theorem read?_of_conform {name : String} {p : Presence} {s : Shape} {v w : Json} (h : members.lookup name = some v)
    (hs : s.conform v = some w) : Field.read? (name, p, s) members = some w := by
  rw [Field.read?, h]
  exact hs

theorem read?_text {name s : String} {p : Presence} (h : members.lookup name = some (.string s)) :
    Field.read? (name, p, .text) members = some (.string s) := read?_of_conform h rfl

theorem textAt_eq {name s : String} {v : Json} (h : v.member? name = some (.string s)) : v.textAt name = s := by
  rw [textAt, h]

theorem recordAt_eq {name : String} {v w : Json} (h : v.member? name = some w) : v.recordAt name = w := by
  rw [recordAt, h]
  rfl

theorem itemsAt_eq {name : String} {v : Json} {items : List Json} (h : v.member? name = some (.array items)) :
    v.itemsAt name = items := by
  rw [itemsAt, h]

/-- A text field holds the text of the object, and none if the object has none. -/
theorem textAt_of_conform_record {fields : List Field} {name : String} {p : Presence} {r : Json}
    (hnd : (fields.map (·.1)).Nodup) (h : Shape.conform (.record fields .skipped) (.object members) = some r)
    (hf : (name, p, .text) ∈ fields) : r.textAt name = (Json.object members).textAt name := by
  have hm := member?_of_conform_record hnd h hf
  simp only at hm
  rw [textAt, hm, textAt, member?, Field.read?]
  cases members.lookup name with
  | none => rfl
  | some v => cases v <;> rfl

end ObjectRelay.Json
