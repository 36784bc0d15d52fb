import ObjectRelay.Json.Reader
import ObjectRelay.Proofs.Json.Shape
/-!
# What a value is made of

How deep a value is nested, what holds of everything in it, and the order of the members of an object.  Members
that are in order stay as they are when they are taken up one after another (`insertAll_append`).
-/
namespace ObjectRelay.Json

/-! ## Members in order -/

/-- Whether members are in increasing order of their names, each name once. -/
def Ordered (members : List (String × Json)) : Prop := members.Pairwise fun m m' => m.1 < m'.1

/-- The members that are there when some more have been taken up one after another. -/
def insertAll (done members : List (String × Json)) : List (String × Json) :=
  members.foldl (fun done m => insert m.1 m.2 done) done

theorem objectOf_eq (members : List (String × Json)) : objectOf members = object (insertAll [] members) := rfl

theorem lt_of_ne_of_not_lt {a b : String} (hne : a ≠ b) (hlt : ¬a < b) : b < a := by
  refine Decidable.byContradiction fun hge => hne ?_
  exact String.le_antisymm (String.not_lt.1 hge) (String.not_lt.1 hlt)

theorem mem_insert {name : String} {v : Json} {m : String × Json} : ∀ {members : List (String × Json)},
    m ∈ insert name v members → m = (name, v) ∨ m ∈ members
  | [], h => .inl (List.mem_singleton.1 h)
  | (other, w) :: rest, h => by
    rw [insert] at h
    split at h
    · exact (List.mem_cons.1 h).imp_right (List.mem_cons_of_mem _)
    · split at h
      · exact List.mem_cons.1 h
      · rcases List.mem_cons.1 h with rfl | h
        · exact .inr List.mem_cons_self
        · exact (mem_insert h).imp_right (List.mem_cons_of_mem _)

theorem Ordered.insert {members : List (String × Json)} (h : Ordered members) (name : String) (v : Json) :
    Ordered (insert name v members) := by
  induction members with
  | nil => exact List.pairwise_singleton _ _
  | cons m rest ih =>
    obtain ⟨other, w⟩ := m
    obtain ⟨hfirst, hrest⟩ := List.pairwise_cons.1 h
    rw [Json.insert]
    split
    · rename_i heq
      obtain rfl := eq_of_beq heq
      exact List.pairwise_cons.2 ⟨hfirst, hrest⟩
    · rename_i hne
      split
      · rename_i hlt
        refine List.pairwise_cons.2 ⟨fun m hm => ?_, h⟩
        rcases List.mem_cons.1 hm with rfl | hm
        · exact hlt
        · exact String.lt_trans hlt (hfirst m hm)
      · rename_i hlt
        refine List.pairwise_cons.2 ⟨fun m hm => ?_, ih hrest⟩
        rcases mem_insert hm with rfl | hm
        · exact lt_of_ne_of_not_lt (by simpa using hne) hlt
        · exact hfirst m hm

theorem insert_of_forall_lt {name : String} {v : Json} : ∀ {done : List (String × Json)}, (∀ m ∈ done, m.1 < name) →
    insert name v done = done ++ [(name, v)]
  | [], _ => rfl
  | (other, w) :: rest, h => by
    have hlt : other < name := h _ List.mem_cons_self
    have hne : ¬name = other := fun heq => String.lt_irrefl _ (heq ▸ hlt)
    rw [insert, if_neg (by simpa using hne), if_neg (String.lt_asymm hlt),
      insert_of_forall_lt fun m hm => h m (List.mem_cons_of_mem _ hm)]
    rfl

/-- **Members in order are taken up as they are.** -/
theorem insertAll_append : ∀ {members done : List (String × Json)}, Ordered (done ++ members) →
    insertAll done members = done ++ members
  | [], done, _ => (List.append_nil done).symm
  | m :: rest, done, h => by
    obtain ⟨-, -, hbefore⟩ := List.pairwise_append.1 h
    have hone : insert m.1 m.2 done = done ++ [m] :=
      insert_of_forall_lt fun other hother => hbefore other hother m List.mem_cons_self
    rw [insertAll, List.foldl_cons, hone, ← insertAll, insertAll_append (by simpa using h)]
    simp

theorem insertAll_nil {members : List (String × Json)} (h : Ordered members) : insertAll [] members = members :=
  insertAll_append h

theorem Ordered.insertAll : ∀ {members done : List (String × Json)}, Ordered done → Ordered (insertAll done members)
  | [], _, h => h
  | m :: _, _, h => (h.insert m.1 m.2).insertAll

theorem Ordered.filter {members : List (String × Json)} (h : Ordered members) (p : String × Json → Bool) :
    Ordered (members.filter p) := List.Pairwise.filter p h

theorem lookup_insertAll (name : String) (members done : List (String × Json)) :
    (insertAll done members).lookup name = (members.reverse ++ done).lookup name := by
  induction members generalizing done with
  | nil => rfl
  | cons m rest ih =>
    rw [insertAll, List.foldl_cons, ← insertAll, ih, List.lookup_append, lookup_insert, List.reverse_cons,
      List.append_assoc, List.lookup_append, List.singleton_append, lookup_cons_eq]

theorem member?_objectOf (name : String) (members : List (String × Json)) :
    (objectOf members).member? name = members.reverse.lookup name := by
  rw [objectOf_eq, member?, lookup_insertAll, List.append_nil]

/-- The last member of a name counts. -/
theorem member?_objectOf_of_last {name : String} {v : Json} (before : List (String × Json))
    {after : List (String × Json)} (h : ∀ m ∈ after, m.1 ≠ name) :
    (objectOf (before ++ (name, v) :: after)).member? name = some v := by
  have hafter : after.reverse.lookup name = none := by
    rw [List.lookup_eq_none_iff]
    intro m hm
    simpa using (h m (List.mem_reverse.1 hm)).symm
  rw [member?_objectOf, List.reverse_append, List.reverse_cons, List.append_assoc, List.lookup_append, hafter,
    List.singleton_append, List.lookup_cons_self]
  rfl

theorem mem_of_member?_objectOf {name : String} {v : Json} {members : List (String × Json)}
    (h : (objectOf members).member? name = some v) : (name, v) ∈ members := by
  rw [member?_objectOf] at h
  exact List.mem_reverse.1 (mem_of_lookup_eq_some h)

/-- No member of an object is lost whose name no other one has. -/
theorem member?_objectOf_of_nodup {members : List (String × Json)} (h : (members.map Prod.fst).Nodup) {name : String}
    {v : Json} : (objectOf members).member? name = some v ↔ (name, v) ∈ members := by
  refine ⟨mem_of_member?_objectOf, fun hmem => ?_⟩
  obtain ⟨before, after, rfl⟩ := List.append_of_mem hmem
  rw [List.map_append, List.map_cons] at h
  obtain ⟨-, hafter, -⟩ := List.pairwise_append.1 h
  refine member?_objectOf_of_last before fun m hm heq => ?_
  have hne := (List.pairwise_cons.1 hafter).1 m.1 (List.mem_map_of_mem hm)
  exact hne heq.symm

/-- Members in order are told apart by their names. -/
theorem Ordered.exists_split {members : List (String × Json)} (h : Ordered members) {m : String × Json}
    (hm : m ∈ members) : ∃ before after, members = before ++ m :: after ∧ ∀ m' ∈ after, m'.1 ≠ m.1 := by
  obtain ⟨before, after, rfl⟩ := List.append_of_mem hm
  refine ⟨before, after, rfl, fun m' hm' heq => ?_⟩
  obtain ⟨-, htail, -⟩ := List.pairwise_append.1 h
  have hlt := (List.pairwise_cons.1 htail).1 m' hm'
  exact String.lt_irrefl _ (heq ▸ hlt)

theorem Ordered.lookup_eq_some_iff {name : String} {v : Json} : ∀ {members : List (String × Json)}, Ordered members →
    (members.lookup name = some v ↔ (name, v) ∈ members)
  | [], _ => by simp
  | (other, w) :: rest, h => by
    obtain ⟨hfirst, hrest⟩ := List.pairwise_cons.1 h
    refine ⟨mem_of_lookup_eq_some, fun hmem => ?_⟩
    rw [lookup_cons_eq]
    rcases List.mem_cons.1 hmem with heq | hmem
    · cases heq
      exact if_pos rfl
    · have hne : name ≠ other := fun heq => String.lt_irrefl _ (heq ▸ hfirst _ hmem)
      rw [if_neg hne]
      exact (Ordered.lookup_eq_some_iff hrest).2 hmem

/-! ## Values in values -/

mutual

/-- How deep arrays and objects are nested. -/
def depth : Json → Nat
  | array items => depthOfItems items + 1
  | object members => depthOfMembers members + 1
  | _ => 0

def depthOfItems : List Json → Nat
  | [] => 0
  | item :: rest => max (depth item) (depthOfItems rest)

def depthOfMembers : List (String × Json) → Nat
  | [] => 0
  | (_, v) :: rest => max (depth v) (depthOfMembers rest)

end

mutual

/-- Whether something holds of a value and of all values in it. -/
def Everywhere (p : Json → Prop) : Json → Prop
  | array items => p (array items) ∧ ItemsEverywhere p items
  | object members => p (object members) ∧ MembersEverywhere p members
  | v => p v

def ItemsEverywhere (p : Json → Prop) : List Json → Prop
  | [] => True
  | item :: rest => Everywhere p item ∧ ItemsEverywhere p rest

def MembersEverywhere (p : Json → Prop) : List (String × Json) → Prop
  | [] => True
  | (_, v) :: rest => Everywhere p v ∧ MembersEverywhere p rest

end

theorem depthOfItems_le_iff {d : Nat} : ∀ {items : List Json}, depthOfItems items ≤ d ↔ ∀ item ∈ items, item.depth ≤ d
  | [] => by simp [depthOfItems]
  | item :: rest => by
    rw [depthOfItems, Nat.max_le, depthOfItems_le_iff, List.forall_mem_cons]

theorem depthOfMembers_le_iff {d : Nat} : ∀ {members : List (String × Json)},
    depthOfMembers members ≤ d ↔ ∀ m ∈ members, m.2.depth ≤ d
  | [] => by simp [depthOfMembers]
  | (name, v) :: rest => by
    rw [depthOfMembers, Nat.max_le, depthOfMembers_le_iff, List.forall_mem_cons]

section Everywhere

variable {p : Json → Prop}

theorem itemsEverywhere_iff : ∀ {items : List Json}, ItemsEverywhere p items ↔ ∀ item ∈ items, Everywhere p item
  | [] => by simp [ItemsEverywhere]
  | item :: rest => by
    rw [ItemsEverywhere, itemsEverywhere_iff, List.forall_mem_cons]

theorem membersEverywhere_iff : ∀ {members : List (String × Json)},
    MembersEverywhere p members ↔ ∀ m ∈ members, Everywhere p m.2
  | [] => by simp [MembersEverywhere]
  | (name, v) :: rest => by
    rw [MembersEverywhere, membersEverywhere_iff, List.forall_mem_cons]

end Everywhere

/-- Whether a number is an integer of 64 bits, signed or not. -/
def Number.IsWhole : Json.Number → Prop
  | .int i => -0x8000000000000000 ≤ i ∧ i < 0x10000000000000000
  | .float _ => False

/-- **Whether all numbers in a value are integers.** -/
def IsWhole : Json → Prop := Everywhere fun
  | number n => n.IsWhole
  | _ => True

/-- **Whether the members of all objects in a value are in order.** -/
def IsOrdered : Json → Prop := Everywhere fun
  | object members => Ordered members
  | _ => True

theorem isOrdered_array {items : List Json} : (array items).IsOrdered ↔ ∀ item ∈ items, item.IsOrdered := by
  rw [IsOrdered, Everywhere, itemsEverywhere_iff]
  exact ⟨And.right, fun h => ⟨trivial, h⟩⟩

theorem isOrdered_object {members : List (String × Json)} :
    (object members).IsOrdered ↔ Ordered members ∧ ∀ m ∈ members, m.2.IsOrdered := by
  rw [IsOrdered, Everywhere, membersEverywhere_iff]

theorem isWhole_array {items : List Json} : (array items).IsWhole ↔ ∀ item ∈ items, item.IsWhole := by
  rw [IsWhole, Everywhere, itemsEverywhere_iff]
  exact ⟨And.right, fun h => ⟨trivial, h⟩⟩

theorem isWhole_object {members : List (String × Json)} :
    (object members).IsWhole ↔ ∀ m ∈ members, m.2.IsWhole := by
  rw [IsWhole, Everywhere, membersEverywhere_iff]
  exact ⟨And.right, fun h => ⟨trivial, h⟩⟩

/-! ## What can be inside of containers -/

/-- **What can be inside of `d` containers**: it is not nested too deep, and the members of its objects are in
order. -/
structure Nested (d : Nat) (v : Json) : Prop where
  depth_le : d + v.depth ≤ maxDepth
  ordered : v.IsOrdered

theorem nested_array {d : Nat} {items : List Json} (hd : d < maxDepth) :
    Nested d (array items) ↔ ∀ item ∈ items, Nested (d + 1) item := by
  have hdepth : d + (array items).depth ≤ maxDepth ↔ ∀ item ∈ items, d + 1 + item.depth ≤ maxDepth := by
    have hle : depthOfItems items ≤ maxDepth - (d + 1) ↔ ∀ item ∈ items, item.depth ≤ maxDepth - (d + 1) :=
      depthOfItems_le_iff
    rw [depth]
    refine ⟨fun h item hitem => ?_, fun h => ?_⟩
    · have hitem := hle.1 (by omega) item hitem
      omega
    · have hall := hle.2 fun item hitem => by
        have hitem := h item hitem
        omega
      omega
  refine ⟨fun h item hitem => ⟨hdepth.1 h.depth_le item hitem, isOrdered_array.1 h.ordered item hitem⟩, fun h => ?_⟩
  exact ⟨hdepth.2 fun item hitem => (h item hitem).depth_le,
    isOrdered_array.2 fun item hitem => (h item hitem).ordered⟩

theorem nested_object {d : Nat} {members : List (String × Json)} (hd : d < maxDepth) :
    Nested d (object members) ↔ Ordered members ∧ ∀ m ∈ members, Nested (d + 1) m.2 := by
  have hdepth : d + (object members).depth ≤ maxDepth ↔ ∀ m ∈ members, d + 1 + m.2.depth ≤ maxDepth := by
    have hle : depthOfMembers members ≤ maxDepth - (d + 1) ↔ ∀ m ∈ members, m.2.depth ≤ maxDepth - (d + 1) :=
      depthOfMembers_le_iff
    rw [depth]
    refine ⟨fun h m hm => ?_, fun h => ?_⟩
    · have hm := hle.1 (by omega) m hm
      omega
    · have hall := hle.2 fun m hm => by
        have hm := h m hm
        omega
      omega
  refine ⟨fun h => ⟨(isOrdered_object.1 h.ordered).1, fun m hm =>
    ⟨hdepth.1 h.depth_le m hm, (isOrdered_object.1 h.ordered).2 m hm⟩⟩, fun ⟨hordered, h⟩ => ?_⟩
  exact ⟨hdepth.2 fun m hm => (h m hm).depth_le, isOrdered_object.2 ⟨hordered, fun m hm => (h m hm).ordered⟩⟩

theorem Nested.mono {d d' : Nat} {v : Json} (h : Nested d v) (hd : d' ≤ d) : Nested d' v :=
  ⟨Nat.le_trans (Nat.add_le_add_right hd _) h.depth_le, h.ordered⟩

end ObjectRelay.Json
