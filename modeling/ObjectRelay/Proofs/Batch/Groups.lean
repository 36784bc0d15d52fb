import ObjectRelay.Batch.Buffer
/-!
# Records as batches hold them

A batch holds whole records, each with its line end (`framed`).  Which records share a
batch is decided greedily (`groups`): a record begins a new batch exactly when it would make
the one before it too large.  The code decides on the bytes that are pending
(`batchesFrom`); `batchesFrom_framed` says that this is the same, `flatten_groups` and
`fits_of_mem_groups` what the groups are, and `records_framed` that the records of a batch can
be read back.  Other ways to cut records into batches there are many (`IsCut`), but none with fewer
of them (`length_groups_le`), or with more records in the first ones (`length_flatten_take_le`).
-/
namespace ObjectRelay

/-- Records in a row, each with its line end. -/
def framed (records : List (List UInt8)) : List UInt8 := records.flatMap (· ++ [lineEnd])

@[simp] theorem framed_nil : framed [] = [] := rfl

@[simp] theorem framed_append (a b : List (List UInt8)) : framed (a ++ b) = framed a ++ framed b :=
  List.flatMap_append

theorem framed_cons (r : List UInt8) (records : List (List UInt8)) :
    framed (r :: records) = r ++ lineEnd :: framed records := by
  simp [framed]

@[simp] theorem framed_singleton (r : List UInt8) : framed [r] = r ++ [lineEnd] := by
  simp [framed]

theorem framed_eq_nil_iff {records : List (List UInt8)} : framed records = [] ↔ records = [] := by
  cases records with
  | nil => simp
  | cons r records => simp [framed_cons]

/-- A line end closes the last record. -/
theorem getLast?_framed {records : List (List UInt8)} (h : records ≠ []) :
    (framed records).getLast? = some lineEnd := by
  obtain ⟨init, r, rfl⟩ := List.eq_nil_or_concat records |>.resolve_left h
  rw [List.concat_eq_append, framed_append, framed_singleton, ← List.append_assoc, List.getLast?_concat]

theorem framed_flatten (gs : List (List (List UInt8))) :
    framed gs.flatten = (gs.map framed).flatten := by
  induction gs with
  | nil => rfl
  | cons g gs ih => rw [List.flatten_cons, framed_append, ih, List.map_cons, List.flatten_cons]

/-! ## Greedy groups -/

/-- The groups of records, when a group has been begun. -/
def groupsFrom (size : Nat) : List (List UInt8) → List (List UInt8) → List (List (List UInt8))
  | group, [] => if group.isEmpty then [] else [group]
  | group, r :: records =>
    if (framed group).length + (r.length + 1) ≤ size then groupsFrom size (group ++ [r]) records
    else group :: groupsFrom size [r] records

/-- **The greedy groups of records**: a new one begins exactly with a record that would make
the group before it larger than `size`. -/
def groups (size : Nat) (records : List (List UInt8)) : List (List (List UInt8)) :=
  groupsFrom size [] records

/-- The batches of records, when bytes are pending. -/
def batchesFrom (size : Nat) : List UInt8 → List (List UInt8) → List (List UInt8)
  | pending, [] => if pending.isEmpty then [] else [pending]
  | pending, r :: records =>
    if pending.length + (r.length + 1) ≤ size then
      batchesFrom size (pending ++ r ++ [lineEnd]) records
    else pending :: batchesFrom size (r ++ [lineEnd]) records

theorem batchesFrom_framed (size : Nat) : ∀ records group,
    batchesFrom size (framed group) records = (groupsFrom size group records).map framed
  | [], group => by
    cases group with
    | nil => rfl
    | cons r group => simp [batchesFrom, groupsFrom, framed_cons]
  | r :: records, group => by
    have joined := batchesFrom_framed size records (group ++ [r])
    have alone := batchesFrom_framed size records [r]
    rw [framed_append, framed_singleton, ← List.append_assoc] at joined
    rw [framed_singleton] at alone
    rw [batchesFrom, groupsFrom]
    split
    · exact joined
    · rw [alone, List.map_cons]

theorem batchesFrom_nil (size : Nat) (records : List (List UInt8)) :
    batchesFrom size [] records = (groups size records).map framed :=
  batchesFrom_framed size records []

theorem flatten_groupsFrom (size : Nat) : ∀ records group,
    (groupsFrom size group records).flatten = group ++ records
  | [], group => by
    cases group with
    | nil => rfl
    | cons r group => simp [groupsFrom]
  | r :: records, group => by
    rw [groupsFrom]
    split
    · rw [flatten_groupsFrom size records (group ++ [r]), List.append_assoc, List.singleton_append]
    · rw [List.flatten_cons, flatten_groupsFrom size records [r], List.singleton_append]

/-- The groups are the records, cut into pieces. -/
theorem flatten_groups (size : Nat) (records : List (List UInt8)) :
    (groups size records).flatten = records := flatten_groupsFrom size records []

theorem fits_of_mem_groupsFrom {size : Nat} : ∀ {records group},
    (∀ r ∈ records, r.length + 1 ≤ size) → (framed group).length ≤ size →
    ∀ g ∈ groupsFrom size group records, g ≠ [] ∧ (framed g).length ≤ size
  | [], group, _, hgroup, g, hg => by
    rw [groupsFrom] at hg
    split at hg
    · simp at hg
    · rename_i hne
      rw [List.mem_singleton] at hg
      subst hg
      exact ⟨by simpa using hne, hgroup⟩
  | r :: records, group, hrecords, hgroup, g, hg => by
    have hr := hrecords r List.mem_cons_self
    have hrest : ∀ r ∈ records, r.length + 1 ≤ size := fun r h => hrecords r (List.mem_cons_of_mem _ h)
    rw [groupsFrom] at hg
    split at hg
    · rename_i hroom
      exact fits_of_mem_groupsFrom hrest (by simpa [Nat.add_assoc] using hroom) g hg
    · rename_i hroom
      rcases List.mem_cons.mp hg with rfl | hg
      · refine ⟨?_, hgroup⟩
        rintro rfl
        rw [framed_nil, List.length_nil] at hroom
        omega
      · exact fits_of_mem_groupsFrom hrest (by simpa using hr) g hg

/-- No group is empty or too large, when no record is too large for one. -/
theorem fits_of_mem_groups {size : Nat} {records : List (List UInt8)}
    (h : ∀ r ∈ records, r.length + 1 ≤ size) :
    ∀ g ∈ groups size records, g ≠ [] ∧ (framed g).length ≤ size :=
  fits_of_mem_groupsFrom h (by simp)

/-! ## No cut does better -/

/-- **Whether groups are records cut, in their order, into groups that fit a batch.** -/
structure IsCut (size : Nat) (records : List (List UInt8)) (cut : List (List (List UInt8))) : Prop where
  flatten_eq : cut.flatten = records
  fits : ∀ g ∈ cut, (framed g).length ≤ size

theorem isCut_groups {size : Nat} {records : List (List UInt8)} (h : ∀ r ∈ records, r.length + 1 ≤ size) :
    IsCut size records (groups size records) := ⟨flatten_groups size records, fun g hg => (fits_of_mem_groups h g hg).2⟩

/-- **A group that has been begun takes as many records as fit.** -/
theorem exists_groupsFrom_eq {size : Nat} : ∀ (records group : List (List UInt8)), group ≠ [] →
    (∀ r ∈ records, r.length + 1 ≤ size) → ∃ more rest, records = more ++ rest ∧
      groupsFrom size group records = (group ++ more) :: groups size rest ∧
      ∀ p, p <+: records → (framed (group ++ p)).length ≤ size → p.length ≤ more.length
  | [], group, hgroup, _ => by
    refine ⟨[], [], rfl, ?_, fun p hp _ => hp.length_le⟩
    rw [groupsFrom, if_neg (by simpa using hgroup), List.append_nil]
    rfl
  | r :: records, group, hgroup, hfits => by
    have hr : r.length + 1 ≤ size := hfits r List.mem_cons_self
    have hrest : ∀ r ∈ records, r.length + 1 ≤ size := fun r h => hfits r (List.mem_cons_of_mem _ h)
    by_cases hroom : (framed group).length + (r.length + 1) ≤ size
    · obtain ⟨more, rest, hrecords, hgroups, hlongest⟩ :=
        exists_groupsFrom_eq records (group ++ [r]) (by simp) hrest
      refine ⟨r :: more, rest, by rw [hrecords, List.cons_append], ?_, fun p hp hpfits => ?_⟩
      · rw [groupsFrom, if_pos hroom, hgroups, List.append_assoc, List.singleton_append]
      · rcases List.prefix_cons_iff.1 hp with rfl | ⟨p, rfl, htail⟩
        · exact Nat.zero_le _
        · exact Nat.succ_le_succ (hlongest p htail (by rwa [List.append_assoc, List.singleton_append]))
    · refine ⟨[], r :: records, rfl, ?_, fun p hp hpfits => ?_⟩
      · rw [groupsFrom, if_neg hroom, List.append_nil, groups, groupsFrom, framed_nil, List.length_nil, Nat.zero_add,
          if_pos hr, List.nil_append]
      · rcases List.prefix_cons_iff.1 hp with rfl | ⟨p, rfl, -⟩
        · exact Nat.le_refl _
        · -- the group and the next record alone are too large already
          rw [framed_append, framed_cons, List.length_append, List.length_append, List.length_cons] at hpfits
          omega

/-- **The first group is the longest that fits**, and the others are the groups of what is left. -/
theorem exists_groups_eq_cons {size : Nat} {records : List (List UInt8)} (hne : records ≠ [])
    (hfits : ∀ r ∈ records, r.length + 1 ≤ size) : ∃ first rest, records = first ++ rest ∧
      groups size records = first :: groups size rest ∧
      ∀ p, p <+: records → (framed p).length ≤ size → p.length ≤ first.length := by
  obtain ⟨r, records, rfl⟩ := List.exists_cons_of_ne_nil hne
  obtain ⟨more, rest, hrecords, hgroups, hlongest⟩ :=
    exists_groupsFrom_eq records [r] (by simp) fun r h => hfits r (List.mem_cons_of_mem _ h)
  refine ⟨r :: more, rest, by rw [hrecords, List.cons_append], ?_, fun p hp hpfits => ?_⟩
  · rw [groups, groupsFrom, framed_nil, List.length_nil, Nat.zero_add, if_pos (hfits r List.mem_cons_self)]
    exact hgroups
  · rcases List.prefix_cons_iff.1 hp with rfl | ⟨p, rfl, htail⟩
    · exact Nat.zero_le _
    · exact Nat.succ_le_succ (hlongest p htail hpfits)

theorem length_flatten_take_le_succ (cut : List (List (List UInt8))) (i : Nat) :
    (cut.take i).flatten.length ≤ (cut.take (i + 1)).flatten.length := by
  rw [List.take_add, List.flatten_append, List.length_append]
  exact Nat.le_add_right _ _

/-- **The exchange**: who cuts records with some others in front of them is never further ahead of the greedy groups
than by those others. -/
theorem length_flatten_take_le {size : Nat} : ∀ (i : Nat) (ahead : List (List UInt8)) {records : List (List UInt8)}
    {cut : List (List (List UInt8))}, (∀ r ∈ records, r.length + 1 ≤ size) → IsCut size (ahead ++ records) cut →
    (cut.take i).flatten.length ≤ ahead.length + ((groups size records).take i).flatten.length
  | 0, _, _, _, _, _ => Nat.zero_le _
  | i + 1, ahead, records, [], _, _ => Nat.zero_le _
  | i + 1, ahead, records, g :: cut, hfits, hcut => by
    have hcutfits : ∀ g ∈ cut, (framed g).length ≤ size := fun g h => hcut.fits g (List.mem_cons_of_mem _ h)
    rw [List.take_succ_cons, List.flatten_cons, List.length_append]
    rcases List.append_eq_append_iff.1 hcut.flatten_eq with ⟨behind, rfl, hrest⟩ | ⟨p, rfl, hrest⟩
    · -- the whole group is of the records in front
      have hle := length_flatten_take_le i behind hfits ⟨hrest, hcutfits⟩
      have hsucc := length_flatten_take_le_succ (groups size records) i
      rw [List.length_append]
      omega
    · -- the group ends within the records, so within the first greedy group
      by_cases hne : records = []
      · subst hne
        obtain ⟨rfl, hnil⟩ := List.append_eq_nil_iff.1 hrest.symm
        have htake : (cut.take i).flatten = [] :=
          List.flatten_eq_nil_iff.2 fun g hg => List.flatten_eq_nil_iff.1 hnil g (List.mem_of_mem_take hg)
        rw [htake, List.append_nil]
        exact Nat.le_add_right _ _
      · obtain ⟨first, rest, hrecords, hgroups, hlongest⟩ := exists_groups_eq_cons hne hfits
        have hp : p.length ≤ first.length := by
          refine hlongest p ⟨_, hrest.symm⟩ ?_
          have hg := hcut.fits _ List.mem_cons_self
          rw [framed_append, List.length_append] at hg
          omega
        obtain ⟨behind, rfl⟩ : p <+: first :=
          List.prefix_of_prefix_length_le ⟨_, hrest.symm⟩ ⟨_, hrecords.symm⟩ hp
        have hflatten : cut.flatten = behind ++ rest := by
          rw [hrecords, List.append_assoc] at hrest
          exact (List.append_cancel_left hrest).symm
        have hle := length_flatten_take_le i behind
          (fun r hr => hfits r (hrecords ▸ List.mem_append_right _ hr)) ⟨hflatten, hcutfits⟩
        rw [hgroups, List.take_succ_cons, List.flatten_cons, List.length_append, List.length_append, List.length_append]
        omega

/-- **No cut has fewer groups.** -/
theorem length_groups_le {size : Nat} {records : List (List UInt8)} {cut : List (List (List UInt8))}
    (hfits : ∀ r ∈ records, r.length + 1 ≤ size) (hcut : IsCut size records cut) :
    (groups size records).length ≤ cut.length := by
  have hle := length_flatten_take_le cut.length [] hfits hcut
  rw [List.take_length, hcut.flatten_eq] at hle
  have hsplit := congrArg List.length (congrArg List.flatten (List.take_append_drop cut.length (groups size records)))
  rw [flatten_groups, List.flatten_append, List.length_append] at hsplit
  -- the first groups have all records, and no group is empty
  have hnil : ((groups size records).drop cut.length).flatten = [] := by
    rw [← List.length_eq_zero_iff]
    simp only [List.length_nil] at hle
    omega
  refine List.drop_eq_nil_iff.1 (List.eq_nil_iff_forall_not_mem.2 fun g hg => ?_)
  exact (fits_of_mem_groups hfits g (List.mem_of_mem_drop hg)).1 (List.flatten_eq_nil_iff.1 hnil g hg)

/-! ## Reading records back -/

theorem linesOf_append_lineEnd : ∀ (r rest : List UInt8), lineEnd ∉ r →
    linesOf (r ++ lineEnd :: rest) = r :: linesOf rest
  | [], rest, _ => by simp [linesOf]
  | b :: r, rest, h => by
    rw [List.mem_cons, not_or] at h
    have hb : (b == lineEnd) = false := by simpa using fun e => h.1 e.symm
    rw [List.cons_append, linesOf, hb, linesOf_append_lineEnd r rest h.2]
    rfl

theorem linesOf_framed : ∀ records : List (List UInt8), (∀ r ∈ records, lineEnd ∉ r) →
    linesOf (framed records) = records ++ [[]]
  | [], _ => rfl
  | r :: records, h => by
    rw [framed_cons, linesOf_append_lineEnd r _ (h r List.mem_cons_self),
      linesOf_framed records fun r hr => h r (List.mem_cons_of_mem _ hr), List.cons_append]

/-- **A batch of non-empty records without line ends gives exactly those records back.** -/
theorem records_framed (records : List (List UInt8)) (capacity : Nat)
    (h : ∀ r ∈ records, r ≠ [] ∧ lineEnd ∉ r) : Batch.records ⟨framed records, capacity⟩ = records := by
  have hkept : records.filter (fun line => !line.isEmpty) = records := by
    rw [List.filter_eq_self]
    intro r hr
    simpa using (h r hr).1
  rw [Batch.records, linesOf_framed records fun r hr => (h r hr).2, List.filter_append, hkept]
  simp

/-- Batches that hold groups of such records give the groups back. -/
theorem map_records_eq {batches : List Batch} {gs : List (List (List UInt8))}
    (hbytes : batches.map (·.bytes) = gs.map framed) (h : ∀ g ∈ gs, ∀ r ∈ g, r ≠ [] ∧ lineEnd ∉ r) :
    batches.map Batch.records = gs := by
  have hrecords : batches.map Batch.records = (batches.map (·.bytes)).map fun bytes => Batch.records ⟨bytes, 0⟩ := by
    rw [List.map_map]
    rfl
  rw [hrecords, hbytes, List.map_map]
  exact (List.map_congr_left fun g hg => records_framed g 0 (h g hg)).trans (List.map_id _)

end ObjectRelay
