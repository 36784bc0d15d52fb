import Mathlib.Algebra.GroupWithZero.Nat
import Mathlib.Data.List.Perm.Basic
/-!
# One place of a list

Tables are lists of pairs that are looked up from the front, and participants stand in a list
at a fixed place.  These lemmas say what changes when one place does: what is looked up behind
one more pair, and what a sum, a test and a selection over the list become.
-/
namespace ObjectRelay

universe u v
variable {α : Type u} {β : Type v}

theorem lookup_cons_eq [BEq α] [LawfulBEq α] [DecidableEq α] (a other : α) (b : β) (rest : List (α × β)) :
    ((a, b) :: rest).lookup other = if other = a then some b else rest.lookup other := by
  rw [List.lookup_cons]
  by_cases h : other = a
  · simp [h]
  · rw [beq_eq_false_iff_ne.2 h, if_neg h]

theorem mem_of_lookup_eq_some [BEq α] [LawfulBEq α] {a : α} {b : β} {l : List (α × β)} (h : l.lookup a = some b) :
    (a, b) ∈ l := by
  obtain ⟨before, after, rfl, -⟩ := List.lookup_eq_some_iff.1 h
  exact List.mem_append_right _ List.mem_cons_self

theorem getElem?_zip_of_getElem? {l : List α} {l' : List β} {i : Nat} {a : α} {b : β} (ha : l[i]? = some a)
    (hb : l'[i]? = some b) : (l.zip l')[i]? = some (a, b) := List.getElem?_zip_eq_some.2 ⟨ha, hb⟩

theorem zip_map_self (l : List α) (f : α → β) : l.zip (l.map f) = l.map fun a => (a, f a) := by
  have h := List.zip_map' (f := id) (g := f) (l := l)
  rwa [List.map_id] at h

theorem zip_set : ∀ {l : List α} {l' : List β} {i : Nat} {a : α}, l[i]? = some a → ∀ b,
    l.zip (l'.set i b) = (l.zip l').set i (a, b)
  | [], _, _, _, h, _ => by simp at h
  | _ :: _, [], _, _, _, _ => by simp
  | x :: l, y :: l', 0, a, h, b => by
    obtain rfl : x = a := by simpa using h
    rfl
  | x :: l, y :: l', i + 1, a, h, b => by
    have ih : l.zip (l'.set i b) = (l.zip l').set i (a, b) := zip_set (by simpa using h) b
    rw [List.set_cons_succ, List.zip_cons_cons, List.zip_cons_cons, List.set_cons_succ, ih]

section Set

variable {l : List α} {i : Nat} {a : α}

/-- A list is one of its places and the rest, up to order, whatever is put into the place. -/
theorem exists_perm_set (h : l[i]? = some a) :
    ∃ rest, l.Perm (a :: rest) ∧ ∀ b, (l.set i b).Perm (b :: rest) := by
  obtain ⟨hi, rfl⟩ := List.getElem?_eq_some_iff.1 h
  exact ⟨l.eraseIdx i, (List.getElem_cons_eraseIdx_perm hi).symm, fun b => List.set_perm_cons_eraseIdx hi b⟩

theorem sum_map_set (f : α → Nat) (h : l[i]? = some a) (b : α) :
    ((l.set i b).map f).sum + f a = (l.map f).sum + f b := by
  obtain ⟨rest, hl, hset⟩ := exists_perm_set h
  rw [((hset b).map f).sum_nat, (hl.map f).sum_nat, List.map_cons, List.map_cons, List.sum_cons, List.sum_cons]
  omega

theorem countP_set_add (p : α → Bool) (h : l[i]? = some a) (b : α) :
    (l.set i b).countP p + (if p a then 1 else 0) = l.countP p + if p b then 1 else 0 := by
  obtain ⟨rest, hl, hset⟩ := exists_perm_set h
  rw [(hset b).countP_eq, hl.countP_eq, List.countP_cons, List.countP_cons]
  omega

theorem perm_filterMap_set (f : α → Option β) (h : l[i]? = some a) (b : α) :
    ((f a).toList ++ (l.set i b).filterMap f).Perm ((f b).toList ++ l.filterMap f) := by
  obtain ⟨rest, hl, hset⟩ := exists_perm_set h
  have hcons : ∀ x, (x :: rest).filterMap f = (f x).toList ++ rest.filterMap f := fun x => by
    cases hx : f x <;> simp [hx]
  refine (((hset b).filterMap f).append_left _).trans (.trans ?_ ((hl.filterMap f).append_left _).symm)
  rw [hcons, hcons, ← List.append_assoc, ← List.append_assoc]
  exact List.perm_append_comm.append_right _

theorem perm_flatMap_set (f : α → List β) (h : l[i]? = some a) {b : α} {done : List β} (hf : f a = done ++ f b) :
    (done ++ (l.set i b).flatMap f).Perm (l.flatMap f) := by
  obtain ⟨rest, hl, hset⟩ := exists_perm_set h
  refine (((hset b).flatMap_right f).append_left done).trans (.trans ?_ (hl.flatMap_right f).symm)
  rw [List.flatMap_cons, List.flatMap_cons, hf, List.append_assoc]

theorem any_set_of_imp {p : α → Bool} (h : l[i]? = some a) {b : α} (hp : p a = true → p b = true)
    (hany : l.any p = true) : (l.set i b).any p = true := by
  obtain ⟨rest, hl, hset⟩ := exists_perm_set h
  obtain ⟨x, hx, hpx⟩ := List.any_eq_true.1 hany
  rcases List.mem_cons.1 (hl.mem_iff.1 hx) with rfl | hx
  · exact List.any_eq_true.2 ⟨b, (hset b).mem_iff.2 List.mem_cons_self, hp hpx⟩
  · exact List.any_eq_true.2 ⟨x, (hset b).mem_iff.2 (List.mem_cons_of_mem _ hx), hpx⟩

theorem any_set_of_eq {p : α → Bool} (h : l[i]? = some a) {b : α} (hp : p b = p a) :
    (l.set i b).any p = l.any p := by
  have hb : (l.set i b)[i]? = some b := by
    obtain ⟨hi, -⟩ := List.getElem?_eq_some_iff.1 h
    rw [List.getElem?_set_self hi]
  have ha : (l.set i b).set i a = l := by
    obtain ⟨hi, rfl⟩ := List.getElem?_eq_some_iff.1 h
    rw [List.set_set, List.set_getElem_self]
  refine Bool.eq_iff_iff.2 ⟨fun hany => ?_, any_set_of_imp h (hp ▸ id)⟩
  exact ha ▸ any_set_of_imp hb (hp ▸ id) hany

end Set

end ObjectRelay
