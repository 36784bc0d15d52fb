import ObjectRelay.Json.Reader
/-!
# Equality of JSON values

Whether two values are the same can be decided, so statements about read documents can be evaluated.
-/
namespace ObjectRelay.Json

mutual

/-- Whether two values are the same. -/
def same : Json → Json → Bool
  | null, null => true
  | bool a, bool b => a == b
  | number a, number b => a == b
  | string a, string b => a == b
  | array a, array b => sameItems a b
  | object a, object b => sameMembers a b
  | _, _ => false

def sameItems : List Json → List Json → Bool
  | [], [] => true
  | a :: as, b :: bs => same a b && sameItems as bs
  | _, _ => false

def sameMembers : List (String × Json) → List (String × Json) → Bool
  | [], [] => true
  | (n, a) :: as, (m, b) :: bs => n == m && same a b && sameMembers as bs
  | _, _ => false

end

mutual

theorem same_iff : ∀ a b : Json, same a b = true ↔ a = b
  | null, b | bool _, b | number _, b | string _, b => by cases b <;> simp [same]
  | array as, b => by
    cases b <;> simp [same]
    exact sameItems_iff as _
  | object as, b => by
    cases b <;> simp [same]
    exact sameMembers_iff as _

theorem sameItems_iff : ∀ as bs : List Json, sameItems as bs = true ↔ as = bs
  | [], bs => by cases bs <;> simp [sameItems]
  | a :: as, bs => by
    cases bs with
    | nil => simp [sameItems]
    | cons b bs => simp [sameItems, same_iff a b, sameItems_iff as bs]

theorem sameMembers_iff : ∀ as bs : List (String × Json), sameMembers as bs = true ↔ as = bs
  | [], bs => by cases bs <;> simp [sameMembers]
  | (n, a) :: as, bs => by
    cases bs with
    | nil => simp [sameMembers]
    | cons b bs =>
      obtain ⟨m, b⟩ := b
      simp [sameMembers, same_iff a b, sameMembers_iff as bs, and_assoc]

end

instance : DecidableEq Json := fun a b => decidable_of_iff _ (same_iff a b)

theorem read_eq_ok {top : Shape} {text : String} {v : Json} (h : (read top text).toOption = some v) :
    read top text = .ok v := by
  cases hp : read top text with
  | error e => rw [hp] at h; cases h
  | ok w => rw [hp] at h; cases h; rfl

theorem parse_eq_ok {text : String} {v : Json} (h : (parse text).toOption = some v) : parse text = .ok v :=
  read_eq_ok h

end ObjectRelay.Json
