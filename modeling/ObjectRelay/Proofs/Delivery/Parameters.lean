import ObjectRelay.Delivery.Client
import ObjectRelay.Proofs.Text.Form
/-!
# The parameters of a target

Whoever gets a request cuts its target at the first question mark, the query at the ampersands, and each piece at its
first equals sign, and undoes the spelling of forms (`parameters`).  Behind the parameters of the endpoint itself that
gives the content type and the key that were posted, whatever they hold (`parameters_target`).
-/
namespace ObjectRelay

/-! ## Pieces -/

section Pieces

variable {α : Type} [BEq α] {sep : α}

theorem piecesBy_ne_nil (sep : α) (l : List α) : piecesBy sep l ≠ [] := by
  cases l with
  | nil => exact List.cons_ne_nil _ _
  | cons c rest =>
    unfold piecesBy
    split
    · exact List.cons_ne_nil _ _
    · split <;> exact List.cons_ne_nil _ _

variable [LawfulBEq α]

theorem piecesBy_append_cons (sep : α) (after : List α) : ∀ before : List α,
    piecesBy sep (before ++ sep :: after) = piecesBy sep before ++ piecesBy sep after
  | [] => by simp [piecesBy]
  | c :: before => by
    have ih := piecesBy_append_cons sep after before
    rw [List.cons_append, piecesBy, piecesBy, ih]
    split
    · rfl
    · cases h : piecesBy sep before with
      | nil => exact absurd h (piecesBy_ne_nil sep before)
      | cons piece pieces => rfl

theorem piecesBy_of_notMem : ∀ {l : List α}, sep ∉ l → piecesBy sep l = [l]
  | [], _ => rfl
  | c :: rest, h => by
    have hc : (c == sep) = false := beq_eq_false_iff_ne.2 fun heq => h (heq ▸ List.mem_cons_self)
    have ih : piecesBy sep rest = [rest] := piecesBy_of_notMem fun hmem => h (List.mem_cons_of_mem c hmem)
    rw [piecesBy, ih, hc]
    rfl

/-- A list that is cut where its first separator stands. -/
theorem takeWhile_dropWhile_append_cons {before : List α} (h : sep ∉ before) (after : List α) :
    (before ++ sep :: after).takeWhile (· != sep) = before ∧
      ((before ++ sep :: after).dropWhile (· != sep)).drop 1 = after := by
  have hall : ∀ b ∈ before, (b != sep) = true := fun b hb => bne_iff_ne.2 fun heq => h (heq ▸ hb)
  rw [List.takeWhile_append_of_pos hall, List.dropWhile_append_of_pos hall]
  simp

end Pieces

/-! ## Spelling -/

namespace Percent

theorem digit_spec : ∀ n : Fin 16,
    IsHexDigit (digit (UInt8.ofNat n)) n ∧ isFormByte (digit (UInt8.ofNat n)) = true := by decide +kernel

/-- The digits of an escaped byte write it. -/
theorem digit_halves (b : UInt8) :
    (IsHexDigit (digit (b / 16)) (b.toNat / 16) ∧ isFormByte (digit (b / 16)) = true) ∧
      IsHexDigit (digit (b % 16)) (b.toNat % 16) ∧ isFormByte (digit (b % 16)) = true := by
  have hb : b.toNat < 256 := b.toNat_lt
  have hhigh : b / 16 = UInt8.ofNat (b.toNat / 16) := UInt8.toNat.inj (by
    rw [UInt8.toNat_div, UInt8.toNat_ofNat']
    show b.toNat / 16 = b.toNat / 16 % 256
    omega)
  have hlow : b % 16 = UInt8.ofNat (b.toNat % 16) := UInt8.toNat.inj (by
    rw [UInt8.toNat_mod, UInt8.toNat_ofNat']
    show b.toNat % 16 = b.toNat % 16 % 256
    omega)
  rw [hhigh, hlow]
  exact ⟨digit_spec ⟨b.toNat / 16, by omega⟩, digit_spec ⟨b.toNat % 16, Nat.mod_lt _ (by decide)⟩⟩

theorem mem_escape {b c : UInt8} (h : c ∈ escape b) : c = 0x25 ∨ isFormByte c = true := by
  obtain ⟨⟨-, hhigh⟩, -, hlow⟩ := digit_halves b
  rcases List.mem_cons.1 h with rfl | h
  · exact .inl rfl
  rcases List.mem_cons.1 h with rfl | h
  · exact .inr hhigh
  · exact .inr (List.mem_singleton.1 h ▸ hlow)

/-- No separator stands in what a form writes. -/
theorem mem_formEncode {s : String} {c : UInt8} (h : c ∈ formEncode s) :
    c = 0x2B ∨ c = 0x25 ∨ isFormByte c = true := by
  obtain ⟨b, -, hc⟩ := List.mem_flatMap.1 h
  split at hc
  · exact .inl (List.mem_singleton.1 hc)
  · split at hc
    · rename_i hb
      exact .inr (.inr (List.mem_singleton.1 hc ▸ hb))
    · exact .inr (mem_escape hc)

theorem notMem_formEncode {sep : UInt8} (hsep : sep ≠ 0x2B ∧ sep ≠ 0x25 ∧ isFormByte sep = false) (s : String) :
    sep ∉ formEncode s := fun h => by
  rcases mem_formEncode h with heq | heq | hbyte
  · exact hsep.1 heq
  · exact hsep.2.1 heq
  · rw [hsep.2.2] at hbyte
    cases hbyte

/-- **A form spells every text.** -/
theorem formSpelling_formEncode (s : String) : FormSpelling (formEncode s) (Utf8.encode s) := by
  unfold formEncode
  induction Utf8.encode s with
  | nil => exact .nil
  | cons b bytes ih =>
    rw [List.flatMap_cons]
    by_cases hspace : (b == 0x20) = true
    · rw [if_pos hspace, eq_of_beq hspace]
      exact .plus ih
    rw [if_neg hspace]
    by_cases hbyte : isFormByte b = true
    · have hne : ∀ c : UInt8, isFormByte c = false → b ≠ c := fun c hc heq => by
        rw [heq, hc] at hbyte
        cases hbyte
      rw [if_pos hbyte]
      exact .plain (hne 0x25 (by decide)) (hne 0x2B (by decide)) ih
    · rw [if_neg hbyte]
      obtain ⟨⟨hhigh, -⟩, hlow, -⟩ := digit_halves b
      exact .escape hhigh hlow ih

end Percent

/-! ## Parameters -/

/-- What follows the first question mark of a target. -/
def queryOf (target : List UInt8) : List UInt8 := (target.dropWhile (· != 0x3F)).drop 1

/-- A name or a value, its spelling undone. -/
def unspelled (written : List UInt8) : List UInt8 := Percent.decode (written.map Percent.spaced)

/-- The names and values of a query. -/
def parameters (query : List UInt8) : List (List UInt8 × List UInt8) :=
  ((piecesBy 0x26 query).filter fun piece => !piece.isEmpty).map fun piece =>
    (unspelled (piece.takeWhile (· != 0x3D)), unspelled ((piece.dropWhile (· != 0x3D)).drop 1))

theorem unspelled_formEncode (s : String) : unspelled (Percent.formEncode s) = Utf8.encode s :=
  Percent.decode_spelling (Percent.formSpelling_formEncode s)

theorem parameters_append (before after : List UInt8) :
    parameters (before ++ 0x26 :: after) = parameters before ++ parameters after := by
  rw [parameters, piecesBy_append_cons, List.filter_append, List.map_append]
  rfl

/-- A name and a value as a form writes them. -/
theorem parameters_pair {name : List UInt8} (hamp : 0x26 ∉ name) (heq : 0x3D ∉ name) (value : String) :
    parameters (name ++ 0x3D :: Percent.formEncode value) = [(unspelled name, Utf8.encode value)] := by
  have hnone : (0x26 : UInt8) ∉ name ++ 0x3D :: Percent.formEncode value := by
    have hvalue : (0x26 : UInt8) ∉ Percent.formEncode value := Percent.notMem_formEncode (by decide) value
    simp [hamp, hvalue]
  obtain ⟨htake, hdrop⟩ := takeWhile_dropWhile_append_cons heq (Percent.formEncode value)
  rw [parameters, piecesBy_of_notMem hnone, List.filter_cons_of_pos (by simp), List.filter_nil, List.map_singleton,
    htake, hdrop, unspelled_formEncode]

namespace Endpoint

/-- A path holds no question mark: it would be escaped. -/
theorem notMem_pathOf (written : List Char) : (0x3F : UInt8) ∉ pathOf written := fun h => by
  unfold pathOf at h
  obtain ⟨segment, -, hmem⟩ := List.mem_flatMap.1 h
  rcases List.mem_cons.1 hmem with heq | hmem
  · exact absurd heq (by decide)
  obtain ⟨b, -, hb⟩ := List.mem_flatMap.1 hmem
  split at hb
  · rename_i hpath
    rw [← List.mem_singleton.1 hb] at hpath
    exact absurd hpath (by decide)
  · rcases Percent.mem_escape hb with heq | hbyte
    · exact absurd heq (by decide)
    · exact absurd hbyte (by decide)

theorem exists_pathOf_of_readWeb {scheme : String} {s : List Char} {e : Endpoint} (h : readWeb scheme s = .ok e) :
    ∃ written, e.path = pathOf written := by
  have hbind : ∀ {checked : Except EndpointFault Unit} {read : Except EndpointFault Endpoint},
      (do checked; read) = .ok e → read = .ok e := fun {checked read} hok => by
    cases checked with
    | error fault => cases hok
    | ok u => exact hok
  unfold readWeb at h
  dsimp only at h
  split at h
  · cases hbind h
  · exact ⟨_, (congrArg Endpoint.path (Except.ok.inj (hbind h))).symm⟩

theorem notMem_path_of_parse {s : String} {e : Endpoint} (h : parse s = .ok e) : (0x3F : UInt8) ∉ e.path := by
  unfold parse at h
  split at h
  · cases h
  split at h
  · obtain ⟨written, hpath⟩ := exists_pathOf_of_readWeb h
    rw [hpath]
    exact notMem_pathOf written
  · split at h <;> cases h

/-- **Who gets a request reads the posted content type and key from its target**, behind the parameters of the
endpoint. -/
theorem parameters_target {e : Endpoint} (hpath : (0x3F : UInt8) ∉ e.path) (contentType key : String) :
    parameters (queryOf (e.target contentType key)) = parameters e.query ++
      [(Utf8.encode "content-type", Utf8.encode contentType), (Utf8.encode "key", Utf8.encode key)] := by
  let first := Utf8.encode "content-type" ++ 0x3D :: Percent.formEncode contentType
  let second := Utf8.encode "key" ++ 0x3D :: Percent.formEncode key
  have htarget : e.target contentType key =
      e.path ++ 0x3F :: ((if e.query.isEmpty then [] else e.query ++ [0x26]) ++ first ++ 0x26 :: second) := by
    have hname : Utf8.encode "content-type=" = Utf8.encode "content-type" ++ [0x3D] := rfl
    have hkey : Utf8.encode "&key=" = 0x26 :: Utf8.encode "key" ++ [0x3D] := rfl
    simp only [target, first, second, hname, hkey, List.append_assoc, List.cons_append, List.nil_append]
  have hposted : parameters (first ++ 0x26 :: second) =
      [(Utf8.encode "content-type", Utf8.encode contentType), (Utf8.encode "key", Utf8.encode key)] := by
    rw [parameters_append, parameters_pair (by decide) (by decide), parameters_pair (by decide) (by decide)]
    rfl
  have hquery : queryOf (e.target contentType key) =
      (if e.query.isEmpty then [] else e.query ++ [0x26]) ++ first ++ 0x26 :: second := by
    rw [htarget]
    exact (takeWhile_dropWhile_append_cons hpath _).2
  rw [hquery]
  by_cases hown : e.query.isEmpty = true
  · rw [if_pos hown, List.isEmpty_iff.1 hown, List.nil_append, hposted]
    rfl
  · rw [if_neg hown, List.append_assoc, List.append_assoc, List.singleton_append, parameters_append, hposted]

end Endpoint

theorem Client.notMem_path {settings : DeliverySettings} {client : Client} (h : ofSettings settings = .ok client) :
    (0x3F : UInt8) ∉ client.endpoint.path := by
  unfold ofSettings at h
  split at h
  · cases h
  rename_i endpoint hparse
  have hendpoint : client.endpoint = endpoint := by
    split at h
    · split at h
      · rw [← Except.ok.inj h]
      · cases h
    · rw [← Except.ok.inj h]
  exact hendpoint ▸ Endpoint.notMem_path_of_parse hparse

end ObjectRelay
