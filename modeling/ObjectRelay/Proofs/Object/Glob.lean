import ObjectRelay.Object.Glob
/-!
# What globs match

A glob made of two matches what two texts make, one matched by either (`matches_append_iff`), and what a glob
matches is what its table says (`accepts_iff`).

A glob that is matched against an address in place of a bucket alone may match more than the bucket: the address up
to a slash of the key.  Only a name without slashes, or the beginning of one with nothing but runs behind it, then
matches the bucket as well (`isConfined_iff`).
-/
namespace ObjectRelay.Glob

/-! ## Part by part -/

theorem matches_nil_iff {s : List Char} : Matches [] s ↔ s = [] := by
  constructor
  · rintro ⟨⟩
    rfl
  · rintro rfl
    exact .nil

theorem matches_char_iff {c : Char} {g : Glob} {s : List Char} :
    Matches (.char c :: g) s ↔ ∃ t, s = c :: t ∧ Matches g t := by
  constructor
  · intro h
    cases h with
    | char h => exact ⟨_, rfl, h⟩
  · rintro ⟨t, rfl, h⟩
    exact .char h

theorem matches_one_iff {g : Glob} {s : List Char} : Matches (.one :: g) s ↔ ∃ c t, s = c :: t ∧ Matches g t := by
  constructor
  · intro h
    cases h with
    | one h => exact ⟨_, _, rfl, h⟩
  · rintro ⟨c, t, rfl, h⟩
    exact .one h

theorem matches_run_append {g : Glob} {v : List Char} (h : Matches g v) : ∀ u : List Char, Matches (.run :: g) (u ++ v)
  | [] => .skip h
  | _ :: u => .more (matches_run_append h u)

theorem matches_run_iff {g : Glob} {s : List Char} : Matches (.run :: g) s ↔ ∃ u v, s = u ++ v ∧ Matches g v := by
  constructor
  · intro h
    generalize hr : Part.run :: g = r at h
    induction h with
    | skip h =>
      cases hr
      exact ⟨[], _, rfl, h⟩
    | more _ ih =>
      obtain ⟨u, v, rfl, h⟩ := ih hr
      exact ⟨_ :: u, v, rfl, h⟩
    | nil | char | one => cases hr
  · rintro ⟨u, v, rfl, h⟩
    exact matches_run_append h u

/-- **A glob made of two** matches what two texts make, one matched by either. -/
theorem matches_append_iff {g h : Glob} {s : List Char} :
    Matches (g ++ h) s ↔ ∃ u v, s = u ++ v ∧ Matches g u ∧ Matches h v := by
  induction g generalizing s with
  | nil =>
    simp only [List.nil_append, matches_nil_iff]
    constructor
    · exact fun hs => ⟨[], s, rfl, rfl, hs⟩
    · rintro ⟨_, v, rfl, rfl, hv⟩
      exact hv
  | cons part g ih =>
    rw [List.cons_append]
    cases part with
    | char c =>
      simp only [matches_char_iff, ih]
      constructor
      · rintro ⟨t, rfl, u, v, rfl, hu, hv⟩
        exact ⟨c :: u, v, rfl, ⟨u, rfl, hu⟩, hv⟩
      · rintro ⟨u, v, rfl, ⟨t, rfl, hu⟩, hv⟩
        exact ⟨t ++ v, rfl, t, v, rfl, hu, hv⟩
    | one =>
      simp only [matches_one_iff, ih]
      constructor
      · rintro ⟨c, t, rfl, u, v, rfl, hu, hv⟩
        exact ⟨c :: u, v, rfl, ⟨c, u, rfl, hu⟩, hv⟩
      · rintro ⟨u, v, rfl, ⟨c, t, rfl, hu⟩, hv⟩
        exact ⟨c, t ++ v, rfl, t, v, rfl, hu, hv⟩
    | run =>
      simp only [matches_run_iff, ih]
      constructor
      · rintro ⟨t, _, rfl, u, v, rfl, hu, hv⟩
        exact ⟨t ++ u, v, by rw [List.append_assoc], ⟨t, u, rfl, hu⟩, hv⟩
      · rintro ⟨_, v, rfl, ⟨t, u, rfl, hu⟩, hv⟩
        exact ⟨t, u ++ v, by rw [List.append_assoc], u, v, rfl, hu, hv⟩

theorem ofString_append (a b : String) : ofString (a ++ b) = ofString a ++ ofString b := by
  simp [ofString, ofChars]

/-! ## The table -/

/-- Whether a row says of each suffix of a text whether the glob matches it. -/
def Tells (g : Glob) : List Char → List Bool → Prop
  | [], [b] => b = true ↔ Matches g []
  | c :: s, b :: row => (b = true ↔ Matches g (c :: s)) ∧ Tells g s row
  | _, _ => False

theorem Tells.headD {g : Glob} {s : List Char} {row : List Bool} (h : Tells g s row) :
    row.headD false = true ↔ Matches g s := by
  cases s with
  | nil =>
    match row, h with
    | [b], h => exact h
  | cons c s =>
    match row, h with
    | b :: row, h => exact h.1

theorem Tells.tail {g : Glob} {c : Char} {s : List Char} {row : List Bool} (h : Tells g (c :: s) row) :
    Tells g s row.tail := by
  match row, h with
  | b :: row, h => exact h.2

theorem tells_emptyRow : ∀ s : List Char, Tells [] s (emptyRow s)
  | [] => by simp [emptyRow, Tells, matches_nil_iff]
  | c :: s => ⟨by simp [matches_nil_iff], tells_emptyRow s⟩

theorem tells_row_cons (part : Part) {g : Glob} : ∀ {s : List Char} {below : List Bool}, Tells g s below →
    Tells (part :: g) s (part.row s below)
  | [], below, h => by
    have hhead := h.headD
    cases part with
    | run =>
      match below, h with
      | [b], h =>
        simp only [Part.row, Tells, matches_run_iff]
        exact h.trans ⟨fun h => ⟨[], [], rfl, h⟩, fun ⟨u, v, huv, h⟩ => by
          rw [(List.append_eq_nil_iff.1 huv.symm).2] at h
          exact h⟩
    | one => simp [Part.row, Tells, matches_one_iff]
    | char c => simp [Part.row, Tells, matches_char_iff]
  | c :: s, below, h => by
    have hlater := tells_row_cons part h.tail
    refine ⟨?_, hlater⟩
    cases part with
    | run =>
      rw [Bool.or_eq_true, h.headD, hlater.headD]
      constructor
      · rintro (h | h)
        · exact .skip h
        · exact .more h
      · intro h
        cases h with
        | skip h => exact .inl h
        | more h => exact .inr h
    | one =>
      rw [h.tail.headD, matches_one_iff]
      constructor
      · exact fun h => ⟨c, s, rfl, h⟩
      · rintro ⟨_, _, ⟨⟩, h⟩
        exact h
    | char d =>
      simp only [Bool.and_eq_true, beq_iff_eq, h.tail.headD, matches_char_iff, List.cons.injEq]
      constructor
      · rintro ⟨rfl, h⟩
        exact ⟨s, ⟨rfl, rfl⟩, h⟩
      · rintro ⟨_, ⟨rfl, rfl⟩, h⟩
        exact ⟨rfl, h⟩

theorem tells_row (s : List Char) : ∀ g : Glob, Tells g s (row s g)
  | [] => tells_emptyRow s
  | part :: g => tells_row_cons part (tells_row s g)

/-- **The table finds out what a glob matches.** -/
theorem accepts_iff {g : Glob} {s : List Char} : g.accepts s = true ↔ Matches g s := (tells_row s g).headD

instance (g : Glob) (s : List Char) : Decidable (Matches g s) := decidable_of_iff _ accepts_iff

example : Matches (ofString "a?*.js") "a/b\nc.js".toList ∧ ¬Matches (ofString "a?*.js") "A/b.js".toList := by decide

/-! ## Globs for buckets -/

/-- Whether a glob is a name without slashes, or the beginning of one with nothing but runs behind it. -/
def isConfined : Glob → Bool
  | [] => true
  | .char c :: g => c != '/' && isConfined g
  | .one :: _ => false
  | .run :: g => g.all (· == .run)

theorem matches_of_all_run : ∀ {g : Glob}, g.all (· == .run) = true → Matches g []
  | [], _ => .nil
  | part :: g, h => by
    rw [List.all_cons, Bool.and_eq_true, beq_iff_eq] at h
    obtain ⟨rfl, h⟩ := h
    exact .skip (matches_of_all_run h)

theorem all_run_of_matches_nil : ∀ {g : Glob}, Matches g [] → g.all (· == .run) = true
  | [], _ => rfl
  | .run :: g, h => by
    cases h with
    | skip h => simpa using all_run_of_matches_nil h

/-- Every glob matches something. -/
theorem exists_matches : ∀ g : Glob, ∃ s, Matches g s
  | [] => ⟨[], .nil⟩
  | part :: g => by
    obtain ⟨s, h⟩ := exists_matches g
    cases part with
    | run => exact ⟨s, .skip h⟩
    | one => exact ⟨'/' :: s, .one h⟩
    | char c => exact ⟨c :: s, .char h⟩

theorem matches_of_isConfined {front : List Char} : ∀ {g : Glob} {bucket : List Char}, g.isConfined = true →
    '/' ∉ bucket → Matches g (bucket ++ '/' :: front) → Matches g bucket
  | [], bucket, _, _, h => by
    rw [matches_nil_iff] at h
    exact absurd h (by simp)
  | .char c :: g, bucket, hg, hslash, h => by
    rw [isConfined, Bool.and_eq_true, bne_iff_ne] at hg
    obtain ⟨t, ht, h⟩ := matches_char_iff.1 h
    cases bucket with
    | nil =>
      rw [List.nil_append, List.cons.injEq] at ht
      exact absurd ht.1.symm hg.1
    | cons d bucket =>
      rw [List.cons_append, List.cons.injEq] at ht
      obtain ⟨rfl, rfl⟩ := ht
      exact .char (matches_of_isConfined hg.2 (fun hm => hslash (List.mem_cons_of_mem _ hm)) h)
  | .run :: g, bucket, hg, _, _ => by
    have hmatches := matches_run_append (matches_of_all_run hg) bucket
    rwa [List.append_nil] at hmatches

theorem exists_bypass_of_not_isConfined : ∀ {g : Glob}, g.isConfined = false →
    ∃ bucket front, '/' ∉ bucket ∧ Matches g (bucket ++ '/' :: front) ∧ ¬Matches g bucket
  | .char c :: g, hg => by
    by_cases hc : c = '/'
    · subst hc
      obtain ⟨front, h⟩ := exists_matches g
      exact ⟨[], front, by simp, .char h, by simp [matches_char_iff]⟩
    · have hg : isConfined g = false := by simpa [isConfined, hc] using hg
      obtain ⟨bucket, front, hslash, h, hnot⟩ := exists_bypass_of_not_isConfined hg
      refine ⟨c :: bucket, front, by simp [hslash, Ne.symm hc], .char h, fun hb => hnot ?_⟩
      cases hb with
      | char hb => exact hb
  | .one :: g, _ => by
    obtain ⟨front, h⟩ := exists_matches g
    exact ⟨[], front, by simp, .one h, by simp [matches_one_iff]⟩
  | .run :: g, hg => by
    obtain ⟨front, h⟩ := exists_matches g
    refine ⟨[], front, by simp, .more (matches_run_append h []), fun hb => ?_⟩
    rw [isConfined] at hg
    cases hb with
    | skip hb => rw [all_run_of_matches_nil hb] at hg; cases hg

/-- **Which globs cannot be led on by a key**: those that match a bucket whenever they match an address in it. -/
theorem isConfined_iff {g : Glob} : g.isConfined = true ↔
    ∀ bucket front, '/' ∉ bucket → Matches g (bucket ++ '/' :: front) → Matches g bucket := by
  refine ⟨fun hg bucket front => matches_of_isConfined hg, fun h => ?_⟩
  cases hg : g.isConfined with
  | true => rfl
  | false =>
    obtain ⟨bucket, front, hslash, hmatches, hnot⟩ := exists_bypass_of_not_isConfined hg
    exact absurd (h bucket front hslash hmatches) hnot

end ObjectRelay.Glob
