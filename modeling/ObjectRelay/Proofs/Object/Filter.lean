import ObjectRelay.Proofs.Object.Glob
import ObjectRelay.Proofs.Object.GlobPattern
import ObjectRelay.Proofs.Pattern.Language
/-!
# What filters let through

The pattern of a glob occurs in a text exactly if the glob matches it (`occursIn_expr_iff`), so a filter can always be
made of its globs, and lets through what one of its pairs matches (`ObjectFilter.allows_iff`).

A pair is matched as one glob.  A bucket therefore need not be matched by a bucket glob: the glob may go on to a slash
of the key (`ObjectFilter.allows_bucket`).
-/
namespace ObjectRelay

open Pattern (Expr Look)
open Unicode (CharSet)

/-! ## The pattern of a glob -/

namespace Glob

variable {s : List Char}

theorem spans_one_iff {set : CharSet} {i j : Nat} :
    Expr.Spans s (.one set) i j ↔ j = i + 1 ∧ ∃ c t, s.drop i = c :: t ∧ set.has c = true := by
  constructor
  · intro h
    cases h with
    | one hc hset =>
      obtain ⟨hlt, rfl⟩ := List.getElem?_eq_some_iff.1 hc
      exact ⟨rfl, _, _, List.drop_eq_getElem_cons hlt, hset⟩
  · rintro ⟨rfl, c, t, hdrop, hset⟩
    have hc : s[i]? = some c := by rw [← List.head?_drop, hdrop, List.head?_cons]
    exact .one hc hset

/-- As often as one likes any character: any part of the text. -/
theorem repeats_any_iff {k i j : Nat} (hi : i ≤ s.length) :
    Expr.Repeats s (.one .any) k i j ↔ j = i + k ∧ j ≤ s.length := by
  induction k generalizing i with
  | zero =>
    simp only [Expr.Repeats, Nat.add_zero]
    exact ⟨fun h => h ▸ ⟨rfl, hi⟩, fun h => h.1.symm⟩
  | succ k ih =>
    constructor
    · rintro ⟨m, hfirst, hrest⟩
      have hbounds := hfirst.bounds
      obtain ⟨rfl, -⟩ := spans_one_iff.1 hfirst
      obtain ⟨rfl, hj⟩ := (ih hbounds.2).1 hrest
      exact ⟨by omega, hj⟩
    · rintro ⟨rfl, hj⟩
      have hlt : i < s.length := by omega
      exact ⟨i + 1, spans_one_iff.2 ⟨rfl, _, _, List.drop_eq_getElem_cons hlt, CharSet.has_any _⟩,
        (ih hlt).2 ⟨by omega, hj⟩⟩

theorem spans_run_iff {i j : Nat} (hi : i ≤ s.length) :
    Expr.Spans s Part.run.expr i j ↔ i ≤ j ∧ j ≤ s.length := by
  rw [Part.expr, Expr.spans_times_iff]
  constructor
  · rintro ⟨hj, k, -, -, hrepeats⟩
    obtain ⟨rfl, -⟩ := (repeats_any_iff hi).1 hrepeats
    exact ⟨Nat.le_add_right _ _, hj⟩
  · rintro ⟨hle, hj⟩
    exact ⟨hj, j - i, Nat.zero_le _, by simp, (repeats_any_iff hi).2 ⟨by omega, hj⟩⟩

/-- **What the parts of a glob span** up to the end of a text: what the glob matches. -/
theorem spans_parts_iff : ∀ {g : Glob} {i : Nat}, i ≤ s.length →
    ((∃ j, Expr.Spans s (.ofList (g.map Part.expr ++ [.look .textEnd])) i j) ↔ Matches g (s.drop i))
  | [], i, hi => by
    have hend : i = s.length ↔ s.drop i = [] := by
      rw [List.drop_eq_nil_iff]
      omega
    simp only [List.map_nil, List.nil_append, Expr.ofList, Expr.spans_textEnd_iff, matches_nil_iff, exists_eq_left, hend]
  | part :: g, i, hi => by
    have hsplit : (∃ j, Expr.Spans s (.ofList ((part :: g).map Part.expr ++ [.look .textEnd])) i j) ↔
        ∃ m, Expr.Spans s part.expr i m ∧ Matches g (s.drop m) := by
      simp only [List.map_cons, List.cons_append, Expr.spans_ofList_cons]
      constructor
      · rintro ⟨j, m, hpart, hrest⟩
        exact ⟨m, hpart, (spans_parts_iff hpart.bounds.2).1 ⟨j, hrest⟩⟩
      · rintro ⟨m, hpart, hrest⟩
        obtain ⟨j, hrest⟩ := (spans_parts_iff hpart.bounds.2).2 hrest
        exact ⟨j, m, hpart, hrest⟩
    rw [hsplit]
    cases part with
    | run =>
      simp only [spans_run_iff hi, matches_run_iff]
      constructor
      · rintro ⟨m, ⟨hle, -⟩, h⟩
        refine ⟨(s.drop i).take (m - i), s.drop m, ?_, h⟩
        have hdrop : (s.drop i).drop (m - i) = s.drop m := by rw [List.drop_drop, Nat.add_sub_cancel' hle]
        rw [← hdrop, List.take_append_drop]
      · rintro ⟨u, v, huv, h⟩
        have hlength : u.length ≤ s.length - i := by
          rw [← List.length_drop, huv, List.length_append]
          exact Nat.le_add_right _ _
        refine ⟨i + u.length, by omega, ?_⟩
        rwa [← List.drop_drop, huv, List.drop_left]
    | one =>
      simp only [Part.expr, spans_one_iff, matches_one_iff, CharSet.has_any, and_true]
      constructor
      · rintro ⟨_, ⟨rfl, c, t, hdrop⟩, h⟩
        rw [← List.drop_drop, hdrop] at h
        exact ⟨c, t, hdrop, h⟩
      · rintro ⟨c, t, hdrop, h⟩
        refine ⟨i + 1, ⟨rfl, c, t, hdrop⟩, ?_⟩
        rwa [← List.drop_drop, hdrop]
    | char c =>
      simp only [Part.expr, spans_one_iff, matches_char_iff, CharSet.has_single]
      constructor
      · rintro ⟨_, ⟨rfl, _, t, hdrop, rfl⟩, h⟩
        rw [← List.drop_drop, hdrop] at h
        exact ⟨t, hdrop, h⟩
      · rintro ⟨t, hdrop, h⟩
        refine ⟨i + 1, ⟨rfl, c, t, hdrop, rfl⟩, ?_⟩
        rwa [← List.drop_drop, hdrop]

theorem isOrdered_expr (g : Glob) : g.expr.IsOrdered := by
  refine Expr.isOrdered_ofList fun e he => ?_
  simp only [List.mem_cons, List.mem_append, List.mem_map, List.not_mem_nil, or_false] at he
  obtain rfl | ⟨part, -, rfl⟩ | rfl := he
  · trivial
  · cases part with
    | run =>
      refine ⟨trivial, fun m hm => ?_⟩
      cases hm
    | one | char => trivial
  · trivial

/-- **The pattern of a glob occurs in a text** exactly if the glob matches the text as a whole. -/
theorem occursIn_expr_iff {g : Glob} : g.expr.occursIn s = true ↔ Matches g s := by
  have hparts := spans_parts_iff (g := g) (Nat.zero_le s.length)
  rw [List.drop_zero] at hparts
  rw [Expr.occursIn_iff (isOrdered_expr g), ← hparts]
  constructor
  · rintro ⟨i, j, hspans⟩
    obtain ⟨m, hstart, hrest⟩ := Expr.spans_ofList_cons.1 hspans
    cases hstart with
    | look hi hholds =>
      -- nothing stands in front of the place where the text starts
      have hzero : i = 0 := by
        by_contra hne
        have hlt : i - 1 < s.length := by omega
        simp [Look.holds, Expr.charBefore, hne, List.getElem?_eq_getElem hlt] at hholds
      exact ⟨j, hzero ▸ hrest⟩
  · rintro ⟨j, hrest⟩
    exact ⟨0, j, Expr.spans_ofList_cons.2 ⟨0, .look (Nat.zero_le _) rfl, hrest⟩⟩

end Glob

/-! ## Filters -/

namespace ObjectFilter

variable {glob source : String}

/-- A pattern takes the texts that a glob matches. -/
def Says (glob : String) (p : Pattern) : Prop :=
  ∀ source : String, p.accepts source = true ↔ (Glob.ofString glob).Matches source.toList

/-- **Every glob can be compiled**, to a pattern that takes what the glob matches. -/
theorem exists_compile (glob : String) : ∃ p, compile glob = .ok p ∧ Says glob p := by
  refine ⟨{ text := String.ofList (Glob.ofString glob).written, expr := (Glob.ofString glob).expr, names := [] }, ?_,
    fun source => Glob.occursIn_expr_iff⟩
  simp [compile, Pattern.ofString?, Glob.parse?_written]

theorem exists_mapM_compile : ∀ globs : List String, ∃ patterns, globs.mapM compile = .ok patterns ∧
    List.Forall₂ Says globs patterns
  | [] => ⟨[], rfl, .nil⟩
  | glob :: globs => by
    obtain ⟨p, hp, hagrees⟩ := exists_compile glob
    obtain ⟨patterns, hpatterns, hall⟩ := exists_mapM_compile globs
    exact ⟨p :: patterns, by rw [List.mapM_cons, hp, hpatterns]; rfl, .cons hagrees hall⟩

theorem any_accepts_iff {globs : List String} {patterns : List Pattern} (h : List.Forall₂ Says globs patterns) :
    (patterns.any fun p => p.accepts source) = true ↔
      ∃ glob ∈ globs, (Glob.ofString glob).Matches source.toList := by
  induction h with
  | nil => simp
  | cons hagrees _ ih => simp [hagrees source, ih]

variable {buckets keys : List String} {filter : ObjectFilter}

theorem exists_ofGlobs (buckets keys : List String) : ∃ filter, ofGlobs buckets keys = .ok filter := by
  obtain ⟨patterns, hpatterns, -⟩ :=
    exists_mapM_compile (buckets.flatMap fun bucket => keys.map fun key => bucket ++ "/" ++ key)
  exact ⟨{ patterns }, by rw [ofGlobs, hpatterns]; rfl⟩

theorem allows_iff_of_ofGlobs (h : ofGlobs buckets keys = .ok filter) : filter.allows source = true ↔
    ∃ bucketGlob ∈ buckets, ∃ keyGlob ∈ keys,
      (Glob.ofString (bucketGlob ++ "/" ++ keyGlob)).Matches source.toList := by
  obtain ⟨patterns, hpatterns, hall⟩ :=
    exists_mapM_compile (buckets.flatMap fun bucket => keys.map fun key => bucket ++ "/" ++ key)
  rw [ofGlobs, hpatterns] at h
  cases h
  rw [allows, any_accepts_iff hall]
  constructor
  · rintro ⟨glob, hglob, hmatches⟩
    obtain ⟨bucketGlob, hbucket, hglob⟩ := List.mem_flatMap.1 hglob
    obtain ⟨keyGlob, hkey, rfl⟩ := List.mem_map.1 hglob
    exact ⟨bucketGlob, hbucket, keyGlob, hkey, hmatches⟩
  · rintro ⟨bucketGlob, hbucket, keyGlob, hkey, hmatches⟩
    exact ⟨_, List.mem_flatMap.2 ⟨bucketGlob, hbucket, List.mem_map.2 ⟨keyGlob, hkey, rfl⟩⟩, hmatches⟩

/-- **Filter semantics**: a filter can be made of all globs, and lets through the sources that a bucket glob, a slash
and a key glob match as a whole. -/
theorem allows_iff (buckets keys : List String) : ∃ filter, ofGlobs buckets keys = .ok filter ∧
    ∀ source : String, filter.allows source = true ↔ ∃ bucketGlob ∈ buckets, ∃ keyGlob ∈ keys,
      (Glob.ofString (bucketGlob ++ "/" ++ keyGlob)).Matches source.toList := by
  obtain ⟨filter, hfilter⟩ := exists_ofGlobs buckets keys
  exact ⟨filter, hfilter, fun _ => allows_iff_of_ofGlobs hfilter⟩

/-! ## Buckets -/

/-- Whether only objects of buckets that a bucket glob matches are let through. -/
def Guards (filter : ObjectFilter) (buckets : List String) : Prop :=
  ∀ bucket key : String, '/' ∉ bucket.toList → filter.allows (bucket ++ "/" ++ key) = true →
    ∃ bucketGlob ∈ buckets, (Glob.ofString bucketGlob).Matches bucket.toList

/-- Of the slashes of an address any may be the one between the globs: the first one or one of the key. -/
theorem matches_pair_iff {bucketGlob keyGlob bucket key : String} (hslash : '/' ∉ bucket.toList) :
    (Glob.ofString (bucketGlob ++ "/" ++ keyGlob)).Matches (bucket ++ "/" ++ key).toList ↔
      (Glob.ofString bucketGlob).Matches bucket.toList ∧ (Glob.ofString keyGlob).Matches key.toList ∨
      ∃ front rest, key.toList = front ++ '/' :: rest ∧
        (Glob.ofString bucketGlob).Matches (bucket.toList ++ '/' :: front) ∧ (Glob.ofString keyGlob).Matches rest := by
  have hglob : Glob.ofString (bucketGlob ++ "/" ++ keyGlob) =
      Glob.ofString bucketGlob ++ .char '/' :: Glob.ofString keyGlob := by
    rw [Glob.ofString_append, Glob.ofString_append, List.append_assoc]
    rfl
  have haddress : (bucket ++ "/" ++ key).toList = bucket.toList ++ '/' :: key.toList := by simp
  rw [hglob, haddress, Glob.matches_append_iff]
  simp only [Glob.matches_char_iff]
  constructor
  · rintro ⟨u, _, hsplit, hu, v, rfl, hv⟩
    obtain ⟨front, rfl, hrest⟩ | ⟨front, hbucket, hrest⟩ := List.append_eq_append_iff.1 hsplit
    · cases front with
      | nil =>
        rw [List.nil_append, List.cons.injEq] at hrest
        rw [List.append_nil] at hu
        exact .inl ⟨hu, hrest.2 ▸ hv⟩
      | cons c front =>
        rw [List.cons_append, List.cons.injEq] at hrest
        obtain ⟨rfl, hkey⟩ := hrest
        exact .inr ⟨front, v, hkey, hu, hv⟩
    · cases front with
      | nil =>
        rw [List.nil_append, List.cons.injEq] at hrest
        rw [List.append_nil] at hbucket
        exact .inl ⟨hbucket ▸ hu, hrest.2 ▸ hv⟩
      | cons c front =>
        rw [List.cons_append, List.cons.injEq] at hrest
        rw [hbucket, ← hrest.1] at hslash
        exact absurd (List.mem_append_right u List.mem_cons_self) hslash
  · rintro (⟨hbucket, hkey⟩ | ⟨front, rest, hkey, hbucket, hrest⟩)
    · exact ⟨_, _, rfl, hbucket, _, rfl, hkey⟩
    · exact ⟨_, '/' :: rest, by rw [hkey, List.append_assoc, List.cons_append], hbucket, rest, rfl, hrest⟩

theorem allows_address_iff (h : ofGlobs buckets keys = .ok filter) {bucket key : String} (hslash : '/' ∉ bucket.toList) :
    filter.allows (bucket ++ "/" ++ key) = true ↔ ∃ bucketGlob ∈ buckets, ∃ keyGlob ∈ keys,
      (Glob.ofString bucketGlob).Matches bucket.toList ∧ (Glob.ofString keyGlob).Matches key.toList ∨
      ∃ front rest, key.toList = front ++ '/' :: rest ∧
        (Glob.ofString bucketGlob).Matches (bucket.toList ++ '/' :: front) ∧
        (Glob.ofString keyGlob).Matches rest := by
  simp only [allows_iff_of_ofGlobs h, matches_pair_iff hslash]

theorem guards_of_isConfined (h : ofGlobs buckets keys = .ok filter)
    (hconfined : ∀ bucketGlob ∈ buckets, (Glob.ofString bucketGlob).isConfined = true) : filter.Guards buckets := by
  intro bucket key hslash hallows
  obtain ⟨bucketGlob, hmem, _, -, hpair⟩ := (allows_address_iff h hslash).1 hallows
  refine ⟨bucketGlob, hmem, ?_⟩
  rcases hpair with ⟨hbucket, -⟩ | ⟨front, rest, -, hbucket, -⟩
  · exact hbucket
  · exact Glob.matches_of_isConfined (hconfined bucketGlob hmem) hslash hbucket

theorem not_guards_of_not_isConfined {bucketGlob : String} (h : ofGlobs [bucketGlob] ["*"] = .ok filter)
    (hconfined : (Glob.ofString bucketGlob).isConfined = false) : ¬filter.Guards [bucketGlob] := by
  obtain ⟨bucket, front, hslash, hmatches, hnot⟩ := Glob.exists_bypass_of_not_isConfined hconfined
  intro hguards
  have hbucket : '/' ∉ (String.ofList bucket).toList := by rwa [String.toList_ofList]
  have hallows : filter.allows (String.ofList bucket ++ "/" ++ String.ofList (front ++ ['/'])) = true := by
    refine (allows_address_iff h hbucket).2 ⟨bucketGlob, List.mem_singleton_self _, "*", List.mem_singleton_self _,
      .inr ⟨front, [], by rw [String.toList_ofList], by rwa [String.toList_ofList], .skip .nil⟩⟩
  obtain ⟨_, hmem, hbypass⟩ := hguards _ _ hbucket hallows
  rw [List.mem_singleton.1 hmem, String.toList_ofList] at hbypass
  exact hnot hbypass

/-- **Which objects of a bucket are let through**: those whose bucket and key a bucket glob and a key glob match, and
those whose address the bucket glob matches up to a slash of the key and whose rest the key glob matches.  So bucket
globs that are names, or beginnings of names with nothing but runs behind them, guard the buckets; no other glob does,
whatever it is meant to stand for. -/
theorem allows_bucket :
    (∀ buckets keys : List String, ∃ filter, ofGlobs buckets keys = .ok filter ∧
      (∀ bucket key : String, '/' ∉ bucket.toList →
        (filter.allows (bucket ++ "/" ++ key) = true ↔ ∃ bucketGlob ∈ buckets, ∃ keyGlob ∈ keys,
          (Glob.ofString bucketGlob).Matches bucket.toList ∧ (Glob.ofString keyGlob).Matches key.toList ∨
          ∃ front rest, key.toList = front ++ '/' :: rest ∧
            (Glob.ofString bucketGlob).Matches (bucket.toList ++ '/' :: front) ∧
            (Glob.ofString keyGlob).Matches rest)) ∧
      ((∀ bucketGlob ∈ buckets, (Glob.ofString bucketGlob).isConfined = true) → filter.Guards buckets)) ∧
    ∀ bucketGlob : String, (Glob.ofString bucketGlob).isConfined = false →
      ∃ filter, ofGlobs [bucketGlob] ["*"] = .ok filter ∧ ¬filter.Guards [bucketGlob] := by
  constructor
  · intro buckets keys
    obtain ⟨filter, hfilter⟩ := exists_ofGlobs buckets keys
    exact ⟨filter, hfilter, fun _ _ hslash => allows_address_iff hfilter hslash, guards_of_isConfined hfilter⟩
  · intro bucketGlob hconfined
    obtain ⟨filter, hfilter⟩ := exists_ofGlobs [bucketGlob] ["*"]
    exact ⟨filter, hfilter, not_guards_of_not_isConfined hfilter hconfined⟩

/-- A bucket glob with a run in its midst lets through an object of a bucket that it does not match. -/
theorem allows_bucket_midst : ∃ filter, ofGlobs ["prod-*-logs"] ["*"] = .ok filter ∧
    filter.allows ("prod-x" ++ "/" ++ "evil-logs/k") = true ∧ '/' ∉ "prod-x".toList ∧
    ¬∃ bucketGlob ∈ ["prod-*-logs"], (Glob.ofString bucketGlob).Matches "prod-x".toList := by
  obtain ⟨filter, hfilter⟩ := exists_ofGlobs ["prod-*-logs"] ["*"]
  refine ⟨filter, hfilter, (allows_iff_of_ofGlobs hfilter).2 ?_, by decide, by decide⟩
  exact ⟨_, List.mem_singleton_self _, _, List.mem_singleton_self _, by decide⟩

end ObjectFilter
end ObjectRelay
