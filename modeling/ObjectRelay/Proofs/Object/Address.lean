import ObjectRelay.Object.Copy
/-!
# Addresses and copy sources

An address begins with a scheme, or it is none (`HasScheme`).  What stands behind the scheme is cut twice, at the first
question mark and at the first slash before it (`bucketOf`, `keyOf`), so that an address is read exactly as the parts it
was written from, as long as these can be told apart (`parse_eq_ok_iff`, `IsProper`).  Both ways of failing are told by
what is missing (`parse_eq_missingScheme_iff`, `parse_eq_missingBucket_iff`).  A copy source is read back into bucket and
key without exception (`CopyRequest.sourceParts_append`).
-/
namespace ObjectRelay

theorem takeWhile_ne_append {c : Char} {l : List Char} (h : c ∉ l) (r : List Char) :
    (l ++ r).takeWhile (· != c) = l ++ r.takeWhile (· != c) :=
  List.takeWhile_append_of_pos fun _ ha => bne_iff_ne.2 fun hac => h (hac ▸ ha)

theorem not_mem_takeWhile_ne (c : Char) (l : List Char) : c ∉ l.takeWhile (· != c) := fun hc => by
  simpa using List.all_eq_true.1 List.all_takeWhile c hc

/-- Text is cut in front of a character, or the character is not in it. -/
theorem takeWhile_ne_cases (c : Char) (l : List Char) :
    l = l.takeWhile (· != c) ∨ ∃ rest, l = l.takeWhile (· != c) ++ c :: rest := by
  have hsplit : l.takeWhile (· != c) ++ l.dropWhile (· != c) = l := List.takeWhile_append_dropWhile
  cases h : l.dropWhile (· != c) with
  | nil =>
    rw [h, List.append_nil] at hsplit
    exact .inl hsplit.symm
  | cons d rest =>
    have hd : d = c := by
      have hhead := List.head?_dropWhile_not (· != c) l
      rw [h] at hhead
      simpa using hhead
    rw [h, hd] at hsplit
    exact .inr ⟨rest, hsplit.symm⟩

/-! ## The scheme -/

section Cut

variable {sep : List Char} (hsep : sep ≠ [])
include hsep

theorem eq_append_of_cutAt : ∀ {s before after : List Char}, cutAt sep s = some (before, after) →
    s = before ++ (sep ++ after) ∧ ¬sep <:+: before
  | [], _, _, h => nomatch h
  | c :: s, before, after, h => by
    rw [cutAt] at h
    split at h
    · rename_i hp
      obtain ⟨rfl, rfl⟩ := Prod.mk.inj (Option.some.inj h)
      refine ⟨?_, fun hinfix => hsep (List.infix_nil.1 hinfix)⟩
      exact (List.prefix_iff_eq_append.1 (List.isPrefixOf_iff_prefix.1 hp)).symm
    · rename_i hp
      obtain ⟨⟨before', after'⟩, hcut, heq⟩ := Option.map_eq_some_iff.1 h
      obtain ⟨rfl, rfl⟩ := Prod.mk.inj heq
      obtain ⟨rfl, hfree⟩ := eq_append_of_cutAt hcut
      refine ⟨rfl, fun hinfix => ?_⟩
      rcases List.infix_cons_iff.1 hinfix with hstart | hinfix
      · exact hp (List.isPrefixOf_iff_prefix.2 (hstart.trans (List.prefix_append _ _)))
      · exact hfree hinfix

end Cut

/-- Text is cut behind a scheme: no part of the separator can be the end of one. -/
theorem cutAt_scheme : ∀ {scheme : List Char}, ¬"://".toList <:+: scheme → ∀ rest,
    cutAt "://".toList (scheme ++ ("://".toList ++ rest)) = some (scheme, rest)
  | [], _, _ => rfl
  | c :: scheme, h, rest => by
    have hfree : ¬"://".toList <:+: scheme := fun hinfix => h (List.infix_cons_iff.2 (.inr hinfix))
    have hp : "://".toList.isPrefixOf (c :: (scheme ++ ("://".toList ++ rest))) = false := by
      refine Bool.eq_false_iff.2 fun hp => ?_
      obtain ⟨more, hmore⟩ := List.isPrefixOf_iff_prefix.1 hp
      match scheme, h, hmore with
      | [], _, hmore => simp at hmore
      | [d], _, hmore => simp at hmore
      | d :: e :: scheme, h, hmore =>
        refine h (List.infix_cons_iff.2 (.inl ⟨scheme, ?_⟩))
        simp only [String.reduceToList, List.cons_append, List.nil_append, List.cons.injEq] at hmore ⊢
        exact ⟨hmore.1, hmore.2.1, hmore.2.2.1, trivial⟩
    rw [List.cons_append, cutAt, hp, if_neg Bool.false_ne_true, cutAt_scheme hfree rest]
    rfl

namespace ObjectUri

/-- Whether a text begins with a scheme, and what stands behind it. -/
structure HasScheme (text scheme rest : String) : Prop where
  ne_empty : scheme ≠ ""
  free : ¬"://".toList <:+: scheme.toList
  eq : text = scheme ++ "://" ++ rest

/-- What is read as the bucket behind a scheme. -/
def bucketOf (rest : String) : String :=
  String.ofList ((rest.toList.takeWhile (· != '?')).takeWhile (· != '/'))

/-- What is read as the key behind a scheme. -/
def keyOf (rest : String) : String :=
  String.ofList (((rest.toList.takeWhile (· != '?')).drop (bucketOf rest).toList.length).drop 1)

theorem parse_of_hasScheme {text scheme rest : String} (h : HasScheme text scheme rest) : parse text =
    if bucketOf rest = "" then .error (.missingBucket text) else .ok ⟨scheme, bucketOf rest, keyOf rest⟩ := by
  have htext : text.toList = scheme.toList ++ ("://".toList ++ rest.toList) := by
    rw [h.eq, String.toList_append, String.toList_append, List.append_assoc]
  have hne : scheme.toList ≠ [] := fun hnil => h.ne_empty (String.toList_eq_nil_iff.1 hnil)
  obtain ⟨c, cs, hscheme⟩ := List.exists_cons_of_ne_nil hne
  have hcut : cutAt "://".toList text.toList = some (c :: cs, rest.toList) := by
    rw [htext, cutAt_scheme h.free, hscheme]
  have hofList : String.ofList (c :: cs) = scheme := by rw [← hscheme, String.ofList_toList]
  have hempty : ((rest.toList.takeWhile (· != '?')).takeWhile (· != '/')).isEmpty = true ↔ bucketOf rest = "" := by
    rw [List.isEmpty_iff, ← String.toList_eq_nil_iff, bucketOf, String.toList_ofList]
  rw [parse, hcut]
  simp only [hempty, hofList, keyOf, bucketOf, String.toList_ofList]

theorem parse_of_not_hasScheme {text : String} (h : ¬∃ scheme rest, HasScheme text scheme rest) :
    parse text = .error (.missingScheme text) := by
  rw [parse]
  split
  · rfl
  · rfl
  · rename_i scheme rest hne hcut
    obtain ⟨heq, hfree⟩ := eq_append_of_cutAt (by decide) hcut
    refine absurd ⟨String.ofList scheme, String.ofList rest, ?_, ?_, ?_⟩ h
    · exact fun hnil => hne (by simpa using hnil)
    · simpa using hfree
    · rw [← String.toList_inj, heq]
      simp

/-! ## Bucket and key -/

/-- What may stand behind an address: nothing, or a query. -/
def IsEnding (ending : String) : Prop := ending = "" ∨ ∃ query, ending = "?" ++ query

/-- Whether the parts of an address can be told apart when they stand one behind the other. -/
structure IsProper (uri : ObjectUri) : Prop where
  scheme_ne : uri.scheme ≠ ""
  scheme_free : ¬"://".toList <:+: uri.scheme.toList
  bucket_ne : uri.bucket ≠ ""
  slash_notMem_bucket : '/' ∉ uri.bucket.toList
  query_notMem_bucket : '?' ∉ uri.bucket.toList
  query_notMem_key : '?' ∉ uri.key.toList

/-- The address of the parts. -/
def written (uri : ObjectUri) : String := uri.scheme ++ "://" ++ uri.bucket ++ "/" ++ uri.key

/-- Whether a text has the parts in it one behind the other; the slash in front of an empty key may be left out. -/
def IsWriting (uri : ObjectUri) (text : String) : Prop :=
  ∃ ending, IsEnding ending ∧
    (text = uri.written ++ ending ∨ uri.key = "" ∧ text = uri.scheme ++ "://" ++ uri.bucket ++ ending)

theorem takeWhile_query_ending {ending : String} (h : IsEnding ending) :
    ending.toList.takeWhile (· != '?') = [] := by
  rcases h with rfl | ⟨query, rfl⟩
  · rfl
  · simp

theorem bucketOf_append {bucket ending : String} {path : List Char} (hs : '/' ∉ bucket.toList)
    (hq : '?' ∉ bucket.toList) (hpath : '?' ∉ path) (hslash : path = [] ∨ path.head? = some '/')
    (hending : IsEnding ending) {rest : String} (hrest : rest.toList = bucket.toList ++ (path ++ ending.toList)) :
    bucketOf rest = bucket ∧ keyOf rest = String.ofList (path.drop 1) := by
  have hbefore : rest.toList.takeWhile (· != '?') = bucket.toList ++ path := by
    rw [hrest, takeWhile_ne_append hq, takeWhile_ne_append hpath, takeWhile_query_ending hending, List.append_nil]
  have hpathSlash : path.takeWhile (· != '/') = [] := by
    cases path with
    | nil => rfl
    | cons c path =>
      obtain rfl : c = '/' := by simpa using hslash
      rfl
  have hbucket : bucketOf rest = bucket := by
    rw [bucketOf, hbefore, takeWhile_ne_append hs, hpathSlash, List.append_nil, String.ofList_toList]
  rw [keyOf, hbucket, hbefore, List.drop_left]
  exact ⟨rfl, rfl⟩

/-- **What an address is written from is read**, whatever query stands behind it. -/
theorem parse_of_isWriting {uri : ObjectUri} {text : String} (h : uri.IsProper) (hw : uri.IsWriting text) :
    parse text = .ok uri := by
  obtain ⟨ending, hending, hw⟩ := hw
  have hread : ∀ (path : List Char) (rest : String), '?' ∉ path → path = [] ∨ path.head? = some '/' →
      rest.toList = uri.bucket.toList ++ (path ++ ending.toList) → String.ofList (path.drop 1) = uri.key →
      text = uri.scheme ++ "://" ++ rest → parse text = .ok uri := by
    intro path rest hpath hslash hrest hkey htext
    obtain ⟨hbucket, hkeyOf⟩ :=
      bucketOf_append h.slash_notMem_bucket h.query_notMem_bucket hpath hslash hending hrest
    rw [parse_of_hasScheme ⟨h.scheme_ne, h.scheme_free, htext⟩, hbucket, if_neg h.bucket_ne, hkeyOf, hkey]
  rcases hw with rfl | ⟨hkey, rfl⟩
  · refine hread ('/' :: uri.key.toList) (uri.bucket ++ "/" ++ uri.key ++ ending) ?_ (.inr rfl) ?_ ?_ ?_
    · exact fun hmem => h.query_notMem_key ((List.mem_cons.1 hmem).resolve_left (by decide))
    · simp
    · rw [List.drop_succ_cons, List.drop_zero, String.ofList_toList]
    · simp only [written, String.append_assoc]
  · refine hread [] (uri.bucket ++ ending) (by simp) (.inl rfl) ?_ ?_ ?_
    · simp
    · rw [hkey]
      rfl
    · simp only [String.append_assoc]

/-- What stands behind a scheme is a bucket, a key and a query; a key needs a slash in front of it. -/
theorem exists_ending (rest : String) : ∃ ending, IsEnding ending ∧
    (rest = bucketOf rest ++ "/" ++ keyOf rest ++ ending ∨ keyOf rest = "" ∧ rest = bucketOf rest ++ ending) := by
  have hquery : ∃ ending, IsEnding ending ∧ rest.toList = rest.toList.takeWhile (· != '?') ++ ending.toList := by
    rcases takeWhile_ne_cases '?' rest.toList with hwhole | ⟨query, hcut⟩
    · exact ⟨"", .inl rfl, by simpa using hwhole⟩
    · exact ⟨"?" ++ String.ofList query, .inr ⟨_, rfl⟩, by simpa using hcut⟩
  obtain ⟨ending, hending, hrest⟩ := hquery
  refine ⟨ending, hending, ?_⟩
  have hbucket : (bucketOf rest).toList = (rest.toList.takeWhile (· != '?')).takeWhile (· != '/') :=
    String.toList_ofList
  rcases takeWhile_ne_cases '/' (rest.toList.takeWhile (· != '?')) with hwhole | ⟨key, hcut⟩
  · refine .inr ⟨?_, ?_⟩
    · rw [keyOf, hbucket, ← hwhole]
      simp
    · rw [← String.toList_inj, String.toList_append, hbucket, ← hwhole]
      exact hrest
  · refine .inl ?_
    rw [← hbucket] at hcut
    have hkey : (keyOf rest).toList = key := by
      rw [keyOf, String.toList_ofList, hcut, List.drop_left, List.drop_succ_cons, List.drop_zero]
    rw [← String.toList_inj]
    calc rest.toList = (bucketOf rest).toList ++ '/' :: key ++ ending.toList := by rw [← hcut, ← hrest]
      _ = (bucketOf rest ++ "/" ++ keyOf rest ++ ending).toList := by simp [hkey]

theorem isProper_of_hasScheme {text scheme rest : String} (h : HasScheme text scheme rest)
    (hbucket : bucketOf rest ≠ "") : IsProper ⟨scheme, bucketOf rest, keyOf rest⟩ where
  scheme_ne := h.ne_empty
  scheme_free := h.free
  bucket_ne := hbucket
  slash_notMem_bucket := by
    rw [bucketOf, String.toList_ofList]
    exact not_mem_takeWhile_ne '/' _
  query_notMem_bucket := by
    rw [bucketOf, String.toList_ofList]
    exact fun hmem => not_mem_takeWhile_ne '?' _ ((List.takeWhile_prefix _).subset hmem)
  query_notMem_key := by
    rw [keyOf, String.toList_ofList]
    exact fun hmem => not_mem_takeWhile_ne '?' _ (List.mem_of_mem_drop (List.mem_of_mem_drop hmem))

/-- **Reading an address is the inverse of writing it.** -/
theorem parse_eq_ok_iff {text : String} {uri : ObjectUri} :
    parse text = .ok uri ↔ uri.IsProper ∧ uri.IsWriting text := by
  refine ⟨fun h => ?_, fun h => parse_of_isWriting h.1 h.2⟩
  by_cases hscheme : ∃ scheme rest, HasScheme text scheme rest
  · obtain ⟨scheme, rest, hs⟩ := hscheme
    rw [parse_of_hasScheme hs] at h
    split at h
    · cases h
    · rename_i hbucket
      cases h
      refine ⟨isProper_of_hasScheme hs hbucket, ?_⟩
      obtain ⟨ending, hending, hrest⟩ := exists_ending rest
      refine ⟨ending, hending, hrest.imp (fun hrest => ?_) fun hrest => ⟨hrest.1, ?_⟩⟩
      · conv => lhs; rw [hs.eq, hrest]
        simp only [written, String.append_assoc]
      · conv => lhs; rw [hs.eq, hrest.2]
        simp only [String.append_assoc]
  · rw [parse_of_not_hasScheme hscheme] at h
    cases h

/-! ## What is no address -/

theorem parse_eq_missingScheme_iff {text told : String} : parse text = .error (.missingScheme told) ↔
    told = text ∧ ¬∃ scheme rest, HasScheme text scheme rest := by
  by_cases hscheme : ∃ scheme rest, HasScheme text scheme rest
  · obtain ⟨scheme, rest, hs⟩ := hscheme
    refine ⟨fun h => ?_, fun h => absurd ⟨scheme, rest, hs⟩ h.2⟩
    rw [parse_of_hasScheme hs] at h
    split at h <;> cases h
  · rw [parse_of_not_hasScheme hscheme]
    simp [hscheme, eq_comm]

theorem bucketOf_eq_empty_iff (rest : String) :
    bucketOf rest = "" ↔ ∀ c, rest.toList.head? = some c → c = '/' ∨ c = '?' := by
  rw [← String.toList_eq_nil_iff, bucketOf, String.toList_ofList]
  cases rest.toList with
  | nil => simp
  | cons c cs =>
    by_cases hq : c = '?'
    · simp [hq]
    · by_cases hs : c = '/'
      · simp [hs]
      · simp [hq, hs]

theorem parse_eq_missingBucket_iff {text told : String} : parse text = .error (.missingBucket told) ↔
    told = text ∧ ∃ scheme rest, HasScheme text scheme rest ∧
      ∀ c, rest.toList.head? = some c → c = '/' ∨ c = '?' := by
  by_cases hscheme : ∃ scheme rest, HasScheme text scheme rest
  · obtain ⟨scheme, rest, hs⟩ := hscheme
    constructor
    · intro h
      rw [parse_of_hasScheme hs] at h
      split at h
      · rename_i hempty
        cases h
        exact ⟨rfl, scheme, rest, hs, (bucketOf_eq_empty_iff rest).1 hempty⟩
      · cases h
    · rintro ⟨rfl, scheme', rest', hs', hhead⟩
      rw [parse_of_hasScheme hs', if_pos ((bucketOf_eq_empty_iff rest').2 hhead)]
  · rw [parse_of_not_hasScheme hscheme]
    refine ⟨nofun, ?_⟩
    rintro ⟨-, scheme, rest, hs, -⟩
    exact absurd ⟨scheme, rest, hs⟩ hscheme

/-! ## Addresses of the object store -/

/-- What is kept of a key behind an address: the part before the first question mark. -/
def withoutQuery (key : String) : String := String.ofList (key.toList.takeWhile (· != '?'))

theorem withoutQuery_eq_self_iff (key : String) : withoutQuery key = key ↔ '?' ∉ key.toList := by
  constructor
  · intro h hq
    have hm := not_mem_takeWhile_ne '?' key.toList
    rw [← String.toList_ofList (l := key.toList.takeWhile (· != '?')), ← withoutQuery, h] at hm
    exact hm hq
  · intro h
    have := takeWhile_ne_append h []
    rw [List.append_nil, List.takeWhile_nil, List.append_nil] at this
    rw [withoutQuery, this, String.ofList_toList]

theorem exists_eq_withoutQuery_append (key : String) : ∃ ending, IsEnding ending ∧ key = withoutQuery key ++ ending := by
  rcases takeWhile_ne_cases '?' key.toList with hwhole | ⟨query, hcut⟩
  · refine ⟨"", .inl rfl, ?_⟩
    rw [String.append_empty, withoutQuery, ← hwhole, String.ofList_toList]
  · refine ⟨"?" ++ String.ofList query, .inr ⟨_, rfl⟩, ?_⟩
    rw [← String.toList_inj]
    simpa [withoutQuery] using hcut

/-- **An address of the object store reads as its parts**, but for a query in the key. -/
theorem parse_storeAddress {bucket : String} (key : String) (hne : bucket ≠ "") (hs : '/' ∉ bucket.toList)
    (hq : '?' ∉ bucket.toList) :
    parse ("s3://" ++ bucket ++ "/" ++ key) = .ok ⟨"s3", bucket, withoutQuery key⟩ := by
  obtain ⟨ending, hending, hkey⟩ := exists_eq_withoutQuery_append key
  have hproper : IsProper ⟨"s3", bucket, withoutQuery key⟩ :=
    ⟨(by decide : "s3" ≠ ""), (by decide : ¬"://".toList <:+: "s3".toList), hne, hs, hq, by
      rw [withoutQuery, String.toList_ofList]
      exact not_mem_takeWhile_ne '?' _⟩
  refine parse_of_isWriting hproper ⟨ending, hending, .inl ?_⟩
  have hscheme : "s3://" = "s3" ++ "://" := rfl
  conv => lhs; rw [hkey, hscheme]
  simp only [written, String.append_assoc]

end ObjectUri

/-- **A copy source names the bucket before its first slash and the key behind it.** -/
theorem CopyRequest.sourceParts_append {bucket : String} (key : String) (hs : '/' ∉ bucket.toList) :
    sourceParts (bucket ++ "/" ++ key) = (bucket, key) := by
  have htext : (bucket ++ "/" ++ key).toList = bucket.toList ++ '/' :: key.toList := by simp
  have hbucket : (bucket.toList ++ '/' :: key.toList).takeWhile (· != '/') = bucket.toList := by
    rw [takeWhile_ne_append hs, List.takeWhile_cons_of_neg (by decide), List.append_nil]
  simp only [sourceParts, htext, hbucket]
  simp

end ObjectRelay
