import ObjectRelay.Relay.Handle
import ObjectRelay.Proofs.Relay.Copies
import ObjectRelay.Proofs.Text.Blank
/-!
# Keys below a destination

A copy keeps the source key behind the key of the destination, and leading slashes are taken off the two together.  If
the destination has anything but slashes in its key, they are taken off that alone, and the source key stays as it is
(`CopyOperation.key_below_of_not_onlySlashes`); otherwise they are taken off the source key
(`CopyOperation.key_below_of_onlySlashes`).  The audit log cuts the slashes off both ends of the destination's key
before it puts its path behind.  What all of these keys begin with is the folder of the destination
(`ObjectUri.keys_below`).
-/
namespace ObjectRelay

/-- Whether a text is nothing but slashes, or empty. -/
def OnlySlashes (s : String) : Prop := ∀ c ∈ s.toList, c = '/'

instance : DecidablePred OnlySlashes := fun s => inferInstanceAs (Decidable (∀ c ∈ s.toList, c = '/'))

/-- **What is left of a text without the slashes at its ends.** -/
structure IsCore (core s : String) : Prop where
  eq : ∃ front behind, OnlySlashes front ∧ OnlySlashes behind ∧ s = front ++ core ++ behind
  first : core.toList.head? ≠ some '/'
  last : core.toList.getLast? ≠ some '/'

/-- A core as a folder, which nothing is the folder of the empty one. -/
def folderOf (core : String) : String := if core = "" then "" else core ++ "/"

/-! ## Slashes -/

variable {s t : String}

theorem withoutLeadingSlashes_eq_empty_iff : withoutLeadingSlashes s = "" ↔ OnlySlashes s := by
  rw [← String.toList_eq_nil_iff, withoutLeadingSlashes, String.toList_ofList, List.dropWhile_eq_nil_iff, OnlySlashes]
  simp only [beq_iff_eq]

theorem withoutLeadingSlashes_append_of_onlySlashes (h : OnlySlashes s) (t : String) :
    withoutLeadingSlashes (s ++ t) = withoutLeadingSlashes t := by
  have hs : s.toList.dropWhile (· == '/') = [] := List.dropWhile_eq_nil_iff.2 fun c hc => beq_iff_eq.2 (h c hc)
  rw [withoutLeadingSlashes, withoutLeadingSlashes, String.toList_append, List.dropWhile_append, hs]
  rfl

theorem withoutLeadingSlashes_append_of_not_onlySlashes (h : ¬OnlySlashes s) (t : String) :
    withoutLeadingSlashes (s ++ t) = withoutLeadingSlashes s ++ t := by
  have hs : (s.toList.dropWhile (· == '/')).isEmpty = false := by
    refine Bool.eq_false_iff.2 fun hempty => h (withoutLeadingSlashes_eq_empty_iff.1 ?_)
    rw [withoutLeadingSlashes, List.isEmpty_iff.1 hempty, String.ofList_nil]
  rw [withoutLeadingSlashes, withoutLeadingSlashes, String.toList_append, List.dropWhile_append, hs,
    if_neg Bool.false_ne_true, String.ofList_append, String.ofList_toList]

/-- A slash may as well stand in front of slashes as behind them. -/
theorem OnlySlashes.append_slash (h : OnlySlashes s) (t : String) : s ++ ("/" ++ t) = "/" ++ (s ++ t) := by
  have hs : s.toList = List.replicate s.toList.length '/' := List.eq_replicate_iff.2 ⟨rfl, h⟩
  have hslash : s ++ "/" = "/" ++ s := by
    rw [← String.toList_inj, String.toList_append, String.toList_append, hs]
    exact (List.replicate_succ' ..).symm.trans (List.replicate_succ ..)
  rw [← String.append_assoc, hslash, String.append_assoc]

/-- The text as its core between slashes, where only those behind it count once leading ones are gone. -/
theorem exists_behind (s : String) : ∃ behind, OnlySlashes behind ∧
    withoutLeadingSlashes s = withoutOuterSlashes s ++ behind := by
  refine ⟨String.ofList (behindBy (· == '/') s.toList), fun c hc => ?_, ?_⟩
  · rw [String.toList_ofList] at hc
    have hslash := List.mem_rtakeWhile_imp hc
    exact eq_of_beq hslash
  · rw [withoutOuterSlashes, ← String.ofList_append]
    exact congrArg String.ofList (List.rdropWhile_append_rtakeWhile ..).symm

theorem isCore_withoutOuterSlashes (s : String) : IsCore (withoutOuterSlashes s) s where
  eq := by
    obtain ⟨behind, hbehind, hs⟩ := exists_behind s
    refine ⟨String.ofList (s.toList.takeWhile (· == '/')), behind, fun c hc => ?_, hbehind, ?_⟩
    · rw [String.toList_ofList] at hc
      have hslash := List.mem_takeWhile_imp hc
      exact eq_of_beq hslash
    · rw [String.append_assoc, ← hs, withoutLeadingSlashes, ← String.ofList_append, List.takeWhile_append_dropWhile,
        String.ofList_toList]
  first h := by
    rw [withoutOuterSlashes, String.toList_ofList] at h
    exact absurd (of_head?_trimBy h) (by decide)
  last h := by
    rw [withoutOuterSlashes, String.toList_ofList] at h
    exact absurd (of_getLast?_trimBy h) (by decide)

/-! ## Copies -/

namespace CopyOperation

variable {destination : ObjectUri}

theorem key_below (destination source : ObjectUri) :
    (below destination source).key = withoutLeadingSlashes (destination.key ++ ("/" ++ source.key)) := by
  rw [← String.append_assoc]
  rfl

/-- **Slashes are taken off the source key** where there is nothing else in front of it. -/
theorem key_below_of_onlySlashes (h : OnlySlashes destination.key) (source : ObjectUri) :
    (below destination source).key = withoutLeadingSlashes source.key := by
  have hslash : OnlySlashes "/" := by simp [OnlySlashes]
  rw [key_below, withoutLeadingSlashes_append_of_onlySlashes h, withoutLeadingSlashes_append_of_onlySlashes hslash]

/-- **The source key stays as it is** behind anything but slashes. -/
theorem key_below_of_not_onlySlashes (h : ¬OnlySlashes destination.key) (source : ObjectUri) :
    (below destination source).key = withoutLeadingSlashes destination.key ++ "/" ++ source.key := by
  rw [key_below, withoutLeadingSlashes_append_of_not_onlySlashes h, String.append_assoc]

theorem key_below_inj (h : ¬OnlySlashes destination.key) {source other : ObjectUri} :
    (below destination source).key = (below destination other).key ↔ source.key = other.key := by
  rw [key_below_of_not_onlySlashes h, key_below_of_not_onlySlashes h]
  exact String.append_right_inj _

theorem exists_folderOf_append_eq_key_below (destination source : ObjectUri) :
    ∃ rest, (below destination source).key = folderOf (withoutOuterSlashes destination.key) ++ rest := by
  rw [folderOf]
  split
  · exact ⟨_, String.empty_append.symm⟩
  · rename_i hcore
    obtain ⟨behind, hbehind, hdestination⟩ := exists_behind destination.key
    have hnot : ¬OnlySlashes destination.key := by
      rw [← withoutLeadingSlashes_eq_empty_iff, hdestination, String.append_eq_empty_iff]
      exact fun h => hcore h.1
    refine ⟨behind ++ source.key, ?_⟩
    rw [key_below_of_not_onlySlashes hnot, hdestination, String.append_assoc, String.append_assoc, hbehind.append_slash,
      String.append_assoc]

end CopyOperation

/-! ## Audit logs -/

theorem Audit.exists_folderOf_append_eq_key (destination : ObjectUri) (home : FunctionHome) (requestId : String)
    (now : Int) : ∃ rest, key destination home requestId now = folderOf (withoutOuterSlashes destination.key) ++ rest := by
  unfold key folderOf
  by_cases h : withoutOuterSlashes destination.key = ""
  · simp [h]
  · simp [h]

namespace Relay

variable {σ : Type} (relay : Relay) (store : Store σ)

theorem puts_walkMessages : ∀ (messages : List Message) (isCancelled : Bool) (state : σ),
    (relay.walkMessages store messages isCancelled state).activities.filterMap Activity.put? = []
  | [], _, _ => rfl
  | message :: rest, isCancelled, state => by
    rw [walkMessages]
    cases isCancelled with
    | true => rfl
    | false =>
      dsimp only
      rw [if_neg Bool.false_ne_true, List.filterMap_append, puts_walkMessages rest]
      rw [walkMessage, puts_walk, List.append_nil]

variable {relay store} {request : PutRequest} {outcomes : List (Message × Option MessageError)} {now : Int}
  {isCancelled : Bool} {state : σ}

theorem key_of_put_conclude {home : FunctionHome} {requestId : String}
    (h : .put request ∈ (relay.conclude store home requestId now outcomes isCancelled state).activities) :
    request.key = Audit.key relay.destination home requestId now := by
  have herrors : ∀ failed : List (Message × MessageError),
      Activity.put request ∉ failed.map fun f => Activity.log (.failed f.1.id f.2) := fun failed => by simp
  rw [conclude] at h
  dsimp only at h
  split at h
  · simp at h
  · have hrequest : request =
        Audit.request relay.destination (Audit.key relay.destination home requestId now) outcomes := by
      split at h <;> simpa [herrors] using h
    rw [hrequest]
    rfl

/-- **What an invocation stores is its audit log**, under the key of that. -/
theorem key_of_put_handle {context : InvocationContext} {messages : List Message}
    (h : .put request ∈ (relay.handle store context messages now isCancelled state).activities) :
    ∃ home, context.home = .ok home ∧ request.key = Audit.key relay.destination home context.requestId now := by
  have hwalked : Activity.put request ∉ (relay.walkMessages store messages isCancelled state).activities := fun hmem => by
    have hput : request ∈ (relay.walkMessages store messages isCancelled state).activities.filterMap Activity.put? :=
      List.mem_filterMap.2 ⟨_, hmem, rfl⟩
    rw [puts_walkMessages] at hput
    cases hput
  rw [handle] at h
  cases hhome : context.home with
  | error fault =>
    rw [hhome] at h
    cases h
  | ok home =>
    rw [hhome] at h
    dsimp only at h
    split at h
    · exact absurd h hwalked
    · exact ⟨home, rfl, key_of_put_conclude ((List.mem_append.1 h).resolve_left hwalked)⟩

end Relay

namespace ObjectUri

open CopyOperation (below)

/-- **The keys below a destination.**  Where the key of the destination has anything but slashes, no two source keys
come to the same key, none to the empty one, and each stands unchanged at the end of its own, behind a slash.  Where it
has not, keys are the same exactly if the source keys are but for slashes in front, and an object whose key is nothing
else is left where it is.  In both cases what copies and audit logs go by begins with the folder of the destination,
the core of its key; and so does whatever an invocation stores. -/
theorem keys_below (destination : ObjectUri) :
    ((∃ c ∈ destination.key.toList, c ≠ '/') →
      (∀ source other, (below destination source).key = (below destination other).key → source.key = other.key) ∧
      ∀ source, (below destination source).key ≠ "" ∧
        ∃ front, (below destination source).key = front ++ "/" ++ source.key) ∧
    ((∀ c ∈ destination.key.toList, c = '/') →
      (∀ source other, (below destination source).key = (below destination other).key ↔
        withoutLeadingSlashes source.key = withoutLeadingSlashes other.key) ∧
      ∀ source, (below destination source).isSkipped = true ↔ ∀ c ∈ source.key.toList, c = '/') ∧
    ∃ core, IsCore core destination.key ∧
      (∀ source, ∃ rest, (below destination source).key = folderOf core ++ rest) ∧
      (∀ home requestId now, ∃ rest, Audit.key destination home requestId now = folderOf core ++ rest) ∧
      ∀ (relay : Relay) (σ : Type) (store : Store σ) (context : InvocationContext) (messages : List Message) (now : Int)
        (isCancelled : Bool) (state : σ), relay.destination = destination → ∀ request,
          .put request ∈ (relay.handle store context messages now isCancelled state).activities →
            ∃ rest, request.key = folderOf core ++ rest := by
  refine ⟨fun ⟨c, hc, hne⟩ => ?_, fun hslashes => ⟨fun source other => ?_, fun source => ?_⟩, ?_⟩
  · have hnot : ¬OnlySlashes destination.key := fun h => hne (h c hc)
    refine ⟨fun source other => (CopyOperation.key_below_inj hnot).1, fun source => ?_⟩
    rw [CopyOperation.key_below_of_not_onlySlashes hnot]
    exact ⟨fun hempty => by simp at hempty, _, rfl⟩
  · rw [CopyOperation.key_below_of_onlySlashes hslashes, CopyOperation.key_below_of_onlySlashes hslashes]
  · rw [CopyOperation.isSkipped, beq_iff_eq, CopyOperation.key_below_of_onlySlashes hslashes]
    exact withoutLeadingSlashes_eq_empty_iff
  · refine ⟨_, isCore_withoutOuterSlashes destination.key, CopyOperation.exists_folderOf_append_eq_key_below destination,
      Audit.exists_folderOf_append_eq_key destination, ?_⟩
    rintro relay σ store context messages now isCancelled state rfl request hput
    obtain ⟨home, -, hkey⟩ := Relay.key_of_put_handle hput
    rw [hkey]
    exact Audit.exists_folderOf_append_eq_key relay.destination home context.requestId now

theorem keys_below_slashed :
    (∃ c ∈ "/to//".toList, c ≠ '/') ∧ (∀ c ∈ "//".toList, c = '/') ∧
    (∀ source other, (below ⟨"s3", "out", "/to//"⟩ source).key = (below ⟨"s3", "out", "/to//"⟩ other).key →
      source.key = other.key) ∧
    (below ⟨"s3", "out", "/to//"⟩ ⟨"s3", "in", "/a"⟩).key = "to//" ++ "/" ++ "/a" ∧
    (below ⟨"s3", "out", "//"⟩ ⟨"s3", "in", "/a"⟩).key = (below ⟨"s3", "out", "//"⟩ ⟨"s3", "in", "a"⟩).key := by
  have hother : ∃ c ∈ "/to//".toList, c ≠ '/' := ⟨'t', by decide, by decide⟩
  have hslashes : ∀ c ∈ "//".toList, c = '/' := by simp
  obtain ⟨hinjective, -⟩ := (keys_below ⟨"s3", "out", "/to//"⟩).1 hother
  obtain ⟨hsame, -⟩ := (keys_below ⟨"s3", "out", "//"⟩).2.1 hslashes
  exact ⟨hother, hslashes, hinjective, by decide, (hsame _ _).2 (by decide)⟩

end ObjectUri
end ObjectRelay
