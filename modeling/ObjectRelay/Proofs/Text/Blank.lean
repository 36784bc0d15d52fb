import Mathlib.Data.List.DropRight
import ObjectRelay.Text.Blank
/-!
# A text between white space

A text is what stands in front of it once it is trimmed, the trimmed text and what stands behind that.
-/
namespace ObjectRelay

variable {p : Char → Bool} {s : List Char} {c : Char}

theorem trimBy_eq (p : Char → Bool) (s : List Char) : trimBy p s = (s.dropWhile p).rdropWhile p := rfl

/-- What is cut off behind a text. -/
def behindBy (p : Char → Bool) (s : List Char) : List Char := (s.dropWhile p).rtakeWhile p

theorem takeWhile_append_trimBy_append (p : Char → Bool) (s : List Char) :
    s.takeWhile p ++ (trimBy p s ++ behindBy p s) = s := by
  rw [trimBy_eq, behindBy, List.rdropWhile_append_rtakeWhile, List.takeWhile_append_dropWhile]

theorem of_head?_trimBy (h : (trimBy p s).head? = some c) : p c = false := by
  have hprefix : trimBy p s <+: s.dropWhile p := List.rdropWhile_prefix p _
  have hhead : (s.dropWhile p).head? = some c := by
    obtain ⟨rest, hrest⟩ := hprefix
    rw [← hrest, List.head?_append, h, Option.some_or]
  have hnot := List.head?_dropWhile_not p s
  rw [hhead] at hnot
  exact hnot

theorem of_getLast?_trimBy (h : (trimBy p s).getLast? = some c) : p c = false := by
  have hne : trimBy p s ≠ [] := fun hnil => by rw [hnil] at h; cases h
  rw [List.getLast?_eq_some_getLast hne, Option.some_inj] at h
  rw [← h]
  exact Bool.eq_false_iff.2 (List.rdropWhile_last_not p _ hne)

theorem trimBy_eq_self (hhead : ∀ c, s.head? = some c → p c = false) (hlast : ∀ c, s.getLast? = some c → p c = false) :
    trimBy p s = s := by
  have hdrop : s.dropWhile p = s := by
    cases s with
    | nil => rfl
    | cons d s => rw [List.dropWhile_cons, hhead d rfl]; rfl
  rw [trimBy_eq, hdrop, List.rdropWhile_eq_self_iff]
  intro hne hp
  rw [hlast _ (List.getLast?_eq_some_getLast hne)] at hp
  cases hp

theorem trimBlank_ne_empty {s : String} {c : Char} (hc : c ∈ s.toList) (hblank : isBlank c = false) : trimBlank s ≠ "" := by
  intro hempty
  have hnil : trimBy isBlank s.toList = [] := by
    rw [← String.toList_ofList (l := trimBy isBlank s.toList), ← trimBlank, hempty, String.toList_empty]
  rw [← takeWhile_append_trimBy_append isBlank s.toList, hnil, List.nil_append, List.mem_append] at hc
  rcases hc with hfront | hbehind
  · rw [List.mem_takeWhile_imp hfront] at hblank
    cases hblank
  · rw [List.mem_rtakeWhile_imp hbehind] at hblank
    cases hblank

theorem trimBlank_trimBlank (s : String) : trimBlank (trimBlank s) = trimBlank s := by
  rw [trimBlank, trimBlank, String.toList_ofList, trimBy_eq_self (fun _ => of_head?_trimBy) fun _ => of_getLast?_trimBy]

end ObjectRelay
