import Mathlib.Algebra.GroupWithZero.Nat
import ObjectRelay.Object.Filter
/-!
# Reading the pattern of a glob

What a glob is written as can always be read, and says of each part of the glob what the part says (`parse?_written`):
characters that mean something in patterns come with a backslash and are read as themselves.
-/
namespace ObjectRelay

open Pattern (Regex Expr Reading)

namespace Glob

/-- What the pattern of a part says. -/
def Part.expr : Part → Regex
  | run => .times (.one .any) 0 none true
  | one => .one .any
  | char c => .one (.single c)

/-- What the pattern of a glob says. -/
def expr (g : Glob) : Regex := .ofList (.look .textStart :: (g.map Part.expr ++ [.look .textEnd]))

open Pattern.Read

/-- A pattern with `rest` still to be read, in which a dot is any character. -/
def ahead (rest : List Char) : Reading := { rest, flags := { dotAll := true } }

variable (n : Nat) (items : List (Option Regex)) (rest : List Char)

theorem run_takes_of_head_ne {c : Char} (h : rest.head? ≠ some c) :
    (takes [c]).run (ahead rest) = some (false, ahead rest) := by
  cases rest with
  | nil => rfl
  | cons d rest =>
    have hd : ¬c = d := fun hd => h (by rw [hd]; rfl)
    simp [takes, sees, ahead, hd]

theorem run_sequence_literal {c : Char} (hc : isMeta c = false) : (sequence (n + 1) items).run (ahead (c :: rest)) =
    (sequence n (some (.one (.single c)) :: items)).run (ahead rest) := by
  simp only [isMeta, List.contains_eq_mem, List.mem_cons, List.not_mem_nil, or_false, decide_eq_false_iff_not,
    not_or] at hc
  simp [Pattern.Read.sequence, spaces, peek, ahead, skip, literal, require, closed, hc]

theorem run_sequence_escaped {c : Char} (hc : isMeta c = true) :
    (sequence (n + 1) items).run (ahead ('\\' :: c :: rest)) =
      (sequence n (some (.one (.single c)) :: items)).run (ahead rest) := by
  simp only [isMeta, List.contains_eq_mem, List.mem_cons, List.not_mem_nil, or_false, decide_eq_true_eq] at hc
  rcases hc with rfl | rfl | rfl | rfl | rfl | rfl | rfl | rfl | rfl | rfl | rfl | rfl | rfl | rfl | rfl | rfl |
    rfl | rfl <;> rfl

theorem run_sequence_dot : (sequence (n + 1) items).run (ahead ('.' :: rest)) =
    (sequence n (some (.one .any) :: items)).run (ahead rest) := rfl

theorem run_sequence_star (e : Regex) (h : rest.head? ≠ some '?') :
    (sequence (n + 1) (some e :: items)).run (ahead ('*' :: rest)) =
      (sequence n (some (.times e 0 none true) :: items)).run (ahead rest) := by
  have htakes := run_takes_of_head_ne rest h
  simp only [ahead] at htakes ⊢
  simp [Pattern.Read.sequence, spaces, peek, skip, repeated, htakes]

theorem run_sequence_end :
    (sequence (n + 2) items).run (ahead ['$']) = some (some (.look .textEnd) :: items, ahead []) := rfl

theorem run_sequence_start :
    (sequence (n + 3) []).run { rest := '(' :: '?' :: 's' :: ')' :: '^' :: rest } =
      (sequence (n + 1) [some (.look .textStart), none]).run (ahead rest) := rfl

/-- No part of a pattern of a glob begins with a question mark, which would make a run in front of it stop early. -/
theorem head?_written_ne (part : Part) : (part.written ++ rest).head? ≠ some '?' := by
  cases part with
  | run | one => simp [Part.written]
  | char c =>
    cases hc : isMeta c with
    | true => simp [Part.written, Pattern.escape, hc]
    | false =>
      have hne : c ≠ '?' := fun h => by rw [h] at hc; cases hc
      simp [Part.written, Pattern.escape, hc, hne]

/-- How many items the reader takes up for a part. -/
def Part.steps : Part → Nat
  | run => 2
  | _ => 1

theorem run_sequence_part (part : Part) (h : rest.head? ≠ some '?') :
    (sequence (n + part.steps) items).run (ahead (part.written ++ rest)) =
      (sequence n (some part.expr :: items)).run (ahead rest) := by
  cases part with
  | run =>
    rw [Part.steps, Part.written, Part.expr, ← run_sequence_star n items rest _ h]
    exact run_sequence_dot (n + 1) items ('*' :: rest)
  | one => exact run_sequence_dot n items rest
  | char c =>
    cases hc : isMeta c with
    | true =>
      have hwritten : (Part.char c).written = ['\\', c] := by simp [Part.written, Pattern.escape, hc]
      rw [hwritten]
      exact run_sequence_escaped n items rest hc
    | false =>
      have hwritten : (Part.char c).written = [c] := by simp [Part.written, Pattern.escape, hc]
      rw [hwritten]
      exact run_sequence_literal n items rest hc

theorem run_sequence_parts (h : rest.head? ≠ some '?') : ∀ (g : Glob) (items : List (Option Regex)),
    (sequence (n + (g.map Part.steps).sum) items).run (ahead (g.flatMap Part.written ++ rest)) =
      (sequence n ((g.map fun part => some part.expr).reverse ++ items)).run (ahead rest)
  | [], items => rfl
  | part :: g, items => by
    have hhead : (g.flatMap Part.written ++ rest).head? ≠ some '?' := by
      cases g with
      | nil => exact h
      | cons next g => simpa using head?_written_ne (g.flatMap Part.written ++ rest) next
    have hone := run_sequence_part (n + (g.map Part.steps).sum) items _ part hhead
    rw [List.map_cons, List.sum_cons, List.flatMap_cons, List.append_assoc, Nat.add_comm part.steps, ← Nat.add_assoc,
      hone, run_sequence_parts h g, List.map_cons, List.reverse_cons, List.append_assoc, List.singleton_append]

theorem steps_le_length (part : Part) : part.steps ≤ part.written.length := by
  cases part with
  | run | one => exact Nat.le_refl _
  | char c => cases hc : isMeta c <;> simp [Part.steps, Part.written, Pattern.escape, hc]

theorem sum_steps_le : ∀ g : Glob, (g.map Part.steps).sum ≤ (g.flatMap Part.written).length
  | [] => Nat.le_refl 0
  | part :: g => by
    have hpart := steps_le_length part
    have hrest := sum_steps_le g
    rw [List.map_cons, List.sum_cons, List.flatMap_cons, List.length_append]
    omega

/-- **The pattern of a glob can be read, and says what the glob says.** -/
theorem parse?_written (g : Glob) : Pattern.parse? g.written = some (g.expr, []) := by
  have hsteps := sum_steps_le g
  have hlength : g.written.length = (g.flatMap Part.written).length + 6 := by simp [written]
  obtain ⟨n, hn⟩ : ∃ n, 3 * g.written.length + 2 = n + (g.map Part.steps).sum + 1 + 3 :=
    ⟨3 * g.written.length + 2 - (g.map Part.steps).sum - 4, by omega⟩
  have hsequence : (sequence (3 * g.written.length + 2) []).run { rest := g.written } =
      some (some (.look .textEnd) :: ((g.map fun part => some part.expr).reverse ++
        [some (.look .textStart), none]), ahead []) := by
    have hstart := run_sequence_start (n + (g.map Part.steps).sum + 1) (g.flatMap Part.written ++ ['$'])
    have hparts := run_sequence_parts (n + 2) ['$'] (by decide) g [some (.look .textStart), none]
    rw [Nat.add_right_comm] at hparts
    rw [hn]
    exact hstart.trans (hparts.trans (run_sequence_end n _))
  have hitems : (some (.look .textEnd) :: ((g.map fun part => some part.expr).reverse ++
      [some (.look .textStart), none])).reverse.filterMap id =
        Expr.look .textStart :: (g.map Part.expr ++ [.look .textEnd]) := by
    simp [List.filterMap_map]
  have hchoice : (choice (3 * g.written.length + 3)).run { rest := g.written } = some (g.expr, ahead []) := by
    rw [choice, StateT.run_bind, hsequence, expr, ← hitems]
    rfl
  simp [Pattern.parse?, hchoice, ahead]

end Glob
end ObjectRelay
