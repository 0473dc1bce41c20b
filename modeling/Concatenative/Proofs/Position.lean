import Concatenative.Grammar.Tree
import Mathlib.Data.List.Induction

/-!
# Positions in a text

A position is found by passing over a text character by character. What it comes to can be said
without passing over anything: the line is one more than the number of line feeds before it, and the
column is one more than the number of characters after the last of these. So no two places of one
text have the same position.

A text that stands inside another one has positions of its own. The position of a character in the
text around it depends only on the one that it has in the inner text and on the place where that text
starts.
-/

namespace Concatenative.Grammar

namespace Position

/-! ## Lines and columns -/

/-- The position is that of the character right after a text. -/
def Follows (p : Position) (before : List Char) : Prop :=
  p.line = before.count '\n' + 1 ∧
    p.column = (before.reverse.takeWhile fun c => c ≠ '\n').length + 1

theorem after_concat (p : Position) (cs : List Char) (c : Char) :
    p.after (cs ++ [c]) = (p.after cs).next c := after_append p cs [c]

theorem start_after_follows (before : List Char) : (start.after before).Follows before := by
  -- the last character decides about the column, so the text is taken apart from its end
  induction before using List.reverseRecOn with
  | nil => exact ⟨rfl, rfl⟩
  | append_singleton cs c ih =>
    obtain ⟨hline, hcolumn⟩ := ih
    rw [after_concat, Follows, List.reverse_concat, List.count_append]
    by_cases hc : c = '\n'
    · subst hc
      simp [next, hline]
    · simp [next, hc, hline, hcolumn]

theorem follows_iff {p : Position} {before : List Char} :
    p.Follows before ↔ p = start.after before := by
  constructor
  · rintro ⟨hline, hcolumn⟩
    obtain ⟨hline', hcolumn'⟩ := start_after_follows before
    obtain ⟨line, column⟩ := p
    rw [← hline'] at hline
    rw [← hcolumn'] at hcolumn
    exact Position.mk.injEq .. |>.mpr ⟨hline, hcolumn⟩
  · rintro rfl
    exact start_after_follows before

/-! ## No two places have the same position -/

theorem line_after (p : Position) (cs : List Char) : (p.after cs).line = p.line + cs.count '\n' := by
  induction cs using List.reverseRecOn with
  | nil => rfl
  | append_singleton cs c ih =>
    rw [after_concat, List.count_append]
    by_cases hc : c = '\n'
    · simp [next, hc, ih, Nat.add_assoc]
    · simp [next, hc, ih]

theorem column_after {cs : List Char} (h : '\n' ∉ cs) (p : Position) :
    (p.after cs).column = p.column + cs.length := by
  induction cs using List.reverseRecOn with
  | nil => rfl
  | append_singleton cs c ih =>
    simp only [List.mem_append, List.mem_singleton, not_or] at h
    have hc : c ≠ '\n' := fun heq => h.2 heq.symm
    rw [after_concat, List.length_append]
    simp [next, hc, ih h.1, Nat.add_assoc]

/-- Passing over characters leads away from a position. -/
theorem eq_nil_of_after_eq {p : Position} {cs : List Char} (h : p.after cs = p) : cs = [] := by
  have hline := line_after p cs
  rw [h] at hline
  have hfeeds : '\n' ∉ cs := List.count_eq_zero.mp (by omega)
  have hcolumn := column_after hfeeds p
  rw [h] at hcolumn
  exact List.length_eq_zero_iff.mp (by omega)

/-- A position belongs to one place of a text only. -/
theorem Follows.unique {p : Position} {text before other after rest : List Char}
    (h : p.Follows before) (htext : text = before ++ after) (hother : p.Follows other)
    (htext' : text = other ++ rest) : other = before := by
  have hsame : start.after before = start.after other := by
    rw [← follows_iff.mp h, ← follows_iff.mp hother]
  have hequal : ∀ {cs more : List Char}, start.after cs = start.after (cs ++ more) → more = [] := by
    intro cs more heq
    rw [after_append] at heq
    exact eq_nil_of_after_eq heq.symm
  rcases List.append_eq_append_iff.mp (htext.symm.trans htext') with
    ⟨more, rfl, -⟩ | ⟨more, rfl, -⟩
  · rw [hequal hsame, List.append_nil]
  · rw [hequal hsame.symm, List.append_nil]

/-! ## Texts inside texts -/

/-- Where a position of a text is, if the text starts at `origin`. -/
def shift (origin p : Position) : Position :=
  if p.line = 1 then ⟨origin.line, origin.column + (p.column - 1)⟩
  else ⟨origin.line + (p.line - 1), p.column⟩

theorem line_shift (origin p : Position) : (origin.shift p).line = origin.line + (p.line - 1) := by
  by_cases hfirst : p.line = 1
  · simp only [shift, hfirst, if_true, Nat.sub_self, Nat.add_zero]
  · simp only [shift, if_neg hfirst]

theorem shift_next (origin : Position) {p : Position} (hline : 0 < p.line) (hcolumn : 0 < p.column)
    (c : Char) : origin.shift (p.next c) = (origin.shift p).next c := by
  by_cases hc : c = '\n'
  · have hlater : ¬p.line + 1 = 1 := by omega
    have hlines : origin.line + (p.line + 1 - 1) = origin.line + (p.line - 1) + 1 := by omega
    simp only [next, if_pos hc, line_shift]
    simp only [shift, if_neg hlater, hlines]
  · by_cases hfirst : p.line = 1
    · have hcolumns : origin.column + (p.column + 1 - 1) = origin.column + (p.column - 1) + 1 := by
        omega
      simp only [next, if_neg hc, shift, if_pos hfirst, hcolumns]
    · simp only [next, if_neg hc, shift, if_neg hfirst]

theorem after_eq_shift (origin : Position) (cs : List Char) :
    origin.after cs = origin.shift (start.after cs) := by
  induction cs using List.reverseRecOn with
  | nil => simp [after, start, shift]
  | append_singleton cs c ih =>
    obtain ⟨hline, hcolumn⟩ := start_after_follows cs
    rw [after_concat, after_concat, ih, shift_next origin (by omega) (by omega)]

end Position

end Concatenative.Grammar
