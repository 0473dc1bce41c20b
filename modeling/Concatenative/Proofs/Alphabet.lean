import Concatenative.Grammar.Token

/-!
# The alphabet of program text

The grammar tells its tokens apart by their first character: letters, numerals and the plus sign
start words, decimal digits and the minus sign start numbers, blanks start nothing. That works only
if no character is in two of these classes. Each class is a list of blocks of code points, so two of
them are disjoint when no block of the one meets a block of the other, which is a finite check.

A token is a run of characters of a class, and it ends where the text that follows is `Clear` of the
class.
-/

namespace Concatenative.Text

/-! ## Blocks that do not meet -/

/-- The blocks of an ascending list start one after the other. -/
theorem pairwise_of_ascendingFrom {floor : Nat} {bs : List Block}
    (h : ascendingFrom floor bs = true) : bs.Pairwise fun a b => a.first ≤ b.first := by
  induction bs generalizing floor with
  | nil => exact List.Pairwise.nil
  | cons b bs ih =>
    simp only [ascendingFrom, Bool.and_eq_true, decide_eq_true_eq] at h
    obtain ⟨⟨hfloor, hne⟩, hrest⟩ := h
    refine List.pairwise_cons.mpr ⟨fun c hc => ?_, ih hrest⟩
    have hlater := le_first_of_ascendingFrom hrest c hc
    omega

/-- No block of the one list meets a block of the other. Both lists are walked together, so the
answer can be relied on when they are ascending. -/
def apart : List Block → List Block → Bool
  | [], _ => true
  | a :: as, bs =>
    match bs.dropWhile fun b => Nat.blt b.last a.first with
    | [] => true
    | b :: bs => Nat.blt a.last b.first && apart as (b :: bs)

/-- Lists that are found to be apart have no code point in common. -/
theorem not_has_of_apart {as bs : List Block} {n : Nat} (hapart : apart as bs = true)
    (has : as.Pairwise fun a b => a.first ≤ b.first)
    (hbs : bs.Pairwise fun a b => a.first ≤ b.first) {a b : Block} (ha : a ∈ as) (hb : b ∈ bs)
    (hna : a.Has n) : ¬b.Has n := by
  intro hnb
  obtain ⟨hna₁, hna₂⟩ := hna
  obtain ⟨hnb₁, hnb₂⟩ := hnb
  induction as generalizing bs with
  | nil => cases ha
  | cons c as ih =>
    obtain ⟨hc, has⟩ := List.pairwise_cons.mp has
    have hca : c.first ≤ a.first := by
      rcases List.mem_cons.mp ha with rfl | ha
      · exact Nat.le_refl _
      · exact hc a ha
    -- the blocks that are skipped end before `c` starts, so `b` is not among them
    have hkept : b ∈ bs.dropWhile fun d => Nat.blt d.last c.first := by
      rw [← List.takeWhile_append_dropWhile (p := fun d => Nat.blt d.last c.first) (l := bs)] at hb
      rcases List.mem_append.mp hb with hskipped | hkept
      · have hlt := List.all_eq_true.mp List.all_takeWhile b hskipped
        simp only [Nat.blt_eq] at hlt
        omega
      · exact hkept
    have hpairs := hbs.sublist (List.dropWhile_sublist fun d => Nat.blt d.last c.first)
    simp only [apart] at hapart
    split at hapart
    · rename_i hnil
      rw [hnil] at hkept
      cases hkept
    · rename_i d ds hdrop
      rw [hdrop] at hkept hpairs
      simp only [Bool.and_eq_true, Nat.blt_eq] at hapart
      obtain ⟨hcd, hapart⟩ := hapart
      rcases List.mem_cons.mp ha with rfl | ha
      · have hdb : d.first ≤ b.first := by
          rcases List.mem_cons.mp hkept with rfl | hkept
          · exact Nat.le_refl _
          · exact (List.pairwise_cons.mp hpairs).1 b hkept
        omega
      · exact ih hapart has hpairs ha hkept

/-- Both lists ascend, and they have no code point in common. -/
def Disjoint (as bs : List Block) : Prop :=
  Ascending as ∧ Ascending bs ∧ apart as bs = true

instance (as bs : List Block) : Decidable (Disjoint as bs) :=
  inferInstanceAs (Decidable (_ ∧ _ ∧ _))

/-- A code point of one list is not found in a list disjoint from it. -/
theorem Disjoint.inBlocks_eq_false {as bs : List Block} {n : Nat} (h : Disjoint as bs)
    (hn : ∃ a ∈ as, a.Has n) : inBlocks bs n = false := by
  obtain ⟨has, hbs, hapart⟩ := h
  obtain ⟨a, ha, hna⟩ := hn
  refine Bool.eq_false_iff.mpr fun hfound => ?_
  obtain ⟨b, hb, hnb⟩ := (inBlocks_iff hbs n).mp hfound
  exact not_has_of_apart hapart (pairwise_of_ascendingFrom has) (pairwise_of_ascendingFrom hbs)
    ha hb hna hnb

/-- The runs of decimal digits as blocks. -/
def digitBlocks : List Block := digitZeros.map fun z => ⟨z, z + 9⟩

theorem exists_zero_of_digitValueAmong {zeros : List Nat} {n v : Nat}
    (h : digitValueAmong zeros n = some v) : ∃ z ∈ zeros, z ≤ n ∧ n ≤ z + 9 := by
  induction zeros with
  | nil => cases h
  | cons z zeros ih =>
    simp only [digitValueAmong] at h
    split at h
    · cases h
    · rename_i hge
      split at h
      · rename_i hlt
        exact ⟨z, List.mem_cons_self, by omega, by omega⟩
      · obtain ⟨other, hother, hrange⟩ := ih h
        exact ⟨other, List.mem_cons_of_mem z hother, hrange⟩

theorem exists_block_of_isDigit {c : Char} (h : isDigit c = true) :
    ∃ b ∈ digitBlocks, b.Has c.toNat := by
  obtain ⟨v, hv⟩ := Option.isSome_iff_exists.mp h
  obtain ⟨z, hz, hge, hle⟩ := exists_zero_of_digitValueAmong hv
  exact ⟨⟨z, z + 9⟩, List.mem_map_of_mem hz, hge, hle⟩

/-! ## The tables of the grammar -/

/-- No character is both a digit and a letter or another numeral, and none of these is blank. -/
theorem disjoint_tables :
    Disjoint letterBlocks blankBlocks ∧ Disjoint numeralBlocks blankBlocks ∧
      Disjoint digitBlocks blankBlocks ∧ Disjoint digitBlocks spaceBlocks ∧
      Disjoint digitBlocks letterBlocks ∧ Disjoint digitBlocks numeralBlocks := by
  decide +kernel

theorem isBlank_of_isLetter {c : Char} (h : isLetter c = true) : isBlank c = false := by
  obtain ⟨hdisjoint, -⟩ := disjoint_tables
  exact hdisjoint.inBlocks_eq_false ((inBlocks_iff hdisjoint.1 c.toNat).mp h)

theorem isBlank_of_isNumeral {c : Char} (h : isNumeral c = true) : isBlank c = false := by
  obtain ⟨-, hdisjoint, -⟩ := disjoint_tables
  exact hdisjoint.inBlocks_eq_false ((inBlocks_iff hdisjoint.1 c.toNat).mp h)

theorem isBlank_of_isDigit {c : Char} (h : isDigit c = true) : isBlank c = false := by
  obtain ⟨-, -, hdisjoint, -⟩ := disjoint_tables
  exact hdisjoint.inBlocks_eq_false (exists_block_of_isDigit h)

theorem isSpace_of_isDigit {c : Char} (h : isDigit c = true) : isSpace c = false := by
  obtain ⟨-, -, -, hdisjoint, -⟩ := disjoint_tables
  exact hdisjoint.inBlocks_eq_false (exists_block_of_isDigit h)

theorem isLetter_of_isDigit {c : Char} (h : isDigit c = true) : isLetter c = false := by
  obtain ⟨-, -, -, -, hdisjoint, -⟩ := disjoint_tables
  exact hdisjoint.inBlocks_eq_false (exists_block_of_isDigit h)

theorem isNumeral_of_isDigit {c : Char} (h : isDigit c = true) : isNumeral c = false := by
  obtain ⟨-, -, -, -, -, hdisjoint⟩ := disjoint_tables
  exact hdisjoint.inBlocks_eq_false (exists_block_of_isDigit h)

/-! ## Runs of characters of a class -/

/-- The text does not start with a character that has the property. -/
def Clear (p : Char → Bool) (cs : List Char) : Prop := ∀ c ∈ cs.head?, p c = false

@[simp]
theorem clear_nil (p : Char → Bool) : Clear p [] := by
  intro c hc
  cases hc

@[simp]
theorem clear_cons {p : Char → Bool} {c : Char} {cs : List Char} :
    Clear p (c :: cs) ↔ p c = false := by
  simp [Clear]

theorem ne_of_class {p : Char → Bool} {c d : Char} (hc : p c = true) (hd : p d = false) : c ≠ d := by
  rintro rfl
  rw [hc] at hd
  cases hd

theorem dropWhile_eq_self {p : Char → Bool} {cs : List Char} (h : Clear p cs) :
    cs.dropWhile p = cs := by
  cases cs with
  | nil => rfl
  | cons c cs => rw [List.dropWhile_cons, clear_cons.mp h, if_neg Bool.false_ne_true]

theorem clear_dropWhile_append {p : Char → Bool} (cs : List Char) {next : List Char}
    (hnext : Clear p next) : Clear p (cs.dropWhile p ++ next) := by
  induction cs with
  | nil => exact hnext
  | cons c cs ih =>
    rw [List.dropWhile_cons]
    cases hc : p c with
    | true => exact ih
    | false => exact clear_cons.mpr hc

theorem clear_dropWhile (p : Char → Bool) (cs : List Char) : Clear p (cs.dropWhile p) := by
  have hclear := clear_dropWhile_append cs (clear_nil p)
  rwa [List.append_nil] at hclear

/-- Dropping a whole run leaves what follows it. -/
theorem dropWhile_run {p : Char → Bool} {cs next : List Char} (hcs : ∀ c ∈ cs, p c = true)
    (hnext : Clear p next) : (cs ++ next).dropWhile p = next := by
  rw [List.dropWhile_append_of_pos hcs, dropWhile_eq_self hnext]

/-- Taking a whole run takes nothing of what follows it. -/
theorem takeWhile_run {p : Char → Bool} {cs next : List Char} (hcs : ∀ c ∈ cs, p c = true)
    (hnext : Clear p next) : (cs ++ next).takeWhile p = cs := by
  have hsplit := List.takeWhile_append_dropWhile (p := p) (l := cs ++ next)
  rw [dropWhile_run hcs hnext] at hsplit
  exact List.append_cancel_right hsplit

end Concatenative.Text

namespace Concatenative.Grammar

open Concatenative.Text

theorem isWordStart_of_isDigit {c : Char} (h : isDigit c = true) : isWordStart c = false := by
  have hplus : c ≠ '+' := ne_of_class h (by decide)
  simp [isWordStart, hplus, isLetter_of_isDigit h, isNumeral_of_isDigit h]

theorem isBlank_of_isWordStart {c : Char} (h : isWordStart c = true) : isBlank c = false := by
  simp only [isWordStart, Bool.or_eq_true, decide_eq_true_eq] at h
  rcases h with (rfl | hletter) | hnumeral
  · decide
  · exact isBlank_of_isLetter hletter
  · exact isBlank_of_isNumeral hnumeral

end Concatenative.Grammar
