/-!
# Blocks of code points

A property of characters is given as an ascending list of blocks of consecutive code points. A
search walks the list from its start and gives up as soon as the code point lies before the block
at hand, so the order of the list is part of its meaning: `Ascending` states it, and for an
ascending list the search finds exactly the code points of its blocks.
-/

namespace Concatenative.Text

/-- A block of consecutive code points, both ends included. -/
structure Block where
  /-- The first code point of the block. -/
  first : Nat
  /-- The last code point of the block. -/
  last : Nat
deriving DecidableEq

/-- The code point lies in the block. -/
def Block.Has (b : Block) (n : Nat) : Prop := b.first ≤ n ∧ n ≤ b.last

instance (b : Block) (n : Nat) : Decidable (b.Has n) :=
  inferInstanceAs (Decidable (_ ∧ _))

/-- Looks for a code point in a list of blocks, giving up at the first block that starts beyond
it. -/
def inBlocks : List Block → Nat → Bool
  | [], _ => false
  | b :: bs, n => if n < b.first then false else if n ≤ b.last then true else inBlocks bs n

/-- Every block starts beyond `floor` and beyond the end of the block before it. -/
def ascendingFrom (floor : Nat) : List Block → Bool
  | [] => true
  | b :: bs => floor ≤ b.first && b.first ≤ b.last && ascendingFrom (b.last + 1) bs

/-- The blocks stand in ascending order, none is empty and no two overlap. -/
def Ascending (bs : List Block) : Prop := ascendingFrom 0 bs = true

instance (bs : List Block) : Decidable (Ascending bs) :=
  inferInstanceAs (Decidable (_ = true))

/-- In a list that ascends from `floor`, every block starts at `floor` or later. -/
theorem le_first_of_ascendingFrom {floor : Nat} {bs : List Block}
    (h : ascendingFrom floor bs = true) : ∀ b ∈ bs, floor ≤ b.first := by
  induction bs generalizing floor with
  | nil => simp
  | cons b bs ih =>
    simp only [ascendingFrom, Bool.and_eq_true, decide_eq_true_eq] at h
    obtain ⟨⟨hfloor, hne⟩, hrest⟩ := h
    intro c hc
    cases hc with
    | head => exact hfloor
    | tail _ hmem =>
      have := ih hrest c hmem
      omega

/-- Searching an ascending list finds a code point exactly when one of the blocks has it. -/
theorem inBlocks_iff {bs : List Block} (h : Ascending bs) (n : Nat) :
    inBlocks bs n = true ↔ ∃ b ∈ bs, b.Has n := by
  have general : ∀ (bs : List Block) (floor : Nat), ascendingFrom floor bs = true →
      (inBlocks bs n = true ↔ ∃ b ∈ bs, b.Has n) := by
    intro bs
    induction bs with
    | nil => intro floor _; simp [inBlocks]
    | cons b bs ih =>
      intro floor h
      simp only [ascendingFrom, Bool.and_eq_true, decide_eq_true_eq] at h
      obtain ⟨⟨_, _⟩, hrest⟩ := h
      have hlater := le_first_of_ascendingFrom hrest
      simp only [inBlocks, List.mem_cons, exists_eq_or_imp]
      split
      · rename_i hlt
        constructor
        · intro hfalse; cases hfalse
        · rintro (⟨_, _⟩ | ⟨c, hc, _, _⟩)
          · omega
          · have := hlater c hc
            omega
      · split
        · rename_i hge hle
          constructor
          · intro _; exact Or.inl ⟨by omega, hle⟩
          · intro _; rfl
        · rename_i hge hgt
          rw [ih _ hrest]
          constructor
          · exact Or.inr
          · rintro (⟨_, _⟩ | hbs)
            · omega
            · exact hbs
  exact general bs 0 h

end Concatenative.Text
