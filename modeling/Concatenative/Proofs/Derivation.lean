import Concatenative.Proofs.Greedy

/-!
# Every derivation can be made maximal

The grammar is ambiguous: it derives `ab12` as one word, as two words and a number, and in other
ways. Greedy reading finds at most one of these derivations, the maximal one, so it might refuse a
text that the grammar derives. It does not. A token that stops too early is followed by tokens that
consist of characters it could have taken itself, so they can be moved into it as a whole, and what
is left is still a body of the grammar.
-/

namespace Concatenative.Grammar

open Concatenative.Text

/-- The body is a derivation of the text. -/
def Body.Derives (body : Body) (text : List Char) : Prop := body.Valid ∧ body.text = text

/-! ## Taking whole tokens off the front -/

/-- A token that starts with a character of the class consists of such characters, and neither a
blank nor a bracket is one. So the characters of the class come off the front of a body in whole
tokens. -/
structure Continues (p : Char → Bool) : Prop where
  blank : ∀ c, isBlank c = true → p c = false
  bracket : p '[' = false ∧ p ']' = false
  word : ∀ c cs, WordSpelling (c :: cs) → p c = true → ∀ d ∈ c :: cs, p d = true
  number : ∀ c cs, NumberSpelling (c :: cs) → p c = true → ∀ d ∈ c :: cs, p d = true

theorem NumberSpelling.forall_isDigit {c : Char} {cs : List Char} (h : NumberSpelling (c :: cs))
    (hc : c ≠ '-') : ∀ d ∈ c :: cs, isDigit d = true := by
  obtain ⟨digits, hne, hdigits, hcs | ⟨blanks, hblanks, hcs⟩⟩ := h
  · rw [hcs]
    exact hdigits
  · exact absurd (List.cons.inj hcs).1 hc

theorem isBlank_of_isWordPart {c : Char} (h : isWordPart c = true) : isBlank c = false := by
  simp only [isWordPart, Bool.or_eq_true] at h
  rcases h with (hletter | hnumeral) | hdigit
  · exact isBlank_of_isLetter hletter
  · exact isBlank_of_isNumeral hnumeral
  · exact isBlank_of_isDigit hdigit

theorem continues_isWordPart : Continues isWordPart where
  blank := by
    intro c hblank
    refine Bool.eq_false_iff.mpr fun hpart => ?_
    rw [isBlank_of_isWordPart hpart] at hblank
    cases hblank
  bracket := by decide
  word := by
    intro c cs hword hc d hd
    rcases List.mem_cons.mp hd with rfl | hd
    · exact hc
    · exact hword.2 d hd
  number := by
    intro c cs hnumber hc d hd
    have hminus : c ≠ '-' := ne_of_class hc (by decide)
    have hdigit : isDigit d = true := hnumber.forall_isDigit hminus d hd
    simp only [isWordPart, hdigit, Bool.or_true]

theorem continues_isDigit : Continues isDigit where
  blank := by
    intro c hblank
    refine Bool.eq_false_iff.mpr fun hdigit => ?_
    rw [isBlank_of_isDigit hdigit] at hblank
    cases hblank
  bracket := by decide
  word := by
    intro c cs hword hc
    -- no word starts with a digit
    have hstart : isWordStart c = true := hword.1
    rw [isWordStart_of_isDigit hc] at hstart
    cases hstart
  number := by
    intro c cs hnumber hc
    have hminus : c ≠ '-' := ne_of_class hc (by decide)
    exact hnumber.forall_isDigit hminus

theorem Phrase.Valid.length_pos {phrase : Phrase} (h : phrase.Valid) : 0 < phrase.text.length := by
  cases phrase with
  | word spelling =>
    cases spelling with
    | nil => cases h
    | cons c cs => exact Nat.succ_pos cs.length
  | number spelling =>
    obtain ⟨c, cs, rfl, -⟩ := NumberSpelling.exists_cons h
    exact Nat.succ_pos cs.length
  | quoted body => exact Nat.succ_pos _

section

variable {p : Char → Bool} (hp : Continues p)

include hp

/-- A phrase is either out of reach of the class or made of it. -/
theorem Phrase.Valid.clear_or_forall {phrase : Phrase} (h : phrase.Valid) :
    (∀ next, Clear p (phrase.text ++ next)) ∨ ∀ c ∈ phrase.text, p c = true := by
  have htoken : ∀ (c : Char) (cs : List Char), (p c = true → ∀ d ∈ c :: cs, p d = true) →
      (∀ next, Clear p (c :: cs ++ next)) ∨ ∀ d ∈ c :: cs, p d = true := by
    intro c cs hall
    cases hc : p c with
    | true => exact Or.inr (hall hc)
    | false => exact Or.inl fun next => clear_cons.mpr hc
  cases phrase with
  | word spelling =>
    cases spelling with
    | nil => cases h
    | cons c cs => exact htoken c cs (hp.word c cs h)
  | number spelling =>
    obtain ⟨c, cs, rfl, -⟩ := NumberSpelling.exists_cons h
    exact htoken c cs (hp.number c cs h)
  | quoted body => exact Or.inl fun next => clear_cons.mpr hp.bracket.1

/-- What is left of a body once the characters of the class are taken off its front is derived by a
body, too. -/
theorem Body.Valid.exists_dropWhile {body : Body} (h : body.Valid) :
    ∃ rest : Body, rest.Derives (body.text.dropWhile p) := by
  cases body with
  | close blanks =>
    have hclear : Clear p blanks := fun c hc => hp.blank c (h c (List.mem_of_mem_head? hc))
    exact ⟨.close blanks, h, (dropWhile_eq_self hclear).symm⟩
  | item blanks first rest =>
    obtain ⟨hblanks, hfirst, hrest⟩ := h
    have hkept : Clear p (Body.item blanks first rest).text →
        ∃ other : Body, other.Derives ((Body.item blanks first rest).text.dropWhile p) := fun hclear =>
      ⟨.item blanks first rest, ⟨hblanks, hfirst, hrest⟩, (dropWhile_eq_self hclear).symm⟩
    cases blanks with
    | cons b blanks => exact hkept (clear_cons.mpr (hp.blank b (hblanks b List.mem_cons_self)))
    | nil =>
      rcases hfirst.clear_or_forall hp with hclear | hall
      · exact hkept (hclear rest.text)
      · -- the first phrase goes as a whole, and the induction takes care of what follows it
        obtain ⟨other, hother, htext⟩ := Body.Valid.exists_dropWhile hrest
        refine ⟨other, hother, ?_⟩
        rw [htext, Body.text, List.nil_append, List.dropWhile_append_of_pos hall]

theorem Closes.clear {next : List Char} (hnext : Closes next) : Clear p next := by
  rcases hnext with rfl | ⟨after, rfl⟩
  · exact clear_nil p
  · exact clear_cons.mpr hp.bracket.2

/-- What a token leaves of the body after it can be made maximal, if that can be done with bodies that
are no longer than that one. -/
theorem Body.Valid.exists_left {rest : Body} {next : List Char} (h : rest.Valid)
    (hnext : Closes next)
    (hshorter : ∀ body : Body, body.Valid → body.text.length ≤ rest.text.length →
      ∃ other : Body, other.Derives body.text ∧ other.Maximal next) :
    ∃ other : Body, other.Derives (rest.text.dropWhile p) ∧ other.Maximal next ∧
      Clear p (other.text ++ next) := by
  obtain ⟨left, hleft, htext⟩ := h.exists_dropWhile hp
  have hle : left.text.length ≤ rest.text.length := by
    rw [htext]
    exact length_dropWhile_le p rest.text
  obtain ⟨other, ⟨hother, hsame⟩, hmax⟩ := hshorter left hleft hle
  refine ⟨other, ⟨hother, hsame.trans htext⟩, hmax, ?_⟩
  rw [hsame, htext]
  exact clear_dropWhile_append rest.text (hnext.clear hp)

end

/-! ## Maximal derivations -/

theorem WordSpelling.append {spelling parts : List Char} (h : WordSpelling spelling)
    (hparts : ∀ c ∈ parts, isWordPart c = true) : WordSpelling (spelling ++ parts) := by
  cases spelling with
  | nil => cases h
  | cons c cs => exact ⟨h.1, List.forall_mem_append.mpr ⟨h.2, hparts⟩⟩

theorem NumberSpelling.append {spelling more : List Char} (h : NumberSpelling spelling)
    (hmore : ∀ c ∈ more, isDigit c = true) : NumberSpelling (spelling ++ more) := by
  obtain ⟨digits, hne, hdigits, hspelling⟩ := h
  refine ⟨digits ++ more, by simp [hne], List.forall_mem_append.mpr ⟨hdigits, hmore⟩, ?_⟩
  rcases hspelling with rfl | ⟨blanks, hblanks, rfl⟩
  · exact Or.inl rfl
  · exact Or.inr ⟨blanks, hblanks, by simp⟩

/-- A derivation can be made maximal without changing its text. -/
theorem Body.Valid.exists_maximal {body : Body} {next : List Char} (h : body.Valid)
    (hnext : Closes next) : ∃ other : Body, other.Derives body.text ∧ other.Maximal next := by
  -- moving characters into a token shortens what follows it, so the induction is on the length
  induction hn : body.text.length using Nat.strongRecOn generalizing body next with
  | ind n ih =>
    subst hn
    cases body with
    | close blanks => exact ⟨.close blanks, ⟨h, rfl⟩, trivial⟩
    | item blanks first rest =>
      obtain ⟨hblanks, hfirst, hrest⟩ := h
      have hlength : (Body.item blanks first rest).text.length =
          blanks.length + (first.text.length + rest.text.length) := by
        simp [Body.text]
      have hpos := hfirst.length_pos
      have hshorter : ∀ body : Body, body.Valid → body.text.length ≤ rest.text.length →
          ∃ other : Body, other.Derives body.text ∧ other.Maximal next :=
        fun body hvalid hle => ih body.text.length (by omega) hvalid hnext rfl
      cases first with
      | word spelling =>
        obtain ⟨other, ⟨hother, htext⟩, hmax, hclear⟩ :=
          hrest.exists_left continues_isWordPart hnext hshorter
        refine ⟨.item blanks (.word (spelling ++ rest.text.takeWhile isWordPart)) other,
          ⟨⟨hblanks, ?_, hother⟩, ?_⟩, hclear, hmax⟩
        · exact WordSpelling.append hfirst fun c hc => of_mem_takeWhile hc
        · simp only [Body.text, Phrase.text, htext, List.append_assoc,
            List.takeWhile_append_dropWhile]
      | number spelling =>
        obtain ⟨other, ⟨hother, htext⟩, hmax, hclear⟩ :=
          hrest.exists_left continues_isDigit hnext hshorter
        refine ⟨.item blanks (.number (spelling ++ rest.text.takeWhile isDigit)) other,
          ⟨⟨hblanks, ?_, hother⟩, ?_⟩, hclear, hmax⟩
        · exact NumberSpelling.append hfirst fun c hc => of_mem_takeWhile hc
        · simp only [Body.text, Phrase.text, htext, List.append_assoc,
            List.takeWhile_append_dropWhile]
      | quoted inner =>
        have hquoted : (Phrase.quoted inner).text.length = inner.text.length + 2 := by
          simp [Phrase.text]
        obtain ⟨middle, ⟨hmiddle, hmtext⟩, hmmax⟩ := ih inner.text.length (by omega) hfirst
          (Or.inr ⟨rest.text ++ next, rfl⟩) rfl
        obtain ⟨other, ⟨hother, htext⟩, hmax⟩ := hshorter rest hrest (Nat.le_refl _)
        refine ⟨.item blanks (.quoted middle) other, ⟨⟨hblanks, hmiddle, hother⟩, ?_⟩, ?_, hmax⟩
        · simp only [Body.text, Phrase.text, hmtext, htext]
        · show middle.Maximal (']' :: (other.text ++ next))
          rw [htext]
          exact hmmax

/-! ## What reading accepts -/

/-- Reading a program finds the maximal derivation of its text, if there is a derivation at all. -/
theorem readProgram_eq_ok_iff_maximal {source : List Char} {body : Body} :
    readProgram source = .ok body ↔ body.Derives source ∧ body.Maximal [] := by
  constructor
  · intro hread
    have hvalid : body.Valid := readProgram_valid hread
    have htext : body.text = source := by
      obtain ⟨hbody, hrest⟩ := readProgram_eq_ok_iff.mp hread
      have hall := readBody_text source
      rwa [hbody, hrest, List.append_nil] at hall
    -- the maximal derivation of the same text is read as well, so it is this one
    obtain ⟨other, ⟨hother, hsame⟩, hmax⟩ := hvalid.exists_maximal (Or.inl rfl)
    have hagain := readProgram_text hother hmax
    rw [hsame, htext, hread] at hagain
    obtain rfl := Except.ok.inj hagain
    exact ⟨⟨hvalid, htext⟩, hmax⟩
  · rintro ⟨⟨hvalid, rfl⟩, hmax⟩
    exact readProgram_text hvalid hmax

theorem exists_maximal_of_derives {source : List Char} (h : ∃ body : Body, body.Derives source) :
    ∃ body : Body, body.Derives source ∧ body.Maximal [] := by
  obtain ⟨body, hvalid, rfl⟩ := h
  exact hvalid.exists_maximal (Or.inl rfl)

theorem exists_readProgram_iff {source : List Char} :
    (∃ body, readProgram source = .ok body) ↔ ∃ body : Body, body.Derives source := by
  simp only [readProgram_eq_ok_iff_maximal]
  constructor
  · rintro ⟨body, hderives, -⟩
    exact ⟨body, hderives⟩
  · exact exists_maximal_of_derives

theorem tree_eq_ok_iff {source : String} {t : Tree} :
    tree source = .ok t ↔ ∃ body, readProgram source.toList = .ok body ∧ body.tree = t := by
  unfold tree
  cases readProgram source.toList with
  | error refusal => simp [Except.map]
  | ok body => simp [Except.map]

/-- The parser accepts exactly what the grammar derives, in whatever way. The tree that it gives is
that of the one derivation in which no word is followed by a character that continues words, and no
number by a digit. -/
theorem tree_iff_derivable (source : String) :
    ((∃ t, tree source = .ok t) ↔ ∃ body : Body, body.Derives source.toList) ∧
    ∀ t, tree source = .ok t ↔
      ∃ body : Body, body.Derives source.toList ∧ body.Maximal [] ∧
        (∀ other : Body, other.Derives source.toList → other.Maximal [] → other = body) ∧
        body.tree = t := by
  constructor
  · rw [← exists_readProgram_iff]
    constructor
    · rintro ⟨t, ht⟩
      obtain ⟨body, hread, -⟩ := tree_eq_ok_iff.mp ht
      exact ⟨body, hread⟩
    · rintro ⟨body, hread⟩
      exact ⟨body.tree, tree_eq_ok_iff.mpr ⟨body, hread, rfl⟩⟩
  · intro t
    rw [tree_eq_ok_iff]
    constructor
    · rintro ⟨body, hread, rfl⟩
      obtain ⟨hderives, hmax⟩ := readProgram_eq_ok_iff_maximal.mp hread
      refine ⟨body, hderives, hmax, fun other hother hothermax => ?_, rfl⟩
      have hagain := readProgram_eq_ok_iff_maximal.mpr ⟨hother, hothermax⟩
      rw [hread] at hagain
      exact (Except.ok.inj hagain).symm
    · rintro ⟨body, hderives, hmax, -, rfl⟩
      exact ⟨body, readProgram_eq_ok_iff_maximal.mpr ⟨hderives, hmax⟩, rfl⟩

/-- The text `ab12` can be derived as two words and a number, but its tree has one word. -/
theorem tree_iff_derivable_split :
    let split : Body :=
      .item [] (.word ['a']) (.item [] (.word ['b']) (.item [] (.number ['1', '2']) (.close [])))
    split.Derives "ab12".toList ∧ tree "ab12" = .ok ⟨"ab12".toList, [.word "ab12".toList .start]⟩ := by
  intro split
  have hsplit : split.Derives "ab12".toList := by
    refine ⟨?_, rfl⟩
    simp only [split, Body.Valid, Phrase.Valid, WordSpelling, NumberSpelling]
    refine ⟨by simp, ⟨by decide, by simp⟩, by simp, ⟨by decide, by simp⟩, by simp, ?_, by simp⟩
    exact ⟨['1', '2'], by simp, List.all_eq_true.mp (by decide), Or.inl rfl⟩
  obtain ⟨haccepts, htree⟩ := tree_iff_derivable "ab12"
  obtain ⟨t, ht⟩ := haccepts.mpr ⟨split, hsplit⟩
  obtain ⟨body, -, -, hunique, rfl⟩ := (htree t).mp ht
  have hwhole : Body.item [] (.word "ab12".toList) (.close []) = body := by
    refine hunique _ ⟨⟨by simp, ?_, by simp [Body.Valid]⟩, rfl⟩ ⟨clear_nil _, trivial⟩
    exact ⟨by decide, List.all_eq_true.mp (by decide)⟩
  rw [← hwhole] at ht
  exact ⟨hsplit, ht⟩

end Concatenative.Grammar
