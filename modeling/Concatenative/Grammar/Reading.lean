import Concatenative.Grammar.Phrase

/-!
# What reading finds

Reading loses nothing: the text of what was read, followed by the rest, is the text that was given.
And it finds only what the grammar allows. Both hold for tokens, for phrases and for bodies, so a
text that is read to its end is derived by the body that was read.
-/

namespace Concatenative.Grammar

open Concatenative.Text

/-- What is taken while a property holds has the property. -/
theorem of_mem_takeWhile {p : Char → Bool} {cs : List Char} {c : Char}
    (h : c ∈ cs.takeWhile p) : p c = true :=
  List.all_eq_true.mp List.all_takeWhile c h

/-! ## Tokens -/

/-- A word and the rest make up the text. -/
theorem takeWord?_text {cs spelling : List Char} {rest : Shorter cs}
    (h : takeWord? cs = some (spelling, rest)) : spelling ++ rest.val = cs := by
  cases cs with
  | nil => cases h
  | cons c cs =>
    simp only [takeWord?] at h
    split at h
    · cases h
      simp
    · cases h

/-- What is taken as a word is spelled like one. -/
theorem takeWord?_spelling {cs spelling : List Char} {rest : Shorter cs}
    (h : takeWord? cs = some (spelling, rest)) : WordSpelling spelling := by
  cases cs with
  | nil => cases h
  | cons c cs =>
    simp only [takeWord?] at h
    split at h
    · rename_i hstart
      cases h
      exact ⟨hstart, fun d hd => of_mem_takeWhile hd⟩
    · cases h

/-- The digits and the rest make up the text. -/
theorem takeDigits?_text {cs digits : List Char} {rest : Shorter cs}
    (h : takeDigits? cs = some (digits, rest)) : digits ++ rest.val = cs := by
  cases cs with
  | nil => cases h
  | cons c cs =>
    simp only [takeDigits?] at h
    split at h
    · cases h
      simp
    · cases h

/-- What is taken as digits are digits, and at least one. -/
theorem takeDigits?_digits {cs digits : List Char} {rest : Shorter cs}
    (h : takeDigits? cs = some (digits, rest)) :
    digits ≠ [] ∧ ∀ d ∈ digits, isDigit d = true := by
  cases cs with
  | nil => cases h
  | cons c cs =>
    simp only [takeDigits?] at h
    split at h
    · rename_i hc
      cases h
      refine ⟨List.cons_ne_nil _ _, fun d hd => ?_⟩
      cases hd with
      | head => exact hc
      | tail _ hmem => exact of_mem_takeWhile hmem
    · cases h

/-- A number and the rest make up the text. -/
theorem takeNumber?_text {cs spelling : List Char} {rest : Shorter cs}
    (h : takeNumber? cs = some (spelling, rest)) : spelling ++ rest.val = cs := by
  cases cs with
  | nil => cases h
  | cons c cs =>
    simp only [takeNumber?] at h
    split at h
    · rename_i hc
      split at h
      · cases h
      · rename_i digits after hlt hdigits
        cases h
        have htext : digits ++ after = cs.dropWhile isBlank := takeDigits?_text hdigits
        simp only [List.cons_append, List.append_assoc]
        rw [htext, List.takeWhile_append_dropWhile, hc]
    · exact takeDigits?_text h

/-- What is taken as a number is spelled like one. -/
theorem takeNumber?_spelling {cs spelling : List Char} {rest : Shorter cs}
    (h : takeNumber? cs = some (spelling, rest)) : NumberSpelling spelling := by
  cases cs with
  | nil => cases h
  | cons c cs =>
    simp only [takeNumber?] at h
    split at h
    · split at h
      · cases h
      · rename_i digits after hlt hdigits
        cases h
        obtain ⟨hne, hall⟩ := takeDigits?_digits hdigits
        exact ⟨digits, hne, hall,
          Or.inr ⟨cs.takeWhile isBlank, fun b hb => of_mem_takeWhile hb, rfl⟩⟩
    · obtain ⟨hne, hall⟩ := takeDigits?_digits h
      exact ⟨spelling, hne, hall, Or.inl rfl⟩

/-! ## Phrases and bodies -/

mutual

/-- A phrase and the rest make up the text. -/
theorem readPhrase_text {cs : List Char} {phrase : Phrase} {rest : Shorter cs}
    (h : readPhrase cs = some (phrase, rest)) : phrase.text ++ rest.val = cs := by
  rw [readPhrase.eq_def] at h
  split at h
  · rename_i hword
    cases h
    exact takeWord?_text hword
  · cases cs with
    | nil => cases h
    | cons c inner =>
      simp only at h
      split at h
      · rename_i hopen
        split at h
        · cases h
        · rename_i body d after hlt hbody
          split at h
          · rename_i hclose
            cases h
            have htext := readBody_text inner
            rw [hbody] at htext
            simp only [hclose] at htext
            simp only [Phrase.text, List.cons_append, List.append_assoc, List.nil_append]
            rw [htext, hopen]
          · cases h
      · split at h
        · cases h
        · rename_i hnumber
          cases h
          exact takeNumber?_text hnumber
termination_by 2 * cs.length

/-- A body and the rest make up the text. -/
theorem readBody_text (cs : List Char) : (readBody cs).1.text ++ (readBody cs).2.val = cs := by
  have hblanks := length_dropWhile_le isBlank cs
  rw [readBody]
  split
  · simp [Body.text]
  · rename_i first after hlt hfirst
    have hphrase : first.text ++ after = cs.dropWhile isBlank := readPhrase_text hfirst
    simp only [Body.text, List.append_assoc]
    rw [readBody_text after, hphrase, List.takeWhile_append_dropWhile]
termination_by 2 * cs.length + 1

end

mutual

/-- A phrase that was read follows the rules of the grammar. -/
theorem readPhrase_valid {cs : List Char} {phrase : Phrase} {rest : Shorter cs}
    (h : readPhrase cs = some (phrase, rest)) : phrase.Valid := by
  rw [readPhrase.eq_def] at h
  split at h
  · rename_i hword
    cases h
    exact takeWord?_spelling hword
  · cases cs with
    | nil => cases h
    | cons c inner =>
      simp only at h
      split at h
      · split at h
        · cases h
        · rename_i body d after hlt hbody
          split at h
          · cases h
            have hvalid := readBody_valid inner
            rw [hbody] at hvalid
            exact hvalid
          · cases h
      · split at h
        · cases h
        · rename_i hnumber
          cases h
          exact takeNumber?_spelling hnumber
termination_by 2 * cs.length

/-- A body that was read follows the rules of the grammar. -/
theorem readBody_valid (cs : List Char) : (readBody cs).1.Valid := by
  have hblanks := length_dropWhile_le isBlank cs
  rw [readBody]
  split
  · exact fun c hc => of_mem_takeWhile hc
  · rename_i first after hlt hfirst
    exact ⟨fun c hc => of_mem_takeWhile hc, readPhrase_valid hfirst, readBody_valid after⟩
termination_by 2 * cs.length + 1

end

end Concatenative.Grammar
