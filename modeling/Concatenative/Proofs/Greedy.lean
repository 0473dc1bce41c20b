import Concatenative.Grammar.Source
import Concatenative.Grammar.Reading
import Concatenative.Proofs.Alphabet

/-!
# Greedy reading finds the maximal derivation

Reading takes a token for as long as characters can continue it, and never goes back. So of all the
derivations of a text it can only find the one whose tokens are *maximal*: no word is followed by a
character that continues words, and no number by a digit. Conversely it does find that one: reading
the text of a valid and maximal body gives the body back.

The induction needs to say what may follow a body. Inside brackets that is the closing bracket with
anything after it, and at the end of a program it is nothing.
-/

namespace Concatenative.Grammar

open Concatenative.Text

/-! ## Tokens -/

/-- A word with no word part after it is taken as it stands. -/
theorem takeWord?_append {spelling next : List Char} (hword : WordSpelling spelling)
    (hnext : Clear isWordPart next) :
    ∃ h, takeWord? (spelling ++ next) = some (spelling, ⟨next, h⟩) := by
  cases spelling with
  | nil => cases hword
  | cons c cs =>
    obtain ⟨hstart, hparts⟩ := hword
    have hlt : next.length < (c :: cs ++ next).length := by
      simp only [List.length_append, List.length_cons]
      omega
    refine ⟨hlt, ?_⟩
    simp only [List.cons_append, takeWord?, if_pos hstart, takeWhile_run hparts hnext,
      dropWhile_run hparts hnext]

theorem takeDigits?_append {digits next : List Char} (hne : digits ≠ [])
    (hdigits : ∀ d ∈ digits, isDigit d = true) (hnext : Clear isDigit next) :
    ∃ h, takeDigits? (digits ++ next) = some (digits, ⟨next, h⟩) := by
  cases digits with
  | nil => exact absurd rfl hne
  | cons d ds =>
    have hd : isDigit d = true := hdigits d List.mem_cons_self
    have hds : ∀ e ∈ ds, isDigit e = true := fun e he => hdigits e (List.mem_cons_of_mem d he)
    have hlt : next.length < (d :: ds ++ next).length := by
      simp only [List.length_append, List.length_cons]
      omega
    refine ⟨hlt, ?_⟩
    simp only [List.cons_append, takeDigits?, if_pos hd, takeWhile_run hds hnext,
      dropWhile_run hds hnext]

theorem clear_isBlank_digits {digits next : List Char} (hne : digits ≠ [])
    (hdigits : ∀ d ∈ digits, isDigit d = true) : Clear isBlank (digits ++ next) := by
  cases digits with
  | nil => exact absurd rfl hne
  | cons d ds => exact clear_cons.mpr (isBlank_of_isDigit (hdigits d List.mem_cons_self))

/-- After a minus sign, a number is taken when the blanks end and digits follow. -/
theorem takeNumber?_minus {cs after digits next : List Char} {h : next.length < after.length}
    (hafter : cs.dropWhile isBlank = after)
    (hdigits : takeDigits? after = some (digits, ⟨next, h⟩)) :
    ∃ h, takeNumber? ('-' :: cs) = some ('-' :: (cs.takeWhile isBlank ++ digits), ⟨next, h⟩) := by
  subst hafter
  have hblanks := length_dropWhile_le isBlank cs
  refine ⟨by simp only [List.length_cons]; omega, ?_⟩
  simp only [takeNumber?, if_true, hdigits]

/-- A number with no digit after it is taken as it stands. -/
theorem takeNumber?_append {spelling next : List Char} (hnumber : NumberSpelling spelling)
    (hnext : Clear isDigit next) :
    ∃ h, takeNumber? (spelling ++ next) = some (spelling, ⟨next, h⟩) := by
  obtain ⟨digits, hne, hdigits, rfl | ⟨blanks, hblanks, rfl⟩⟩ := hnumber
  · obtain ⟨h, htake⟩ := takeDigits?_append hne hdigits hnext
    refine ⟨h, ?_⟩
    cases spelling with
    | nil => exact absurd rfl hne
    | cons d ds =>
      have hminus : d ≠ '-' := ne_of_class (hdigits d List.mem_cons_self) (by decide)
      rw [← htake]
      simp only [List.cons_append, takeNumber?, if_neg hminus]
  · obtain ⟨h, htake⟩ := takeDigits?_append hne hdigits hnext
    have hclear : Clear isBlank (digits ++ next) := clear_isBlank_digits hne hdigits
    have hdrop := dropWhile_run hblanks hclear
    obtain ⟨h', hnumber⟩ := takeNumber?_minus hdrop htake
    rw [takeWhile_run hblanks hclear] at hnumber
    have htext : '-' :: (blanks ++ digits) ++ next = '-' :: (blanks ++ (digits ++ next)) := by
      simp
    rw [htext]
    exact ⟨h', hnumber⟩

/-! ## Maximal phrases -/

mutual

/-- When `next` follows the phrase, none of its tokens could have been longer. -/
def Phrase.Maximal (next : List Char) : Phrase → Prop
  | .word _ => Clear isWordPart next
  | .number _ => Clear isDigit next
  | .quoted body => body.Maximal (']' :: next)

/-- When `next` follows the body, none of its tokens could have been longer. -/
def Body.Maximal (next : List Char) : Body → Prop
  | .close _ => True
  | .item _ first rest => first.Maximal (rest.text ++ next) ∧ rest.Maximal next

end

theorem clear_append_imp {p : Char → Bool} {next other : List Char} (h : Clear p next → Clear p other)
    (cs : List Char) : Clear p (cs ++ next) → Clear p (cs ++ other) := by
  cases cs with
  | nil => exact h
  | cons c cs => exact fun hc => clear_cons.mpr (clear_cons.mp hc)

mutual

/-- What follows a phrase matters only by what its first character could continue. -/
theorem Phrase.Maximal.imp {phrase : Phrase} {next other : List Char} (h : phrase.Maximal next)
    (hword : Clear isWordPart next → Clear isWordPart other)
    (hdigit : Clear isDigit next → Clear isDigit other) : phrase.Maximal other := by
  cases phrase with
  | word spelling => exact hword h
  | number spelling => exact hdigit h
  | quoted body =>
    have hbody : body.Maximal ([']'] ++ next) := h
    exact hbody.imp (clear_append_imp hword [']']) (clear_append_imp hdigit [']'])

/-- The same, for bodies. -/
theorem Body.Maximal.imp {body : Body} {next other : List Char} (h : body.Maximal next)
    (hword : Clear isWordPart next → Clear isWordPart other)
    (hdigit : Clear isDigit next → Clear isDigit other) : body.Maximal other := by
  cases body with
  | close blanks => trivial
  | item blanks first rest =>
    obtain ⟨hfirst, hrest⟩ := h
    exact ⟨hfirst.imp (clear_append_imp hword rest.text) (clear_append_imp hdigit rest.text),
      hrest.imp hword hdigit⟩

end

theorem NumberSpelling.exists_cons {spelling : List Char} (h : NumberSpelling spelling) :
    ∃ c cs, spelling = c :: cs ∧ (c = '-' ∨ isDigit c = true) := by
  obtain ⟨digits, hne, hdigits, rfl | ⟨blanks, -, rfl⟩⟩ := h
  · cases spelling with
    | nil => exact absurd rfl hne
    | cons d ds => exact ⟨d, ds, rfl, Or.inr (hdigits d List.mem_cons_self)⟩
  · exact ⟨'-', blanks ++ digits, rfl, Or.inl rfl⟩

/-- What starts a number starts no word and no quotation, and is no blank. -/
theorem of_numberStart {c : Char} (h : c = '-' ∨ isDigit c = true) :
    isWordStart c = false ∧ c ≠ '[' ∧ isBlank c = false := by
  rcases h with rfl | hdigit
  · decide
  · refine ⟨isWordStart_of_isDigit hdigit, ?_, isBlank_of_isDigit hdigit⟩
    rintro rfl
    revert hdigit
    decide

theorem Phrase.Valid.clear_isBlank {phrase : Phrase} (h : phrase.Valid) (next : List Char) :
    Clear isBlank (phrase.text ++ next) := by
  cases phrase with
  | word spelling =>
    cases spelling with
    | nil => cases h
    | cons c cs => exact clear_cons.mpr (isBlank_of_isWordStart h.1)
  | number spelling =>
    obtain ⟨c, cs, rfl, hc⟩ := NumberSpelling.exists_cons h
    exact clear_cons.mpr (of_numberStart hc).2.2
  | quoted body =>
    simp only [Phrase.text, List.cons_append, clear_cons]
    decide

/-- What may follow a body: nothing, or the bracket that closes it. -/
def Closes (next : List Char) : Prop := next = [] ∨ ∃ after, next = ']' :: after

theorem Closes.readPhrase_eq_none {next : List Char} (h : Closes next) : readPhrase next = none := by
  rcases h with rfl | ⟨after, rfl⟩
  · rw [readPhrase.eq_def]
    rfl
  · have hstart : isWordStart ']' = false := by decide
    have hdigit : isDigit ']' = false := by decide
    rw [readPhrase.eq_def]
    simp [takeWord?, takeNumber?, takeDigits?, hstart, hdigit]

theorem Closes.clear_isBlank {next : List Char} (h : Closes next) : Clear isBlank next := by
  rcases h with rfl | ⟨after, rfl⟩
  · exact clear_nil isBlank
  · rw [clear_cons]
    decide

/-! ## What one step of reading does -/

theorem readPhrase_word {cs spelling : List Char} {rest : Shorter cs}
    (h : takeWord? cs = some (spelling, rest)) :
    readPhrase cs = some (.word spelling, rest) := by
  rw [readPhrase.eq_def]
  simp only [h]

theorem readPhrase_number {c : Char} {cs spelling : List Char} {rest : Shorter (c :: cs)}
    (hc : c = '-' ∨ isDigit c = true) (h : takeNumber? (c :: cs) = some (spelling, rest)) :
    readPhrase (c :: cs) = some (.number spelling, rest) := by
  obtain ⟨hstart, hopen, -⟩ := of_numberStart hc
  have hword : takeWord? (c :: cs) = none := by
    simp only [takeWord?, hstart, if_neg Bool.false_ne_true]
  rw [readPhrase.eq_def]
  simp only [hword, if_neg hopen, h]

/-- An opening bracket whose body is closed is the quotation that is read. -/
theorem readPhrase_quoted {inner next : List Char}
    (hclose : (readBody inner).2.val = ']' :: next) :
    ∃ h, readPhrase ('[' :: inner) = some (.quoted (readBody inner).1, ⟨next, h⟩) := by
  have hword : takeWord? ('[' :: inner) = none := by
    have hstart : isWordStart '[' = false := by decide
    simp only [takeWord?, hstart, if_neg Bool.false_ne_true]
  obtain ⟨hlength⟩ : Nonempty (next.length < ('[' :: inner).length) := by
    have hle := (readBody inner).2.property
    rw [hclose] at hle
    simp only [List.length_cons] at hle ⊢
    exact ⟨by omega⟩
  refine ⟨hlength, ?_⟩
  rw [readPhrase.eq_def]
  simp only [hword, if_true]
  generalize readBody inner = read at hclose
  obtain ⟨body, rest, hrest⟩ := read
  subst hclose
  simp only [if_true]

/-- A phrase after blanks is the first of the body that is read. -/
theorem readBody_item {cs after next : List Char} {first : Phrase} {h : next.length < after.length}
    (hafter : cs.dropWhile isBlank = after) (hfirst : readPhrase after = some (first, ⟨next, h⟩)) :
    (readBody cs).1 = .item (cs.takeWhile isBlank) first (readBody next).1 ∧
      (readBody cs).2.val = (readBody next).2.val := by
  subst hafter
  rw [readBody, hfirst]
  exact ⟨rfl, rfl⟩

theorem readBody_close {cs next : List Char} (hnext : cs.dropWhile isBlank = next)
    (hnone : readPhrase next = none) :
    (readBody cs).1 = .close (cs.takeWhile isBlank) ∧ (readBody cs).2.val = next := by
  subst hnext
  rw [readBody, hnone]
  exact ⟨rfl, rfl⟩

/-! ## Reading what was derived -/

mutual

/-- A valid and maximal phrase is what is read from its text. -/
theorem readPhrase_append {phrase : Phrase} {next : List Char} (hvalid : phrase.Valid)
    (hmax : phrase.Maximal next) :
    ∃ h, readPhrase (phrase.text ++ next) = some (phrase, ⟨next, h⟩) := by
  cases phrase with
  | word spelling =>
    obtain ⟨h, htake⟩ := takeWord?_append hvalid hmax
    exact ⟨h, readPhrase_word htake⟩
  | number spelling =>
    obtain ⟨h, htake⟩ := takeNumber?_append hvalid hmax
    obtain ⟨c, cs, rfl, hc⟩ := NumberSpelling.exists_cons hvalid
    exact ⟨h, readPhrase_number hc htake⟩
  | quoted body =>
    obtain ⟨hbody, hrest⟩ := readBody_append hvalid hmax (Or.inr ⟨next, rfl⟩)
    have htext : (Phrase.quoted body).text ++ next = '[' :: (body.text ++ ']' :: next) := by
      simp [Phrase.text]
    obtain ⟨h, hread⟩ := readPhrase_quoted hrest
    rw [htext]
    rw [hbody] at hread
    exact ⟨h, hread⟩

/-- A valid and maximal body is what is read from its text, up to where it closes. -/
theorem readBody_append {body : Body} {next : List Char} (hvalid : body.Valid)
    (hmax : body.Maximal next) (hnext : Closes next) :
    (readBody (body.text ++ next)).1 = body ∧ (readBody (body.text ++ next)).2.val = next := by
  cases body with
  | close blanks =>
    have hdrop := dropWhile_run hvalid hnext.clear_isBlank
    obtain ⟨hbody, hrest⟩ := readBody_close hdrop hnext.readPhrase_eq_none
    rw [takeWhile_run hvalid hnext.clear_isBlank] at hbody
    exact ⟨hbody, hrest⟩
  | item blanks first rest =>
    obtain ⟨hblanks, hfirst, hrest⟩ := hvalid
    obtain ⟨hmaxFirst, hmaxRest⟩ := hmax
    have htext : (Body.item blanks first rest).text ++ next =
        blanks ++ (first.text ++ (rest.text ++ next)) := by
      simp [Body.text]
    have hclear := hfirst.clear_isBlank (rest.text ++ next)
    obtain ⟨h, hread⟩ := readPhrase_append hfirst hmaxFirst
    obtain ⟨hitem, hleft⟩ := readBody_item (dropWhile_run hblanks hclear) hread
    obtain ⟨hothers, hend⟩ := readBody_append hrest hmaxRest hnext
    rw [htext, hitem, hleft, hothers, hend, takeWhile_run hblanks hclear]
    exact ⟨rfl, rfl⟩

end

/-- A text is read as a program when nothing of it is left over. -/
theorem readProgram_eq_ok_iff {source : List Char} {body : Body} :
    readProgram source = .ok body ↔ (readBody source).1 = body ∧ (readBody source).2.val = [] := by
  rw [readProgram]
  generalize readBody source = read
  obtain ⟨found, rest, hlength⟩ := read
  cases rest with
  | nil => simp
  | cons c rest => simp

/-- A valid and maximal body is the program that is read from its text. -/
theorem readProgram_text {body : Body} (hvalid : body.Valid) (hmax : body.Maximal []) :
    readProgram body.text = .ok body := by
  have hread := readBody_append hvalid hmax (Or.inl rfl)
  rw [List.append_nil] at hread
  exact readProgram_eq_ok_iff.mpr hread

theorem readProgram_valid {source : List Char} {body : Body} (h : readProgram source = .ok body) :
    body.Valid := by
  rw [← (readProgram_eq_ok_iff.mp h).1]
  exact readBody_valid source

/-- The terms of a text are those of the program that is read from it. -/
theorem parse_eq_ok_iff {source : String} {ts : List Term} :
    parse source = .ok ts ↔
      ∃ body, readProgram source.toList = .ok body ∧ body.terms = .ok ts := by
  constructor
  · intro h
    unfold parse at h
    cases hread : readProgram source.toList with
    | error refusal =>
      rw [hread] at h
      cases h
    | ok body =>
      refine ⟨body, rfl, ?_⟩
      rw [hread] at h
      dsimp only at h
      cases hterms : body.terms with
      | error e =>
        rw [hterms] at h
        cases h
      | ok us =>
        rw [hterms] at h
        cases h
        rfl
  · rintro ⟨body, hread, hterms⟩
    unfold parse
    rw [hread]
    dsimp only
    rw [hterms]
    rfl

end Concatenative.Grammar
