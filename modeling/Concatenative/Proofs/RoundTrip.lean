import Concatenative.Datum.Display
import Concatenative.Proofs.Greedy
import Concatenative.Proofs.Numeral

/-!
# Printed terms parse back

The program text of a list of terms is the text of a derivation: every term is the phrase it is
spelled as, and one blank stands between two phrases. That derivation is valid and its tokens are
maximal, because what follows a token is a blank, a closing bracket or the end. So parsing the text
finds this derivation, and the terms of the derivation are the terms that were printed.

Nothing but `Spellable` terms can be printed and read back, and parsing gives no others.
-/

namespace Concatenative

open Concatenative.Text Concatenative.Grammar

/-- Every word of the term is spelled the way the grammar spells words, and every number of it is
short enough to be written. -/
inductive Term.Spellable : Term → Prop where
  /-- A word, by its name. -/
  | word {name : String} (h : WordSpelling name.toList) : Spellable (.word name)
  /-- A number, by its length. -/
  | number {value : Int} (h : Decimal.Writable value) : Spellable (.number value)
  /-- A quotation, by its terms. -/
  | quoted {body : List Term} (h : ∀ t ∈ body, Spellable t) : Spellable (.quoted body)

namespace Term

/-! ## The derivation of a printed text -/

mutual

/-- The phrase that a term is spelled as. -/
def phrase : Term → Phrase
  | .word name => .word name.toList
  | .number value => .number (Decimal.spell value)
  | .quoted body => .quoted (phrases [] body)

/-- The phrases of a list of terms with one blank between them, the first of them after the given
blanks. -/
def phrases (blanks : List Char) : List Term → Body
  | [] => .close []
  | t :: ts => .item blanks t.phrase (phrases [' '] ts)

end

theorem text_phrases_cons (blanks : List Char) (t : Term) (ts : List Term) :
    (phrases blanks (t :: ts)).text = blanks ++ (phrases [] (t :: ts)).text := by
  simp [phrases, Body.text]

mutual

/-- The program text of a term is the text of its phrase. -/
theorem spelling?_eq {t : Term} (h : t.Spellable) : t.spelling? = some t.phrase.text := by
  cases h with
  | word hword => rfl
  | number hvalue =>
    simp only [spelling?, Decimal.write?, if_pos hvalue, Option.map_some, String.toList_ofList,
      phrase, Phrase.text]
  | @quoted body hbody =>
    simp only [spelling?, bodySpelling?_eq hbody, Option.map_some, phrase, Phrase.text]

theorem bodySpelling?_eq {ts : List Term} (h : ∀ t ∈ ts, t.Spellable) :
    bodySpelling? ts = some (phrases [] ts).text := by
  match ts with
  | [] => rfl
  | [t] =>
    rw [bodySpelling?, spelling?_eq (h t List.mem_cons_self)]
    simp [phrases, Body.text]
  | t :: u :: ts =>
    have hrest : ∀ v ∈ u :: ts, v.Spellable := fun v hv => h v (List.mem_cons_of_mem t hv)
    have htext : (phrases [] (t :: u :: ts)).text =
        t.phrase.text ++ ' ' :: (phrases [] (u :: ts)).text := by
      rw [phrases, Body.text, List.nil_append, text_phrases_cons]
      rfl
    rw [bodySpelling?, spelling?_eq (h t List.mem_cons_self), bodySpelling?_eq hrest, htext]
    rfl

end

mutual

/-- The phrase of a term follows the rules of the grammar. -/
theorem valid_phrase {t : Term} (h : t.Spellable) : t.phrase.Valid := by
  cases h with
  | word hword => exact hword
  | @number value hvalue => exact numberSpelling_spell value
  | quoted hbody => exact valid_phrases (List.forall_mem_nil _) hbody

theorem valid_phrases {blanks : List Char} {ts : List Term}
    (hblanks : ∀ c ∈ blanks, isBlank c = true) (h : ∀ t ∈ ts, t.Spellable) :
    (phrases blanks ts).Valid := by
  match ts with
  | [] => exact List.forall_mem_nil _
  | t :: ts =>
    have hblank : ∀ c ∈ [' '], isBlank c = true := by
      intro c hc
      rw [List.mem_singleton.mp hc]
      decide
    exact ⟨hblanks, valid_phrase (h t List.mem_cons_self),
      valid_phrases hblank fun u hu => h u (List.mem_cons_of_mem t hu)⟩

end

/-- Where no word goes on, no number goes on. -/
theorem clear_isDigit {next : List Char} (h : Clear isWordPart next) : Clear isDigit next := by
  intro c hc
  have hpart := h c hc
  simp only [isWordPart, Bool.or_eq_false_iff] at hpart
  exact hpart.2

mutual

/-- The tokens of a term are maximal where no word goes on after it. -/
theorem maximal_phrase (t : Term) {next : List Char} (hnext : Clear isWordPart next) :
    t.phrase.Maximal next := by
  cases t with
  | word name => exact hnext
  | number value => exact clear_isDigit hnext
  | quoted body => exact maximal_phrases [] body (clear_cons.mpr (by decide))

theorem maximal_phrases (blanks : List Char) (ts : List Term) {next : List Char}
    (hnext : Clear isWordPart next) : (phrases blanks ts).Maximal next := by
  match ts with
  | [] => trivial
  | [t] => exact ⟨maximal_phrase t hnext, trivial⟩
  | t :: u :: ts =>
    -- the blank between two terms continues no token
    have hblank : Clear isWordPart ((phrases [' '] (u :: ts)).text ++ next) := by
      rw [text_phrases_cons, List.append_assoc, List.singleton_append, clear_cons]
      decide
    exact ⟨maximal_phrase t hblank, maximal_phrases [' '] (u :: ts) hnext⟩

end

mutual

/-- The phrase of a term stands for the term. -/
theorem term_phrase {t : Term} (h : t.Spellable) : t.phrase.term = .ok t := by
  cases h with
  | word hword => simp only [phrase, Phrase.term, String.ofList_toList]
  | number hvalue => simp only [phrase, Phrase.term, Decimal.read_spell hvalue, Except.map]
  | quoted hbody => simp only [phrase, Phrase.term, terms_phrases [] hbody, Except.map]

theorem terms_phrases (blanks : List Char) {ts : List Term} (h : ∀ t ∈ ts, t.Spellable) :
    (phrases blanks ts).terms = .ok ts := by
  match ts with
  | [] => rfl
  | t :: ts =>
    have hrest : ∀ u ∈ ts, u.Spellable := fun u hu => h u (List.mem_cons_of_mem t hu)
    rw [phrases, Body.terms, term_phrase (h t List.mem_cons_self), terms_phrases [' '] hrest]
    rfl

end

/-- Spellable terms have a program text, and parsing it gives the terms back. -/
theorem exists_display?_parse {ts : List Term} (h : ∀ t ∈ ts, t.Spellable) :
    ∃ text, display? ts = some text ∧ parse text = .ok ts := by
  have hvalid := valid_phrases (List.forall_mem_nil _) h
  have hread := readProgram_text hvalid (maximal_phrases [] ts (clear_nil _))
  refine ⟨String.ofList (phrases [] ts).text, ?_, parse_eq_ok_iff.mpr ⟨phrases [] ts, ?_, ?_⟩⟩
  · rw [display?, bodySpelling?_eq h]
    rfl
  · rw [String.toList_ofList]
    exact hread
  · exact terms_phrases [] h

end Term

/-! ## What parsing gives -/

theorem exists_of_map_eq_ok {ε α β : Type} {x : Except ε α} {f : α → β} {b : β}
    (h : x.map f = .ok b) : ∃ a, x = .ok a ∧ f a = b := by
  cases x with
  | error e => cases h
  | ok a => exact ⟨a, rfl, Except.ok.inj h⟩

theorem exists_of_bind_eq_ok {ε α β : Type} {x : Except ε α} {f : α → Except ε β} {b : β}
    (h : x >>= f = .ok b) : ∃ a, x = .ok a ∧ f a = .ok b := by
  cases x with
  | error e => cases h
  | ok a => exact ⟨a, rfl, h⟩

mutual

/-- The term of a valid phrase is spellable. -/
theorem Grammar.Phrase.Valid.spellable {phrase : Phrase} {t : Term} (hvalid : phrase.Valid)
    (h : phrase.term = .ok t) : t.Spellable := by
  cases phrase with
  | word spelling =>
    cases h
    refine Term.Spellable.word ?_
    rw [String.toList_ofList]
    exact hvalid
  | number spelling =>
    obtain ⟨value, hread, rfl⟩ := exists_of_map_eq_ok h
    exact Term.Spellable.number (Decimal.writable_of_read hread)
  | quoted body =>
    obtain ⟨ts, hterms, rfl⟩ := exists_of_map_eq_ok h
    exact Term.Spellable.quoted (Body.Valid.spellable hvalid hterms)

theorem Grammar.Body.Valid.spellable {body : Body} {ts : List Term} (hvalid : body.Valid)
    (h : body.terms = .ok ts) : ∀ t ∈ ts, t.Spellable := by
  cases body with
  | close blanks =>
    cases h
    exact List.forall_mem_nil _
  | item blanks first rest =>
    obtain ⟨-, hfirst, hrest⟩ := hvalid
    obtain ⟨t, hterm, h⟩ := exists_of_bind_eq_ok h
    obtain ⟨us, hterms, h⟩ := exists_of_bind_eq_ok h
    cases h
    exact List.forall_mem_cons.mpr
      ⟨Phrase.Valid.spellable hfirst hterm, Body.Valid.spellable hrest hterms⟩

end

theorem Term.spellable_of_parse {source : String} {ts : List Term} (h : parse source = .ok ts) :
    ∀ t ∈ ts, t.Spellable := by
  obtain ⟨body, hread, hterms⟩ := parse_eq_ok_iff.mp h
  exact (readProgram_valid hread).spellable hterms

/-! ## Terms as data -/

theorem Datum.displays?_ne_nil {d : Datum} {ds : List Datum} {texts : List String}
    (h : Datum.displays? (d :: ds) = some texts) : texts ≠ [] := by
  simp only [displays?, Option.bind_eq_bind, Option.bind_eq_some_iff] at h
  obtain ⟨first, -, others, -, hpure⟩ := h
  cases hpure
  exact List.cons_ne_nil first others

mutual

/-- A term as a datum is displayed as its program text. -/
theorem Term.display?_datum (t : Term) : t.datum.display? = t.spelling?.map String.ofList := by
  cases t with
  | word name => simp [datum, Datum.display?, spelling?]
  | number value =>
    have hid : String.ofList ∘ String.toList = id := funext fun _ => String.ofList_toList
    simp only [datum, Datum.display?, spelling?, Option.map_map]
    rw [hid, Option.map_id_fun, id]
  | quoted body =>
    have hbody := Term.display?_list body
    simp only [Datum.display?, display?] at hbody
    have hbracket : ∀ text : List Char,
        "[" ++ String.ofList text ++ "]" = String.ofList ('[' :: (text ++ [']'])) := by
      intro text
      refine String.toList_inj.mp ?_
      simp
    calc (datum (.quoted body)).display?
        = ((Datum.displays? (data body)).map (String.intercalate " ")).map
            fun text => "[" ++ text ++ "]" := by
          simp only [datum, Datum.display?, Option.map_map]
          rfl
      _ = ((bodySpelling? body).map String.ofList).map fun text => "[" ++ text ++ "]" := by
          rw [hbody]
      _ = ((bodySpelling? body).map fun text => '[' :: (text ++ [']'])).map String.ofList := by
          simp only [Option.map_map, Function.comp_def, hbracket]

/-- A list of terms as data is displayed as its program text. -/
theorem Term.display?_list (ts : List Term) :
    (Datum.list (Term.data ts)).display? = Term.display? ts := by
  match ts with
  | [] => rfl
  | [t] =>
    simp only [data, Datum.display?, Datum.displays?, Term.display?_datum t, display?,
      bodySpelling?]
    cases t.spelling? with
    | none => rfl
    | some text => rfl
  | t :: u :: ts =>
    have hrest := Term.display?_list (u :: ts)
    simp only [Datum.display?, display?] at hrest
    rw [data, Datum.display?, Datum.displays?, Term.display?_datum t, display?, bodySpelling?]
    cases t.spelling? with
    | none => rfl
    | some first =>
      cases hothers : bodySpelling? (u :: ts) with
      | none =>
        rw [hothers, Option.map_none, Option.map_eq_none_iff] at hrest
        rw [hrest]
        rfl
      | some others =>
        rw [hothers, Option.map_some, Option.map_eq_some_iff] at hrest
        obtain ⟨texts, htexts, hjoin⟩ := hrest
        have hne : texts ≠ [] := Datum.displays?_ne_nil htexts
        have hspaced : String.ofList first ++ " " ++ String.ofList others =
            String.ofList (first ++ ' ' :: others) := by
          refine String.toList_inj.mp ?_
          simp
        rw [htexts]
        show some (String.intercalate " " (String.ofList first :: texts)) =
          some (String.ofList (first ++ ' ' :: others))
        rw [String.intercalate_cons_of_ne_nil hne, hjoin, hspaced]

end

/-! ## Printing and parsing -/

/-- Parsing undoes printing. Terms whose words the grammar can spell and whose numbers are short
enough have a program text, whether they are printed as terms or as data, and parsing that text
gives the terms back. All terms that any text is parsed as are of this kind, so they survive being
printed and parsed once more. -/
theorem parsing_undoes_printing :
    (∀ ts : List Term, (∀ t ∈ ts, t.Spellable) →
      ∃ text, Term.display? ts = some text ∧ (Datum.list (Term.data ts)).display? = some text ∧
        parse text = .ok ts) ∧
    (∀ (source : String) (ts : List Term), parse source = .ok ts →
      (∀ t ∈ ts, t.Spellable) ∧
        ∃ text, Term.display? ts = some text ∧ (Datum.list (Term.data ts)).display? = some text ∧
          parse text = .ok ts) := by
  have hspellable : ∀ ts : List Term, (∀ t ∈ ts, t.Spellable) →
      ∃ text, Term.display? ts = some text ∧ (Datum.list (Term.data ts)).display? = some text ∧
        parse text = .ok ts := by
    intro ts hts
    obtain ⟨text, hdisplay, hparse⟩ := Term.exists_display?_parse hts
    exact ⟨text, hdisplay, (Term.display?_list ts).trans hdisplay, hparse⟩
  refine ⟨hspellable, fun source ts hparse => ?_⟩
  have hts := Term.spellable_of_parse hparse
  exact ⟨hts, hspellable ts hts⟩

/-- Nested quotations, an empty one and a negative number, next to each other. -/
theorem parsing_undoes_printing_nested :
    let terms : List Term := [.word "+", .quoted [.number (-12), .quoted [], .word "dup"], .number 0]
    (∀ t ∈ terms, t.Spellable) ∧ Term.display? terms = some "+ [-12 [] dup] 0" ∧
      parse "+ [-12 [] dup] 0" = .ok terms := by
  intro terms
  have hplus : WordSpelling "+".toList := by
    simp [WordSpelling]
    decide
  have hdup : WordSpelling "dup".toList := by
    simp [WordSpelling]
    decide
  have hspellable : ∀ t ∈ terms, t.Spellable := by
    simp only [terms, List.forall_mem_cons, List.not_mem_nil, false_implies, implies_true, and_true]
    refine ⟨.word hplus, .quoted ?_, .number (Decimal.writable_iff.mpr (by decide))⟩
    simp only [List.forall_mem_cons, List.not_mem_nil, false_implies, implies_true, and_true]
    exact ⟨.number (Decimal.writable_iff.mpr (by decide)), .quoted (List.forall_mem_nil _),
      .word hdup⟩
  have htext : Term.display? terms = some "+ [-12 [] dup] 0" := by
    rw [Term.display?, Term.bodySpelling?_eq hspellable]
    rfl
  obtain ⟨text, hdisplay, -, hparse⟩ := parsing_undoes_printing.1 terms hspellable
  obtain rfl : "+ [-12 [] dup] 0" = text := Option.some.inj (htext.symm.trans hdisplay)
  exact ⟨hspellable, htext, hparse⟩

end Concatenative
