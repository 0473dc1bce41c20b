import Concatenative.Proofs.Derivation

/-!
# Program texts side by side

Reading decides where a token ends by what follows it, so the terms of a text might change when more
text is put after it. They do not, as long as the text after it starts with a blank: a blank
continues no token. Brackets keep texts apart as well. The closing bracket continues no token either,
and no token is left open in front of what stands after the brackets.

So the terms of two texts with blanks between them are those of the one and then those of the other,
and the terms of a text in brackets are one quotation.
-/

namespace Concatenative.Grammar

open Concatenative.Text

/-! ## Bodies one after the other -/

/-- The body with blanks before it. -/
def Body.indent (blanks : List Char) : Body → Body
  | .close more => .close (blanks ++ more)
  | .item more first rest => .item (blanks ++ more) first rest

/-- The phrases of the one body and then those of the other. -/
def Body.append : Body → Body → Body
  | .close blanks, other => other.indent blanks
  | .item blanks first rest, other => .item blanks first (rest.append other)

@[simp]
theorem Body.text_indent (blanks : List Char) (body : Body) :
    (body.indent blanks).text = blanks ++ body.text := by
  cases body with
  | close more => rfl
  | item more first rest => simp [Body.indent, Body.text]

@[simp]
theorem Body.terms_indent (blanks : List Char) (body : Body) :
    (body.indent blanks).terms = body.terms := by
  cases body with
  | close more => rfl
  | item more first rest => rfl

theorem Body.Valid.indent {blanks : List Char} {body : Body} (h : body.Valid)
    (hblanks : ∀ c ∈ blanks, isBlank c = true) : (body.indent blanks).Valid := by
  cases body with
  | close more => exact List.forall_mem_append.mpr ⟨hblanks, h⟩
  | item more first rest =>
    obtain ⟨hmore, hfirst, hrest⟩ := h
    exact ⟨List.forall_mem_append.mpr ⟨hblanks, hmore⟩, hfirst, hrest⟩

theorem Body.Maximal.indent {body : Body} {next : List Char} (h : body.Maximal next)
    (blanks : List Char) : (body.indent blanks).Maximal next := by
  cases body with
  | close more => trivial
  | item more first rest => exact h

@[simp]
theorem Body.text_append (body other : Body) :
    (body.append other).text = body.text ++ other.text := by
  cases body with
  | close blanks => exact Body.text_indent blanks other
  | item blanks first rest => simp [Body.append, Body.text, Body.text_append rest other]

theorem Body.Valid.append {body other : Body} (h : body.Valid) (hother : other.Valid) :
    (body.append other).Valid := by
  cases body with
  | close blanks => exact hother.indent h
  | item blanks first rest =>
    obtain ⟨hblanks, hfirst, hrest⟩ := h
    exact ⟨hblanks, hfirst, Body.Valid.append hrest hother⟩

/-- If a body is maximal before the text of another one, the two make up a maximal body. -/
theorem Body.Maximal.append {body other : Body} {next : List Char}
    (h : body.Maximal (other.text ++ next)) (hother : other.Maximal next) :
    (body.append other).Maximal next := by
  cases body with
  | close blanks => exact hother.indent blanks
  | item blanks first rest =>
    obtain ⟨hfirst, hrest⟩ := h
    refine ⟨?_, Body.Maximal.append hrest hother⟩
    rw [Body.text_append, List.append_assoc]
    exact hfirst

/-- Terms are read from left to right, so the first number that cannot be read decides for both
bodies. -/
theorem Body.terms_append (body other : Body) :
    (body.append other).terms = do
      let ts ← body.terms
      let us ← other.terms
      return ts ++ us := by
  cases body with
  | close blanks =>
    rw [Body.append, Body.terms_indent]
    cases other.terms with
    | error e => rfl
    | ok us => rfl
  | item blanks first rest =>
    rw [Body.append, Body.terms, Body.terms, Body.terms_append rest other]
    cases first.term with
    | error e => rfl
    | ok t =>
      cases rest.terms with
      | error e => rfl
      | ok ts =>
        cases other.terms with
        | error e => rfl
        | ok us => rfl

/-! ## What keeps texts apart -/

theorem isWordPart_of_isDigit {c : Char} (h : isDigit c = true) : isWordPart c = true := by
  simp only [isWordPart, h, Bool.or_true]

theorem clear_isDigit_of_isWordPart {cs : List Char} (h : Clear isWordPart cs) :
    Clear isDigit cs := by
  intro c hc
  refine Bool.eq_false_iff.mpr fun hdigit => ?_
  have hpart := h c hc
  rw [isWordPart_of_isDigit hdigit] at hpart
  cases hpart

/-- A body that is maximal at all is maximal before any text that does not go on with a word. -/
theorem Body.Maximal.before {body : Body} {next other : List Char} (h : body.Maximal next)
    (hother : Clear isWordPart other) : body.Maximal other :=
  h.imp (fun _ => hother) fun _ => clear_isDigit_of_isWordPart hother

theorem clear_isWordPart_of_blanks {blanks next : List Char} (hne : blanks ≠ [])
    (hblanks : ∀ c ∈ blanks, isBlank c = true) : Clear isWordPart (blanks ++ next) := by
  cases blanks with
  | nil => exact absurd rfl hne
  | cons b bs => exact clear_cons.mpr (continues_isWordPart.blank b (hblanks b List.mem_cons_self))

/-! ## Source texts -/

/-- The terms of a text are those of its maximal derivation. -/
theorem parse_eq_ok_iff_maximal {source : String} {ts : List Term} :
    parse source = .ok ts ↔
      ∃ body : Body, body.Derives source.toList ∧ body.Maximal [] ∧ body.terms = .ok ts := by
  rw [parse_eq_ok_iff]
  constructor
  · rintro ⟨body, hread, hterms⟩
    obtain ⟨hderives, hmax⟩ := readProgram_eq_ok_iff_maximal.mp hread
    exact ⟨body, hderives, hmax, hterms⟩
  · rintro ⟨body, hderives, hmax, hterms⟩
    exact ⟨body, readProgram_eq_ok_iff_maximal.mpr ⟨hderives, hmax⟩, hterms⟩

theorem parse_empty : parse "" = .ok [] := by
  have hderives : (Body.close []).Derives "".toList := ⟨by simp [Body.Valid], rfl⟩
  exact parse_eq_ok_iff_maximal.mpr ⟨.close [], hderives, trivial, rfl⟩

theorem parse_append_blanks {a b w : String} {ts us : List Term} (ha : parse a = .ok ts)
    (hb : parse b = .ok us) (hne : w ≠ "") (hblanks : ∀ c ∈ w.toList, isBlank c = true) :
    parse (a ++ w ++ b) = .ok (ts ++ us) := by
  obtain ⟨body, ⟨hvalid, htext⟩, hmax, hterms⟩ := parse_eq_ok_iff_maximal.mp ha
  obtain ⟨other, ⟨hvalid', htext'⟩, hmax', hterms'⟩ := parse_eq_ok_iff_maximal.mp hb
  have hne : w.toList ≠ [] := fun hnil => hne (String.toList_inj.mp hnil)
  have hbefore : body.Maximal ((other.indent w.toList).text ++ []) := by
    rw [Body.text_indent, List.append_nil]
    exact hmax.before (clear_isWordPart_of_blanks hne hblanks)
  refine parse_eq_ok_iff_maximal.mpr ⟨body.append (other.indent w.toList), ⟨?_, ?_⟩, ?_, ?_⟩
  · exact hvalid.append (hvalid'.indent hblanks)
  · simp [htext, htext']
  · exact hbefore.append (hmax'.indent w.toList)
  · rw [Body.terms_append, Body.terms_indent, hterms, hterms']
    rfl

theorem parse_brackets_append {a b : String} {ts us : List Term} (ha : parse a = .ok ts)
    (hb : parse b = .ok us) : parse ("[" ++ a ++ "]" ++ b) = .ok (.quoted ts :: us) := by
  obtain ⟨body, ⟨hvalid, htext⟩, hmax, hterms⟩ := parse_eq_ok_iff_maximal.mp ha
  obtain ⟨other, ⟨hvalid', htext'⟩, hmax', hterms'⟩ := parse_eq_ok_iff_maximal.mp hb
  have hclear : Clear isWordPart (']' :: (other.text ++ [])) :=
    clear_cons.mpr continues_isWordPart.bracket.2
  refine parse_eq_ok_iff_maximal.mpr ⟨.item [] (.quoted body) other, ⟨⟨?_, hvalid, hvalid'⟩, ?_⟩,
    ⟨hmax.before hclear, hmax'⟩, ?_⟩
  · simp
  · simp [Body.text, Phrase.text, htext, htext']
  · rw [Body.terms, Phrase.term, hterms, hterms']
    rfl

/-- Parsing is compositional. A text with terms, put in brackets, has one term: the quotation of its
terms. Two texts with terms and any blanks between them, but at least one, have the terms of the first
and then those of the second. And a text with terms may follow the closing bracket of another one
directly. -/
theorem parsing_composes {a : String} {ts : List Term} (ha : parse a = .ok ts) :
    parse ("[" ++ a ++ "]") = .ok [.quoted ts] ∧
    ∀ b us, parse b = .ok us →
      (∀ w : String, w ≠ "" → (∀ c ∈ w.toList, isBlank c = true) →
        parse (a ++ w ++ b) = .ok (ts ++ us)) ∧
      parse ("[" ++ a ++ "]" ++ b) = .ok (.quoted ts :: us) := by
  refine ⟨?_, fun b us hb => ⟨fun w hne hblanks => ?_, ?_⟩⟩
  · have hbrackets := parse_brackets_append ha parse_empty
    rwa [String.append_empty] at hbrackets
  · exact parse_append_blanks ha hb hne hblanks
  · exact parse_brackets_append ha hb

/-- The texts `ab` and `12` would be one word if nothing stood between them. Blanks, one of which ends
the line, keep them apart, and so do brackets. -/
theorem parsing_composes_apart :
    parse "ab" = .ok [.word "ab"] ∧ parse "12" = .ok [.number 12] ∧
      parse ("ab" ++ "\u00A0\n" ++ "12") = .ok [.word "ab", .number 12] ∧
      parse ("[" ++ "ab" ++ "]") = .ok [.quoted [.word "ab"]] ∧
      parse ("[" ++ "ab" ++ "]" ++ "12") = .ok [.quoted [.word "ab"], .number 12] := by
  have hword : parse "ab" = .ok [.word "ab"] := by
    have hread : readProgram "ab".toList = .ok (.item [] (.word "ab".toList) (.close [])) := by cbv
    exact parse_eq_ok_iff.mpr ⟨_, hread, rfl⟩
  have hnumber : parse "12" = .ok [.number 12] := by
    have hdigits : NumberSpelling "12".toList :=
      ⟨"12".toList, by decide, List.all_eq_true.mp (by decide), Or.inl rfl⟩
    have hderives : (Body.item [] (.number "12".toList) (.close [])).Derives "12".toList :=
      ⟨⟨by simp, hdigits, by simp [Body.Valid]⟩, rfl⟩
    exact parse_eq_ok_iff_maximal.mpr ⟨_, hderives, ⟨clear_nil isDigit, trivial⟩, rfl⟩
  obtain ⟨hquoted, happend⟩ := parsing_composes hword
  obtain ⟨hblanks, hbrackets⟩ := happend "12" [.number 12] hnumber
  have hapart := hblanks "\u00A0\n" (by decide) (List.all_eq_true.mp (by decide))
  exact ⟨hword, hnumber, hapart, hquoted, hbrackets⟩

end Concatenative.Grammar
