import Concatenative.Proofs.Dialogue
import Concatenative.Proofs.Juxtaposition
import Concatenative.Proofs.Meaning

/-!
# Trimmed lines

The interactive loop trims a line before it runs it; a script is run as it stands. What is trimmed
are spaces, and the blanks of the grammar are not the same characters: the four separators `U+001C`
to `U+001F` are spaces, but no text with one of them is accepted.

So a line with such a separator at one of its ends is accepted, if at all, only once it has been
trimmed. Every other line means the same before and after. The spaces at its ends are blanks then,
and blanks at the ends of a text belong to no token: no token starts with a blank, and none ends with
one.
-/

namespace Concatenative

namespace Text

/-! ## The ends of a line -/

/-- The character is one of the four information separators. -/
def IsSeparator (c : Char) : Prop := 0x1C ≤ c.toNat ∧ c.toNat ≤ 0x1F

instance (c : Char) : Decidable (IsSeparator c) := inferInstanceAs (Decidable (_ ∧ _))

/-- All spaces but the separators are blanks. -/
theorem isBlank_of_isSpace {c : Char} (h : isSpace c = true) (hc : ¬ IsSeparator c) :
    isBlank c = true := by
  have hblanks : Ascending blankBlocks := by decide
  have hspaces : Ascending spaceBlocks := by decide
  have hspace := (inBlocks_iff hspaces c.toNat).mp h
  unfold IsSeparator at hc
  rw [isBlank, inBlocks_iff hblanks]
  simp only [blankBlocks, spaceBlocks, List.mem_cons, List.not_mem_nil, or_false, exists_eq_or_imp,
    exists_eq_left, Block.Has] at hspace ⊢
  omega

theorem not_isSeparator_of_class {p : Char → Bool}
    (hp : p '\x1C' = false ∧ p '\x1D' = false ∧ p '\x1E' = false ∧ p '\x1F' = false) {c : Char}
    (hc : p c = true) : ¬ IsSeparator c := by
  rintro ⟨hge, hle⟩
  have hcode : c.toNat = 0x1C ∨ c.toNat = 0x1D ∨ c.toNat = 0x1E ∨ c.toNat = 0x1F := by omega
  have hchar : c = '\x1C' ∨ c = '\x1D' ∨ c = '\x1E' ∨ c = '\x1F' := by
    simp only [← Char.toNat_inj]
    exact hcode
  rcases hchar with rfl | rfl | rfl | rfl <;> simp [hp] at hc

/-- The spaces before the text. -/
def leading (cs : List Char) : List Char := cs.takeWhile isSpace

/-- The spaces after the text. -/
def trailing (cs : List Char) : List Char :=
  ((cs.dropWhile isSpace).reverse.takeWhile isSpace).reverse

/-- The characters that trimming removes. -/
def margin (cs : List Char) : List Char := leading cs ++ trailing cs

theorem leading_trim_trailing (cs : List Char) : leading cs ++ (trim cs ++ trailing cs) = cs := by
  have htail : trim cs ++ trailing cs = cs.dropWhile isSpace := by
    rw [trim, dropTailWhile, trailing, ← List.reverse_append, List.takeWhile_append_dropWhile,
      List.reverse_reverse]
  rw [htail]
  exact List.takeWhile_append_dropWhile

theorem isSpace_of_mem_margin {cs : List Char} {c : Char} (h : c ∈ margin cs) :
    isSpace c = true := by
  rcases List.mem_append.mp h with hleading | htrailing
  · exact Grammar.of_mem_takeWhile hleading
  · exact Grammar.of_mem_takeWhile (List.mem_reverse.mp htrailing)

theorem mem_of_mem_margin {cs : List Char} {c : Char} (h : c ∈ margin cs) : c ∈ cs := by
  rw [← leading_trim_trailing cs]
  rcases List.mem_append.mp h with hleading | htrailing
  · exact List.mem_append_left _ hleading
  · exact List.mem_append_right _ (List.mem_append_right _ htrailing)

end Text

namespace Grammar

open Concatenative.Text

/-! ## Separators stand in no program -/

mutual

theorem Phrase.Valid.not_isSeparator {phrase : Phrase} (h : phrase.Valid) :
    ∀ c ∈ phrase.text, ¬ IsSeparator c := by
  have hdigit : ∀ {c}, isDigit c = true → ¬ IsSeparator c := not_isSeparator_of_class (by decide)
  cases phrase with
  | word spelling =>
    cases spelling with
    | nil => cases h
    | cons c cs =>
      obtain ⟨hstart, hparts⟩ := h
      refine List.forall_mem_cons.mpr ⟨not_isSeparator_of_class (by decide) hstart, ?_⟩
      exact fun d hd => not_isSeparator_of_class (by decide) (hparts d hd)
  | number spelling =>
    obtain ⟨digits, -, hdigits, rfl | ⟨blanks, hblanks, rfl⟩⟩ := h
    · exact fun d hd => hdigit (hdigits d hd)
    · have hminus : ¬ IsSeparator '-' := by decide
      refine List.forall_mem_cons.mpr ⟨hminus, List.forall_mem_append.mpr ⟨?_, ?_⟩⟩
      · exact fun b hb => not_isSeparator_of_class (by decide) (hblanks b hb)
      · exact fun d hd => hdigit (hdigits d hd)
  | quoted body =>
    have hbody : body.Valid := h
    have hbrackets : ¬ IsSeparator '[' ∧ ¬ IsSeparator ']' := by decide
    refine List.forall_mem_cons.mpr ⟨hbrackets.1, List.forall_mem_append.mpr ⟨?_, ?_⟩⟩
    · exact hbody.not_isSeparator
    · exact List.forall_mem_singleton.mpr hbrackets.2

theorem Body.Valid.not_isSeparator {body : Body} (h : body.Valid) :
    ∀ c ∈ body.text, ¬ IsSeparator c := by
  have hblank : ∀ {c}, isBlank c = true → ¬ IsSeparator c := not_isSeparator_of_class (by decide)
  cases body with
  | close blanks => exact fun b hb => hblank (h b hb)
  | item blanks first rest =>
    obtain ⟨hblanks, hfirst, hrest⟩ := h
    refine List.forall_mem_append.mpr ⟨fun b hb => hblank (hblanks b hb), ?_⟩
    exact List.forall_mem_append.mpr ⟨hfirst.not_isSeparator, hrest.not_isSeparator⟩

end

/-- The spaces at the ends of a text that the grammar derives are blanks. -/
theorem Body.Derives.isBlank_margin {body : Body} {cs : List Char} (h : body.Derives cs) {c : Char}
    (hc : c ∈ margin cs) : isBlank c = true := by
  obtain ⟨hvalid, rfl⟩ := h
  have hnot : ¬ IsSeparator c := hvalid.not_isSeparator c (mem_of_mem_margin hc)
  exact isBlank_of_isSpace (isSpace_of_mem_margin hc) hnot

/-! ## Blanks around a text -/

/-- No token ends with a blank. -/
theorem Phrase.Valid.exists_concat {phrase : Phrase} (h : phrase.Valid) :
    ∃ cs c, phrase.text = cs ++ [c] ∧ isBlank c = false := by
  have hlast : ∀ {cs : List Char} (hne : cs ≠ []), (∀ c ∈ cs, isBlank c = false) →
      cs = cs.dropLast ++ [cs.getLast hne] ∧ isBlank (cs.getLast hne) = false := by
    intro cs hne hcs
    exact ⟨(List.dropLast_append_getLast hne).symm, hcs _ (List.getLast_mem hne)⟩
  cases phrase with
  | word spelling =>
    cases spelling with
    | nil => cases h
    | cons c cs =>
      obtain ⟨hstart, hparts⟩ := h
      have hall : ∀ d ∈ c :: cs, isBlank d = false :=
        List.forall_mem_cons.mpr ⟨isBlank_of_isWordStart hstart,
          fun d hd => isBlank_of_isWordPart (hparts d hd)⟩
      obtain ⟨htext, hc⟩ := hlast (List.cons_ne_nil c cs) hall
      exact ⟨_, _, htext, hc⟩
  | number spelling =>
    obtain ⟨digits, hne, hdigits, hspelling⟩ := h
    obtain ⟨htext, hc⟩ := hlast hne fun d hd => isBlank_of_isDigit (hdigits d hd)
    rcases hspelling with rfl | ⟨blanks, -, rfl⟩
    · exact ⟨_, _, htext, hc⟩
    · refine ⟨'-' :: (blanks ++ digits.dropLast), digits.getLast hne, ?_, hc⟩
      rw [Phrase.text, List.cons_append, List.append_assoc, ← htext]
  | quoted body => exact ⟨'[' :: body.text, ']', rfl, by decide⟩

/-- What is left of a derived text without blanks at its front is derived, too. -/
theorem Body.Valid.exists_of_blanks_append {body : Body} (h : body.Valid) {blanks cs : List Char}
    (hblanks : ∀ c ∈ blanks, isBlank c = true) (htext : body.text = blanks ++ cs) :
    ∃ other : Body, other.Derives cs := by
  cases body with
  | close more =>
    have hcs : ∀ c ∈ cs, isBlank c = true := by
      intro c hc
      refine h c ?_
      rw [show more = blanks ++ cs from htext]
      exact List.mem_append_right blanks hc
    exact ⟨.close cs, hcs, rfl⟩
  | item more first rest =>
    obtain ⟨hmore, hfirst, hrest⟩ := h
    rcases List.append_eq_append_iff.mp htext with ⟨left, rfl, hleft⟩ | ⟨left, rfl, hcs⟩
    · -- no token starts with a blank, so the blanks end where the first token starts
      have hclear : Clear isBlank (left ++ cs) := hleft ▸ hfirst.clear_isBlank rest.text
      cases left with
      | nil => exact ⟨.item [] first rest, ⟨List.forall_mem_nil _, hfirst, hrest⟩, hleft⟩
      | cons b left =>
        have hb : isBlank b = true := hblanks b (List.mem_append_right more List.mem_cons_self)
        rw [clear_cons.mp hclear] at hb
        cases hb
    · have hleft : ∀ c ∈ left, isBlank c = true :=
        fun c hc => hmore c (List.mem_append_right blanks hc)
      exact ⟨.item left first rest, ⟨hleft, hfirst, hrest⟩, hcs.symm⟩

/-- What is left of a derived text without blanks at its end is derived, too. -/
theorem Body.Valid.exists_of_append_blanks {body : Body} (h : body.Valid) {blanks cs : List Char}
    (hblanks : ∀ c ∈ blanks, isBlank c = true) (htext : body.text = cs ++ blanks) :
    ∃ other : Body, other.Derives cs := by
  cases body with
  | close more =>
    have hcs : ∀ c ∈ cs, isBlank c = true := by
      intro c hc
      refine h c ?_
      rw [show more = cs ++ blanks from htext]
      exact List.mem_append_left blanks hc
    exact ⟨.close cs, hcs, rfl⟩
  | item more first rest =>
    obtain ⟨hmore, hfirst, hrest⟩ := h
    have hsplit : (more ++ first.text) ++ rest.text = cs ++ blanks := by
      rw [List.append_assoc]
      exact htext
    rcases List.append_eq_append_iff.mp hsplit with ⟨left, rfl, hleft⟩ | ⟨left, hleft, rfl⟩
    · -- the blanks end after the first token, so they are at the end of the rest
      obtain ⟨other, hother, hsame⟩ := hrest.exists_of_append_blanks hblanks hleft
      refine ⟨.item more first other, ⟨hmore, hfirst, hother⟩, ?_⟩
      rw [Body.text, hsame, List.append_assoc]
    · obtain ⟨start, c, hstart, hc⟩ := hfirst.exists_concat
      cases left using List.reverseRecOn with
      | nil =>
        refine ⟨.item more first (.close []), ⟨hmore, hfirst, List.forall_mem_nil _⟩, ?_⟩
        rw [List.append_nil] at hleft
        rw [← hleft, Body.text, Body.text, List.append_nil]
      | append_singleton left d =>
        -- otherwise the last character of the token would be a blank
        have hlast : (more ++ start) ++ [c] = (cs ++ left) ++ [d] := by
          rw [List.append_assoc, ← hstart, hleft, List.append_assoc]
        obtain ⟨-, hcd⟩ := List.append_inj' hlast rfl
        obtain rfl : c = d := List.singleton_injective hcd
        have hblank : isBlank c = true := by
          refine hblanks c (List.mem_append_left _ ?_)
          exact List.mem_append_right left (List.mem_singleton.mpr rfl)
        rw [hc] at hblank
        cases hblank

section

variable {lead core trail : List Char} (hlead : ∀ c ∈ lead, isBlank c = true)
  (htrail : ∀ c ∈ trail, isBlank c = true)

include hlead htrail

/-- A text that is derived with blanks around it is derived without them. -/
theorem exists_of_blanks_around (h : ∃ body : Body, body.Derives (lead ++ (core ++ trail))) :
    ∃ body : Body, body.Derives core := by
  obtain ⟨body, hvalid, htext⟩ := h
  obtain ⟨other, hother, hsame⟩ := hvalid.exists_of_blanks_append hlead htext
  exact hother.exists_of_append_blanks htrail hsame

/-- Blanks around a derived text do not change what it is parsed as, be it terms or a number that
cannot be read. -/
theorem parse_blanks_around (h : ∃ body : Body, body.Derives core) :
    parse (String.ofList (lead ++ (core ++ trail))) = parse (String.ofList core) := by
  have hparse : ∀ {cs : List Char} {body : Body}, body.Derives cs → body.Maximal [] →
      parse (String.ofList cs) = body.terms.mapError .numeral := by
    intro cs body hderives hmax
    rw [parse, String.toList_ofList, readProgram_eq_ok_iff_maximal.mpr ⟨hderives, hmax⟩]
  obtain ⟨body, ⟨hvalid, htext⟩, hmax⟩ := exists_maximal_of_derives h
  have hclear : Clear isWordPart (trail ++ []) := by
    by_cases hne : trail = []
    · rw [hne]
      exact clear_nil _
    · exact clear_isWordPart_of_blanks hne htrail
  have hwhole : ((body.indent lead).append (.close trail)).Derives (lead ++ (core ++ trail)) := by
    refine ⟨(hvalid.indent hlead).append htrail, ?_⟩
    rw [Body.text_append, Body.text_indent, htext, List.append_assoc]
    rfl
  have hwholemax : ((body.indent lead).append (.close trail)).Maximal [] :=
    Body.Maximal.append ((hmax.before hclear).indent lead) trivial
  have hterms : ((body.indent lead).append (.close trail)).terms = body.terms := by
    rw [Body.terms_append, Body.terms_indent]
    cases body.terms with
    | error e => rfl
    | ok ts => exact congrArg Except.ok (List.append_nil ts)
  rw [hparse hwhole hwholemax, hparse ⟨hvalid, htext⟩ hmax, hterms]

end

end Grammar

namespace Interactive

open Concatenative.Grammar Concatenative.Text

/-! ## Lines and scripts -/

/-- The text that the loop runs for a line. -/
def trimmed (raw : String) : String := String.ofList (trim raw.toList)

/-- What the loop shows after the prompt, once the run of a line has come to this. -/
def reply (m : Machine) (result : Episode × Session) : List Output :=
  result.1.events.filterMap Output.ofEvent? ++ endingOutput result.1.ending ++
    if isFinal result.1.ending then [] else loop m result.2.state result.2.input

variable {raw : String}

/-- If the spaces at the ends of a line are blanks, the grammar derives it only if it derives the
trimmed line. -/
theorem exists_derives_trim (h : ∀ c ∈ margin raw.toList, isBlank c = true)
    (hraw : ∃ body : Body, body.Derives raw.toList) :
    ∃ body : Body, body.Derives (trim raw.toList) := by
  obtain ⟨hleading, htrailing⟩ := List.forall_mem_append.mp h
  rw [← leading_trim_trailing raw.toList] at hraw
  exact exists_of_blanks_around hleading htrailing hraw

theorem parse_trimmed (h : ∀ c ∈ margin raw.toList, isBlank c = true)
    (htrim : ∃ body : Body, body.Derives (trim raw.toList)) : parse (trimmed raw) = parse raw := by
  obtain ⟨hleading, htrailing⟩ := List.forall_mem_append.mp h
  have hparse := parse_blanks_around hleading htrailing htrim
  rw [leading_trim_trailing, String.ofList_toList] at hparse
  exact hparse.symm

/-- If there are no separators at the ends of a line, it is parsed as the trimmed line is, or both
are refused. -/
theorem parse_trimmed_or_refused (h : ∀ c ∈ margin raw.toList, ¬ IsSeparator c) :
    parse (trimmed raw) = parse raw ∨
      ∃ refusal refusal', parse (trimmed raw) = .error (.refused refusal) ∧
        parse raw = .error (.refused refusal') := by
  have hblank : ∀ c ∈ margin raw.toList, isBlank c = true :=
    fun c hc => isBlank_of_isSpace (isSpace_of_mem_margin hc) (h c hc)
  by_cases htrim : ∃ body : Body, body.Derives (trim raw.toList)
  · exact Or.inl (parse_trimmed hblank htrim)
  · have hline : ¬ ∃ body : Body, body.Derives (trimmed raw).toList := by
      rw [trimmed, String.toList_ofList]
      exact htrim
    obtain ⟨refusal, hrefused⟩ := parse_of_not_derives hline
    obtain ⟨refusal', hrefused'⟩ :=
      parse_of_not_derives fun hraw => htrim (exists_derives_trim hblank hraw)
    exact Or.inr ⟨refusal, refusal', hrefused, hrefused'⟩

/-- The same, for sessions: a refused text changes nothing about them. -/
theorem step_trimmed_or_refused (h : ∀ c ∈ margin raw.toList, ¬ IsSeparator c) (m : Machine)
    (session : Session) :
    (parse (trimmed raw) = parse raw ∧ session.step m (trimmed raw) = session.step m raw) ∨
      ∃ refusal refusal', parse (trimmed raw) = .error (.refused refusal) ∧
        parse raw = .error (.refused refusal') ∧
        session.step m (trimmed raw) = (⟨[], .error (.parse refusal.message)⟩, session) ∧
        session.step m raw = (⟨[], .error (.parse refusal'.message)⟩, session) := by
  unfold Session.step Machine.begin
  rcases parse_trimmed_or_refused h with hsame | ⟨refusal, refusal', hline, hraw⟩
  · rw [hsame]
    exact Or.inl ⟨rfl, rfl⟩
  · rw [hline, hraw]
    exact Or.inr ⟨refusal, refusal', rfl, rfl, rfl, rfl⟩

theorem loop_eq_reply (hstack : ¬ IsStackCommand raw) (hblank : trimmed raw ≠ "")
    (hexit : trimmed raw ≠ "exit") (m : Machine) (s : State) (rest : List String) :
    loop m s (raw :: rest) = prompt :: reply m (Session.step m ⟨s, rest⟩ (trimmed raw)) := by
  have hne : raw ≠ "" := by
    rintro rfl
    exact hblank rfl
  have htrim : trim raw.toList ≠ [] := by
    intro hnil
    rw [trimmed, hnil] at hblank
    exact hblank rfl
  have hends : ¬ EndsLoop raw := by
    rintro (hempty | ⟨-, hline⟩)
    · exact hne hempty
    · rw [trimmed, hline] at hexit
      exact hexit rfl
  have hsource : source? raw = some (trimmed raw) := if_neg (not_or.mpr ⟨hstack, htrim⟩)
  rw [loop, if_neg hne, Command.ofLine_of_source hsource hends]
  rfl

/-- Trimming a line does not change what it means.

* A line with terms has the same terms once it is trimmed.
* Let the trimmed line be accepted. Then the line itself is refused exactly if trimming has removed
  one of the four separators.
* Let trimming remove no separator, and let the line be neither a command nor blank nor `exit`. The
  loop runs the trimmed line. To run the line as it stands, as it is done with a script, comes to the
  same from every session, or both texts are refused and the session stays as it is. -/
theorem trimming_keeps_meaning (raw : String) :
    (∀ ts, parse raw = .ok ts → parse (trimmed raw) = .ok ts) ∧
    ((¬ ∃ refusal, parse (trimmed raw) = .error (.refused refusal)) →
      ((∃ refusal, parse raw = .error (.refused refusal)) ↔
        ∃ c ∈ margin raw.toList, IsSeparator c)) ∧
    ((∀ c ∈ margin raw.toList, ¬ IsSeparator c) → ¬ IsStackCommand raw → trimmed raw ≠ "" →
      trimmed raw ≠ "exit" → ∀ (m : Machine) (s : State) (rest : List String),
        let session : Session := ⟨s, rest⟩
        loop m s (raw :: rest) = prompt :: reply m (session.step m (trimmed raw)) ∧
        ((parse (trimmed raw) = parse raw ∧ session.step m (trimmed raw) = session.step m raw) ∨
          ∃ refusal refusal', parse (trimmed raw) = .error (.refused refusal) ∧
            parse raw = .error (.refused refusal') ∧
            session.step m (trimmed raw) = (⟨[], .error (.parse refusal.message)⟩, session) ∧
            session.step m raw = (⟨[], .error (.parse refusal'.message)⟩, session))) := by
  refine ⟨?_, ?_, ?_⟩
  · intro ts hts
    obtain ⟨body, hderives, -, -⟩ := parse_eq_ok_iff_maximal.mp hts
    have hblank : ∀ c ∈ margin raw.toList, isBlank c = true :=
      fun c hc => hderives.isBlank_margin hc
    rw [parse_trimmed hblank (exists_derives_trim hblank ⟨body, hderives⟩)]
    exact hts
  · intro haccepted
    constructor
    · rintro ⟨refusal, hrefused⟩
      by_contra hnone
      push Not at hnone
      rcases parse_trimmed_or_refused hnone with hsame | ⟨refusal', -, hline, -⟩
      · exact haccepted ⟨refusal, hsame.trans hrefused⟩
      · exact haccepted ⟨refusal', hline⟩
    · rintro ⟨c, hc, hseparator⟩
      refine parse_of_not_derives ?_
      rintro ⟨body, hvalid, htext⟩
      have hmem : c ∈ body.text := htext ▸ mem_of_mem_margin hc
      exact hvalid.not_isSeparator c hmem hseparator
  · intro hnone hstack hblank hexit m s rest session
    exact ⟨loop_eq_reply hstack hblank hexit m s rest, step_trimmed_or_refused hnone m ⟨s, rest⟩⟩

/-- A line with a no-break space before it and an ideographic space after it is the quotation `[x]`
as it stands and when it is trimmed. With a separator before it, it is refused as it stands. -/
theorem trimming_keeps_meaning_spaces :
    parse "\u00A0[x]\u3000\n" = .ok [.quoted [.word "x"]] ∧
      parse (trimmed "\u00A0[x]\u3000\n") = .ok [.quoted [.word "x"]] ∧
      (∀ (m : Machine) (s : State) (rest : List String),
        loop m s ("\u00A0[x]\u3000\n" :: rest) =
          prompt :: reply m (Session.step m ⟨s, rest⟩ "\u00A0[x]\u3000\n")) ∧
      parse (trimmed "\x1C[x]\n") = .ok [.quoted [.word "x"]] ∧
      ∃ refusal, parse "\x1C[x]\n" = .error (.refused refusal) := by
  have hread : readProgram "\u00A0[x]\u3000\n".toList =
        .ok (.item ['\u00A0'] (.quoted (.item [] (.word ['x']) (.close [])))
          (.close ['\u3000', '\n'])) := by
    cbv
  have hraw : parse "\u00A0[x]\u3000\n" = .ok [.quoted [.word "x"]] :=
    parse_eq_ok_iff.mpr ⟨_, hread, rfl⟩
  have hmargin : ∀ c ∈ margin "\u00A0[x]\u3000\n".toList, isBlank c = true :=
    List.all_eq_true.mp (by decide +kernel)
  have hnone : ∀ c ∈ margin "\u00A0[x]\u3000\n".toList, ¬ IsSeparator c :=
    fun c hc => not_isSeparator_of_class (by decide) (hmargin c hc)
  obtain ⟨hterms, -, hloop⟩ := trimming_keeps_meaning "\u00A0[x]\u3000\n"
  obtain ⟨-, hrefused, -⟩ := trimming_keeps_meaning "\x1C[x]\n"
  have hline : parse (trimmed "\u00A0[x]\u3000\n") = .ok [.quoted [.word "x"]] := hterms _ hraw
  have hsame : trimmed "\x1C[x]\n" = trimmed "\u00A0[x]\u3000\n" := by decide +kernel
  refine ⟨hraw, hline, ?_, hsame ▸ hline, (hrefused ?_).mpr ⟨'\x1C', by decide +kernel, by decide⟩⟩
  · intro m s rest
    obtain ⟨hreply, ⟨-, hstep⟩ | ⟨refusal, -, hrefused, -⟩⟩ :=
      hloop hnone (by decide +kernel) (by decide +kernel) (by decide +kernel) m s rest
    · rw [hreply, hstep]
    · cases hline.symm.trans hrefused
  · rintro ⟨refusal, hrefusal⟩
    rw [hsame, hline] at hrefusal
    cases hrefusal

end Interactive

end Concatenative
