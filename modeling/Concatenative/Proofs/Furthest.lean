import Concatenative.Proofs.Derivation
import Concatenative.Proofs.Position

/-!
# How far a refused text is read

Reading stops where no further phrase starts, and a text that is not read to its end is refused there.
What has been read up to that place is a program, and no longer part of the text from its beginning is
one: if such a part is derived by the grammar, then reading the whole text gets at least to its end.
The tokens of the derivation may stop too early, and then reading takes what follows into them. The
quotations of the derivation are read as they stand, because their brackets close them.

Two kinds of mistakes can be told by counting brackets. A program has as many opening brackets as
closing ones, and no part of it from its beginning has more closing ones. So a program ends before a
bracket that is not closed, and before one that was not opened.
-/

namespace Concatenative.Grammar

open Concatenative.Text

/-! ## Reading past a derivation -/

/-- Reading takes the blanks first, so it leaves no more than what stands after them. -/
theorem length_readBody_le_dropWhile (cs : List Char) :
    (readBody cs).2.val.length ≤ (cs.dropWhile isBlank).length := by
  cases hread : readPhrase (cs.dropWhile isBlank) with
  | none => exact Nat.le_of_eq (congrArg List.length (readBody_close rfl hread).2)
  | some found =>
    obtain ⟨first, rest, hrest⟩ := found
    have hle := (readBody rest).2.property
    rw [(readBody_item rfl hread).2]
    omega

theorem readBody_rest_append {blanks next : List Char} {first : Phrase}
    (hblanks : ∀ c ∈ blanks, isBlank c = true) (hfirst : first.Valid) (hmax : first.Maximal next) :
    (readBody (blanks ++ (first.text ++ next))).2.val = (readBody next).2.val := by
  obtain ⟨h, hread⟩ := readPhrase_append hfirst hmax
  exact (readBody_item (dropWhile_run hblanks (hfirst.clear_isBlank next)) hread).2

/-- A token that takes all it can of what follows it is read past, with the body after it, if that is
so for all bodies that are no longer than that one. -/
theorem Body.Valid.length_readBody_token_le {p : Char → Bool} (hp : Continues p)
    {blanks spelling next : List Char} {token : Phrase} {rest : Body}
    (hblanks : ∀ c ∈ blanks, isBlank c = true) (htoken : token.Valid)
    (hmax : token.Maximal ((rest.text ++ next).dropWhile p))
    (hspelling : token.text = spelling ++ (rest.text ++ next).takeWhile p) (hrest : rest.Valid)
    (hshorter : ∀ body : Body, body.Valid → body.text.length ≤ rest.text.length →
      (readBody (body.text ++ next)).2.val.length ≤ next.length) :
    (readBody (blanks ++ (spelling ++ (rest.text ++ next)))).2.val.length ≤ next.length := by
  have htext : spelling ++ (rest.text ++ next) = token.text ++ (rest.text ++ next).dropWhile p := by
    rw [hspelling, List.append_assoc, List.takeWhile_append_dropWhile]
  rw [htext, readBody_rest_append hblanks htoken hmax, List.dropWhile_append]
  by_cases htaken : (rest.text.dropWhile p).isEmpty = true
  · -- the token takes the whole body and goes on behind it
    rw [if_pos htaken]
    have hread := (readBody (next.dropWhile p)).2.property
    have hdrop := length_dropWhile_le p next
    omega
  · rw [if_neg htaken]
    obtain ⟨left, hleft, hsame⟩ := hrest.exists_dropWhile hp
    have hle : left.text.length ≤ rest.text.length := by
      rw [hsame]
      exact length_dropWhile_le p rest.text
    have hread := hshorter left hleft hle
    rwa [hsame] at hread

/-- Reading a text gets at least to the end of any body that the text starts with. -/
theorem Body.Valid.length_readBody_append_le {body : Body} (h : body.Valid) (next : List Char) :
    (readBody (body.text ++ next)).2.val.length ≤ next.length := by
  -- reading may take tokens together, which leaves a body that is no part of the given one, so the
  -- induction is on the length
  induction hn : body.text.length using Nat.strongRecOn generalizing body with
  | ind n ih =>
    subst hn
    cases body with
    | close blanks =>
      have hread := length_readBody_le_dropWhile (blanks ++ next)
      rw [List.dropWhile_append_of_pos h] at hread
      exact Nat.le_trans hread (length_dropWhile_le isBlank next)
    | item blanks first rest =>
      obtain ⟨hblanks, hfirst, hrest⟩ := h
      have hlength : (Body.item blanks first rest).text.length =
          blanks.length + (first.text.length + rest.text.length) := by
        simp [Body.text]
      have hpos := hfirst.length_pos
      have hshorter : ∀ body : Body, body.Valid → body.text.length ≤ rest.text.length →
          (readBody (body.text ++ next)).2.val.length ≤ next.length :=
        fun body hvalid hle => ih body.text.length (by omega) hvalid rfl
      have htext : (Body.item blanks first rest).text ++ next =
          blanks ++ (first.text ++ (rest.text ++ next)) := by
        simp [Body.text]
      rw [htext]
      cases first with
      | word spelling =>
        have hword : (Phrase.word (spelling ++ (rest.text ++ next).takeWhile isWordPart)).Valid :=
          WordSpelling.append hfirst fun c hc => of_mem_takeWhile hc
        exact hrest.length_readBody_token_le continues_isWordPart hblanks hword
          (clear_dropWhile isWordPart _) rfl hshorter
      | number spelling =>
        have hnumber : (Phrase.number (spelling ++ (rest.text ++ next).takeWhile isDigit)).Valid :=
          NumberSpelling.append hfirst fun c hc => of_mem_takeWhile hc
        exact hrest.length_readBody_token_le continues_isDigit hblanks hnumber
          (clear_dropWhile isDigit _) rfl hshorter
      | quoted inner =>
        have hinner : inner.Valid := hfirst
        obtain ⟨middle, ⟨hmiddle, hsame⟩, hmax⟩ :=
          hinner.exists_maximal (Or.inr ⟨rest.text ++ next, rfl⟩)
        have hquoted : (Phrase.quoted middle).Valid := hmiddle
        have hspelling : (Phrase.quoted inner).text = (Phrase.quoted middle).text := by
          rw [Phrase.text, Phrase.text, hsame]
        rw [hspelling, readBody_rest_append hblanks hquoted hmax]
        exact hshorter rest hrest (Nat.le_refl _)

/-! ## The longest program at the start of a text -/

/-- The parser accepts the text. -/
def Accepts (source : String) : Prop := ∃ t, tree source = .ok t

theorem accepts_iff {source : String} :
    Accepts source ↔ ∃ body : Body, body.Derives source.toList := by
  rw [← exists_readProgram_iff]
  constructor
  · rintro ⟨t, ht⟩
    obtain ⟨body, hread, -⟩ := tree_eq_ok_iff.mp ht
    exact ⟨body, hread⟩
  · rintro ⟨body, hread⟩
    exact ⟨body.tree, tree_eq_ok_iff.mpr ⟨body, hread, rfl⟩⟩

theorem parse_eq_refused_iff {source : String} {refusal : Refusal} :
    parse source = .error (.refused refusal) ↔ readProgram source.toList = .error refusal := by
  unfold parse
  cases readProgram source.toList with
  | error other => simp
  | ok body =>
    cases hterms : body.terms with
    | error e => simp [hterms, Except.mapError]
    | ok ts => simp [hterms, Except.mapError]

/-- What a refused text starts with is a program, and the longest one. -/
theorem readProgram_error {source : List Char} {refusal : Refusal}
    (h : readProgram source = .error refusal) :
    ∃ good : Body, good.Valid ∧ source = good.text ++ refusal.rest ∧
      refusal.position = Position.start.after good.text ∧
      ∀ other : Body, other.Valid → other.text <+: source →
        other.text.length ≤ good.text.length := by
  have htext := readBody_text source
  have hvalid := readBody_valid source
  have hlongest : ∀ other : Body, other.Valid → other.text <+: source →
      other.text.length ≤ (readBody source).1.text.length := by
    rintro other hother ⟨next, rfl⟩
    have hread := hother.length_readBody_append_le next
    have hlength := congrArg List.length htext
    simp only [List.length_append] at hlength
    omega
  rw [readProgram] at h
  generalize readBody source = read at h htext hvalid hlongest
  obtain ⟨good, rest, hrest⟩ := read
  cases rest with
  | nil => cases h
  | cons c rest =>
    cases h
    exact ⟨good, hvalid, htext.symm, rfl, hlongest⟩

/-- The message of a refusal begins with its position. -/
theorem Refusal.exists_message_eq (refusal : Refusal) :
    ∃ more, refusal.message = "Parse Error in input text at L" ++
      Decimal.count refusal.position.line ++ ":C" ++ Decimal.count refusal.position.column ++
      more := by
  have hassoc : ∀ a b c d e : String, a ++ b ++ c ++ d ++ e = a ++ (b ++ c ++ d ++ e) := by
    intro a b c d e
    simp only [String.append_assoc]
  unfold Refusal.message
  exact ⟨_, hassoc _ _ _ _ _⟩

/-! ## Brackets -/

/-- No part of the text from its beginning has more closing brackets than opening ones, so the text
closes no bracket that stands before it. -/
def ClosesNothing (text : List Char) : Prop :=
  ∀ start, start <+: text → start.count ']' ≤ start.count '['

/-- Every bracket of the text is closed in it, and was opened in it. -/
structure Balanced (text : List Char) : Prop where
  closesNothing : ClosesNothing text
  count_eq : text.count ']' = text.count '['

theorem balanced_of_not_mem {text : List Char} (hopen : '[' ∉ text) (hclose : ']' ∉ text) :
    Balanced text where
  closesNothing := by
    intro start hstart
    have hnone : ']' ∉ start := fun hmem => hclose (hstart.subset hmem)
    rw [List.count_eq_zero.mpr hnone]
    exact Nat.zero_le _
  count_eq := by
    rw [List.count_eq_zero.mpr hopen, List.count_eq_zero.mpr hclose]

theorem Balanced.append {text more : List Char} (h : Balanced text) (hmore : Balanced more) :
    Balanced (text ++ more) where
  closesNothing := by
    intro start hstart
    rcases List.prefix_or_prefix_of_prefix hstart (List.prefix_append text more) with
      hstart | ⟨others, rfl⟩
    · exact h.closesNothing start hstart
    · have hothers := hmore.closesNothing others ((List.prefix_append_right_inj text).mp hstart)
      have hcount := h.count_eq
      simp only [List.count_append]
      omega
  count_eq := by
    rw [List.count_append, List.count_append, h.count_eq, hmore.count_eq]

theorem Balanced.brackets {inner : List Char} (h : Balanced inner) :
    Balanced ('[' :: (inner ++ [']'])) where
  closesNothing := by
    intro start hstart
    rcases List.prefix_cons_iff.mp hstart with rfl | ⟨cs, rfl, hcs⟩
    · exact Nat.le_refl 0
    · have hcount := h.count_eq
      -- the opening bracket makes up for the closing one
      have hone : cs.count ']' ≤ cs.count '[' + 1 := by
        rcases List.prefix_or_prefix_of_prefix hcs (List.prefix_append inner [']']) with
          hinner | ⟨others, rfl⟩
        · have hnothing := h.closesNothing cs hinner
          omega
        · have hothers := ((List.prefix_append_right_inj inner).mp hcs).length_le
          have hclosing := List.count_le_length (a := ']') (l := others)
          simp only [List.count_append, List.length_singleton] at hothers ⊢
          omega
      simpa using hone
  count_eq := by
    simp [h.count_eq]

theorem not_balanced_of_open {text inner : List Char} (htext : text.count ']' ≤ text.count '[')
    (hinner : inner.count ']' ≤ inner.count '[') : ¬Balanced (text ++ '[' :: inner) := by
  intro h
  have hcount := h.count_eq
  rw [List.count_append, List.count_append, List.count_cons_self,
    List.count_cons_of_ne (by decide)] at hcount
  omega

theorem not_balanced_of_close {text : List Char} (htext : text.count '[' ≤ text.count ']')
    (more : List Char) : ¬Balanced (text ++ ']' :: more) := by
  intro h
  have hopened := h.closesNothing (text ++ [']']) ⟨more, by simp⟩
  have hnone : [']'].count '[' = 0 := by decide
  rw [List.count_append, List.count_append, List.count_singleton_self, hnone] at hopened
  omega

/-- An opening bracket of a balanced text is closed in it. -/
theorem Balanced.not_closesNothing {text inner : List Char} (h : Balanced (text ++ '[' :: inner))
    (after : List Char) : ¬ClosesNothing (inner ++ after) := by
  intro hnothing
  have hinner := hnothing inner (List.prefix_append inner after)
  have htext := h.closesNothing text (List.prefix_append text ('[' :: inner))
  exact not_balanced_of_open htext hinner h

theorem balanced_of_class {p : Char → Bool} {cs : List Char} (hp : p '[' = false ∧ p ']' = false)
    (h : ∀ c ∈ cs, p c = true) : Balanced cs := by
  have hnot : ∀ c, p c = false → c ∉ cs := by
    intro c hc hmem
    rw [h c hmem] at hc
    cases hc
  exact balanced_of_not_mem (hnot '[' hp.1) (hnot ']' hp.2)

mutual

theorem Phrase.Valid.balanced {phrase : Phrase} (h : phrase.Valid) : Balanced phrase.text := by
  cases phrase with
  | word spelling =>
    cases spelling with
    | nil => cases h
    | cons c cs =>
      have hstart : Balanced [c] :=
        balanced_of_class (p := isWordStart) (by decide) (List.forall_mem_singleton.mpr h.1)
      exact hstart.append (balanced_of_class continues_isWordPart.bracket h.2)
  | number spelling =>
    obtain ⟨digits, -, hdigits, rfl | ⟨blanks, hblanks, rfl⟩⟩ := h
    · exact balanced_of_class continues_isDigit.bracket hdigits
    · have hminus : Balanced ['-'] := balanced_of_not_mem (by decide) (by decide)
      have hbalanced : Balanced blanks := balanced_of_class (by decide) hblanks
      exact hminus.append
        (hbalanced.append (balanced_of_class continues_isDigit.bracket hdigits))
  | quoted body =>
    have hbody : body.Valid := h
    exact hbody.balanced.brackets

/-- In the text of a body every bracket is closed. -/
theorem Body.Valid.balanced {body : Body} (h : body.Valid) : Balanced body.text := by
  cases body with
  | close blanks => exact balanced_of_class (by decide) h
  | item blanks first rest =>
    obtain ⟨hblanks, hfirst, hrest⟩ := h
    have hbalanced : Balanced blanks := balanced_of_class (by decide) hblanks
    exact hbalanced.append (hfirst.balanced.append hrest.balanced)

end

theorem Accepts.balanced {source : String} (h : Accepts source) : Balanced source.toList := by
  obtain ⟨body, hvalid, htext⟩ := accepts_iff.mp h
  rw [← htext]
  exact hvalid.balanced

/-- A text is refused right after a program that it starts with, if no text that goes further has
balanced brackets. -/
theorem refused_after_program {source before : String} {after : List Char} {c : Char}
    (hsource : source.toList = before.toList ++ c :: after) (hbefore : Accepts before)
    (hnever : ∀ more, more <+: after → ¬Balanced (before.toList ++ c :: more)) :
    ∃ refusal, parse source = .error (.refused refusal) ∧
      refusal.position.Follows before.toList ∧ refusal.rest = c :: after := by
  obtain ⟨body, hvalid, hbody⟩ := accepts_iff.mp hbefore
  cases hread : readProgram source.toList with
  | ok whole =>
    obtain ⟨⟨hwhole, htext⟩, -⟩ := readProgram_eq_ok_iff_maximal.mp hread
    have hbalanced := hwhole.balanced
    rw [htext, hsource] at hbalanced
    exact absurd hbalanced (hnever after (List.prefix_refl after))
  | error refusal =>
    obtain ⟨good, hgood, htext, hposition, hlongest⟩ := readProgram_error hread
    rw [hsource, ← hbody] at htext hlongest
    have hlength := hlongest body hvalid (List.prefix_append _ _)
    have hsame : good.text = body.text ∧ refusal.rest = c :: after := by
      rcases List.append_eq_append_iff.mp htext with ⟨more, hmore, hrest⟩ | ⟨more, hmore, hrest⟩
      · cases more with
        | nil => exact ⟨by rw [hmore, List.append_nil], hrest.symm⟩
        | cons d more =>
          -- the longest program would go past the bracket
          obtain ⟨rfl, hafter⟩ := List.cons.inj hrest
          have hbalanced := hgood.balanced
          rw [hmore, hbody] at hbalanced
          exact absurd hbalanced (hnever more ⟨refusal.rest, hafter.symm⟩)
      · have hnil : more = [] := by
          rw [hmore, List.length_append] at hlength
          exact List.length_eq_zero_iff.mp (by omega)
        rw [hnil, List.append_nil] at hmore
        rw [hnil, List.nil_append] at hrest
        exact ⟨hmore.symm, hrest⟩
    refine ⟨refusal, parse_eq_refused_iff.mpr hread, ?_, hsame.2⟩
    rw [Position.follows_iff, hposition, hsame.1, hbody]

/-- A refused text is refused right after the longest program that it starts with: that program and
the rest that the refusal shows are the text, its position is that of the first character of the rest,
and the message begins with this position.

In particular, an opening bracket after a program is where the text is refused if nothing that follows
closes it. Every bracket before it is closed, so of several brackets that are not closed it is the
outermost one. And a closing bracket after a program, blanks included, is where the text is refused,
whatever follows. -/
theorem refused_after_longest_program :
    (∀ source refusal, parse source = .error (.refused refusal) →
      ∃ good : String, source = good ++ String.ofList refusal.rest ∧ Accepts good ∧
        (∀ other more : String, source = other ++ more → Accepts other →
          other.length ≤ good.length) ∧
        refusal.position.Follows good.toList ∧
        ∃ more, refusal.message = "Parse Error in input text at L" ++
          Decimal.count refusal.position.line ++ ":C" ++ Decimal.count refusal.position.column ++
          more) ∧
    (∀ before after : String, Accepts before → ClosesNothing after.toList →
      (∃ refusal, parse (before ++ "[" ++ after) = .error (.refused refusal) ∧
        refusal.position.Follows before.toList ∧ refusal.rest = '[' :: after.toList) ∧
      ∀ text inner, before.toList = text ++ '[' :: inner →
        ¬ClosesNothing (inner ++ '[' :: after.toList)) ∧
    ∀ before after : String, Accepts before →
      ∃ refusal, parse (before ++ "]" ++ after) = .error (.refused refusal) ∧
        refusal.position.Follows before.toList ∧ refusal.rest = ']' :: after.toList := by
  refine ⟨fun source refusal hparse => ?_, fun before after hbefore hafter => ?_,
    fun before after hbefore => ?_⟩
  · obtain ⟨good, hgood, htext, hposition, hlongest⟩ :=
      readProgram_error (parse_eq_refused_iff.mp hparse)
    refine ⟨String.ofList good.text, ?_, ?_, ?_, ?_, ?_⟩
    · rw [← String.ofList_append, ← htext, String.ofList_toList]
    · exact accepts_iff.mpr ⟨good, hgood, (String.toList_ofList).symm⟩
    · rintro other more rfl hother
      obtain ⟨body, hbody, hsame⟩ := accepts_iff.mp hother
      have hprefix : body.text <+: (other ++ more).toList := by
        rw [hsame, String.toList_append]
        exact List.prefix_append _ _
      have hle := hlongest body hbody hprefix
      rwa [hsame, String.length_toList, ← String.length_ofList] at hle
    · rw [String.toList_ofList, Position.follows_iff, hposition]
    · exact refusal.exists_message_eq
  · have hprogram : Balanced before.toList := hbefore.balanced
    refine ⟨refused_after_program (by simp) hbefore fun more hmore => ?_, ?_⟩
    · exact not_balanced_of_open (Nat.le_of_eq hprogram.count_eq) (hafter more hmore)
    · intro text inner htext
      rw [htext] at hprogram
      exact hprogram.not_closesNothing ('[' :: after.toList)
  · have hprogram : Balanced before.toList := hbefore.balanced
    refine refused_after_program (by simp) hbefore fun more hmore => ?_
    exact not_balanced_of_close (Nat.le_of_eq hprogram.count_eq.symm) more

/-- After the program `a`, a line feed and a blank, a bracket that is not closed is reported at the
second column of the second line, although a closed quotation follows it, and so is a bracket that was
not opened. Nothing longer than those three characters is a program. -/
theorem refused_after_longest_program_brackets :
    Accepts "a\n " ∧ ClosesNothing "b [c]".toList ∧
      (∃ refusal, parse ("a\n " ++ "[" ++ "b [c]") = .error (.refused refusal) ∧
        refusal.position = ⟨2, 2⟩ ∧ refusal.rest = '[' :: "b [c]".toList ∧
        ∀ other more : String, "a\n " ++ "[" ++ "b [c]" = other ++ more → Accepts other →
          other.length ≤ 3) ∧
      ∃ refusal, parse ("a\n " ++ "]" ++ "b [c]") = .error (.refused refusal) ∧
        refusal.position = ⟨2, 2⟩ := by
  obtain ⟨hlongest, hunclosed, hunopened⟩ := refused_after_longest_program
  have hread : readProgram "a\n ".toList = .ok (.item [] (.word ['a']) (.close ['\n', ' '])) := by cbv
  have hbefore : Accepts "a\n " := ⟨_, tree_eq_ok_iff.mpr ⟨_, hread, rfl⟩⟩
  have hafter : ClosesNothing "b [c]".toList := by
    have hstart : Balanced ['b', ' '] := balanced_of_not_mem (by decide) (by decide)
    have hinner : Balanced ['c'] := balanced_of_not_mem (by decide) (by decide)
    exact (hstart.append hinner.brackets).closesNothing
  refine ⟨hbefore, hafter, ?_, ?_⟩
  · obtain ⟨refusal, hparse, hposition, hrest⟩ := (hunclosed "a\n " "b [c]" hbefore hafter).1
    obtain ⟨good, hsource, -, hgood, -⟩ := hlongest _ refusal hparse
    refine ⟨refusal, hparse, Position.follows_iff.mp hposition, hrest, ?_⟩
    intro other more htext hother
    have hle := hgood other more htext hother
    have hlength := congrArg String.length hsource
    have hsix : ('[' :: "b [c]".toList).length = 6 := by decide
    have hnine : ("a\n " ++ "[" ++ "b [c]").length = 9 := by decide
    rw [hnine, String.length_append, String.length_ofList, hrest, hsix] at hlength
    omega
  · obtain ⟨refusal, hparse, hposition, -⟩ := hunopened "a\n " "b [c]" hbefore
    exact ⟨refusal, hparse, Position.follows_iff.mp hposition⟩

end Concatenative.Grammar
