import Concatenative.Grammar.Loose
import Concatenative.Proofs.Derivation
import Concatenative.Proofs.Numeral
import Mathlib.Data.Nat.Digits.Defs

/-!
# What parsing a source text comes to

A text that the grammar derives has a list of terms unless one of its numbers cannot be read. There
are two reasons for that. A number may be too long. Or the blanks after its sign include the one
blank that is no space, `U+180E`: it is part of the number for the grammar, and it is not ignored
when the number is read. The first number with such a flaw decides how parsing fails.

Terms can also be built from the tree of a text, as plain data. That comes to the same: a tree that
was parsed has everything that building it needs.
-/

namespace Concatenative.Grammar

open Concatenative.Text

/-! ## The parts of a number -/

/-- The parts of a number as it is spelled. -/
structure NumberParts where
  /-- One, or minus one if there is a minus sign. -/
  sign : Int
  /-- The blanks after the minus sign. -/
  blanks : List Char
  /-- The digits. -/
  digits : List Char

/-- The parts of the spelling of a number. -/
def numberParts : List Char → NumberParts
  | [] => ⟨1, [], []⟩
  | c :: cs =>
    if c = '-' then ⟨-1, cs.takeWhile isBlank, cs.dropWhile isBlank⟩ else ⟨1, [], c :: cs⟩

/-- The sign times the positional value of the digits. -/
def NumberParts.value (parts : NumberParts) : Int :=
  parts.sign * (Nat.ofDigits 10 (parts.digits.filterMap digitValue?).reverse : Nat)

/-- Why a number cannot be read, if it cannot. -/
def flaw? (spelling : List Char) : Option Decimal.ReadError :=
  if '\u180E' ∈ (numberParts spelling).blanks then some (.malformed (withoutSpaces spelling))
  else if 4300 < (numberParts spelling).digits.length then
    some (.tooLong (numberParts spelling).digits.length)
  else none

theorem numberParts_digits {digits : List Char} (hdigits : ∀ d ∈ digits, isDigit d = true) :
    numberParts digits = ⟨1, [], digits⟩ := by
  cases digits with
  | nil => rfl
  | cons d ds =>
    have hminus : d ≠ '-' := ne_of_class (hdigits d List.mem_cons_self) (by decide)
    simp only [numberParts, if_neg hminus]

theorem numberParts_minus {blanks digits : List Char} (hblanks : ∀ b ∈ blanks, isBlank b = true)
    (hne : digits ≠ []) (hdigits : ∀ d ∈ digits, isDigit d = true) :
    numberParts ('-' :: (blanks ++ digits)) = ⟨-1, blanks, digits⟩ := by
  have hclear : Clear isBlank (digits ++ []) := clear_isBlank_digits hne hdigits
  rw [List.append_nil] at hclear
  simp only [numberParts, if_true, takeWhile_run hblanks hclear, dropWhile_run hblanks hclear]

/-! ## Reading a number -/

theorem positional_eq_ofDigits (digits : List Nat) :
    Decimal.positional digits = Nat.ofDigits 10 digits.reverse := by
  have hstep : (fun n d : Nat => n * 10 + d) = fun n d => d + 10 * n := by
    funext n d
    omega
  rw [Nat.ofDigits_eq_foldr, List.foldr_reverse, Decimal.positional, hstep]
  rfl

/-- Of the blanks of the grammar, all but one are spaces. -/
theorem isSpace_iff_of_isBlank {c : Char} (h : isBlank c = true) :
    isSpace c = true ↔ c ≠ '\u180E' := by
  have hblanks : Ascending blankBlocks := by decide
  have hspaces : Ascending spaceBlocks := by decide
  have hcode : c ≠ '\u180E' ↔ c.toNat ≠ 0x180E := not_congr Char.toNat_inj.symm
  have hblank := (inBlocks_iff hblanks c.toNat).mp h
  rw [hcode, isSpace, inBlocks_iff hspaces]
  simp only [blankBlocks, spaceBlocks, List.mem_cons, List.not_mem_nil, or_false, exists_eq_or_imp,
    exists_eq_left, Block.Has] at hblank ⊢
  omega

/-- Without its spaces, a number has lost the blanks after its sign, or all but some `U+180E`. -/
theorem withoutSpaces_minus {blanks digits : List Char}
    (hblanks : ∀ b ∈ blanks, isBlank b = true) (hdigits : ∀ d ∈ digits, isDigit d = true) :
    withoutSpaces ('-' :: (blanks ++ digits)) =
      '-' :: (blanks.filter (· = '\u180E') ++ digits) := by
  have hminus : isSpace '-' = false := by decide
  have hkept : blanks.filter (fun c => !isSpace c) = blanks.filter (· = '\u180E') := by
    refine List.filter_congr fun b hb => ?_
    have hspace := isSpace_iff_of_isBlank (hblanks b hb)
    by_cases hb' : b = '\u180E'
    · simpa [hb'] using hspace
    · simpa [hb'] using hspace
  have hall : digits.filter (fun c => !isSpace c) = digits := by
    refine List.filter_eq_self.mpr fun d hd => ?_
    rw [isSpace_of_isDigit (hdigits d hd), Bool.not_false]
  rw [withoutSpaces, List.filter_cons_of_pos (by simp [hminus]), List.filter_append, hkept, hall]

theorem read_malformed {c : Char} {cs : List Char} (hdigit : isDigit c = false) (hc : c ≠ '_') :
    Decimal.read ('-' :: c :: cs) = .error (.malformed ('-' :: c :: cs)) := by
  simp [Decimal.read, Decimal.splitSign, Decimal.marksFit, hdigit, hc]

/-- A number is read as its value unless it has a flaw. -/
theorem NumberSpelling.read_eq {spelling : List Char} (h : NumberSpelling spelling) :
    Decimal.read (withoutSpaces spelling) =
      match flaw? spelling with
      | some e => .error e
      | none => .ok (numberParts spelling).value := by
  have hlimit : Decimal.digitLimit = 4300 := rfl
  obtain ⟨digits, hne, hdigits, rfl | ⟨blanks, hblanks, rfl⟩⟩ := h
  · have hspaces : withoutSpaces spelling = spelling :=
      List.filter_eq_self.mpr fun d hd => by rw [isSpace_of_isDigit (hdigits d hd), Bool.not_false]
    rw [hspaces, Decimal.read_digits (Decimal.splitSign_digits hdigits) hne hdigits, hlimit]
    simp only [flaw?, numberParts_digits hdigits, List.not_mem_nil, if_false]
    by_cases hlong : 4300 < spelling.length
    · simp only [if_pos hlong]
    · simp only [if_neg hlong, NumberParts.value, positional_eq_ofDigits, Bool.false_eq_true,
        if_false, Int.one_mul]
  · have hspaces := withoutSpaces_minus hblanks hdigits
    simp only [flaw?, numberParts_minus hblanks hne hdigits]
    by_cases hmongolian : '\u180E' ∈ blanks
    · -- some `U+180E` is left right after the sign, where only a digit is read
      obtain ⟨cs, hcs⟩ : ∃ cs, blanks.filter (· = '\u180E') = '\u180E' :: cs := by
        cases hfilter : blanks.filter (· = '\u180E') with
        | nil => exact absurd rfl (List.filter_eq_nil_iff.mp hfilter _ hmongolian ∘ decide_eq_true)
        | cons c cs =>
          have hc : c ∈ blanks.filter (· = '\u180E') := hfilter ▸ List.mem_cons_self
          rw [of_decide_eq_true (List.mem_filter.mp hc).2]
          exact ⟨cs, rfl⟩
      rw [hspaces, hcs, List.cons_append, read_malformed (by decide) (by decide)]
      simp only [if_pos hmongolian]
    · have hnone : blanks.filter (· = '\u180E') = [] := by
        refine List.filter_eq_nil_iff.mpr fun b hb hb' => hmongolian ?_
        rwa [← of_decide_eq_true hb']
      have hsign : Decimal.splitSign ('-' :: digits) = (true, digits) := rfl
      rw [hspaces, hnone, List.nil_append, Decimal.read_digits hsign hne hdigits, hlimit]
      simp only [if_neg hmongolian]
      by_cases hlong : 4300 < digits.length
      · simp only [if_pos hlong]
      · simp only [if_neg hlong, NumberParts.value, positional_eq_ofDigits, if_true, Int.neg_mul,
          Int.one_mul]

/-! ## Terms -/

mutual

/-- The spellings of the numbers of a phrase, in the order of the text. -/
def Phrase.numbers : Phrase → List (List Char)
  | .word _ => []
  | .number spelling => [spelling]
  | .quoted body => body.numbers

/-- The same, for bodies. -/
def Body.numbers : Body → List (List Char)
  | .close _ => []
  | .item _ first rest => first.numbers ++ rest.numbers

end

mutual

/-- The term that a phrase means: a word of the same spelling, a number of the value that is spelled,
a quotation of what stands between the brackets. -/
def Phrase.meaning : Phrase → Term
  | .word spelling => .word (String.ofList spelling)
  | .number spelling => .number (numberParts spelling).value
  | .quoted body => .quoted body.meaning

/-- The terms that a body means, in the order of the text. -/
def Body.meaning : Body → List Term
  | .close _ => []
  | .item _ first rest => first.meaning :: rest.meaning

end

mutual

theorem Phrase.Valid.term_eq {phrase : Phrase} (h : phrase.Valid) :
    phrase.term =
      match phrase.numbers.findSome? flaw? with
      | some e => .error e
      | none => .ok phrase.meaning := by
  cases phrase with
  | word spelling => rfl
  | number spelling =>
    rw [Phrase.term, NumberSpelling.read_eq h]
    simp only [Phrase.numbers, List.findSome?_singleton]
    cases flaw? spelling with
    | none => rfl
    | some e => rfl
  | quoted body =>
    have hbody : body.Valid := h
    rw [Phrase.term, Body.Valid.terms_eq hbody, Phrase.numbers]
    cases body.numbers.findSome? flaw? with
    | none => rfl
    | some e => rfl

/-- A body has the terms that it means, unless one of its numbers has a flaw: then the first flaw is
the error. -/
theorem Body.Valid.terms_eq {body : Body} (h : body.Valid) :
    body.terms =
      match body.numbers.findSome? flaw? with
      | some e => .error e
      | none => .ok body.meaning := by
  cases body with
  | close blanks => rfl
  | item blanks first rest =>
    obtain ⟨-, hfirst, hrest⟩ := h
    rw [Body.terms, Phrase.Valid.term_eq hfirst, Body.Valid.terms_eq hrest, Body.numbers,
      List.findSome?_append]
    cases first.numbers.findSome? flaw? with
    | some e => rfl
    | none =>
      cases rest.numbers.findSome? flaw? with
      | some e => rfl
      | none => rfl

end

/-- Parsing a text that the grammar derives gives the terms that its maximal derivation means, or
fails with the first flaw. -/
theorem parse_of_derives {source : String} {body : Body} (h : body.Derives source.toList)
    (hmax : body.Maximal []) :
    parse source =
      match body.numbers.findSome? flaw? with
      | some e => .error (.numeral e)
      | none => .ok body.meaning := by
  have hread := readProgram_eq_ok_iff_maximal.mpr ⟨h, hmax⟩
  unfold parse
  rw [hread]
  dsimp only
  rw [h.1.terms_eq]
  cases body.numbers.findSome? flaw? with
  | some e => rfl
  | none => rfl

theorem parse_of_not_derives {source : String}
    (h : ¬∃ body : Body, body.Derives source.toList) :
    ∃ refusal, parse source = .error (.refused refusal) := by
  rw [← exists_readProgram_iff] at h
  unfold parse
  cases hread : readProgram source.toList with
  | ok body => exact absurd ⟨body, hread⟩ h
  | error refusal => exact ⟨refusal, rfl⟩

/-! ## Building terms from a tree -/

theorem lookup_nodeFields (tag : String) (text : List Char) (p : Position)
    (more : List (String × Datum)) :
    (nodeFields tag text p ++ more).lookup "tag" = some (.text tag) ∧
      (nodeFields tag text p ++ more).lookup "text" = some (.text (String.ofList text)) :=
  ⟨rfl, rfl⟩

theorem buildChildren_nodeFields (tag : String) (text : List Char) (p : Position)
    (children : List Datum) :
    buildChildren (nodeFields tag text p ++ [("children", .list children)]) =
      (buildAll children).map .list := by
  simp [nodeFields, buildChildren, build]

mutual

/-- A node of a parsed tree builds the term of its phrase, or fails where the phrase does. -/
theorem build_node (phrase : Phrase) (p : Position) :
    build (phrase.node p).record =
      match phrase.term with
      | .ok t => .ok (.ofTerm t)
      | .error e => .error (.numeral e) := by
  cases phrase with
  | word spelling =>
    obtain ⟨htag, htext⟩ := lookup_nodeFields "word" spelling p []
    rw [List.append_nil] at htag htext
    rw [Phrase.node, Node.record, build, htag]
    simp only [htext]
    rfl
  | number spelling =>
    obtain ⟨htag, htext⟩ := lookup_nodeFields "number" spelling p []
    rw [List.append_nil] at htag htext
    rw [Phrase.node, Node.record, build, htag]
    simp only [htext, buildNumber, String.toList_ofList, Phrase.term]
    cases Decimal.read (withoutSpaces spelling) with
    | ok value => rfl
    | error e => rfl
  | quoted body =>
    have htag := (lookup_nodeFields "quoted" (Phrase.quoted body).text p
      [("children", .list (Node.records (body.nodes (p.next '['))))]).1
    rw [Phrase.node, Node.record, build, htag]
    simp only [buildChildren_nodeFields, buildAll_nodes body, Phrase.term]
    cases body.terms with
    | ok ts => rfl
    | error e => rfl

theorem buildAll_nodes (body : Body) (p : Position) :
    buildAll (Node.records (body.nodes p)) =
      match body.terms with
      | .ok ts => .ok (Built.ofTerms ts)
      | .error e => .error (.numeral e) := by
  cases body with
  | close blanks => rfl
  | item blanks first rest =>
    rw [Body.nodes, Node.records, buildAll, build_node first, buildAll_nodes rest, Body.terms]
    cases first.term with
    | error e => rfl
    | ok t =>
      cases rest.terms with
      | error e => rfl
      | ok ts => rfl

end

theorem build_tree (body : Body) :
    build body.tree.record =
      match body.terms with
      | .ok ts => .ok (.list (Built.ofTerms ts))
      | .error e => .error (.numeral e) := by
  have htag := (lookup_nodeFields "program" body.text .start
    [("children", .list (Node.records (body.nodes .start)))]).1
  rw [Body.tree, Tree.record, build, htag]
  simp only [buildChildren_nodeFields, buildAll_nodes body]
  cases body.terms with
  | ok ts => rfl
  | error e => rfl

/-! ## The outcome -/

theorem isSome_flaw?_iff {spelling : List Char} :
    (flaw? spelling).isSome = true ↔
      '\u180E' ∈ (numberParts spelling).blanks ∨ 4300 < (numberParts spelling).digits.length := by
  unfold flaw?
  by_cases hblank : '\u180E' ∈ (numberParts spelling).blanks
  · simp [hblank]
  · by_cases hlong : 4300 < (numberParts spelling).digits.length
    · simp [hblank, hlong]
    · simp [hblank, hlong]

/-- What parsing a source text comes to. The text is refused exactly if the grammar does not derive
it. A number is to blame exactly if the grammar derives the text and a number of its maximal
derivation has `U+180E` among the blanks after its sign or more than 4300 digits, and the first such
number gives the error. Otherwise the terms are what the maximal derivation means. Building the tree
of an accepted text comes to the same terms or to the same error, and to no other one. -/
theorem parse_outcome (source : String) :
    ((∃ refusal, parse source = .error (.refused refusal)) ↔
      ¬∃ body : Body, body.Derives source.toList) ∧
    ((∃ e, parse source = .error (.numeral e)) ↔
      ∃ body : Body, body.Derives source.toList ∧ body.Maximal [] ∧
        ∃ spelling ∈ body.numbers, '\u180E' ∈ (numberParts spelling).blanks ∨
          4300 < (numberParts spelling).digits.length) ∧
    (∀ body : Body, body.Derives source.toList → body.Maximal [] →
      (∀ e, parse source = .error (.numeral e) ↔ body.numbers.findSome? flaw? = some e) ∧
      ∀ ts, parse source = .ok ts ↔ body.numbers.findSome? flaw? = none ∧ ts = body.meaning) ∧
    ∀ t, tree source = .ok t →
      (∀ b, build t.record = .ok b ↔ ∃ ts, parse source = .ok ts ∧ b = .list (Built.ofTerms ts)) ∧
      ∀ e, build t.record = .error e ↔ ∃ r, parse source = .error (.numeral r) ∧ e = .numeral r := by
  have hmaximal : ∀ body : Body, body.Derives source.toList → body.Maximal [] →
      (∀ e, parse source = .error (.numeral e) ↔ body.numbers.findSome? flaw? = some e) ∧
      ∀ ts, parse source = .ok ts ↔ body.numbers.findSome? flaw? = none ∧ ts = body.meaning := by
    intro body hderives hmax
    rw [parse_of_derives hderives hmax]
    cases body.numbers.findSome? flaw? with
    | some e => simp
    | none => simp [eq_comm]
  refine ⟨⟨?_, parse_of_not_derives⟩, ⟨?_, ?_⟩, hmaximal, ?_⟩
  · rintro ⟨refusal, hparse⟩ hderivable
    obtain ⟨body, hderives, hmax⟩ := exists_maximal_of_derives hderivable
    rw [parse_of_derives hderives hmax] at hparse
    split at hparse
    · cases hparse
    · cases hparse
  · rintro ⟨e, hparse⟩
    have hderivable : ∃ body : Body, body.Derives source.toList := by
      refine Classical.byContradiction fun h => ?_
      obtain ⟨refusal, hrefused⟩ := parse_of_not_derives h
      rw [hparse] at hrefused
      cases hrefused
    obtain ⟨body, hderives, hmax⟩ := exists_maximal_of_derives hderivable
    have hflaw := ((hmaximal body hderives hmax).1 e).mp hparse
    obtain ⟨spelling, hspelling, hsome⟩ := List.exists_of_findSome?_eq_some hflaw
    exact ⟨body, hderives, hmax, spelling, hspelling,
      isSome_flaw?_iff.mp (Option.isSome_of_eq_some hsome)⟩
  · rintro ⟨body, hderives, hmax, spelling, hspelling, hflaw⟩
    have hsome := List.findSome?_isSome_iff.mpr ⟨spelling, hspelling, isSome_flaw?_iff.mpr hflaw⟩
    obtain ⟨e, he⟩ := Option.isSome_iff_exists.mp hsome
    exact ⟨e, ((hmaximal body hderives hmax).1 e).mpr he⟩
  · intro t ht
    obtain ⟨body, hread, rfl⟩ := tree_eq_ok_iff.mp ht
    obtain ⟨hderives, hmax⟩ := readProgram_eq_ok_iff_maximal.mp hread
    rw [build_tree, parse_of_derives hderives hmax, hderives.1.terms_eq]
    cases body.numbers.findSome? flaw? with
    | some e => simp [eq_comm]
    | none => simp [eq_comm]

/-- A digit of another script after a sign and a blank is read by its value. Of two numbers with a
flaw the first one counts. -/
theorem parse_outcome_numbers :
    parse "[-\u00A0\u0663 +] x" = .ok [.quoted [.number (-3), .word "+"], .word "x"] ∧
      parse "[-\u180E3]-\u180E4" = .error (.numeral (.malformed ['-', '\u180E', '3'])) := by
  have hread : readProgram "[-\u00A0\u0663 +] x".toList =
      .ok (.item [] (.quoted (.item [] (.number ['-', '\u00A0', '\u0663'])
        (.item [' '] (.word ['+']) (.close [])))) (.item [' '] (.word ['x']) (.close []))) := by
    cbv
  obtain ⟨hderives, hmax⟩ := readProgram_eq_ok_iff_maximal.mp hread
  obtain ⟨-, -, hmeaning, -⟩ := parse_outcome "[-\u00A0\u0663 +] x"
  refine ⟨((hmeaning _ hderives hmax).2 _).mpr ⟨by decide, rfl⟩, ?_⟩
  have hspelling : ∀ d, isDigit d = true → NumberSpelling ['-', '\u180E', d] := by
    intro d hd
    exact ⟨[d], by simp, by simpa using hd, Or.inr ⟨['\u180E'], List.all_eq_true.mp (by decide), rfl⟩⟩
  have hflawed : (Body.item [] (.quoted (.item [] (.number ['-', '\u180E', '3']) (.close [])))
      (.item [] (.number ['-', '\u180E', '4']) (.close []))).Derives "[-\u180E3]-\u180E4".toList :=
    ⟨⟨by simp, ⟨by simp, hspelling '3' (by decide), by simp [Body.Valid]⟩, by simp,
      hspelling '4' (by decide), by simp [Body.Valid]⟩, rfl⟩
  obtain ⟨-, -, hfirst, -⟩ := parse_outcome "[-\u180E3]-\u180E4"
  refine ((hfirst _ hflawed ⟨⟨?_, trivial⟩, clear_nil _, trivial⟩).1 _).mpr (by decide)
  exact clear_cons.mpr (by decide)

end Concatenative.Grammar
