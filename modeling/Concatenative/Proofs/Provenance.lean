import Concatenative.Proofs.Derivation
import Concatenative.Proofs.RoundTrip
import Concatenative.Proofs.Stock

/-!
# Where code comes from

Programs create no code. A closure comes to the stack because a quotation was run, and a quotation is
run because it stands in the program or inside another closure. So what a closure shows, and runs, is
the body of a quotation that stood in the program or in a closure of the first stack from the
beginning, at some depth, or it is one of these closures itself. Likewise a word that is looked up in
vain has been there from the beginning.

In a session that starts with an empty stack this means that every closure is a piece of one of the
source texts: what stands there between two brackets.
-/

namespace Concatenative

open Concatenative.Computation

/-! ## Terms at some depth -/

/-- The term is a member of the list, or of the body of a quotation in it, at some depth. -/
inductive Term.OccursIn (t : Term) : List Term → Prop where
  | here {ts : List Term} (h : t ∈ ts) : OccursIn t ts
  | inside {body ts : List Term} (hbody : .quoted body ∈ ts) (h : OccursIn t body) : OccursIn t ts

theorem Term.OccursIn.trans {t : Term} {body ts : List Term} (h : t.OccursIn body)
    (hbody : (Term.quoted body).OccursIn ts) : t.OccursIn ts := by
  induction hbody with
  | here hmem => exact .inside hmem h
  | inside hmem _ ih => exact .inside hmem ih

theorem Term.occursIn_quoted_iff {t : Term} {body : List Term} :
    t.OccursIn [.quoted body] ↔ t = .quoted body ∨ t.OccursIn body := by
  constructor
  · intro h
    cases h with
    | here hmem => exact Or.inl (List.mem_singleton.mp hmem)
    | inside hmem h =>
      cases List.mem_singleton.mp hmem
      exact Or.inr h
  · rintro (rfl | h)
    · exact .here (List.mem_singleton.mpr rfl)
    · exact .inside (List.mem_singleton.mpr rfl) h

theorem Term.not_occursIn_of_flat {t : Term} {ts : List Term} (ht : t ∉ ts)
    (hflat : ∀ body, .quoted body ∉ ts) : ¬ t.OccursIn ts := by
  intro h
  cases h with
  | here hmem => exact ht hmem
  | inside hbody _ => exact hflat _ hbody

/-! ## The stock of given terms -/

/-- The stock that is made of terms, if the bodies of their quotations are made of them too: each
closure runs what it shows, and shows the body of one of the quotations. -/
def Stock.ofTerms (T : Term → Prop) (hT : ∀ body, T (.quoted body) → ∀ t ∈ body, T t) : Stock where
  HasTerm := T
  HasDatum d := ∀ program source, d = .closure program source →
    program = .terms source ∧ T (.quoted source)
  int n := by
    intro program source heq
    cases heq
  closure body hbody := by
    intro program source heq
    cases heq
    exact ⟨rfl, hbody⟩
  called program source h := by
    obtain ⟨rfl, hsource⟩ := h program source rfl
    exact ⟨source, rfl, hT source hsource⟩

/-- The term stands in the program or in a closure of the stack, at some depth; a closure counts as
the quotation of what it shows. -/
def Term.Given (terms : List Term) (stack : List Datum) (t : Term) : Prop :=
  t.OccursIn terms ∨
    ∃ program origin, .closure program origin ∈ stack ∧ t.OccursIn [.quoted origin]

theorem Term.Given.body {terms : List Term} {stack : List Datum} {body : List Term}
    (h : (Term.quoted body).Given terms stack) : ∀ t ∈ body, t.Given terms stack := by
  intro t ht
  have hmem : t.OccursIn body := .here ht
  rcases h with hterms | ⟨program, origin, horigin, hstack⟩
  · exact Or.inl (hmem.trans hterms)
  · exact Or.inr ⟨program, origin, horigin, hmem.trans hstack⟩

/-- A given quotation stands in the program, or is a closure of the stack, or stands in one. -/
theorem Term.Given.quoted {terms : List Term} {stack : List Datum} {source : List Term}
    (h : (Term.quoted source).Given terms stack) :
    (Term.quoted source).OccursIn terms ∨
      ∃ program origin, .closure program origin ∈ stack ∧
        (source = origin ∨ (Term.quoted source).OccursIn origin) := by
  rcases h with hterms | ⟨program, origin, horigin, hstack⟩
  · exact Or.inl hterms
  · rcases Term.occursIn_quoted_iff.mp hstack with heq | hinside
    · cases heq
      exact Or.inr ⟨program, source, horigin, Or.inl rfl⟩
    · exact Or.inr ⟨program, origin, horigin, Or.inr hinside⟩

theorem Term.Given.word {terms : List Term} {stack : List Datum} {name : String}
    (h : (Term.word name).Given terms stack) :
    (Term.word name).OccursIn terms ∨
      ∃ program origin, .closure program origin ∈ stack ∧ (Term.word name).OccursIn origin := by
  rcases h with hterms | ⟨program, origin, horigin, hstack⟩
  · exact Or.inl hterms
  · rcases Term.occursIn_quoted_iff.mp hstack with heq | hinside
    · cases heq
    · exact Or.inr ⟨program, origin, horigin, hinside⟩

/-- The closure runs the terms that it shows. Other data run nothing. -/
def Datum.RunsItsSource : Datum → Prop
  | .closure code source => code = .terms source
  | _ => True

/-- Whatever is reached from terms and a stack is made of what is given in them. -/
theorem Stock.hasPoint_given {depth : Nat} {terms : List Term} {stack : List Datum}
    (hstack : ∀ d ∈ stack, d.RunsItsSource) {p : Course.Point}
    (h : Course.Reaches .builtins (.start depth terms stack) p) :
    (Stock.ofTerms (Term.Given terms stack) fun _ => Term.Given.body).HasPoint p := by
  refine HasPoint.reaches (hasPoint_start ?_ ?_ depth) h
  · intro t ht
    exact Or.inl (.here ht)
  · rintro d hd program source rfl
    refine ⟨hstack _ hd, Or.inr ⟨program, source, hd, ?_⟩⟩
    exact .here (List.mem_singleton.mpr rfl)

/-! ## Bracketed parts of a text -/

namespace Grammar

open Concatenative.Text

/-- The body stands between two brackets of the text, and would be read from there by itself. -/
def Body.StandsIn (inner : Body) (text : List Char) : Prop :=
  inner.Valid ∧ inner.Maximal [] ∧
    ∃ before after, text = before ++ ('[' :: (inner.text ++ ']' :: after))

theorem Body.StandsIn.append {inner : Body} {text : List Char} (h : inner.StandsIn text)
    (before after : List Char) : inner.StandsIn (before ++ (text ++ after)) := by
  obtain ⟨hvalid, hmax, start, rest, rfl⟩ := h
  refine ⟨hvalid, hmax, before ++ start, rest ++ after, ?_⟩
  simp only [List.append_assoc, List.cons_append]

/-- A quotation among the terms of a body stands between two brackets of its text. -/
theorem Body.exists_standsIn {body : Body} {next : List Char} {ts us : List Term}
    (hvalid : body.Valid) (hmax : body.Maximal next) (hterms : body.terms = .ok ts)
    (hmem : .quoted us ∈ ts) :
    ∃ inner : Body, inner.StandsIn body.text ∧ inner.terms = .ok us := by
  cases body with
  | close blanks =>
    cases hterms
    cases hmem
  | item blanks first rest =>
    obtain ⟨-, hfirst, hrest⟩ := hvalid
    obtain ⟨hmaxFirst, hmaxRest⟩ := hmax
    obtain ⟨t, hterm, hterms⟩ := exists_of_bind_eq_ok hterms
    obtain ⟨others, hothers, hterms⟩ := exists_of_bind_eq_ok hterms
    cases hterms
    rcases List.mem_cons.mp hmem with rfl | hmem
    · cases first with
      | word spelling => cases hterm
      | number spelling =>
        obtain ⟨value, -, hvalue⟩ := exists_of_map_eq_ok hterm
        cases hvalue
      | quoted inner =>
        obtain ⟨vs, hinner, hvs⟩ := exists_of_map_eq_ok hterm
        cases hvs
        have hmaxInner : inner.Maximal [] :=
          Body.Maximal.imp hmaxFirst (fun _ => clear_nil isWordPart) fun _ => clear_nil isDigit
        refine ⟨inner, ⟨hfirst, hmaxInner, blanks, rest.text, ?_⟩, hinner⟩
        simp [Body.text, Phrase.text]
    · obtain ⟨inner, hinner, hus⟩ := Body.exists_standsIn hrest hmaxRest hothers hmem
      refine ⟨inner, ?_, hus⟩
      have hstands := hinner.append (blanks ++ first.text) []
      rwa [List.append_nil, List.append_assoc] at hstands

theorem Body.exists_standsIn_of_occursIn {ts us : List Term} (h : (Term.quoted us).OccursIn ts)
    {body : Body} {next : List Char} (hvalid : body.Valid) (hmax : body.Maximal next)
    (hterms : body.terms = .ok ts) :
    ∃ inner : Body, inner.StandsIn body.text ∧ inner.terms = .ok us := by
  induction h generalizing body next with
  | here hmem => exact Body.exists_standsIn hvalid hmax hterms hmem
  | inside hmem _ ih =>
    obtain ⟨middle, ⟨hvalidMiddle, hmaxMiddle, before, after, htext⟩, hmiddle⟩ :=
      Body.exists_standsIn hvalid hmax hterms hmem
    -- what stands in the middle body stands in the whole text, one pair of brackets further in
    obtain ⟨inner, hinner, hus⟩ := ih hvalidMiddle hmaxMiddle hmiddle
    refine ⟨inner, ?_, hus⟩
    have hstands := hinner.append (before ++ ['[']) (']' :: after)
    rwa [List.append_assoc, List.singleton_append, ← htext] at hstands

/-- A source text that can be read has the quotation at some depth among its terms, and what stands
between the brackets there is by itself read as the body of the quotation. -/
def Quotes (source : String) (body : List Term) : Prop :=
  ∃ terms, parse source = .ok terms ∧ (Term.quoted body).OccursIn terms ∧
    ∃ before inner after : String,
      source = before ++ "[" ++ inner ++ "]" ++ after ∧ parse inner = .ok body

theorem quotes_of_occursIn {source : String} {terms body : List Term}
    (hparse : parse source = .ok terms) (h : (Term.quoted body).OccursIn terms) :
    Quotes source body := by
  obtain ⟨derivation, hread, hterms⟩ := parse_eq_ok_iff.mp hparse
  obtain ⟨⟨hvalid, htext⟩, hmax⟩ := readProgram_eq_ok_iff_maximal.mp hread
  obtain ⟨inner, ⟨hinner, hmaxInner, before, after, hsource⟩, hbody⟩ :=
    Body.exists_standsIn_of_occursIn h hvalid hmax hterms
  refine ⟨terms, hparse, h, String.ofList before, String.ofList inner.text, String.ofList after,
    ?_, ?_⟩
  · refine String.toList_inj.mp ?_
    rw [← htext, hsource]
    simp
  · refine parse_eq_ok_iff.mpr ⟨inner, ?_, hbody⟩
    rw [String.toList_ofList]
    exact readProgram_text hinner hmaxInner

end Grammar

/-! ## Sessions -/

/-- The term stands in one of the source texts that can be read, at some depth. -/
def Term.Sourced (sources : List String) (t : Term) : Prop :=
  ∃ source ∈ sources, ∃ terms, Grammar.parse source = .ok terms ∧ t.OccursIn terms

theorem Term.Sourced.body {sources : List String} {body : List Term}
    (h : (Term.quoted body).Sourced sources) : ∀ t ∈ body, t.Sourced sources := by
  intro t ht
  obtain ⟨source, hsource, terms, hparse, hbody⟩ := h
  have hmem : t.OccursIn body := .here ht
  exact ⟨source, hsource, terms, hparse, hmem.trans hbody⟩

/-- The stock of a session: what stands in its source texts. -/
def Stock.ofSources (sources : List String) : Stock :=
  .ofTerms (Term.Sourced sources) fun _ => Term.Sourced.body

namespace Stock

variable {sources : List String}

theorem hasSource_ofSources {source : String} (h : source ∈ sources) :
    (ofSources sources).HasSource source := by
  intro terms hterms t ht
  exact ⟨source, h, terms, hterms, .here ht⟩

/-- A closure of the stock of a session runs what it shows, which is quoted in a source text. -/
theorem exists_quotes {program : Program} {body : List Term}
    (h : (ofSources sources).HasDatum (.closure program body)) :
    program = .terms body ∧ ∃ source ∈ sources, Grammar.Quotes source body := by
  obtain ⟨hprogram, source, hsource, terms, hparse, hbody⟩ := h program body rfl
  exact ⟨hprogram, source, hsource, Grammar.quotes_of_occursIn hparse hbody⟩

end Stock

namespace Machine

open Course

/-- Programs create no code. Let terms be run over the builtin words from a stack each of whose
closures runs what it shows. At every point of the run, every closure that is on the stack or held
aside runs what it shows, and that is the body of a quotation in the terms, or what a closure of the
first stack shows, or the body of a quotation in that, at any depth. If the run, against a script or
on the console, ends in the error that a name is undefined, then the dictionary does not have the
name, and the word stands in the terms or in what a closure of the first stack shows.

So in a session that starts from the initial state, every closure that is on the stack between two
runs, or on the stack or held aside at any point of the next run, is quoted in one of the source
texts up to there. -/
theorem creates_no_code (depth : Nat) :
    (∀ (terms : List Term) (stack : List Datum), (∀ d ∈ stack, d.RunsItsSource) →
      (∀ p, Reaches .builtins (.start depth terms stack) p →
        ∀ program source, .closure program source ∈ p.stack ++ p.held →
          program = .terms source ∧
          ((Term.quoted source).OccursIn terms ∨
            ∃ code origin, .closure code origin ∈ stack ∧
              (source = origin ∨ (Term.quoted source).OccursIn origin))) ∧
      ∀ name,
        (∃ script rest, ((upTo depth).simulate script terms ⟨stack, .builtins⟩).result =
            .ok (rest, .error (.undefined name))) ∨
          (∃ input, ((live ((upTo depth).evaluate terms ⟨stack, .builtins⟩)).onConsole
            input).1.result = .ok (.error (.undefined name))) →
        Dictionary.builtins.get? name = none ∧
          ((Term.word name).OccursIn terms ∨
            ∃ code origin, .closure code origin ∈ stack ∧ (Term.word name).OccursIn origin)) ∧
    ∀ (input sources : List String),
      let stack := (Session.after (upTo depth) ⟨.initial, input⟩ sources).state.stack
      (∀ program body, .closure program body ∈ stack →
        program = .terms body ∧ ∃ source ∈ sources, Grammar.Quotes source body) ∧
      ∀ next terms, Grammar.parse next = .ok terms →
        ∀ p, Reaches .builtins (.start depth terms stack) p →
          ∀ program body, .closure program body ∈ p.stack ++ p.held →
            program = .terms body ∧ ∃ source ∈ sources ++ [next], Grammar.Quotes source body := by
  refine ⟨fun terms stack hstack => ⟨?_, ?_⟩, fun input sources => ⟨?_, ?_⟩⟩
  · intro p hp program source hclosure
    obtain ⟨hprogram, hgiven⟩ :=
      (Stock.hasPoint_given hstack hp).datum hclosure program source rfl
    exact ⟨hprogram, hgiven.quoted⟩
  · intro name hundefined
    have hend : ∃ q, Reaches .builtins (.start depth terms stack) q ∧
        Ends .builtins q (.error (.undefined name)) := by
      rcases hundefined with ⟨script, rest, hscript⟩ | ⟨input, hconsole⟩
      · exact exists_end_of_simulate hscript
      · exact exists_end_of_onConsole hconsole
    obtain ⟨q, hq, hend⟩ := hend
    obtain ⟨hname, hgiven⟩ := (Stock.hasPoint_given hstack hq).ends_undefined hend
    exact ⟨hname, hgiven.word⟩
  · intro program body hclosure
    have hsources : ∀ source ∈ sources, (Stock.ofSources sources).HasSource source :=
      fun source => Stock.hasSource_ofSources
    have hstate := Stock.hasState_session hsources depth input
    exact Stock.exists_quotes (hstate.stack _ hclosure)
  · intro next terms hterms p hp program body hclosure
    have hsources : ∀ source ∈ sources, (Stock.ofSources (sources ++ [next])).HasSource source :=
      fun source hsource => Stock.hasSource_ofSources (List.mem_append_left _ hsource)
    have hnext : (Stock.ofSources (sources ++ [next])).HasSource next :=
      Stock.hasSource_ofSources (List.mem_append_right _ (List.mem_singleton.mpr rfl))
    have hstate := Stock.hasState_session hsources depth input
    have hstart := Stock.hasPoint_start (hnext terms hterms) hstate.stack depth
    exact Stock.exists_quotes ((hstart.reaches hp).datum hclosure)

/-- That closures run what they show cannot be done without. A closure that shows no terms may run
the word `zzz` all the same. Then the error is about a name that stands neither in the terms nor in
what a closure shows. -/
theorem creates_no_code_hidden :
    let hidden : Datum := .closure (.terms [.word "zzz"]) []
    let terms : List Term := [.word "i"]
    ¬ hidden.RunsItsSource ∧
      ((upTo 1000).simulate [] terms ⟨[hidden], .builtins⟩).result =
        .ok ([], .error (.undefined "zzz")) ∧
      ¬ (Term.word "zzz").OccursIn terms ∧
      ∀ program origin, .closure program origin ∈ [hidden] →
        ¬ (Term.word "zzz").OccursIn origin := by
  intro hidden terms
  refine ⟨by simp [hidden, Datum.RunsItsSource], by rfl, ?_, ?_⟩
  · exact Term.not_occursIn_of_flat (by simp [terms]) (by simp [terms])
  · intro program origin hmem
    obtain ⟨-, rfl⟩ : _ ∧ origin = [] := by simpa [hidden] using hmem
    exact Term.not_occursIn_of_flat List.not_mem_nil fun _ => List.not_mem_nil

/-- The text `[[x]] i` leaves the closure `[x]`, which is quoted in it. Running that closure looks up
`x`, which is no builtin word and stands in the closure. -/
theorem creates_no_code_nested :
    let closure : Datum := .closure (.terms [.word "x"]) [.word "x"]
    (Session.after (upTo 1000) ⟨.initial, []⟩ ["[[x]] i"]).state.stack = [closure] ∧
      Grammar.Quotes "[[x]] i" [.word "x"] ∧
      ((upTo 1000).simulate [] [.word "i"] ⟨[closure], .builtins⟩).result =
        .ok ([], .error (.undefined "x")) ∧
      Dictionary.builtins.get? "x" = none := by
  intro closure
  have hread : Grammar.readProgram "[[x]] i".toList =
      .ok (.item [] (.quoted (.item [] (.quoted (.item [] (.word "x".toList) (.close [])))
        (.close []))) (.item [' '] (.word "i".toList) (.close []))) := by cbv
  have hparse := Grammar.parse_eq_ok_iff.mpr ⟨_, hread, rfl⟩
  have hstack : (Session.after (upTo 1000) ⟨.initial, []⟩ ["[[x]] i"]).state.stack = [closure] := by
    simp only [Session.after, List.foldl, Session.step, Machine.begin, hparse]
    rfl
  have hundefined : ((upTo 1000).simulate [] [.word "i"] ⟨[closure], .builtins⟩).result =
      .ok ([], .error (.undefined "x")) := by rfl
  obtain ⟨hruns, hsessions⟩ := creates_no_code 1000
  have hrun := hruns [.word "i"] [closure] (List.forall_mem_singleton.mpr rfl)
  have hsession := (hsessions [] ["[[x]] i"]).1
  rw [hstack] at hsession
  obtain ⟨-, source, hsource, hquotes⟩ := hsession _ _ (List.mem_singleton.mpr rfl)
  obtain rfl := List.mem_singleton.mp hsource
  exact ⟨hstack, hquotes, hundefined, (hrun.2 "x" (Or.inl ⟨[], [], hundefined⟩)).1⟩

end Machine

end Concatenative
