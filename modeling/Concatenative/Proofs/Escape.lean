import Concatenative.Proofs.Dialogue
import Concatenative.Proofs.Meaning
import Concatenative.Proofs.Similarity

/-!
# What escapes a session

A source text that a session is given comes to an outcome, which is a success, a refusal of the
text or an error of the language. What else can happen is a fault, and there are three reasons for
one. A number of the text cannot be read, although the grammar derives the text. The word `print` has
its turn with an integer on the stack that is too long to be written. Or programs went too deep
inside each other.

`Escapes` spells the reasons out, without running anything on a console, and they are exactly the
faults of a session. What becomes of a run is decided at the last point of its course, so the proof
goes from the console back to that point.
-/

namespace Concatenative

open Concatenative.Computation

/-! ## The end of a course -/

theorem Builtin.effect_eq_fail {word : Builtin} {stack : List Datum} {e : Signal}
    (h : word.effect stack = .fail e) : e = .poppingEmptyStack ∨ e = .typeMismatch := by
  revert h
  fun_cases Builtin.effect word stack <;> rintro ⟨⟩ <;> simp

/-- Only `print` can meet something that is too long. -/
theorem Builtin.effect_eq_tooLong {word : Builtin} {stack : List Datum}
    (h : word.effect stack = .tooLong) :
    word = .print ∧ ∃ value below, stack = value :: below ∧ value.display? = none := by
  revert h
  fun_cases Builtin.effect word stack <;> rintro ⟨⟩
  case case13 value below hdisplay => exact ⟨rfl, value, below, rfl, hdisplay⟩

namespace Course

variable {words : Dictionary} {m : Machine} {input : List String} {p q : Point}

theorem act_eq_fail {depth : Nat} {tasks : List Task} {effect : StackEffect} {e : Signal}
    (h : act depth tasks effect = .fail e) : effect = .fail e := by
  cases effect <;> cases h
  rfl

theorem turn_eq_fail {e : Signal} (h : turn words p = .fail e) :
    (∃ name, e = .undefined name) ∨ e = .poppingEmptyStack ∨ e = .typeMismatch := by
  rcases turn_cases words p with hturn | ⟨next, hturn⟩ | ⟨name, hturn⟩ | ⟨hturn, -⟩ |
    ⟨name, depth, tasks, hturn⟩ | ⟨word, hruns⟩
  · cases h.symm.trans hturn
  · cases h.symm.trans hturn
  · cases h.symm.trans hturn
    exact Or.inl ⟨name, rfl⟩
  · cases h.symm.trans hturn
  · cases h.symm.trans hturn
  · obtain ⟨depth, tasks, hturn⟩ := hruns.exists_turn_eq
    exact Or.inr (Builtin.effect_eq_fail (act_eq_fail (hturn.symm.trans h)))

/-- Among values, a run ends for something that is too long exactly where `print` has its turn and
finds an integer that is too long. -/
theorem turn_eq_tooLong_iff (hp : Stock.values.HasPoint p) :
    turn words p = .stop .tooLong ↔
      p.Runs words .print ∧ ∃ n below, p.stack = .int n :: below ∧ ¬ Decimal.Writable n := by
  constructor
  · intro h
    obtain ⟨-, word, hruns, heffect⟩ | ⟨hdeep, -⟩ := turn_eq_stop h
    · obtain ⟨rfl, value, below, hstack, hdisplay⟩ := Builtin.effect_eq_tooLong heffect
      have hvalue : value.IsValue := by
        refine hp.stack value ?_
        rw [hstack]
        exact List.mem_cons_self
      have hlong : ¬ ∀ n, value = .int n → Decimal.Writable n := by
        intro hwritable
        obtain ⟨text, htext⟩ := hvalue.exists_display?_iff.mpr hwritable
        cases hdisplay.symm.trans htext
      push Not at hlong
      obtain ⟨n, rfl, hn⟩ := hlong
      exact ⟨hruns, n, below, hstack, hn⟩
    · cases hdeep
  · rintro ⟨hruns, n, below, hstack, hn⟩
    obtain ⟨depth, tasks, hturn⟩ := hruns.exists_turn_eq
    have hdisplay : (Datum.int n).display? = none := by
      rw [Datum.display?_int, ← Option.not_isSome_iff_eq_none, Decimal.isSome_write?_iff]
      exact hn
    rw [hturn, hstack, Builtin.effect, hdisplay]
    rfl

theorem turn_eq_tooDeep_iff :
    turn words p = .stop .tooDeep ↔ ∃ program tasks, p.tasks = .call 0 program :: tasks := by
  constructor
  · intro h
    obtain ⟨hlong, -⟩ | ⟨-, hcall⟩ := turn_eq_stop h
    · cases hlong
    · exact hcall
  · rintro ⟨program, tasks, htasks⟩
    obtain ⟨tasks', stack⟩ := p
    cases htasks
    rfl

theorem exists_last (words : Dictionary) (p : Point) :
    ∃ q, Reaches words p q ∧ (turn words q).next? = none := by
  have hacc : Acc (fun q p => Next words p q) p := halts p.tasks p.stack
  induction hacc with
  | intro p _ ih =>
    cases hnext : (turn words p).next? with
    | none => exact ⟨p, .refl, hnext⟩
    | some next =>
      obtain ⟨q, hreaches, hlast⟩ := ih next hnext
      exact ⟨q, .head hnext hreaches, hlast⟩

/-- The run from a point comes to what it comes to from any point on the way. -/
theorem Reaches.result_eq (h : Reaches .builtins p q) :
    (p.report m input).result = (q.report m input).result := by
  induction h using Relation.ReflTransGen.head_induction_on with
  | refl => rfl
  | head hnext _ ih =>
    rcases hnext.turn_eq with hmove | ⟨line, hprint⟩
    · rw [Point.report_of_move hmove, ih]
    · rw [Point.report_of_print hprint]
      exact ih

/-- What a run comes to is decided at the point where it ends. -/
theorem exists_result (m : Machine) (input : List String) (hp : Stock.values.HasPoint p) :
    ∃ q, Reaches .builtins p q ∧
      ((turn .builtins q = .finish ∧
          (p.report m input).result = .ok (.ok (⟨q.stack, .builtins⟩, ()))) ∨
        (∃ e, turn .builtins q = .fail e ∧ (p.report m input).result = .ok (.error e)) ∨
        ∃ fault, turn .builtins q = .stop fault ∧ (p.report m input).result = .error fault) := by
  obtain ⟨q, hreaches, hlast⟩ := exists_last .builtins p
  refine ⟨q, hreaches, ?_⟩
  rw [hreaches.result_eq]
  cases hturn : turn .builtins q with
  | finish =>
    rw [Point.report_eq hturn]
    exact Or.inl ⟨rfl, rfl⟩
  | fail e =>
    rw [Point.report_eq hturn]
    exact Or.inr (Or.inl ⟨e, rfl, rfl⟩)
  | stop fault =>
    rw [Point.report_eq hturn]
    exact Or.inr (Or.inr ⟨fault, rfl, rfl⟩)
  | move next =>
    rw [hturn] at hlast
    cases hlast
  | print line next =>
    rw [hturn] at hlast
    cases hlast
  | host name depth tasks =>
    exact absurd hturn ((hp.reaches hreaches).turn_ne_host name depth tasks)

theorem result_eq_error_iff (hp : Stock.values.HasPoint p) {fault : Fault} :
    (p.report m input).result = .error fault ↔
      ∃ q, Reaches .builtins p q ∧ turn .builtins q = .stop fault := by
  constructor
  · intro h
    obtain ⟨q, hreaches, ⟨-, hresult⟩ | ⟨e, -, hresult⟩ | ⟨other, hturn, hresult⟩⟩ :=
      exists_result m input hp
    · cases h.symm.trans hresult
    · cases h.symm.trans hresult
    · cases h.symm.trans hresult
      exact ⟨q, hreaches, hturn⟩
  · rintro ⟨q, hreaches, hturn⟩
    rw [hreaches.result_eq, Point.report_eq hturn]
    rfl

end Course

/-! ## Sessions -/

theorem State.settle_eq_raised_iff {s : State} {result : Except Fault (Outcome (State × Unit))}
    {fault : Fault} : (s.settle result).1.ending = .raised fault ↔ result = .error fault := by
  rcases result with other | e | ⟨last, _⟩ <;> simp [State.settle]

namespace Session

open Course

/-- Why a source text does not come to an outcome in a state, if programs may go down to the
depth. -/
inductive Escapes (depth : Nat) (s : State) (source : String) : Fault → Prop where
  /-- The grammar derives the text, but it has numbers that cannot be read; the first one counts. -/
  | numeral {body : Grammar.Body} {e : Decimal.ReadError}
      (hderives : body.Derives source.toList) (hmaximal : body.Maximal [])
      (hflaw : body.numbers.findSome? Grammar.flaw? = some e) :
      Escapes depth s source (.numeral e)
  /-- On the way, `print` has its turn and finds an integer that is too long to be written. -/
  | tooLong {terms : List Term} {q : Point} {n : Int} {below : List Datum}
      (hterms : Grammar.parse source = .ok terms)
      (hreaches : Reaches .builtins (.start depth terms s.stack) q)
      (hprint : q.Runs .builtins .print) (hstack : q.stack = .int n :: below)
      (hlong : ¬ Decimal.Writable n) : Escapes depth s source .tooLong
  /-- On the way, a program is called at the limit. -/
  | tooDeep {terms : List Term} {q : Point} {program : Program} {tasks : List Task}
      (hterms : Grammar.parse source = .ok terms)
      (hreaches : Reaches .builtins (.start depth terms s.stack) q)
      (hcall : q.tasks = .call 0 program :: tasks) : Escapes depth s source .tooDeep

section

variable {depth : Nat} {s : State} {source : String} {fault : Fault}

theorem escapes_iff_of_error {e : Grammar.ParseError} (hparse : Grammar.parse source = .error e) :
    Escapes depth s source fault ↔ ∃ r, e = .numeral r ∧ fault = .numeral r := by
  constructor
  · intro h
    cases h with
    | @numeral body r hderives hmaximal hflaw =>
      have hnumeral := Grammar.parse_of_derives hderives hmaximal
      rw [hflaw, hparse] at hnumeral
      cases hnumeral
      exact ⟨r, rfl, rfl⟩
    | tooLong hterms => cases hparse.symm.trans hterms
    | tooDeep hterms => cases hparse.symm.trans hterms
  · rintro ⟨r, rfl, rfl⟩
    have hderivable : ∃ body : Grammar.Body, body.Derives source.toList := by
      by_contra hnone
      obtain ⟨refusal, hrefused⟩ := Grammar.parse_of_not_derives hnone
      cases hparse.symm.trans hrefused
    obtain ⟨body, hderives, hmaximal⟩ := Grammar.exists_maximal_of_derives hderivable
    refine .numeral hderives hmaximal ?_
    have hnumeral := Grammar.parse_of_derives hderives hmaximal
    rw [hparse] at hnumeral
    cases hflaw : body.numbers.findSome? Grammar.flaw? with
    | none =>
      rw [hflaw] at hnumeral
      cases hnumeral
    | some r' =>
      rw [hflaw] at hnumeral
      cases hnumeral
      rfl

variable {terms : List Term}

theorem hasPoint_of_parse (hs : Stock.values.HasState s) (hterms : Grammar.parse source = .ok terms)
    (depth : Nat) : Stock.values.HasPoint (.start depth terms s.stack) :=
  Stock.hasPoint_start (hasSource_values source terms hterms) hs.stack depth

theorem escapes_iff_of_parse (hs : Stock.values.HasState s)
    (hterms : Grammar.parse source = .ok terms) :
    Escapes depth s source fault ↔
      ∃ q, Reaches .builtins (.start depth terms s.stack) q ∧ turn .builtins q = .stop fault := by
  have hpoint := hasPoint_of_parse hs hterms depth
  constructor
  · intro h
    cases h with
    | numeral hderives hmaximal hflaw =>
      have hnumeral := Grammar.parse_of_derives hderives hmaximal
      rw [hflaw, hterms] at hnumeral
      cases hnumeral
    | @tooLong other q n below hother hreaches hprint hstack hlong =>
      cases hterms.symm.trans hother
      have hturn := (turn_eq_tooLong_iff (hpoint.reaches hreaches)).mpr
        ⟨hprint, n, below, hstack, hlong⟩
      exact ⟨q, hreaches, hturn⟩
    | @tooDeep other q program tasks hother hreaches hcall =>
      cases hterms.symm.trans hother
      exact ⟨q, hreaches, turn_eq_tooDeep_iff.mpr ⟨program, tasks, hcall⟩⟩
  · rintro ⟨q, hreaches, hturn⟩
    obtain ⟨rfl, -⟩ | ⟨rfl, program, tasks, hcall⟩ := turn_eq_stop hturn
    · obtain ⟨hprint, n, below, hstack, hlong⟩ :=
        (turn_eq_tooLong_iff (hpoint.reaches hreaches)).mp hturn
      exact .tooLong hterms hreaches hprint hstack hlong
    · exact .tooDeep hterms hreaches hcall

theorem ending_of_parse (hs : Stock.values.HasState s) (hterms : Grammar.parse source = .ok terms)
    (depth : Nat) (input : List String) :
    (step (.upTo depth) ⟨s, input⟩ source).1.ending =
      (s.settle ((Point.start depth terms s.stack).report (.upTo depth) input).result).1.ending := by
  have hstate : s = ⟨s.stack, .builtins⟩ := by rw [← hs.words]
  have hresult : ((live ((Machine.upTo depth).evaluate terms s)).onConsole input).1.result =
      ((Point.start depth terms s.stack).report (.upTo depth) input).result := by
    rw [hstate, Point.report, Point.left_start]
    rfl
  rw [step_of_parse hterms, ← hresult]

theorem ending_of_refused {refusal : Grammar.Refusal}
    (hparse : Grammar.parse source = .error (.refused refusal)) (m : Machine) (session : Session) :
    (session.step m source).1.ending = .error (.parse refusal.message) := by
  unfold step Machine.begin
  rw [hparse]

theorem ending_of_numeral {r : Decimal.ReadError}
    (hparse : Grammar.parse source = .error (.numeral r)) (m : Machine) (session : Session) :
    (session.step m source).1.ending = .raised (.numeral r) := by
  unfold step Machine.begin
  rw [hparse]

theorem raised_iff_escapes (hs : Stock.values.HasState s) (input : List String) :
    (step (.upTo depth) ⟨s, input⟩ source).1.ending = .raised fault ↔
      Escapes depth s source fault := by
  cases hparse : Grammar.parse source with
  | ok terms =>
    have hpoint := hasPoint_of_parse hs hparse depth
    rw [ending_of_parse hs hparse, State.settle_eq_raised_iff, result_eq_error_iff hpoint,
      escapes_iff_of_parse hs hparse]
  | error e =>
    rw [escapes_iff_of_error hparse]
    cases e with
    | refused refusal => simp [ending_of_refused hparse]
    | numeral r => simp [ending_of_numeral hparse, eq_comm]

/-- An error in which a run ends is a refusal of the text, or its terms have signalled it. -/
theorem error_cases (hs : Stock.values.HasState s) {input : List String} {e : Signal}
    (h : (step (.upTo depth) ⟨s, input⟩ source).1.ending = .error e) :
    (∃ refusal, Grammar.parse source = .error (.refused refusal) ∧ e = .parse refusal.message) ∨
      (∃ name, e = .undefined name) ∨ e = .poppingEmptyStack ∨ e = .typeMismatch := by
  cases hparse : Grammar.parse source with
  | error parseError =>
    cases parseError with
    | refused refusal =>
      rw [ending_of_refused hparse] at h
      cases h
      exact Or.inl ⟨refusal, rfl, rfl⟩
    | numeral r =>
      rw [ending_of_numeral hparse] at h
      cases h
  | ok terms =>
    rw [ending_of_parse hs hparse] at h
    have hpoint := hasPoint_of_parse hs hparse depth
    obtain ⟨q, -, ⟨-, hresult⟩ | ⟨other, hturn, hresult⟩ | ⟨fault, -, hresult⟩⟩ :=
      exists_result (.upTo depth) input hpoint
    · rw [hresult] at h
      cases h
    · rw [hresult] at h
      cases h
      exact Or.inr (turn_eq_fail hturn)
    · rw [hresult] at h
      cases h

end

/-- A session with the builtin words that has run any source texts is given another one. The run of
it ends in a fault exactly for the reasons of `Escapes`. It ends in a refusal exactly if the grammar
does not derive the text. Otherwise it ends in a success or in one of the three errors of the
language. -/
theorem step_raised_iff_escapes (depth : Nat) (input sources : List String) (source : String) :
    let m := Machine.upTo depth
    let session := after m ⟨.initial, input⟩ sources
    let ending := (session.step m source).1.ending
    (∀ fault, ending = .raised fault ↔ Escapes depth session.state source fault) ∧
      ((∃ message, ending = .error (.parse message)) ↔
        ¬ ∃ body : Grammar.Body, body.Derives source.toList) ∧
      (ending = .success ∨
        (∃ e, ending = .error e ∧ ((∃ message, e = .parse message) ∨ (∃ name, e = .undefined name) ∨
          e = .poppingEmptyStack ∨ e = .typeMismatch)) ∨
        ∃ fault, ending = .raised fault ∧ Escapes depth session.state source fault) := by
  intro m session ending
  have hs : Stock.values.HasState session.state := hasState_values depth input sources
  have hraised : ∀ fault, ending = .raised fault ↔ Escapes depth session.state source fault :=
    fun fault => raised_iff_escapes hs session.input
  refine ⟨hraised, ⟨?_, ?_⟩, ?_⟩
  · rintro ⟨message, hending⟩ hderivable
    obtain ⟨refusal, hrefused, -⟩ | ⟨name, he⟩ | he | he := error_cases hs hending
    · obtain ⟨body, hderives, hmaximal⟩ := Grammar.exists_maximal_of_derives hderivable
      rw [Grammar.parse_of_derives hderives hmaximal] at hrefused
      split at hrefused <;> cases hrefused
    · cases he
    · cases he
    · cases he
  · intro hnone
    obtain ⟨refusal, hrefused⟩ := Grammar.parse_of_not_derives hnone
    exact ⟨refusal.message, ending_of_refused hrefused m session⟩
  · cases hending : ending with
    | success => exact Or.inl rfl
    | error e =>
      obtain ⟨refusal, -, he⟩ | he := error_cases hs hending
      · exact Or.inr (Or.inl ⟨e, rfl, Or.inl ⟨refusal.message, he⟩⟩)
      · exact Or.inr (Or.inl ⟨e, rfl, Or.inr he⟩)
    | raised fault => exact Or.inr (Or.inr ⟨fault, rfl, (hraised fault).mp hending⟩)

/-- The text is a number with the blank `U+180E` after its sign, and the grammar derives it. In a
session with two closures on the stack, it ends in a fault. -/
theorem step_raised_iff_escapes_blank :
    let source := "-\u180E3"
    let session := after (.upTo 1000) ⟨.initial, []⟩ ["[x]", "dup"]
    (∃ body : Grammar.Body, body.Derives source.toList) ∧
      (session.step (.upTo 1000) source).1.ending =
        .raised (.numeral (.malformed ['-', '\u180E', '3'])) := by
  intro source session
  have hspelling : Grammar.NumberSpelling ['-', '\u180E', '3'] :=
    ⟨['3'], by simp, List.all_eq_true.mp (by decide),
      Or.inr ⟨['\u180E'], List.all_eq_true.mp (by decide), rfl⟩⟩
  have hderives : (Grammar.Body.item [] (.number ['-', '\u180E', '3']) (.close [])).Derives
      "-\u180E3".toList := ⟨⟨by simp, hspelling, by simp [Grammar.Body.Valid]⟩, rfl⟩
  have hmaximal : (Grammar.Body.item [] (.number ['-', '\u180E', '3']) (.close [])).Maximal [] :=
    ⟨Text.clear_nil _, trivial⟩
  obtain ⟨hraised, -, -⟩ := step_raised_iff_escapes 1000 [] ["[x]", "dup"] source
  exact ⟨⟨_, hderives⟩, (hraised _).mpr (.numeral hderives hmaximal (by decide))⟩

end Session

end Concatenative
