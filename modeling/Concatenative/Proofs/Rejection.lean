import Concatenative.Proofs.Conduct
import Concatenative.Proofs.Showing
import Concatenative.Session
import Mathlib.Data.List.Lex

/-!
# What compilation rejects

A list of data compiles unless there is a stranger in it, which is a datum that is no term, at whatever
depth of the quotations. The fault names the first stranger. To say which one is the first, every
place has a path: the place in the list, then the place in the quotation that stands there, and so
on. Read from left to right, with each quotation read through before what follows it, the places
come in the lexicographic order of their paths.

The fault comes before anything is asked. And it comes then or never: once data have been compiled,
no run of them or of their closures ends with a stranger, under whatever handlers and answers.
`FailsWith` follows a computation along all answers to the faults that it may end in, and every
handler keeps it.
-/

namespace Concatenative

open Concatenative.Computation

/-! ## Places in a list of data -/

namespace Datum

/-- The datum is a word, a number or a quotation, whatever stands in the quotation. -/
def isTerm : Datum → Bool
  | .word _ => true
  | .number _ => true
  | .quoted _ => true
  | _ => false

/-- The datum at a path. Only quotations have places inside. -/
def at? : List Nat → List Datum → Option Datum
  | [], _ => Option.none
  | [i], items => items[i]?
  | i :: path, items =>
    match items[i]? with
    | some (.quoted inner) => at? path inner
    | _ => Option.none

variable {d e : Datum} {i : Nat} {path : List Nat} {items : List Datum}

theorem at?_inside {inner : List Datum} (h : items[i]? = some (.quoted inner)) (hpath : path ≠ []) :
    at? (i :: path) items = at? path inner := by
  cases path with
  | nil => exact absurd rfl hpath
  | cons j path => simp only [at?, h]

example : at? [1, 0] [.none, .quoted [.number 7, .none]] = some (.number 7) := rfl

theorem at?_later (i : Nat) (path : List Nat) (d : Datum) (items : List Datum) :
    at? ((i + 1) :: path) (d :: items) = at? (i :: path) items := by
  cases path with
  | nil => simp only [at?, List.getElem?_cons_succ]
  | cons j path => simp only [at?, List.getElem?_cons_succ]

/-- What stands at a path is a member of the list, or stands in a quotation that is one. -/
theorem at?_cases (h : at? (i :: path) items = some e) :
    (path = [] ∧ items[i]? = some e) ∨
      ∃ inner, items[i]? = some (.quoted inner) ∧ at? path inner = some e := by
  cases path with
  | nil => exact Or.inl ⟨rfl, h⟩
  | cons j path =>
    simp only [at?] at h
    split at h
    case h_1 inner hinner => exact Or.inr ⟨inner, hinner, h⟩
    case h_2 => cases h

end Datum

/-! ## Strangers -/

theorem Term.getElem?_data {ts : List Term} {i : Nat} {d : Datum} (h : (Term.data ts)[i]? = some d) :
    ∃ t : Term, t.datum = d := by
  induction ts generalizing i with
  | nil => cases h
  | cons t ts ih =>
    cases i with
    | zero => exact ⟨t, Option.some.inj h⟩
    | succ i => exact ih h

theorem Term.isTerm_datum (t : Term) : t.datum.isTerm = true := by
  cases t <;> rfl

/-- In a list of terms there are only terms, at any depth. -/
theorem Term.isTerm_of_at? {path : List Nat} {ts : List Term} {e : Datum}
    (h : Datum.at? path (Term.data ts) = some e) : e.isTerm = true := by
  induction path generalizing ts with
  | nil => cases h
  | cons i path ih =>
    rcases Datum.at?_cases h with ⟨-, hmem⟩ | ⟨inner, hmem, hinner⟩
    · obtain ⟨t, rfl⟩ := Term.getElem?_data hmem
      exact t.isTerm_datum
    · obtain ⟨t, ht⟩ := Term.getElem?_data hmem
      cases t with
      | word name => cases ht
      | number value => cases ht
      | quoted body =>
        cases ht
        exact ih hinner

namespace Datum

variable {d e : Datum} {i : Nat} {path : List Nat} {items : List Datum}

/-- The datum at the path is no term, and no other one that is no term stands before it. -/
structure IsFirstStranger (d : Datum) (path : List Nat) (items : List Datum) : Prop where
  at_path : at? path items = some d
  stranger : d.isTerm = false
  first : ∀ other e, at? other items = some e → e.isTerm = false → ¬ List.Lex (· < ·) other path

/-- A stranger in front is the first one. -/
theorem isFirstStranger_head (h : d.isTerm = false) (items : List Datum) :
    d.IsFirstStranger [0] (d :: items) := by
  refine ⟨rfl, h, ?_⟩
  intro other e hother _ hlex
  cases other with
  | nil => cases hother
  | cons j other => simp [List.cons_lex_cons_iff] at hlex

/-- The first stranger of a quotation in front is the first one. -/
theorem IsFirstStranger.quoted {inner : List Datum} (h : d.IsFirstStranger path inner)
    (items : List Datum) : d.IsFirstStranger (0 :: path) (.quoted inner :: items) := by
  have hpath : path ≠ [] := by
    rintro rfl
    cases h.at_path
  refine ⟨?_, h.stranger, ?_⟩
  · rw [at?_inside rfl hpath]
    exact h.at_path
  · intro other e hother he hlex
    cases other with
    | nil => cases hother
    | cons j other =>
      obtain ⟨rfl, hinside⟩ : j = 0 ∧ List.Lex (· < ·) other path := by
        simpa [List.cons_lex_cons_iff] using hlex
      rcases at?_cases hother with ⟨rfl, hmem⟩ | ⟨inner', hinner, hother⟩
      · cases hmem
        cases he
      · cases hinner
        exact h.first other e hother he hinside

/-- A term can be put in front. -/
theorem IsFirstStranger.cons (h : d.IsFirstStranger (i :: path) items) (t : Term) :
    d.IsFirstStranger ((i + 1) :: path) (t.datum :: items) := by
  refine ⟨?_, h.stranger, ?_⟩
  · rw [at?_later]
    exact h.at_path
  · intro other e hother he hlex
    cases other with
    | nil => cases hother
    | cons j other =>
      cases j with
      | zero =>
        -- a place inside the term, where everything is a term
        have hdata : at? (0 :: other) (Term.data [t]) = some e := by
          rw [← hother]
          cases other <;> rfl
        rw [Term.isTerm_of_at? hdata] at he
        cases he
      | succ j =>
        rw [at?_later] at hother
        refine h.first (j :: other) e hother he ?_
        simpa [List.cons_lex_cons_iff] using hlex

/-- There is only one first stranger. -/
theorem IsFirstStranger.unique {path' : List Nat} (h : d.IsFirstStranger path items)
    (h' : e.IsFirstStranger path' items) : d = e := by
  have hpath : path = path' :=
    Std.Trichotomous.trichotomous path path' (h'.first path d h.at_path h.stranger)
      (h.first path' e h'.at_path h'.stranger)
  subst hpath
  exact Option.some.inj (h.at_path.symm.trans h'.at_path)

end Datum

/-! ## Compilation -/

theorem compileTerm_of_stranger {d : Datum} (h : d.isTerm = false) :
    compileTerm d = .error (Fault.naming d (.unknownTerm d)) := by
  cases d
  case word name => cases h
  case number value => cases h
  case quoted items => cases h
  all_goals rfl

theorem compile_cons_of_error {d : Datum} {fault : Fault} (h : compileTerm d = .error fault)
    (items : List Datum) : compile (d :: items) = .error fault := by
  rw [compile, h]
  rfl

theorem compile_cons_of_ok {d : Datum} {t : Term} (h : compileTerm d = .ok t)
    (items : List Datum) : compile (d :: items) = (compile items).map (t :: ·) := by
  rw [compile, h]
  rfl

mutual

/-- A datum is a term and compiles to it, or compilation ends with its first stranger, which is also
the first one if other data follow. -/
theorem compileTerm_cases (d : Datum) :
    (∃ t : Term, compileTerm d = .ok t ∧ d = t.datum) ∨
      ∃ path e, (∀ items, Datum.IsFirstStranger e path (d :: items)) ∧
        compileTerm d = .error (Fault.naming e (.unknownTerm e)) := by
  cases hd : d.isTerm with
  | false =>
    exact Or.inr ⟨[0], d, Datum.isFirstStranger_head hd, compileTerm_of_stranger hd⟩
  | true =>
    cases d
    case word name => exact Or.inl ⟨.word name, rfl, rfl⟩
    case number value => exact Or.inl ⟨.number value, rfl, rfl⟩
    case quoted inner =>
      rcases compile_cases inner with ⟨ts, hts, rfl⟩ | ⟨path, e, hfirst, herror⟩
      · refine Or.inl ⟨.quoted ts, ?_, rfl⟩
        rw [compileTerm, hts]
        rfl
      · refine Or.inr ⟨0 :: path, e, hfirst.quoted, ?_⟩
        rw [compileTerm, herror]
        rfl
    all_goals cases hd

/-- The same, for lists of data. -/
theorem compile_cases (items : List Datum) :
    (∃ ts, compile items = .ok ts ∧ items = Term.data ts) ∨
      ∃ path d, Datum.IsFirstStranger d path items ∧
        compile items = .error (Fault.naming d (.unknownTerm d)) := by
  cases items with
  | nil => exact Or.inl ⟨[], rfl, rfl⟩
  | cons d items =>
    rcases compileTerm_cases d with ⟨t, ht, rfl⟩ | ⟨path, e, hfirst, herror⟩
    · rcases compile_cases items with ⟨ts, hts, rfl⟩ | ⟨path, e, hfirst, herror⟩
      · refine Or.inl ⟨t :: ts, ?_, rfl⟩
        rw [compile_cons_of_ok ht, hts]
        rfl
      · cases path with
        | nil => cases hfirst.at_path
        | cons i path =>
          refine Or.inr ⟨(i + 1) :: path, e, hfirst.cons t, ?_⟩
          rw [compile_cons_of_ok ht, herror]
          rfl
    · exact Or.inr ⟨path, e, hfirst items, compile_cons_of_error herror items⟩

end

theorem compile_eq_ok_iff {items : List Datum} {ts : List Term} :
    compile items = .ok ts ↔ items = Term.data ts := by
  constructor
  · intro h
    rcases compile_cases items with ⟨us, hus, hdata⟩ | ⟨path, d, -, herror⟩
    · cases h.symm.trans hus
      exact hdata
    · cases h.symm.trans herror
  · rintro rfl
    exact compile_data ts

theorem compile_eq_error_iff {items : List Datum} {fault : Fault} :
    compile items = .error fault ↔
      ∃ path d, Datum.IsFirstStranger d path items ∧ fault = Fault.naming d (.unknownTerm d) := by
  rcases compile_cases items with ⟨ts, hts, rfl⟩ | ⟨path, d, hfirst, herror⟩
  · constructor
    · intro h
      cases h.symm.trans hts
    · rintro ⟨path, d, hfirst, -⟩
      have hterm := Term.isTerm_of_at? hfirst.at_path
      rw [hfirst.stranger] at hterm
      cases hterm
  · rw [herror]
    constructor
    · intro h
      exact ⟨path, d, hfirst, (Except.error.inj h).symm⟩
    · rintro ⟨path', e, hfirst', rfl⟩
      rw [hfirst.unique hfirst']

namespace Fault

/-- A stranger is named, unless there is an integer in it that is too long to be written. -/
theorem eq_naming_iff {d : Datum} {fault : Fault} :
    fault = naming d (.unknownTerm d) ↔
      ((∀ n ∈ d.integers, Decimal.Writable n) ∧ fault = .unknownTerm d) ∨
        (∃ n ∈ d.integers, ¬ Decimal.Writable n) ∧ fault = .tooLong := by
  by_cases hd : ∀ n ∈ d.integers, Decimal.Writable n
  · rw [naming, if_pos (d.isSome_label?_iff.mpr hd)]
    constructor
    · intro h
      exact Or.inl ⟨hd, h⟩
    · rintro (⟨-, h⟩ | ⟨⟨n, hn, hlong⟩, -⟩)
      · exact h
      · exact absurd (hd n hn) hlong
  · rw [naming, if_neg fun hlabel => hd (d.isSome_label?_iff.mp hlabel)]
    constructor
    · intro h
      push Not at hd
      exact Or.inr ⟨hd, h⟩
    · rintro (⟨hall, -⟩ | ⟨-, h⟩)
      · exact absurd hall hd
      · exact h

/-- The message that names a stranger shows it. -/
theorem exists_message_eq {d : Datum} (h : ∀ n ∈ d.integers, Decimal.Writable n) :
    ∃ label, d.label? = some label ∧ (unknownTerm d).message = "Unknown term: " ++ label := by
  obtain ⟨label, hlabel⟩ := Option.isSome_iff_exists.mp (d.isSome_label?_iff.mpr h)
  refine ⟨label, hlabel, ?_⟩
  show "Unknown term: " ++ d.label = "Unknown term: " ++ label
  rw [Datum.label, hlabel, Option.getD_some]

end Fault

/-- If there are strangers, then there is a first one. -/
theorem exists_firstStranger_iff {items : List Datum} :
    (∃ path d, Datum.IsFirstStranger d path items) ↔
      ∃ path d, Datum.at? path items = some d ∧ d.isTerm = false := by
  constructor
  · rintro ⟨path, d, hfirst⟩
    exact ⟨path, d, hfirst.at_path, hfirst.stranger⟩
  · rintro ⟨path, d, hd, hstranger⟩
    rcases compile_cases items with ⟨ts, -, rfl⟩ | ⟨path', e, hfirst, -⟩
    · rw [Term.isTerm_of_at? hd] at hstranger
      cases hstranger
    · exact ⟨path', e, hfirst⟩

/-! ## Runs never reject -/

/-- The fault is one of a run and not of compilation. -/
def Fault.IsOfRun : Fault → Prop
  | .unknownTerm _ => False
  | _ => True

/-- Only faults with the property may end a computation. -/
def Conduct.failing (F : Fault → Prop) : Conduct := { Conduct.any with fails := F }

/-- Whatever the computation is answered, also to error signals, a fault that ends it has the
property. -/
def Computation.FailsWith {α : Type} (F : Fault → Prop) (c : Computation α) : Prop :=
  c.Keeps (.failing F) fun _ => True

/-- The words of the host reject nothing, unless a program that they run does. -/
def Machine.RejectsNothing (m : Machine) : Prop :=
  ∀ name call, (∀ d, (call d).FailsWith Fault.IsOfRun) →
    (m.native name call).FailsWith Fault.IsOfRun

theorem composes_failsWith : Composes fun _ c => c.FailsWith Fault.IsOfRun := by
  refine composes_keeps (fun _ _ => trivial) (fun _ _ _ => trivial) ?_
  simp [Conduct.failing, Fault.IsOfRun]

theorem Fault.IsOfStep.isOfRun {fault : Fault} (h : fault.IsOfStep) : fault.IsOfRun := by
  cases fault with
  | unknownTerm d => exact h
  | _ => trivial

/-- The steps of the handlers reject nothing. -/
theorem allowsSteps_failing : (Conduct.failing Fault.IsOfRun).AllowsSteps where
  signals _ := trivial
  awaits := trivial
  resumed _ _ _ := trivial
  fails _ h := h.isOfRun
  logs _ := trivial
  writes _ := trivial

namespace Machine

variable {m : Machine}

/-- What has been compiled is evaluated without a fault of compilation. -/
theorem evaluateData_failsWith (hm : m.RejectsNothing) {items : List Datum} {terms : List Term}
    (hterms : compile items = .ok terms) (s : State) :
    (m.evaluateData items s).FailsWith Fault.IsOfRun := by
  have hrun := composes_failsWith.run hm m.depth (.terms terms)
  have hstate : (runState s (m.start (.terms terms))).FailsWith Fault.IsOfRun := by
    refine hrun.handle_of_steps (.refl _ _) (fun _ _ _ => trivial) (fun t request => ?_) s
    exact (stateStep_keeps (fun _ => trivial) (fun _ _ _ => trivial) (fun _ h => h.isOfRun) t
      request).weaken
  have hcaught : (catchErrors (runState s (m.start (.terms terms)))).FailsWith Fault.IsOfRun :=
    (hstate.catchErrors (.refl _ _) fun _ => trivial).weaken
  rw [evaluateData, hterms]
  exact ⟨trivial, hcaught⟩

/-- The words that deal in lines reject nothing. -/
theorem standard_rejectsNothing : standard.RejectsNothing := by
  intro name call _
  refine lineWords_keeps trivial (fun _ _ => trivial) (fun _ => trivial) ?_ name call
  simp [Conduct.failing, Fault.IsOfRun]

/-- Compilation rejects everything that is no term, and rejects it before anything else happens.

* Data are rejected exactly if something that is no term stands among them, at any depth of their
  quotations. The fault is that the first one is no term, and its message shows it. But if there is an
  integer in it that is too long to be written, then the fault is this, and the message does not
  show what was rejected.
* An evaluation of rejected data is nothing but that fault. It asks no request, whatever the terms
  before the stranger would have done.
* Data that are not rejected are terms, and no run rejects anything later: neither an evaluation of
  them against a script or on the console, nor the run of any program, such as that of a closure,
  under any handlers and with any answers from outside. The words of the host are taken to reject
  nothing of their own accord. -/
theorem compilation_rejects_first_stranger (items : List Datum) :
    ((∃ fault, compile items = .error fault) ↔
      ∃ path d, Datum.at? path items = some d ∧ d.isTerm = false) ∧
    (∀ fault, compile items = .error fault ↔
      ∃ path d, Datum.IsFirstStranger d path items ∧
        (((∀ n ∈ d.integers, Decimal.Writable n) ∧ fault = .unknownTerm d ∧
            ∃ label, d.label? = some label ∧ fault.message = "Unknown term: " ++ label) ∨
          (∃ n ∈ d.integers, ¬ Decimal.Writable n) ∧ fault = .tooLong)) ∧
    (∀ fault, compile items = .error fault → ∀ (m : Machine) (s : State),
      m.evaluateData items s =
        .note (.log (.evaluating items.length s.stack.length)) (.fail fault)) ∧
    ∀ terms, compile items = .ok terms → items = Term.data terms ∧
      ∀ m : Machine, m.RejectsNothing → ∀ d,
        (∀ s script, (m.simulateData script items s).result ≠ .error (.unknownTerm d)) ∧
        (∀ s input, ((live (m.evaluateData items s)).onConsole input).1.result ≠
          .error (.unknownTerm d)) ∧
        ∀ program depth handlers answers,
          ((Scenario.nest handlers (Scenario.silently (m.run depth program))).answered
            answers).result ≠ .error (.unknownTerm d) := by
  refine ⟨?_, fun fault => ?_, ?_, ?_⟩
  · rw [← exists_firstStranger_iff]
    simp only [compile_eq_error_iff]
    constructor
    · rintro ⟨fault, path, d, hfirst, -⟩
      exact ⟨path, d, hfirst⟩
    · rintro ⟨path, d, hfirst⟩
      exact ⟨_, path, d, hfirst, rfl⟩
  · rw [compile_eq_error_iff]
    refine exists_congr fun path => exists_congr fun d => and_congr_right fun _ => ?_
    rw [Fault.eq_naming_iff]
    refine or_congr_left (and_congr_right fun hwritable => ?_)
    constructor
    · rintro rfl
      exact ⟨rfl, Fault.exists_message_eq hwritable⟩
    · exact fun h => h.1
  · intro fault hfault m s
    rw [evaluateData, hfault]
  · intro terms hterms
    refine ⟨compile_eq_ok_iff.mp hterms, fun m hm d => ⟨?_, ?_, ?_⟩⟩
    · intro s script hresult
      have hscripted : (scripted script (m.evaluateData items s)).FailsWith Fault.IsOfRun :=
        (evaluateData_failsWith hm hterms s).handle_of_steps (.refl _ _) (fun _ _ _ => trivial)
          (scriptStep_keeps (fun _ h => h.isOfRun) fun _ => trivial) script
      rcases hscripted.run_error hresult with hrun | ⟨request, -, hrequest⟩
      · exact hrun
      · cases hrequest
    · intro s input hresult
      have hlive : (live (m.evaluateData items s)).FailsWith Fault.IsOfRun :=
        ((evaluateData_failsWith hm hterms s).handle_of_steps (.refl _ _) (fun _ _ _ => trivial)
          (liveStep_keeps trivial (fun _ h => h.isOfRun) fun _ => trivial) ()).bind fun _ _ => trivial
      rcases (hlive.onConsole (fun _ => trivial) input).2 _ hresult with
        hrun | hend | ⟨request, -, -, hrequest⟩
      · exact hrun
      · cases hend
      · cases hrequest
    · intro program depth handlers answers hresult
      have hprogram : (Scenario.silently (m.run depth program)).FailsWith Fault.IsOfRun :=
        (composes_failsWith.run hm depth program).bind fun _ _ => trivial
      have hnest : (Scenario.nest handlers (Scenario.silently (m.run depth program))).FailsWith
          Fault.IsOfRun :=
        Scenario.nest_keeps hprogram (fun _ _ _ _ _ _ => trivial) allowsSteps_failing
      exact hnest.answered_error (fun _ _ _ => trivial) hresult

/-- Two of the data are no terms, and the one in the inner quotation comes first; the word in front of
it is not looked up. An integer with more digits than can be written is rejected without being
shown. Without strangers the program runs: it looks the word up, which is an error of the language,
and rejects nothing. -/
theorem compilation_rejects_first_stranger_nested :
    let strange : List Datum :=
      [.word "x", .quoted [.number 1, .quoted [.word "i", .text "y"]], .none]
    let long : List Datum := [.word "print", .int (Nat.pow 10 Decimal.digitLimit : Nat)]
    let terms : List Term := [.quoted [.word "x"], .word "i"]
    compile strange = .error (.unknownTerm (.text "y")) ∧
      (∃ path, Datum.IsFirstStranger (.text "y") path strange) ∧
      standard.evaluateData strange .initial =
        .note (.log (.evaluating 3 0)) (.fail (.unknownTerm (.text "y"))) ∧
      compile long = .error .tooLong ∧
      standard.evaluateData long .initial = .note (.log (.evaluating 2 0)) (.fail .tooLong) ∧
      (standard.simulateData [] (Term.data terms) .initial).result =
        .ok ([], .error (.undefined "x")) ∧
      ∀ d handlers answers,
        ((Scenario.nest handlers (Scenario.silently (standard.run 2 (.terms terms)))).answered
          answers).result ≠ .error (.unknownTerm d) := by
  intro strange long terms
  have hstrange : compile strange = .error (.unknownTerm (.text "y")) := rfl
  have hlong : compile long = .error .tooLong := by
    have hlabel : ¬ (Datum.int (Nat.pow 10 Decimal.digitLimit : Nat)).label?.isSome := by
      rw [Datum.isSome_label?_iff, Datum.integers, List.forall_mem_singleton, Decimal.Writable,
        Int.natAbs_natCast]
      exact Nat.lt_irrefl _
    show Except.error (Fault.naming _ _) = _
    rw [Fault.naming, if_neg hlabel]
  have hterms : compile (Term.data terms) = .ok terms := compile_data terms
  obtain ⟨-, hfirst, hevaluate, -⟩ := compilation_rejects_first_stranger strange
  obtain ⟨path, d, hd, ⟨-, hfault, -⟩ | ⟨-, hfault⟩⟩ := (hfirst _).mp hstrange
  · cases hfault
    obtain ⟨-, -, hevaluateLong, -⟩ := compilation_rejects_first_stranger long
    obtain ⟨-, -, -, hcompiled⟩ := compilation_rejects_first_stranger (Term.data terms)
    have hruns := (hcompiled terms hterms).2 standard standard_rejectsNothing
    exact ⟨hstrange, ⟨path, hd⟩, hevaluate _ hstrange standard .initial, hlong,
      hevaluateLong _ hlong standard .initial, rfl,
      fun d => (hruns d).2.2 (.terms terms) 2⟩
  · cases hfault

end Machine

end Concatenative
