import Concatenative.Proofs.Course
import Concatenative.Proofs.Rollback

/-!
# What a run has to work with

Running terms over the builtin words makes no terms and no data out of nothing. A *stock* is a choice
of terms and data that is closed under what can happen to them: integers are in it, a quotation of
the stock makes a closure of the stock, and a closure of the stock runs terms of the stock. A run
that starts with a stock stays with it at every point, in the terms that are still to be run, on the
stack and in what is held aside, and a session that is given terms of the stock only has data of the
stock on its stack.

So a property of everything that can ever be on the stack is proved by finding the right stock.
-/

namespace Concatenative

theorem Dictionary.exists_builtin {name : String} {program : Program}
    (h : Dictionary.builtins.get? name = some program) : ∃ word, program = .builtin word := by
  obtain ⟨before, after, hentries, -⟩ := List.lookup_eq_some_iff.mp h
  have hmem : (name, program) ∈ Dictionary.builtins.entries := by
    rw [hentries]
    simp
  obtain ⟨word, -, hword⟩ := List.mem_map.mp hmem
  exact ⟨word, (Prod.mk.inj hword).2.symm⟩

/-- Terms and data to work with, such that working with them leads to no others. -/
structure Stock where
  HasTerm : Term → Prop
  HasDatum : Datum → Prop
  /-- Every integer can be computed. -/
  int : ∀ n, HasDatum (.int n)
  /-- A quotation makes a closure. -/
  closure : ∀ body, HasTerm (.quoted body) → HasDatum (.closure (.terms body) body)
  /-- A closure runs terms. -/
  called : ∀ program source, HasDatum (.closure program source) →
    ∃ body, program = .terms body ∧ ∀ t ∈ body, HasTerm t

namespace Stock

open Course

variable (stock : Stock)

/-- The program is a builtin word or terms of the stock. -/
def HasProgram : Program → Prop
  | .builtin _ => True
  | .terms body => ∀ t ∈ body, stock.HasTerm t
  | .native _ => False

/-- What a builtin word does can be done with the stock. It signals no error about a name. -/
def HasEffect : StackEffect → Prop
  | .leave last => ∀ d ∈ last, stock.HasDatum d
  | .print _ last => ∀ d ∈ last, stock.HasDatum d
  | .call program below kept =>
    stock.HasProgram program ∧ (∀ d ∈ below, stock.HasDatum d) ∧ ∀ d ∈ kept, stock.HasDatum d
  | .fail e => ∀ name, e ≠ .undefined name
  | .tooLong => True

def HasTask : Task → Prop
  | .terms _ ts => ∀ t ∈ ts, stock.HasTerm t
  | .call _ program => stock.HasProgram program
  | .restore value => stock.HasDatum value

structure HasPoint (p : Point) : Prop where
  tasks : ∀ task ∈ p.tasks, stock.HasTask task
  stack : ∀ d ∈ p.stack, stock.HasDatum d

/-- The turn leads to points of the stock only. An error about a name is about a word of the stock,
and no word of the host has its turn. -/
def HasTurn : Turn → Prop
  | .finish => True
  | .move next => stock.HasPoint next
  | .print _ next => stock.HasPoint next
  | .fail e => ∀ name, e = .undefined name →
    Dictionary.builtins.get? name = none ∧ stock.HasTerm (.word name)
  | .stop _ => True
  | .host _ _ _ => False

variable {stock}

/-- Whatever is on the stack or held aside at a point of the stock is of the stock. -/
theorem HasPoint.datum {p : Point} (h : stock.HasPoint p) {d : Datum}
    (hd : d ∈ p.stack ++ p.held) : stock.HasDatum d := by
  rcases List.mem_append.mp hd with hstack | hheld
  · exact h.stack d hstack
  · obtain ⟨task, htask, hmem⟩ := List.mem_flatMap.mp hheld
    cases task with
    | restore value =>
      obtain rfl : d = value := List.mem_singleton.mp hmem
      exact h.tasks _ htask
    | terms depth ts => cases hmem
    | call depth program => cases hmem

/-! ## Turns -/

/-- A builtin word works with what is on the stack. -/
theorem hasEffect {stack : List Datum} (h : ∀ d ∈ stack, stock.HasDatum d) (word : Builtin) :
    stock.HasEffect (word.effect stack) := by
  have hpop : ∀ name, Signal.poppingEmptyStack ≠ .undefined name := by
    intro name heq
    cases heq
  have htype : ∀ name, Signal.typeMismatch ≠ .undefined name := by
    intro name heq
    cases heq
  have hprogram : ∀ {program source}, stock.HasDatum (.closure program source) →
      stock.HasProgram program := by
    intro program source hclosure
    obtain ⟨body, rfl, hbody⟩ := stock.called program source hclosure
    exact hbody
  cases stack with
  | nil => cases word <;> exact hpop
  | cons d below =>
    obtain ⟨hd, hbelow⟩ := List.forall_mem_cons.mp h
    cases word with
    | pop => exact hbelow
    | dup => exact List.forall_mem_cons.mpr ⟨hd, h⟩
    | i =>
      cases d
      case closure program source => exact ⟨hprogram hd, hbelow, List.forall_mem_nil _⟩
      all_goals exact htype
    | dip =>
      cases below with
      | nil => exact hpop
      | cons e below =>
        obtain ⟨he, hrest⟩ := List.forall_mem_cons.mp hbelow
        cases e
        case closure program source =>
          exact ⟨hprogram he, hrest, List.forall_mem_singleton.mpr hd⟩
        all_goals exact htype
    | add =>
      cases d
      case int a =>
        cases below with
        | nil => exact hpop
        | cons e below =>
          obtain ⟨-, hrest⟩ := List.forall_mem_cons.mp hbelow
          cases e
          case int b => exact List.forall_mem_cons.mpr ⟨stock.int (a + b), hrest⟩
          all_goals exact htype
      all_goals exact htype
    | print =>
      simp only [Builtin.effect]
      cases d.display? with
      | none => trivial
      | some line => exact hbelow

theorem hasTurn_act {tasks : List Task} (htasks : ∀ task ∈ tasks, stock.HasTask task)
    {effect : StackEffect} (h : stock.HasEffect effect) (depth : Nat) :
    stock.HasTurn (act depth tasks effect) := by
  cases effect with
  | leave last => exact ⟨htasks, h⟩
  | print line last => exact ⟨htasks, h⟩
  | call program below kept =>
    obtain ⟨hprogram, hbelow, hkept⟩ := h
    refine ⟨List.forall_mem_cons.mpr ⟨hprogram, ?_⟩, hbelow⟩
    intro task htask
    rcases List.mem_append.mp htask with hrestore | hother
    · obtain ⟨value, hvalue, rfl⟩ := List.mem_map.mp hrestore
      exact hkept value (List.mem_reverse.mp hvalue)
    · exact htasks task hother
  | fail e => exact fun name heq => absurd heq (h name)
  | tooLong => trivial

/-- One turn stays with the stock. -/
theorem HasPoint.turn {p : Point} (h : stock.HasPoint p) :
    stock.HasTurn (turn .builtins p) := by
  obtain ⟨tasks, stack⟩ := p
  obtain ⟨hall, hstack⟩ := h
  cases tasks with
  | nil => trivial
  | cons task tasks =>
    obtain ⟨htask, htasks⟩ := List.forall_mem_cons.mp hall
    cases task with
    | restore value => exact ⟨htasks, List.forall_mem_cons.mpr ⟨htask, hstack⟩⟩
    | terms depth ts =>
      cases ts with
      | nil => exact ⟨htasks, hstack⟩
      | cons t ts =>
        obtain ⟨ht, hts⟩ := List.forall_mem_cons.mp htask
        have hrest : ∀ task ∈ Task.terms depth ts :: tasks, stock.HasTask task :=
          List.forall_mem_cons.mpr ⟨hts, htasks⟩
        cases t with
        | number value => exact ⟨hrest, List.forall_mem_cons.mpr ⟨stock.int value, hstack⟩⟩
        | quoted body => exact ⟨hrest, List.forall_mem_cons.mpr ⟨stock.closure body ht, hstack⟩⟩
        | word name =>
          rw [Course.turn]
          cases hname : Dictionary.builtins.get? name with
          | none =>
            intro other heq
            cases heq
            exact ⟨hname, ht⟩
          | some program =>
            -- only builtin words are in the dictionary, so no terms come from there
            obtain ⟨word, rfl⟩ := Dictionary.exists_builtin hname
            exact hasTurn_act hrest (hasEffect hstack word) depth
    | call depth program =>
      cases depth with
      | zero => trivial
      | succ depth =>
        cases program with
        | builtin word => exact hasTurn_act htasks (hasEffect hstack word) depth
        | terms body => exact ⟨List.forall_mem_cons.mpr ⟨htask, htasks⟩, hstack⟩
        | native name => exact absurd htask id

/-! ## Runs -/

theorem HasPoint.next {p q : Point} (h : stock.HasPoint p) (hnext : Next .builtins p q) :
    stock.HasPoint q := by
  have hturn := h.turn
  rcases hnext.turn_eq with hmove | ⟨line, hprint⟩
  · rw [hmove] at hturn
    exact hturn
  · rw [hprint] at hturn
    exact hturn

/-- A run stays with the stock that it starts with. -/
theorem HasPoint.reaches {p q : Point} (h : stock.HasPoint p) (hreach : Reaches .builtins p q) :
    stock.HasPoint q := by
  induction hreach with
  | refl => exact h
  | tail _ hnext ih => exact ih.next hnext

theorem hasPoint_start {terms : List Term} {stack : List Datum}
    (hterms : ∀ t ∈ terms, stock.HasTerm t) (hstack : ∀ d ∈ stack, stock.HasDatum d)
    (depth : Nat) : stock.HasPoint (.start depth terms stack) :=
  ⟨List.forall_mem_singleton.mpr hterms, hstack⟩

theorem HasPoint.turn_ne_host {p : Point} (h : stock.HasPoint p) (name : String) (depth : Nat)
    (tasks : List Task) : Course.turn .builtins p ≠ .host name depth tasks := by
  intro hhost
  have hturn := h.turn
  rw [hhost] at hturn
  exact hturn

/-- A success with the stock ends with the stack of the last point. -/
theorem HasPoint.ends_ok {p : Point} (h : stock.HasPoint p) {last : State}
    (hend : Ends .builtins p (.ok (last, ()))) : last = ⟨p.stack, .builtins⟩ := by
  cases hend with
  | finish _ => rfl
  | host hhost => exact absurd hhost (h.turn_ne_host _ _ _)

/-- An error about a name is about a word of the stock that the dictionary does not have. -/
theorem HasPoint.ends_undefined {p : Point} (h : stock.HasPoint p) {name : String}
    (hend : Ends .builtins p (.error (.undefined name))) :
    Dictionary.builtins.get? name = none ∧ stock.HasTerm (.word name) := by
  cases hend with
  | fail hfail =>
    have hturn := h.turn
    rw [hfail] at hturn
    exact hturn name rfl
  | host hhost => exact absurd hhost (h.turn_ne_host _ _ _)

/-! ## Sessions -/

/-- The words of the state are the builtin ones, and its data are of the stock. -/
structure HasState (stock : Stock) (s : State) : Prop where
  words : s.words = .builtins
  stack : ∀ d ∈ s.stack, stock.HasDatum d

/-- The source text, if it can be read, is made of terms of the stock. -/
def HasSource (stock : Stock) (source : String) : Prop :=
  ∀ terms, Grammar.parse source = .ok terms → ∀ t ∈ terms, stock.HasTerm t

theorem HasState.step {depth : Nat} {session : Session} (h : stock.HasState session.state)
    {source : String} (hsource : stock.HasSource source) :
    stock.HasState (session.step (.upTo depth) source).2.state := by
  -- a step either commits the last state of a run or keeps the state that it found
  by_cases hlast : ∃ last, session.Evaluates (.upTo depth) source last
  · obtain ⟨last, hevaluates⟩ := hlast
    rw [(Session.step_of_evaluates hevaluates).2]
    obtain ⟨terms, hterms, hresult⟩ := hevaluates
    obtain ⟨q, hreach, hend⟩ := Machine.exists_end_of_onConsole hresult
    rw [h.words] at hreach hend
    have hpoint := (hasPoint_start (hsource terms hterms) h.stack depth).reaches hreach
    rw [hpoint.ends_ok hend]
    exact ⟨rfl, hpoint.stack⟩
  · rw [(Session.step_of_not_evaluates (not_exists.mp hlast)).2]
    exact h

theorem HasState.after {depth : Nat} {session : Session} (h : stock.HasState session.state)
    {sources : List String} (hsources : ∀ source ∈ sources, stock.HasSource source) :
    stock.HasState (session.after (.upTo depth) sources).state := by
  induction sources generalizing session with
  | nil => exact h
  | cons source sources ih =>
    obtain ⟨hsource, hothers⟩ := List.forall_mem_cons.mp hsources
    exact ih (h.step hsource) hothers

/-- A session that starts from the initial state has only data of a stock that has its sources. -/
theorem hasState_session {sources : List String}
    (hsources : ∀ source ∈ sources, stock.HasSource source) (depth : Nat) (input : List String) :
    stock.HasState (Session.after (.upTo depth) ⟨.initial, input⟩ sources).state := by
  have hinitial : stock.HasState .initial := ⟨rfl, List.forall_mem_nil _⟩
  exact hinitial.after hsources

end Stock

end Concatenative
