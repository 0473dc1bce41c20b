import Concatenative.Proofs.Conversation
import Concatenative.Proofs.Direct
import Mathlib.Logic.Relation

/-!
# The course of a run

While a program runs, part of it is still to be done: the rest of the terms on every level that was
entered, and the data that `dip` holds aside and is going to put back. These *tasks*, the next one
first, are what the nested computations of the machine amount to. Together with the stack they are a
*point* of the run, and the dictionary determines the *turn* that the run takes there: it moves to
another point, with or without a printed line, or it comes to an end.

A turn is no second way to run programs. What is left of the computation at a point, with its stack
requests answered, is equal to what the turn says (`Point.left_eq`): the computation at the next
point, or a printed line and then that computation, or its end. So whatever becomes of a run is
decided at a point that it reaches (`exists_end`). The words of the host are not followed; where one
of them has its turn, the course that is described here stops.
-/

namespace Concatenative

open Concatenative.Computation

/-! ## Builtin words under the state handler -/

namespace Computation

variable {α β : Type}

theorem runState_bind (s : State) (c : Computation α) (f : α → Computation β) :
    runState s (c.bind f) = (runState s c).bind fun last => runState last.1 (f last.2) :=
  handle_bind _ _ s c f

@[simp] theorem runState_done (s : State) (a : α) : runState s (.done a) = .done (s, a) := rfl

@[simp] theorem runState_push (s : State) (value : Datum) :
    runState s (push value) = .done (s.push value, ()) := rfl

@[simp] theorem runState_pop_nil (words : Dictionary) :
    runState ⟨[], words⟩ pop = throw .poppingEmptyStack := rfl

@[simp] theorem runState_pop_cons (value : Datum) (stack : List Datum) (words : Dictionary) :
    runState ⟨value :: stack, words⟩ pop = .done (⟨stack, words⟩, value) := rfl

theorem runState_lookup (s : State) (name : String) :
    runState s (lookup name) =
      match s.words.get? name with
      | none => throw (.undefined name)
      | some program => .done (s, .program program 0) :=
  runState_perform s rfl

@[simp] theorem bind_throw (e : Signal) (f : α → Computation β) : (throw e).bind f = throw e := rfl

end Computation

/-- What a builtin word does under the state handler is what it makes of the stack. -/
theorem runState_code (exec : Program → Computation Unit) (stack : List Datum) (words : Dictionary)
    (word : Builtin) :
    runState ⟨stack, words⟩ (word.code exec) =
      match word.effect stack with
      | .leave last => .done (⟨last, words⟩, ())
      | .print line last => (print (.text line)).bind fun _ => .done (⟨last, words⟩, ())
      | .call program below kept =>
        (runState ⟨below, words⟩ (exec program)).bind fun last =>
          .done (⟨kept ++ last.1.stack, last.1.words⟩, ())
      | .fail e => throw e
      | .tooLong => .fail .tooLong := by
  cases stack with
  | nil => cases word <;> simp [Builtin.code, Builtin.effect, runState_bind]
  | cons d below =>
    cases word with
    | pop => simp [Builtin.code, Builtin.effect, runState_bind]
    | i =>
      simp only [Builtin.code, bind_eq, runState_bind, runState_pop_cons, bind_done]
      cases d
      case closure program source => exact (bind_done_right _).symm
      all_goals rfl
    | dup => simp [Builtin.code, Builtin.effect, runState_bind, State.push]
    | dip =>
      simp only [Builtin.code, bind_eq, runState_bind, runState_pop_cons, bind_done]
      cases below with
      | nil => rfl
      | cons e below => cases e <;> rfl
    | add =>
      simp only [Builtin.code, bind_eq, runState_bind, runState_pop_cons, bind_done]
      cases d
      case int a =>
        cases below with
        | nil => rfl
        | cons e below => cases e <;> rfl
      all_goals rfl
    | print =>
      simp only [Builtin.code, Builtin.effect, bind_eq, runState_bind, runState_pop_cons, bind_done]
      cases d.display? with
      | none => rfl
      | some line => rfl

namespace Course

/-! ## Points -/

/-- Something that is still to be done. -/
inductive Task where
  /-- Terms, whose programs may go down to the depth. -/
  | terms (depth : Nat) (ts : List Term)
  /-- A program that may go down to the depth. -/
  | call (depth : Nat) (program : Program)
  /-- A datum that was held aside, and is to be put back on the stack. -/
  | restore (value : Datum)

/-- A point of a run. -/
structure Point where
  /-- What is still to be done, the next task first. -/
  tasks : List Task
  stack : List Datum

/-- The computation that a task is. -/
def Task.code (m : Machine) : Task → Computation Unit
  | .terms depth ts => termsCode (runInline (m.run depth)) ts
  | .call depth program => m.run depth program
  | .restore value => push value

def code (m : Machine) : List Task → Computation Unit
  | [] => .done ()
  | task :: tasks => (task.code m).bind fun _ => code m tasks

def Task.held : Task → List Datum
  | .restore value => [value]
  | _ => []

namespace Point

/-- The point from which terms are run. -/
def start (depth : Nat) (terms : List Term) (stack : List Datum) : Point :=
  ⟨[.call depth (.terms terms)], stack⟩

/-- The data that are held aside at a point. -/
def held (p : Point) : List Datum := p.tasks.flatMap Task.held

/-- The computation that is left at a point, with its stack requests answered. -/
def left (m : Machine) (words : Dictionary) (p : Point) : Computation (State × Unit) :=
  runState ⟨p.stack, words⟩ (code m p.tasks)

theorem left_start (m : Machine) (words : Dictionary) (depth : Nat) (terms : List Term)
    (stack : List Datum) :
    (start depth terms stack).left m words = runState ⟨stack, words⟩ (m.run depth (.terms terms)) :=
  congrArg (runState ⟨stack, words⟩) (bind_done_right _)

end Point

/-! ## Turns -/

/-- What happens at a point: everything is done, the run goes on at another point, maybe with a printed
line, or it ends in an error or a fault. -/
inductive Turn where
  | finish
  | move (next : Point)
  | print (line : String) (next : Point)
  | fail (e : Signal)
  | stop (fault : Fault)
  /-- A word of the host is run, with programs down to the depth, and then the other tasks. -/
  | host (name : String) (depth : Nat) (tasks : List Task)

/-- The turn of a builtin word with this effect. A closure that it runs may go down to the depth. -/
def act (depth : Nat) (tasks : List Task) : StackEffect → Turn
  | .leave last => .move ⟨tasks, last⟩
  | .print line last => .print line ⟨tasks, last⟩
  | .call program below kept =>
    -- put back one by one, the datum that was on top has to come last
    .move ⟨.call depth program :: (kept.reverse.map .restore ++ tasks), below⟩
  | .fail e => .fail e
  | .tooLong => .stop .tooLong

/-- The turn at a point. A builtin word among terms is no level of its own. -/
def turn (words : Dictionary) : Point → Turn
  | ⟨[], _⟩ => .finish
  | ⟨.restore value :: tasks, stack⟩ => .move ⟨tasks, value :: stack⟩
  | ⟨.terms _ [] :: tasks, stack⟩ => .move ⟨tasks, stack⟩
  | ⟨.terms depth (.number value :: ts) :: tasks, stack⟩ =>
    .move ⟨.terms depth ts :: tasks, .int value :: stack⟩
  | ⟨.terms depth (.quoted body :: ts) :: tasks, stack⟩ =>
    .move ⟨.terms depth ts :: tasks, .closure (.terms body) body :: stack⟩
  | ⟨.terms depth (.word name :: ts) :: tasks, stack⟩ =>
    match words.get? name with
    | none => .fail (.undefined name)
    | some (.builtin word) => act depth (.terms depth ts :: tasks) (word.effect stack)
    | some program => .move ⟨.call depth program :: .terms depth ts :: tasks, stack⟩
  | ⟨.call 0 _ :: _, _⟩ => .stop .tooDeep
  | ⟨.call (depth + 1) (.builtin word) :: tasks, stack⟩ => act depth tasks (word.effect stack)
  | ⟨.call (depth + 1) (.terms body) :: tasks, stack⟩ => .move ⟨.terms depth body :: tasks, stack⟩
  | ⟨.call (depth + 1) (.native name) :: tasks, _⟩ => .host name depth tasks

/-- What is left to be done from a turn on, with the stack requests answered. -/
def Turn.left (m : Machine) (words : Dictionary) (stack : List Datum) :
    Turn → Computation (State × Unit)
  | .finish => .done (⟨stack, words⟩, ())
  | .move next => next.left m words
  | .print line next => (Computation.print (.text line)).bind fun _ => next.left m words
  | .fail e => throw e
  | .stop fault => .fail fault
  | .host name depth tasks =>
    (runState ⟨stack, words⟩ (m.native name (callDatum (m.run depth)))).bind fun last =>
      runState last.1 (code m tasks)

section

variable (m : Machine) (words : Dictionary)

/-- Putting back what was held aside. -/
theorem runState_restore (kept stack : List Datum) (tasks : List Task) :
    runState ⟨stack, words⟩ (code m (kept.reverse.map .restore ++ tasks)) =
      runState ⟨kept ++ stack, words⟩ (code m tasks) := by
  induction kept generalizing tasks with
  | nil => rfl
  | cons value kept ih =>
    simp only [List.reverse_cons, List.map_append, List.map_cons, List.map_nil, List.append_assoc,
      List.singleton_append]
    rw [ih]
    rfl

/-- The turn of a builtin word is what the word and the tasks after it come to. -/
theorem left_act (depth : Nat) (word : Builtin) (tasks : List Task) (stack : List Datum) :
    runState ⟨stack, words⟩ ((word.code (m.run depth)).bind fun _ => code m tasks) =
      (act depth tasks (word.effect stack)).left m words stack := by
  rw [runState_bind, runState_code]
  cases word.effect stack with
  | call program below kept =>
    show _ = runState ⟨below, words⟩ ((m.run depth program).bind fun _ => code m _)
    rw [runState_bind, Computation.bind_assoc]
    congr 1
    funext last
    exact (runState_restore m last.1.words kept last.1.stack tasks).symm
  | leave last => rfl
  | print line last => rfl
  | fail e => rfl
  | tooLong => rfl

/-- What is left of the computation at a point is what the turn there says. -/
theorem Point.left_eq (p : Point) : p.left m words = (turn words p).left m words p.stack := by
  obtain ⟨tasks, stack⟩ := p
  cases tasks with
  | nil => rfl
  | cons task tasks =>
    cases task with
    | restore value => rfl
    | terms depth ts =>
      cases ts with
      | nil => rfl
      | cons t ts =>
        cases t with
        | number value => rfl
        | quoted body => rfl
        | word name =>
          show runState ⟨stack, words⟩
            ((((lookup name).bind (callDatum (runInline (m.run depth)))).bind fun _ =>
              termsCode (runInline (m.run depth)) ts).bind fun _ => code m tasks) = _
          -- the lookup is answered at once, so what is left is the program that it gives
          rw [Computation.bind_assoc, Computation.bind_assoc, runState_bind, runState_lookup, turn]
          dsimp only
          cases words.get? name with
          | none => rfl
          | some program =>
            cases program with
            | builtin word => exact left_act m words depth word (.terms depth ts :: tasks) stack
            | terms body => rfl
            | native name => rfl
    | call depth program =>
      cases depth with
      | zero => rfl
      | succ depth =>
        cases program with
        | builtin word => exact left_act m words depth word tasks stack
        | terms body => rfl
        | native name => exact runState_bind _ _ _

end

/-- A builtin word has its turn at the point: it is the next of some terms, or it is called. -/
inductive Point.Runs (words : Dictionary) (p : Point) (word : Builtin) : Prop where
  | named {depth : Nat} {name : String} {ts : List Term} {tasks : List Task}
      (htasks : p.tasks = .terms depth (.word name :: ts) :: tasks)
      (hname : words.get? name = some (.builtin word)) : Runs words p word
  | called {depth : Nat} {tasks : List Task}
      (htasks : p.tasks = .call (depth + 1) (.builtin word) :: tasks) : Runs words p word

theorem Point.Runs.exists_turn_eq {words : Dictionary} {p : Point} {word : Builtin}
    (h : p.Runs words word) : ∃ depth tasks, turn words p = act depth tasks (word.effect p.stack) := by
  obtain ⟨tasks, stack⟩ := p
  cases h with
  | @named depth name ts rest htasks hname =>
    cases htasks
    refine ⟨depth, .terms depth ts :: rest, ?_⟩
    rw [turn, hname]
  | @called depth rest htasks =>
    cases htasks
    exact ⟨depth, rest, rfl⟩

/-- What can happen at a point, apart from a builtin word that has its turn. -/
theorem turn_cases (words : Dictionary) (p : Point) :
    turn words p = .finish ∨ (∃ next, turn words p = .move next) ∨
      (∃ name, turn words p = .fail (.undefined name)) ∨
      (turn words p = .stop .tooDeep ∧ ∃ program tasks, p.tasks = .call 0 program :: tasks) ∨
      (∃ name depth tasks, turn words p = .host name depth tasks) ∨ ∃ word, p.Runs words word := by
  obtain ⟨tasks, stack⟩ := p
  cases tasks with
  | nil => exact Or.inl rfl
  | cons task tasks =>
    cases task with
    | restore value => exact Or.inr (Or.inl ⟨_, rfl⟩)
    | terms depth ts =>
      cases ts with
      | nil => exact Or.inr (Or.inl ⟨_, rfl⟩)
      | cons t ts =>
        cases t with
        | number value => exact Or.inr (Or.inl ⟨_, rfl⟩)
        | quoted body => exact Or.inr (Or.inl ⟨_, rfl⟩)
        | word name =>
          rw [turn]
          cases hname : words.get? name with
          | none => exact Or.inr (Or.inr (Or.inl ⟨name, rfl⟩))
          | some program =>
            cases program with
            | builtin word =>
              exact Or.inr (Or.inr (Or.inr (Or.inr (Or.inr ⟨word, .named rfl hname⟩))))
            | terms body => exact Or.inr (Or.inl ⟨_, rfl⟩)
            | native name => exact Or.inr (Or.inl ⟨_, rfl⟩)
    | call depth program =>
      cases depth with
      | zero => exact Or.inr (Or.inr (Or.inr (Or.inl ⟨rfl, program, tasks, rfl⟩)))
      | succ depth =>
        cases program with
        | builtin word => exact Or.inr (Or.inr (Or.inr (Or.inr (Or.inr ⟨word, .called rfl⟩))))
        | terms body => exact Or.inr (Or.inl ⟨_, rfl⟩)
        | native name => exact Or.inr (Or.inr (Or.inr (Or.inr (Or.inl ⟨name, depth, tasks, rfl⟩))))

/-! ## From point to point -/

def Turn.next? : Turn → Option Point
  | .move next => some next
  | .print _ next => some next
  | _ => none

/-- The run goes on from the first point at the second. -/
def Next (words : Dictionary) (p q : Point) : Prop := (turn words p).next? = some q

/-- A run that is at the first point comes to the second, whatever is done with the lines it prints as
long as they are accepted. -/
def Reaches (words : Dictionary) : Point → Point → Prop := Relation.ReflTransGen (Next words)

variable {words : Dictionary}

theorem next_of_turn_move {p q : Point} (h : turn words p = .move q) : Next words p q := by
  rw [Next, h]
  rfl

theorem next_of_turn_print {p q : Point} {line : String} (h : turn words p = .print line q) :
    Next words p q := by
  rw [Next, h]
  rfl

theorem Next.turn_eq {p q : Point} (h : Next words p q) :
    turn words p = .move q ∨ ∃ line, turn words p = .print line q := by
  rw [Next] at h
  cases hturn : turn words p with
  | move next =>
    rw [hturn] at h
    rw [Option.some.inj h]
    exact Or.inl rfl
  | print line next =>
    rw [hturn] at h
    rw [Option.some.inj h]
    exact Or.inr ⟨line, rfl⟩
  | finish => rw [hturn] at h; cases h
  | fail e => rw [hturn] at h; cases h
  | stop fault => rw [hturn] at h; cases h
  | host name depth tasks => rw [hturn] at h; cases h

/-- There is one way to go on, so of two points where the run ends it reaches one. -/
theorem Reaches.eq_of_last {p q r : Point} (hq : Reaches words p q) (hr : Reaches words p r)
    (hlastq : (turn words q).next? = none) (hlastr : (turn words r).next? = none) : q = r := by
  have hunique : Relator.RightUnique (Next words) := by
    intro a b c hb hc
    exact Option.some.inj (hb.symm.trans hc)
  have hstays : ∀ {a b : Point}, (turn words a).next? = none → Reaches words a b → a = b := by
    intro a b hlast hreach
    rcases Relation.ReflTransGen.cases_head hreach with heq | ⟨c, hnext, -⟩
    · exact heq
    · rw [Next, hlast] at hnext
      cases hnext
  rcases Relation.ReflTransGen.total_of_right_unique hunique hq hr with hqr | hrq
  · exact hstays hlastq hqr
  · exact (hstays hlastr hrq).symm

/-! ## Every course ends

A program that is called may go less deep than the terms that call it, and the terms get fewer. No
measure of the tasks is at hand, since a closure that is run can be of any size; but if what follows
a task halts, so does what follows together with the task. -/

/-- Whatever the stack, the tasks are done with after finitely many turns. -/
def Halts (words : Dictionary) (tasks : List Task) : Prop :=
  ∀ stack, Acc (fun q p => Next words p q) ⟨tasks, stack⟩

section

variable {tasks : List Task}

theorem halts_nil : Halts words [] := by
  intro stack
  refine Acc.intro _ fun q hnext => ?_
  cases hnext

theorem Halts.restore (h : Halts words tasks) (value : Datum) :
    Halts words (.restore value :: tasks) := by
  intro stack
  refine Acc.intro _ fun q hnext => ?_
  obtain rfl := Option.some.inj hnext
  exact h (value :: stack)

theorem Halts.restores (h : Halts words tasks) (kept : List Datum) :
    Halts words (kept.map .restore ++ tasks) := by
  induction kept with
  | nil => exact h
  | cons value kept ih => exact ih.restore value

/-- A builtin word halts, if the tasks after it do and the program that it may call. -/
theorem Halts.act {depth : Nat} (h : Halts words tasks)
    (hcall : ∀ program {tasks}, Halts words tasks → Halts words (.call depth program :: tasks))
    {p : Point} (effect : StackEffect) (hp : turn words p = act depth tasks effect) :
    Acc (fun q p => Next words p q) p := by
  refine Acc.intro _ fun q hnext => ?_
  rw [Next, hp] at hnext
  cases effect with
  | leave last =>
    obtain rfl := Option.some.inj hnext
    exact h last
  | print line last =>
    obtain rfl := Option.some.inj hnext
    exact h last
  | call program below kept =>
    obtain rfl := Option.some.inj hnext
    exact hcall program (h.restores kept.reverse) below
  | fail e => cases hnext
  | tooLong => cases hnext

theorem Halts.terms {depth : Nat} (h : Halts words tasks)
    (hcall : ∀ program {tasks}, Halts words tasks → Halts words (.call depth program :: tasks))
    (ts : List Term) : Halts words (.terms depth ts :: tasks) := by
  induction ts with
  | nil =>
    intro stack
    refine Acc.intro _ fun q hnext => ?_
    obtain rfl := Option.some.inj hnext
    exact h stack
  | cons t ts ih =>
    intro stack
    cases t with
    | number value =>
      refine Acc.intro _ fun q hnext => ?_
      obtain rfl := Option.some.inj hnext
      exact ih (.int value :: stack)
    | quoted body =>
      refine Acc.intro _ fun q hnext => ?_
      obtain rfl := Option.some.inj hnext
      exact ih (.closure (.terms body) body :: stack)
    | word name =>
      cases hname : words.get? name with
      | none =>
        refine Acc.intro _ fun q hnext => ?_
        rw [Next, turn, hname] at hnext
        cases hnext
      | some program =>
        cases program with
        | builtin word => exact ih.act hcall (word.effect stack) (by rw [turn, hname])
        | terms body =>
          refine Acc.intro _ fun q hnext => ?_
          rw [Next, turn, hname] at hnext
          obtain rfl := Option.some.inj hnext
          exact hcall (.terms body) ih stack
        | native native =>
          refine Acc.intro _ fun q hnext => ?_
          rw [Next, turn, hname] at hnext
          obtain rfl := Option.some.inj hnext
          exact hcall (.native native) ih stack

theorem Halts.call (h : Halts words tasks) (depth : Nat) (program : Program) :
    Halts words (.call depth program :: tasks) := by
  -- on the depth, for all tasks at once: what the program calls comes before some more of them
  induction depth generalizing program tasks with
  | zero =>
    intro stack
    refine Acc.intro _ fun q hnext => ?_
    cases hnext
  | succ depth ih =>
    have hcall : ∀ program {tasks}, Halts words tasks → Halts words (.call depth program :: tasks) :=
      fun program _ htasks => ih htasks program
    intro stack
    cases program with
    | builtin word => exact h.act hcall (word.effect stack) rfl
    | terms body =>
      refine Acc.intro _ fun q hnext => ?_
      obtain rfl := Option.some.inj hnext
      exact h.terms hcall body stack
    | native name =>
      refine Acc.intro _ fun q hnext => ?_
      cases hnext

end

theorem halts (tasks : List Task) : Halts words tasks := by
  induction tasks with
  | nil => exact halts_nil
  | cons task tasks ih =>
    cases task with
    | terms depth ts => exact ih.terms (fun program _ htasks => htasks.call depth program) ts
    | call depth program => exact ih.call depth program
    | restore value => exact ih.restore value

/-! ## How a run ends -/

/-- The run ends at the point with an outcome. If a word of the host has its turn there, nothing is
known of the outcome. -/
inductive Ends (words : Dictionary) (p : Point) : Outcome (State × Unit) → Prop where
  | finish (h : turn words p = .finish) : Ends words p (.ok (⟨p.stack, words⟩, ()))
  | fail {e : Signal} (h : turn words p = .fail e) : Ends words p (.error e)
  | host {name : String} {depth : Nat} {tasks : List Task} {outcome : Outcome (State × Unit)}
      (h : turn words p = .host name depth tasks) : Ends words p outcome

theorem Ends.next?_eq_none {p : Point} {outcome : Outcome (State × Unit)}
    (h : Ends words p outcome) : (turn words p).next? = none := by
  cases h with
  | finish h => rw [h]; rfl
  | fail h => rw [h]; rfl
  | host h => rw [h]; rfl

/-- Every conversation that leads from a point to an outcome has reached a point where the run ends
with this outcome. -/
theorem exists_end {m : Machine} {p : Point} {T : Script} {outcome : Outcome (State × Unit)}
    (h : (catchErrors (p.left m words)).Converses T outcome) :
    ∃ q, Reaches words p q ∧ Ends words q outcome := by
  have hacc : Acc (fun q p => Next words p q) p := halts p.tasks p.stack
  -- the induction is on the course; the conversation gets shorter only where a line is printed
  induction hacc generalizing T with
  | intro p _ ih =>
    rw [Point.left_eq] at h
    cases hturn : turn words p with
    | finish =>
      rw [hturn] at h
      cases h
      exact ⟨p, .refl, .finish hturn⟩
    | move q =>
      rw [hturn] at h
      have hnext : Next words p q := next_of_turn_move hturn
      obtain ⟨r, hreach, hend⟩ := ih q hnext h
      exact ⟨r, .head hnext hreach, hend⟩
    | print line q =>
      rw [hturn] at h
      have hnext : Next words p q := next_of_turn_print hturn
      cases h with
      | print h =>
        obtain ⟨r, hreach, hend⟩ := ih q hnext h
        exact ⟨r, .head hnext hreach, hend⟩
    | fail e =>
      rw [hturn] at h
      cases h with
      | note h =>
        cases h
        exact ⟨p, .refl, .fail hturn⟩
    | stop fault =>
      rw [hturn] at h
      cases h
    | host name depth tasks => exact ⟨p, .refl, .host hturn⟩

end Course

/-! ## Evaluations -/

namespace Machine

theorem upTo_isRegular (depth : Nat) : (upTo depth).IsRegular := standard_isRegular

section

open Course

variable {depth : Nat} {terms : List Term} {s : State} {outcome : Outcome (State × Unit)}

theorem exists_end_of_evaluate {T : Script}
    (h : ((upTo depth).evaluate terms s).Converses T outcome) :
    ∃ q, Reaches s.words (.start depth terms s.stack) q ∧ Ends s.words q outcome := by
  cases h with
  | note h =>
    refine exists_end (m := upTo depth) (T := T) ?_
    rw [Point.left_start]
    exact h

/-- A run against a script that comes to an outcome has reached a point where it ends with it. -/
theorem exists_end_of_simulate {script rest : Script}
    (h : ((upTo depth).simulate script terms s).result = .ok (rest, outcome)) :
    ∃ q, Reaches s.words (.start depth terms s.stack) q ∧ Ends s.words q outcome := by
  obtain ⟨T, -, hT⟩ := converses_of_scripted (evaluate_asks (upTo_isRegular depth) terms s) h
  exact exists_end_of_evaluate hT

theorem exists_end_of_onConsole {input : List String}
    (h : ((live ((upTo depth).evaluate terms s)).onConsole input).1.result = .ok outcome) :
    ∃ q, Reaches s.words (.start depth terms s.stack) q ∧ Ends s.words q outcome :=
  exists_end_of_evaluate (converses_transcript (evaluate_asks (upTo_isRegular depth) terms s) h)

end

end Machine

end Concatenative
