import Concatenative.Proofs.Verdict

/-!
# Direct evaluation

The machine spreads an evaluation over a computation and three handlers around it. Direct evaluation
says the same without requests: it goes through the terms with a stack and a script in hand, and
passes both on. It takes one step at a time and is given a number of steps; an evaluation that has
come to its verdict keeps it when more steps are allowed, and one that goes on for ever has none.

Whatever the machine comes to within its depth is the verdict of direct evaluation, and whatever
direct evaluation comes to is reached by the machine at some depth and at every greater one.
-/

namespace Concatenative

/-- A verdict about stacks as one about the states that have the given dictionary. -/
def Verdict.within (words : Dictionary) (v : Verdict (List Datum)) : Verdict (State × Unit) :=
  v.map fun (rest, outcome) => (rest, outcome.map fun stack => (⟨stack, words⟩, ()))

namespace Direct

/-- The run succeeds with a stack, and some records are left. -/
def success (stack : List Datum) (script : Script) : Verdict (List Datum) := .ok (script, .ok stack)

/-- An error of the language ends the run, and some records are left. -/
def failure (e : Signal) (script : Script) : Verdict (List Datum) := .ok (script, .error e)

/-- A line is printed, and nothing else happens. -/
def printed (line : String) (stack : List Datum) (script : Script) : Verdict (List Datum) :=
  match Script.print line script with
  | .ok rest => success stack rest
  | .error fault => .error fault

/-- What a word of the host does: `echo` reads a line and prints it, `length` reads a line and pushes
its length, and there are no others. -/
def hosted (name : String) (stack : List Datum) (script : Script) : Verdict (List Datum) :=
  if name = "echo" then
    match Script.read script with
    | .ok (line, rest) => printed line stack rest
    | .error fault => .error fault
  else if name = "length" then
    match Script.read script with
    | .ok (line, rest) => success (.int line.length :: stack) rest
    | .error fault => .error fault
  else .error .notCallable

/-- Goes on from a success, if the run before it has come to an end. -/
def andThen (r : Option (Verdict (List Datum)))
    (next : List Datum → Script → Option (Verdict (List Datum))) :
    Option (Verdict (List Datum)) :=
  match r with
  | some (.ok (rest, .ok last)) => next last rest
  | r => r

/-- What a program comes to in a number of steps on a stack and under a script, given the
dictionary; nothing if the steps are too few. -/
def run (words : Dictionary) :
    Nat → Program → List Datum → Script → Option (Verdict (List Datum))
  | 0, _, _, _ => none
  | _ + 1, .terms [], stack, script => some (success stack script)
  | steps + 1, .terms (.number value :: ts), stack, script =>
    run words steps (.terms ts) (.int value :: stack) script
  | steps + 1, .terms (.quoted body :: ts), stack, script =>
    run words steps (.terms ts) (.closure (.terms body) body :: stack) script
  | steps + 1, .terms (.word name :: ts), stack, script =>
    match words.get? name with
    | none => some (failure (.undefined name) script)
    | some program => andThen (run words steps program stack script) (run words steps (.terms ts))
  | steps + 1, .builtin word, stack, script =>
    match word.effect stack with
    | .leave last => some (success last script)
    | .print line last => some (printed line last script)
    | .call program below kept =>
      andThen (run words steps program below script) fun last rest =>
        some (success (kept ++ last) rest)
    | .fail e => some (failure e script)
    | .tooLong => some (.error .tooLong)
  | _ + 1, .native name, stack, script => some (hosted name stack script)

/-- Direct evaluation comes to the verdict. -/
def Gives (words : Dictionary) (program : Program) (stack : List Datum) (script : Script)
    (w : Verdict (List Datum)) : Prop :=
  ∃ steps, run words steps program stack script = some w

/-! ## More steps change no verdict -/

/-- The verdict is no success, so nothing goes on from it. -/
def Stops (w : Verdict (List Datum)) : Prop := ∀ last rest, w ≠ success last rest

theorem stops_fault (fault : Fault) : Stops (.error fault) := by
  intro last rest h
  cases h

theorem stops_failure (e : Signal) (script : Script) : Stops (failure e script) := by
  intro last rest h
  cases h

theorem andThen_of_stops {w : Verdict (List Datum)} (h : Stops w)
    (next : List Datum → Script → Option (Verdict (List Datum))) :
    andThen (some w) next = some w := by
  rcases w with fault | ⟨rest, e | last⟩
  · rfl
  · rfl
  · exact absurd rfl (h last rest)

theorem within_andThen_of_stops {w : Verdict (List Datum)} (h : Stops w) (words : Dictionary)
    (f : State × Unit → Script → Verdict (State × Unit)) :
    (w.within words).andThen f = w.within words := by
  rcases w with fault | ⟨rest, e | last⟩
  · rfl
  · rfl
  · exact absurd rfl (h last rest)

/-- Two runs in a row have come to an end after the second one, or already after the first. -/
theorem andThen_eq_some {r : Option (Verdict (List Datum))}
    {next : List Datum → Script → Option (Verdict (List Datum))} {w : Verdict (List Datum)}
    (h : andThen r next = some w) :
    (∃ last rest, r = some (success last rest) ∧ next last rest = some w) ∨
      (r = some w ∧ Stops w) := by
  rcases r with _ | fault | ⟨rest, e | last⟩
  · cases h
  · cases h
    exact Or.inr ⟨rfl, stops_fault fault⟩
  · cases h
    exact Or.inr ⟨rfl, stops_failure e rest⟩
  · exact Or.inl ⟨last, rest, rfl, h⟩

/-- What the first has come to, the second has come to. -/
def Below (r r' : Option (Verdict (List Datum))) : Prop := ∀ w, r = some w → r' = some w

theorem Below.andThen {r r' : Option (Verdict (List Datum))}
    {next next' : List Datum → Script → Option (Verdict (List Datum))} (hr : Below r r')
    (hnext : ∀ last rest, Below (next last rest) (next' last rest)) :
    Below (Direct.andThen r next) (Direct.andThen r' next') := by
  intro w h
  rcases andThen_eq_some h with ⟨last, rest, hfirst, hrest⟩ | ⟨hfirst, hstop⟩
  · rw [hr _ hfirst]
    exact hnext last rest w hrest
  · rw [hr w hfirst]
    exact andThen_of_stops hstop next'

/-- One step more changes no verdict. -/
theorem run_below_succ (words : Dictionary) (steps : Nat) (program : Program) (stack : List Datum)
    (script : Script) :
    Below (run words steps program stack script) (run words (steps + 1) program stack script) := by
  induction steps generalizing program stack script with
  | zero =>
    intro w h
    cases h
  | succ steps ih =>
    cases program with
    | terms ts =>
      cases ts with
      | nil => exact fun w h => h
      | cons t ts =>
        cases t with
        | number value => exact ih (.terms ts) (.int value :: stack) script
        | quoted body => exact ih (.terms ts) (.closure (.terms body) body :: stack) script
        | word name =>
          rw [run, run]
          cases words.get? name with
          | none => exact fun w h => h
          | some program => exact (ih program stack script).andThen (ih (.terms ts))
    | builtin word =>
      rw [run, run]
      cases word.effect stack with
      | call program below kept =>
        exact (ih program below script).andThen fun last rest w h => h
      | leave last => exact fun w h => h
      | print line last => exact fun w h => h
      | fail e => exact fun w h => h
      | tooLong => exact fun w h => h
    | native name => exact fun w h => h

theorem run_of_le {words : Dictionary} {few many : Nat} {program : Program} {stack : List Datum}
    {script : Script} {w : Verdict (List Datum)}
    (h : run words few program stack script = some w) (hle : few ≤ many) :
    run words many program stack script = some w := by
  induction hle with
  | refl => exact h
  | step _ ih => exact run_below_succ words _ program stack script w ih

/-- Direct evaluation comes to one verdict at most. -/
theorem Gives.unique {words : Dictionary} {program : Program} {stack : List Datum}
    {script : Script} {v w : Verdict (List Datum)} (hv : Gives words program stack script v)
    (hw : Gives words program stack script w) : v = w := by
  obtain ⟨few, hfew⟩ := hv
  obtain ⟨many, hmany⟩ := hw
  have hv' := run_of_le hfew (Nat.le_max_left few many)
  have hw' := run_of_le hmany (Nat.le_max_right few many)
  exact Option.some.inj (hv'.symm.trans hw')

/-! ## What words come to -/

section

variable {words : Dictionary} {program : Program} {stack : List Datum} {script : Script}
  {name : String} {ts : List Term} {v w : Verdict (List Datum)}

/-- A word whose program succeeds comes to what the terms after it come to. -/
theorem Gives.word {last : List Datum} {rest : Script} (hname : words.get? name = some program)
    (hfirst : Gives words program stack script (success last rest))
    (hrest : Gives words (.terms ts) last rest w) :
    Gives words (.terms (.word name :: ts)) stack script w := by
  obtain ⟨few, hfew⟩ := hfirst
  obtain ⟨many, hmany⟩ := hrest
  refine ⟨max few many + 1, ?_⟩
  rw [run, hname]
  dsimp only
  rw [run_of_le hfew (Nat.le_max_left few many)]
  exact run_of_le hmany (Nat.le_max_right few many)

theorem Gives.word_of_stops (hname : words.get? name = some program)
    (hfirst : Gives words program stack script w) (hstop : Stops w) :
    Gives words (.terms (.word name :: ts)) stack script w := by
  obtain ⟨steps, hsteps⟩ := hfirst
  refine ⟨steps + 1, ?_⟩
  rw [run, hname]
  dsimp only
  rw [hsteps, andThen_of_stops hstop]

/-- A builtin word that runs a program succeeds with it, and what was kept is put back on top. -/
theorem Gives.call {word : Builtin} {below kept last : List Datum} {rest : Script}
    (heffect : word.effect stack = .call program below kept)
    (hcall : Gives words program below script (success last rest)) :
    Gives words (.builtin word) stack script (success (kept ++ last) rest) := by
  obtain ⟨steps, hsteps⟩ := hcall
  refine ⟨steps + 1, ?_⟩
  rw [run, heffect]
  dsimp only
  rw [hsteps]
  rfl

theorem Gives.call_of_stops {word : Builtin} {below kept : List Datum}
    (heffect : word.effect stack = .call program below kept)
    (hcall : Gives words program below script w) (hstop : Stops w) :
    Gives words (.builtin word) stack script w := by
  obtain ⟨steps, hsteps⟩ := hcall
  refine ⟨steps + 1, ?_⟩
  rw [run, heffect]
  dsimp only
  rw [hsteps, andThen_of_stops hstop]

end

/-! ## The words that run no program -/

open Concatenative.Computation

variable {words : Dictionary}

theorem within_printed (line : String) (stack : List Datum) (script : Script) :
    (printed line stack script).within words =
      (Script.print line script).map fun rest => (rest, .ok (⟨stack, words⟩, ())) := by
  unfold printed
  cases Script.print line script with
  | error fault => rfl
  | ok rest => rfl

/-- The words of the host do on the machine what direct evaluation says. -/
theorem verdict_native (depth : Nat) (name : String) (stack : List Datum) (script : Script) :
    verdict ⟨stack, words⟩ script (Machine.standard.run (depth + 1) (.native name)) =
      (hosted name stack script).within words := by
  show verdict _ _ (lineWords name (callDatum (Machine.standard.run depth))) = _
  unfold lineWords hosted
  by_cases hecho : name = "echo"
  · rw [if_pos hecho, if_pos hecho, verdict_echo]
    rcases Script.read script with fault | ⟨line, rest⟩
    · rfl
    · exact (within_printed line stack rest).symm
  · rw [if_neg hecho, if_neg hecho]
    by_cases hlength : name = "length"
    · rw [if_pos hlength, if_pos hlength, verdict_lineLength]
      rcases Script.read script with fault | ⟨line, rest⟩
      · rfl
      · rfl
    · rw [if_neg hlength, if_neg hlength]
      rfl

/-! ## The machine comes to nothing else -/

/-- The verdict of the machine is one that direct evaluation comes to, unless the machine went too
deep. -/
def Agrees (words : Dictionary) (program : Program) (stack : List Datum) (script : Script)
    (v : Verdict (State × Unit)) : Prop :=
  v = .error .tooDeep ∨ ∃ w, Gives words program stack script w ∧ v = w.within words

section

variable {program program' : Program} {stack stack' : List Datum} {script script' : Script}

theorem Agrees.of_step {w : Verdict (List Datum)} (h : run words 1 program stack script = some w) :
    Agrees words program stack script (w.within words) := Or.inr ⟨w, ⟨1, h⟩, rfl⟩

/-- What agrees with a program agrees with one that comes to the same. -/
theorem Agrees.of_gives {v : Verdict (State × Unit)} (h : Agrees words program stack script v)
    (hgives : ∀ w, Gives words program stack script w → Gives words program' stack' script' w) :
    Agrees words program' stack' script' v := by
  rcases h with hdeep | ⟨w, hw, hv⟩
  · exact Or.inl hdeep
  · exact Or.inr ⟨w, hgives w hw, hv⟩

/-- A program that starts with another one agrees if it does where the other one stops and where the
other one goes on. -/
theorem Agrees.andThen {v : Verdict (State × Unit)}
    {f : State × Unit → Script → Verdict (State × Unit)}
    (h : Agrees words program stack script v)
    (hstop : ∀ w, Gives words program stack script w → Stops w →
      Gives words program' stack' script' w)
    (hnext : ∀ last rest, Gives words program stack script (success last rest) →
      Agrees words program' stack' script' (f (⟨last, words⟩, ()) rest)) :
    Agrees words program' stack' script' (v.andThen f) := by
  rcases h with rfl | ⟨w, hw, rfl⟩
  · exact Or.inl rfl
  · rcases w with fault | ⟨rest, e | last⟩
    · exact Or.inr ⟨_, hstop _ hw (stops_fault fault), rfl⟩
    · exact Or.inr ⟨_, hstop _ hw (stops_failure e rest), rfl⟩
    · exact hnext last rest hw

end

/-- The ways of running a program agree on every stack and under every script. -/
def Simulates (words : Dictionary) (exec : Program → Computation Unit) : Prop :=
  ∀ program stack script,
    Agrees words program stack script (verdict ⟨stack, words⟩ script (exec program))

section

variable {exec : Program → Computation Unit}

theorem Simulates.code (h : Simulates words exec) (word : Builtin) (stack : List Datum)
    (script : Script) :
    Agrees words (.builtin word) stack script
      (verdict ⟨stack, words⟩ script (word.code exec)) := by
  rw [verdict_code]
  cases heffect : word.effect stack with
  | leave last => exact Agrees.of_step (w := success last script) (by rw [run, heffect])
  | print line last =>
    dsimp only
    rw [← within_printed]
    exact Agrees.of_step (by rw [run, heffect])
  | call program below kept =>
    refine (h program below script).andThen (fun w hw hstop => ?_) fun last rest hw => ?_
    · exact hw.call_of_stops heffect hstop
    · exact Or.inr ⟨success (kept ++ last) rest, hw.call heffect, rfl⟩
  | fail e => exact Agrees.of_step (w := failure e script) (by rw [run, heffect])
  | tooLong => exact Agrees.of_step (w := .error .tooLong) (by rw [run, heffect])

theorem Simulates.inline (h : Simulates words exec) : Simulates words (runInline exec) := by
  intro program stack script
  cases program with
  | builtin word => exact h.code word stack script
  | terms body => exact h (.terms body) stack script
  | native name => exact h (.native name) stack script

theorem Simulates.terms (h : Simulates words exec) (ts : List Term) (stack : List Datum)
    (script : Script) :
    Agrees words (.terms ts) stack script
      (verdict ⟨stack, words⟩ script (termsCode exec ts)) := by
  induction ts generalizing stack script with
  | nil => exact Agrees.of_step (w := success stack script) rfl
  | cons t ts ih =>
    cases t with
    | number value =>
      rw [verdict_terms_number]
      refine (ih (.int value :: stack) script).of_gives fun w hw => ?_
      obtain ⟨steps, hsteps⟩ := hw
      exact ⟨steps + 1, hsteps⟩
    | quoted body =>
      rw [verdict_terms_quoted]
      refine (ih (.closure (.terms body) body :: stack) script).of_gives fun w hw => ?_
      obtain ⟨steps, hsteps⟩ := hw
      exact ⟨steps + 1, hsteps⟩
    | word name =>
      rw [verdict_terms_word]
      dsimp only
      cases hname : words.get? name with
      | none => exact Agrees.of_step (w := failure (.undefined name) script) (by rw [run, hname])
      | some program =>
        refine (h program stack script).andThen (fun w hw hstop => ?_) fun last rest hfirst => ?_
        · exact hw.word_of_stops hname hstop
        · exact (ih last rest).of_gives fun w hrest => hfirst.word hname hrest

end

/-- At every depth the machine comes to the verdict of direct evaluation, or goes too deep. -/
theorem standard_simulates (depth : Nat) : Simulates words (Machine.standard.run depth) := by
  induction depth with
  | zero => exact fun _ _ _ => Or.inl rfl
  | succ depth ih =>
    intro program stack script
    cases program with
    | builtin word => exact ih.code word stack script
    | terms body => exact ih.inline.terms body stack script
    | native name =>
      rw [verdict_native]
      exact Agrees.of_step rfl

/-! ## The machine comes to everything else -/

/-- The machine comes to the verdict from some depth on. -/
def Reached (words : Dictionary) (program : Program) (stack : List Datum) (script : Script)
    (w : Verdict (List Datum)) : Prop :=
  ∃ enough, ∀ depth, enough ≤ depth →
    verdict ⟨stack, words⟩ script (Machine.standard.run depth program) = w.within words

section

variable {program : Program} {stack : List Datum} {script : Script} {w : Verdict (List Datum)}

/-- It is enough to look at depths that are not zero. -/
theorem Reached.of_succ (enough : Nat)
    (h : ∀ depth, enough ≤ depth →
      verdict ⟨stack, words⟩ script (Machine.standard.run (depth + 1) program) = w.within words) :
    Reached words program stack script w := by
  refine ⟨enough + 1, fun depth hdepth => ?_⟩
  obtain ⟨below, rfl⟩ : ∃ below, depth = below + 1 := ⟨depth - 1, by omega⟩
  exact h below (by omega)

/-- What a program comes to by itself it also comes to among terms, where a builtin word is no level
of its own. -/
theorem Reached.inline (h : Reached words program stack script w) :
    ∃ enough, ∀ depth, enough ≤ depth →
      verdict ⟨stack, words⟩ script (runInline (Machine.standard.run depth) program) =
        w.within words := by
  obtain ⟨enough, henough⟩ := h
  refine ⟨enough, fun depth hdepth => ?_⟩
  cases program with
  | builtin word => exact henough (depth + 1) (by omega)
  | terms body => exact henough depth hdepth
  | native name => exact henough depth hdepth

/-- A word comes to what its program comes to, with the terms after it if that is a success. -/
theorem Reached.word {name : String} {ts : List Term} {v : Verdict (List Datum)}
    (hname : words.get? name = some program) (hv : Reached words program stack script v)
    (hw : ∃ enough, ∀ depth, enough ≤ depth →
      ((v.within words).andThen fun last rest =>
        verdict last.1 rest (Machine.standard.run depth (.terms ts))) = w.within words) :
    Reached words (.terms (.word name :: ts)) stack script w := by
  obtain ⟨first, hfirst⟩ := hv.inline
  obtain ⟨second, hsecond⟩ := hw
  refine .of_succ (max first second) fun depth hdepth => ?_
  rw [← hsecond (depth + 1) (by omega), ← hfirst depth (by omega), Machine.run,
    verdict_terms_word]
  dsimp only
  rw [hname]
  rfl

/-- A builtin word that runs a program comes to what the program comes to, with what was kept put
back on top if that is a success. -/
theorem Reached.call {word : Builtin} {inner : Program} {below kept : List Datum}
    {v : Verdict (List Datum)} (heffect : word.effect stack = .call inner below kept)
    (hv : Reached words inner below script v)
    (hw : ((v.within words).andThen fun last rest =>
      .ok (rest, .ok (⟨kept ++ last.1.stack, last.1.words⟩, ()))) = w.within words) :
    Reached words (.builtin word) stack script w := by
  obtain ⟨enough, henough⟩ := hv
  refine .of_succ enough fun depth hdepth => ?_
  rw [← hw, ← henough depth hdepth, Machine.run, verdict_code, heffect]

theorem Reached.of_level
    (h : ∀ depth, verdict ⟨stack, words⟩ script (Machine.standard.run (depth + 1) program) =
      w.within words) : Reached words program stack script w :=
  .of_succ 0 fun depth _ => h depth

/-- Whatever direct evaluation comes to is what the machine comes to, if it may go deep enough. -/
theorem reached_of_run {steps : Nat} (h : run words steps program stack script = some w) :
    Reached words program stack script w := by
  induction steps generalizing program stack script w with
  | zero => cases h
  | succ steps ih =>
    cases program with
    | terms ts =>
      cases ts with
      | nil =>
        cases h
        exact .of_level fun depth => rfl
      | cons t ts =>
        cases t with
        | number value =>
          obtain ⟨enough, henough⟩ := ih h
          refine .of_succ enough fun depth hdepth => ?_
          rw [Machine.run, verdict_terms_number]
          exact henough (depth + 1) (by omega)
        | quoted body =>
          obtain ⟨enough, henough⟩ := ih h
          refine .of_succ enough fun depth hdepth => ?_
          rw [Machine.run, verdict_terms_quoted]
          exact henough (depth + 1) (by omega)
        | word name =>
          rw [run] at h
          cases hname : words.get? name with
          | none =>
            rw [hname] at h
            cases h
            refine .of_level fun depth => ?_
            rw [Machine.run, verdict_terms_word]
            dsimp only
            rw [hname]
            rfl
          | some program =>
            rw [hname] at h
            rcases andThen_eq_some h with ⟨last, rest, hfirst, hrest⟩ | ⟨hfirst, hstop⟩
            · exact .word hname (ih hfirst) (ih hrest)
            · exact .word hname (ih hfirst) ⟨0, fun _ _ => within_andThen_of_stops hstop words _⟩
    | builtin word =>
      rw [run] at h
      cases heffect : word.effect stack with
      | call inner below kept =>
        rw [heffect] at h
        rcases andThen_eq_some h with ⟨last, rest, hfirst, hrest⟩ | ⟨hfirst, hstop⟩
        · cases hrest
          exact .call heffect (ih hfirst) rfl
        · exact .call heffect (ih hfirst) (within_andThen_of_stops hstop words _)
      | leave last =>
        rw [heffect] at h
        cases h
        refine .of_level fun depth => ?_
        rw [Machine.run, verdict_code, heffect]
        rfl
      | print line last =>
        rw [heffect] at h
        cases h
        refine .of_level fun depth => ?_
        rw [Machine.run, verdict_code, heffect, within_printed]
      | fail e =>
        rw [heffect] at h
        cases h
        refine .of_level fun depth => ?_
        rw [Machine.run, verdict_code, heffect]
        rfl
      | tooLong =>
        rw [heffect] at h
        cases h
        refine .of_level fun depth => ?_
        rw [Machine.run, verdict_code, heffect]
        rfl
    | native name =>
      cases h
      exact .of_level fun depth => verdict_native depth name stack script

end

end Direct

/-! ## Running terms against a script -/

namespace Machine

/-- The standard machine with another limit on the depth. -/
def upTo (depth : Nat) : Machine := { standard with depth := depth }

theorem run_upTo (limit depth : Nat) : (upTo limit).run depth = standard.run depth := by
  induction depth with
  | zero => rfl
  | succ depth ih =>
    funext program
    cases program with
    | builtin word => simp only [run, ih]
    | terms body => simp only [run, ih]
    | native name =>
      simp only [run, ih]
      rfl

theorem simulate_upTo (depth : Nat) (script : Script) (terms : List Term) (s : State) :
    ((upTo depth).simulate script terms s).result =
      (standard.run depth (.terms terms)).verdict s script := by
  rw [simulate_result, start, run_upTo]
  rfl

/-- Running terms against a script refines direct evaluation. If the run does not go too deep, it
comes to the one verdict that direct evaluation comes to: the same last stack and unused records, the
same error and unused records, or the same fault. And if direct evaluation comes to an end, so does
the run, with the same verdict, as soon as the limit on the depth is great enough. -/
theorem simulate_refines_direct (script : Script) (terms : List Term) (s : State) :
    (∀ depth, ((upTo depth).simulate script terms s).result ≠ .error .tooDeep →
      ∃ verdict, (∀ w, Direct.Gives s.words (.terms terms) s.stack script w ↔ w = verdict) ∧
        ((upTo depth).simulate script terms s).result = verdict.within s.words) ∧
    ∀ verdict, Direct.Gives s.words (.terms terms) s.stack script verdict →
      ∃ enough, ∀ depth, enough ≤ depth →
        ((upTo depth).simulate script terms s).result = verdict.within s.words := by
  constructor
  · intro depth hdepth
    rw [simulate_upTo] at hdepth ⊢
    rcases Direct.standard_simulates depth (.terms terms) s.stack script with
      hdeep | ⟨verdict, hgives, hverdict⟩
    · exact absurd hdeep hdepth
    · refine ⟨verdict, fun w => ⟨fun hw => hw.unique hgives, ?_⟩, hverdict⟩
      rintro rfl
      exact hgives
  · intro verdict hgives
    obtain ⟨steps, hrun⟩ := hgives
    obtain ⟨enough, henough⟩ := Direct.reached_of_run hrun
    refine ⟨enough, fun depth hdepth => ?_⟩
    rw [simulate_upTo]
    exact henough depth hdepth

/-- The terms `[dup] twice print`, where `twice` is defined by `dup dip`, on a stack with one
integer: three levels are enough, and the last record is left. -/
theorem simulate_refines_direct_twice :
    let words := Dictionary.builtins.insert "twice" (.terms [.word "dup", .word "dip"])
    Direct.Gives words (.terms [.quoted [.word "dup"], .word "twice", .word "print"]) [.int 7]
      [.expect "[dup]", .send "next"] (Direct.success [.int 7, .int 7] [.send "next"]) := by
  intro words
  have hmachine : ((upTo 3).simulate [.expect "[dup]", .send "next"]
      [.quoted [.word "dup"], .word "twice", .word "print"] ⟨[.int 7], words⟩).result =
        .ok ([.send "next"], .ok (⟨[.int 7, .int 7], words⟩, ())) := by rfl
  obtain ⟨verdict, hgives, hverdict⟩ := (simulate_refines_direct _ _ _).1 3 (by
    rw [hmachine]
    intro h
    cases h)
  rw [hmachine] at hverdict
  rcases verdict with fault | ⟨rest, e | last⟩
  · cases hverdict
  · cases hverdict
  · cases hverdict
    exact (hgives _).mpr rfl

end Machine

end Concatenative
