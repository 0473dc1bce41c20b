import Concatenative.Proofs.Printing
import Concatenative.Proofs.Provenance
import Mathlib.Data.List.Chain

/-!
# Programs without `dup`

The word `dup` is the only one that makes two of one. Without it, a closure that is run is gone from
the stack, and every term of a program is run at most once, be it on the top level or inside a
closure. So a run ends, after no more executions of terms than there are terms in the program and in
the closures of the first stack, at all depths.

The measure that shows this is the number of terms at a point of the run: those that are still to be
run, those of the closures on the stack, and those of the closures that `dip` holds aside. Executing
a term makes it smaller and nothing makes it greater. A program runs inside another one only after a
word was executed for it, so a limit on the depth that is above the number of terms at the start is
never met.
-/

namespace Concatenative

/-! ## The number of terms -/

mutual

/-- The number of terms that a term is made of, at all depths and with itself. -/
def Term.size : Term → Nat
  | .word _ => 1
  | .number _ => 1
  | .quoted body => Term.count body + 1

/-- The number of terms in a list, at all depths. -/
def Term.count : List Term → Nat
  | [] => 0
  | t :: ts => t.size + Term.count ts

end

/-- The number of terms that a closure shows, at all depths. Other data show none. -/
def Datum.size : Datum → Nat
  | .closure _ source => Term.count source
  | _ => 0

def Datum.count : List Datum → Nat
  | [] => 0
  | d :: ds => d.size + Datum.count ds

/-! ## What is on the stack without `dup` -/

theorem Term.OccursIn.mono {t : Term} {ts us : List Term} (h : t.OccursIn ts)
    (hsub : ∀ u ∈ ts, u ∈ us) : t.OccursIn us := by
  cases h with
  | here hmem => exact .here (hsub t hmem)
  | inside hmem h => exact .inside (hsub _ hmem) h

/-- The stock of the terms in which `dup` does not occur. -/
def Stock.withoutDup : Stock :=
  .ofTerms (fun t => ¬ (Term.word "dup").OccursIn [t]) fun body hbody t ht hdup => by
    refine hbody (Term.occursIn_quoted_iff.mpr (Or.inr (hdup.mono ?_)))
    intro u hu
    rw [List.mem_singleton.mp hu]
    exact ht

theorem Dictionary.eq_name_of_builtins {name : String} {word : Builtin}
    (h : Dictionary.builtins.get? name = some (.builtin word)) : name = word.name := by
  obtain ⟨before, after, hentries, -⟩ := List.lookup_eq_some_iff.mp h
  have hmem : (name, Program.builtin word) ∈ Dictionary.builtins.entries := by
    rw [hentries]
    simp
  obtain ⟨other, -, hother⟩ := List.mem_map.mp hmem
  obtain ⟨hname, hword⟩ := Prod.mk.inj hother
  rw [← hname, Program.builtin.inj hword]

/-- A builtin word that has this effect on a stack with so many terms leaves no more of them, on the
stack, held aside and in the program that it calls. -/
def StackEffect.Spares (n : Nat) : StackEffect → Prop
  | .leave last => Datum.count last ≤ n
  | .print _ last => Datum.count last ≤ n
  | .call program below kept =>
    ∃ body, program = .terms body ∧ Term.count body + Datum.count below + Datum.count kept ≤ n
  | _ => True

/-- All builtin words but `dup` are sparing with terms. -/
theorem effect_spares {stack : List Datum} (hstack : ∀ d ∈ stack, Stock.withoutDup.HasDatum d)
    {word : Builtin} (hword : word ≠ .dup) :
    (word.effect stack).Spares (Datum.count stack) := by
  cases stack with
  | nil => cases word <;> trivial
  | cons d below =>
    have hbelow : Datum.count below ≤ Datum.count (d :: below) := Nat.le_add_left _ _
    cases word with
    | dup => exact absurd rfl hword
    | pop => exact hbelow
    | i =>
      cases d
      case closure program source =>
        obtain ⟨rfl, -⟩ := hstack _ List.mem_cons_self program source rfl
        exact ⟨source, rfl, Nat.le_refl _⟩
      all_goals trivial
    | dip =>
      cases below with
      | nil => trivial
      | cons e below =>
        cases e
        case closure program source =>
          obtain ⟨rfl, -⟩ :=
            hstack _ (List.mem_cons_of_mem _ List.mem_cons_self) program source rfl
          refine ⟨source, rfl, ?_⟩
          simp only [Datum.count, Datum.size]
          omega
        all_goals trivial
    | add =>
      cases d
      case int a =>
        cases below with
        | nil => trivial
        | cons e below =>
          cases e
          case int b =>
            show Datum.count (.int (a + b) :: below) ≤ _
            simp [Datum.count, Datum.size]
          all_goals trivial
      all_goals trivial
    | print =>
      simp only [Builtin.effect]
      cases d.display? with
      | none => trivial
      | some line => exact hbelow

namespace Course

/-! ## What a step can do -/

def Task.size : Task → Nat
  | .terms _ ts => Term.count ts
  | .call _ (.terms body) => Term.count body
  | .call _ _ => 0
  | .restore value => value.size

def Task.count : List Task → Nat
  | [] => 0
  | task :: tasks => task.size + Task.count tasks

theorem Task.count_restores (kept : List Datum) (tasks : List Task) :
    Task.count (kept.reverse.map .restore ++ tasks) = Datum.count kept + Task.count tasks := by
  induction kept generalizing tasks with
  | nil => simp [Datum.count]
  | cons value kept ih =>
    simp only [List.reverse_cons, List.map_append, List.map_cons, List.map_nil, List.append_assoc,
      List.singleton_append]
    rw [ih]
    simp only [Task.count, Task.size, Datum.count]
    omega

/-- The task calls no builtin word and no word of the host. -/
def Task.CallsTerms : Task → Prop
  | .call _ program => ∃ body, program = .terms body
  | _ => True

namespace Point

/-- The number of terms at a point: in the tasks, in the closures on the stack and in those that are
held aside. -/
def size (p : Point) : Nat := Task.count p.tasks + Datum.count p.stack

/-- A term is executed at the point. -/
def executes : Point → Bool
  | ⟨.terms _ (_ :: _) :: _, _⟩ => true
  | _ => false

/-- There is no `dup` at the point, and all that is called are terms. -/
structure Frugal (p : Point) : Prop where
  stock : Stock.withoutDup.HasPoint p
  calls : ∀ task ∈ p.tasks, task.CallsTerms

end Point

/-- What a step without `dup` can do. A word that is executed leaves no more terms on the stack than
it has found there, or it runs some of them in a closure. -/
inductive SparingStep : Point → Point → Prop where
  | restore {value : Datum} {tasks : List Task} {stack : List Datum} :
      SparingStep ⟨.restore value :: tasks, stack⟩ ⟨tasks, value :: stack⟩
  | close {depth : Nat} {tasks : List Task} {stack : List Datum} :
      SparingStep ⟨.terms depth [] :: tasks, stack⟩ ⟨tasks, stack⟩
  | enter {depth : Nat} {body : List Term} {tasks : List Task} {stack : List Datum} :
      SparingStep ⟨.call (depth + 1) (.terms body) :: tasks, stack⟩
        ⟨.terms depth body :: tasks, stack⟩
  | execute {depth : Nat} {t : Term} {ts : List Term} {tasks : List Task}
      {stack last : List Datum} (hlast : Datum.count last < Datum.count stack + t.size) :
      SparingStep ⟨.terms depth (t :: ts) :: tasks, stack⟩ ⟨.terms depth ts :: tasks, last⟩
  | call {depth : Nat} {t : Term} {ts body : List Term} {tasks : List Task}
      {stack below kept : List Datum}
      (hcall : Term.count body + Datum.count below + Datum.count kept <
        Datum.count stack + t.size) :
      SparingStep ⟨.terms depth (t :: ts) :: tasks, stack⟩
        ⟨.call depth (.terms body) :: (kept.reverse.map .restore ++ .terms depth ts :: tasks),
          below⟩

theorem sparingStep_of_effect {effect : StackEffect} {stack : List Datum}
    (h : effect.Spares (Datum.count stack)) {depth : Nat} {name : String} {ts : List Term}
    {tasks : List Task} {q : Point}
    (hnext : (act depth (.terms depth ts :: tasks) effect).next? = some q) :
    SparingStep ⟨.terms depth (.word name :: ts) :: tasks, stack⟩ q := by
  cases effect with
  | leave last =>
    obtain rfl := Option.some.inj hnext
    exact .execute (Nat.lt_succ_of_le h)
  | print line last =>
    obtain rfl := Option.some.inj hnext
    exact .execute (Nat.lt_succ_of_le h)
  | call program below kept =>
    obtain ⟨body, rfl, hsize⟩ := h
    obtain rfl := Option.some.inj hnext
    exact .call (Nat.lt_succ_of_le hsize)
  | fail e => cases hnext
  | tooLong => cases hnext

theorem Point.Frugal.sparingStep {p q : Point} (h : p.Frugal) (hnext : Next .builtins p q) :
    SparingStep p q := by
  obtain ⟨tasks, stack⟩ := p
  obtain ⟨⟨hall, hstack⟩, hcalls⟩ := h
  cases tasks with
  | nil => cases hnext
  | cons task tasks =>
    cases task with
    | restore value =>
      obtain rfl := Option.some.inj hnext
      exact .restore
    | terms depth ts =>
      cases ts with
      | nil =>
        obtain rfl := Option.some.inj hnext
        exact .close
      | cons t ts =>
        cases t with
        | number value =>
          obtain rfl := Option.some.inj hnext
          refine .execute ?_
          simp only [Datum.count, Datum.size, Term.size]
          omega
        | quoted body =>
          obtain rfl := Option.some.inj hnext
          refine .execute ?_
          simp only [Datum.count, Datum.size, Term.size]
          omega
        | word name =>
          have hname : ¬ (Term.word "dup").OccursIn [.word name] :=
            hall _ List.mem_cons_self _ List.mem_cons_self
          rw [Next, turn] at hnext
          cases hget : Dictionary.builtins.get? name with
          | none =>
            rw [hget] at hnext
            cases hnext
          | some program =>
            obtain ⟨word, rfl⟩ := Dictionary.exists_builtin hget
            have hword : word ≠ .dup := by
              rintro rfl
              rw [Dictionary.eq_name_of_builtins hget] at hname
              exact hname (.here List.mem_cons_self)
            rw [hget] at hnext
            exact sparingStep_of_effect (effect_spares hstack hword) hnext
    | call depth program =>
      obtain ⟨body, rfl⟩ := hcalls _ List.mem_cons_self
      cases depth with
      | zero => cases hnext
      | succ depth =>
        obtain rfl := Option.some.inj hnext
        exact .enter

/-! ## What a step keeps -/

variable {p q : Point}

theorem Point.Frugal.next (h : p.Frugal) (hnext : Next .builtins p q) : q.Frugal := by
  refine ⟨h.stock.next hnext, ?_⟩
  have hcalls := h.calls
  cases h.sparingStep hnext with
  | restore => exact (List.forall_mem_cons.mp hcalls).2
  | close => exact (List.forall_mem_cons.mp hcalls).2
  | enter => exact List.forall_mem_cons.mpr ⟨trivial, (List.forall_mem_cons.mp hcalls).2⟩
  | execute _ => exact List.forall_mem_cons.mpr ⟨trivial, (List.forall_mem_cons.mp hcalls).2⟩
  | @call _ _ _ body _ _ _ kept _ =>
    refine List.forall_mem_cons.mpr ⟨⟨body, rfl⟩, List.forall_mem_append.mpr ⟨?_, ?_⟩⟩
    · intro task htask
      obtain ⟨value, -, rfl⟩ := List.mem_map.mp htask
      trivial
    · exact List.forall_mem_cons.mpr ⟨trivial, (List.forall_mem_cons.mp hcalls).2⟩

/-- Executing a term leaves fewer terms, and no step leaves more. -/
theorem SparingStep.size_le (h : SparingStep p q) : q.size + p.executes.toNat ≤ p.size := by
  cases h with
  | restore =>
    simp only [Point.size, Task.count, Task.size, Datum.count, Point.executes, Bool.toNat_false]
    omega
  | close => simp [Point.size, Task.count, Task.size, Point.executes]
  | enter => simp [Point.size, Task.count, Task.size, Point.executes]
  | execute hlast =>
    simp only [Point.size, Task.count, Task.size, Term.count, Point.executes, Bool.toNat_true]
    omega
  | call hcall =>
    simp only [Point.size, Task.count, Task.size, Task.count_restores, Term.count, Point.executes,
      Bool.toNat_true]
    omega

/-- The task has room for programs that run inside each other to this depth. -/
def Task.HasRoom (n : Nat) : Task → Prop
  | .terms depth _ => n ≤ depth
  | .call depth _ => n < depth
  | .restore _ => True

theorem Task.HasRoom.mono {task : Task} {n k : Nat} (h : task.HasRoom n) (hk : k ≤ n) :
    task.HasRoom k := by
  cases task with
  | terms depth ts => exact Nat.le_trans hk h
  | call depth program => exact Nat.lt_of_le_of_lt hk h
  | restore value => trivial

/-- Every task has room for as many levels as there are terms. -/
def Point.HasRoom (p : Point) : Prop := ∀ task ∈ p.tasks, task.HasRoom p.size

/-- There is room for the terms after each step. A program that is called has one level less than
the terms around it, but then the word that calls it is gone. -/
theorem SparingStep.hasRoom (h : SparingStep p q) (hroom : p.HasRoom) : q.HasRoom := by
  have hsize := h.size_le
  have hle : q.size ≤ p.size := Nat.le_trans (Nat.le_add_right _ _) hsize
  have hmono : ∀ task ∈ p.tasks, task.HasRoom q.size := by
    intro task htask
    exact (hroom task htask).mono hle
  cases h with
  | restore => exact (List.forall_mem_cons.mp hmono).2
  | close => exact (List.forall_mem_cons.mp hmono).2
  | enter =>
    have hcall := (List.forall_mem_cons.mp hroom).1
    refine List.forall_mem_cons.mpr ⟨?_, (List.forall_mem_cons.mp hmono).2⟩
    exact Nat.le_trans hle (Nat.le_of_lt_succ hcall)
  | execute _ =>
    obtain ⟨hterms, hothers⟩ := List.forall_mem_cons.mp hmono
    exact List.forall_mem_cons.mpr ⟨hterms, hothers⟩
  | call _ =>
    obtain ⟨hterms, hothers⟩ := List.forall_mem_cons.mp hmono
    have hdepth := (List.forall_mem_cons.mp hroom).1
    refine List.forall_mem_cons.mpr
      ⟨Nat.le_trans hsize hdepth, List.forall_mem_append.mpr ⟨?_, ?_⟩⟩
    · intro task htask
      obtain ⟨value, -, rfl⟩ := List.mem_map.mp htask
      trivial
    · exact List.forall_mem_cons.mpr ⟨hterms, hothers⟩

/-! ## What a run keeps -/

theorem Point.size_pos_of_executes (h : p.executes = true) : 0 < p.size := by
  obtain ⟨tasks, stack⟩ := p
  rcases tasks with _ | ⟨⟨depth, ts⟩ | ⟨depth, program⟩ | value, tasks⟩
  · cases h
  · cases ts with
    | nil => cases h
    | cons t ts =>
      have ht : 0 < t.size := by
        cases t <;> simp [Term.size]
      simp only [Point.size, Task.count, Task.size, Term.count]
      omega
  · cases h
  · cases h

/-- On a course without `dup`, terms are executed at most as often as there are terms at the start.
-/
theorem Point.Frugal.countP_le {course : List Point} (h : p.Frugal)
    (hcourse : (p :: course).IsChain (Next .builtins)) :
    (p :: course).countP Point.executes ≤ p.size := by
  induction course generalizing p with
  | nil =>
    cases hp : p.executes with
    | false => simp [hp]
    | true =>
      have hpos := Point.size_pos_of_executes hp
      rw [List.countP_cons, if_pos hp]
      exact hpos
  | cons q course ih =>
    obtain ⟨hnext, hrest⟩ := List.isChain_cons_cons.mp hcourse
    have hcount := ih (h.next hnext) hrest
    have hsize := (h.sparingStep hnext).size_le
    rw [List.countP_cons]
    cases hp : p.executes with
    | false =>
      rw [hp] at hsize
      simp only [Bool.toNat_false, Bool.false_eq_true, if_false] at hsize ⊢
      omega
    | true =>
      rw [hp] at hsize
      simp only [Bool.toNat_true, if_true] at hsize ⊢
      omega

theorem Point.Frugal.reaches (h : p.Frugal) (hroom : p.HasRoom) (hreach : Reaches .builtins p q) :
    q.Frugal ∧ q.HasRoom := by
  induction hreach with
  | refl => exact ⟨h, hroom⟩
  | tail _ hnext ih =>
    obtain ⟨hfrugal, hroom⟩ := ih
    exact ⟨hfrugal.next hnext, (hfrugal.sparingStep hnext).hasRoom hroom⟩

theorem Point.HasRoom.eq_tooLong (h : p.HasRoom) {fault : Fault}
    (hstop : turn .builtins p = .stop fault) : fault = .tooLong := by
  rcases turn_eq_stop hstop with ⟨hlong, -⟩ | ⟨-, program, tasks, htasks⟩
  · exact hlong
  · have hcall : Task.HasRoom p.size (.call 0 program) := by
      refine h _ ?_
      rw [htasks]
      exact List.mem_cons_self
    exact absurd hcall (Nat.not_lt_zero _)

end Course

/-! ## Evaluations -/

namespace Machine

open Course Concatenative.Computation

theorem deepens_evaluate_succ (depth : Nat) (terms : List Term) (s : State) :
    Deepens ((upTo depth).evaluate terms s) ((upTo (depth + 1)).evaluate terms s) := by
  have hrun : Deepens ((upTo depth).start (.terms terms))
      ((upTo (depth + 1)).start (.terms terms)) := by
    rw [start, start, run_upTo, run_upTo]
    exact deepens_run_succ standard_isSteady depth (.terms terms)
  exact .note (hrun.handle _ stateStep s).catchErrors

section

variable {terms : List Term} {stack : List Datum}

theorem frugal_start (hterms : ¬ (Term.word "dup").OccursIn terms)
    (hruns : ∀ d ∈ stack, d.RunsItsSource)
    (hstack : ∀ program source, .closure program source ∈ stack →
      ¬ (Term.word "dup").OccursIn source) (depth : Nat) :
    (Point.start depth terms stack).Frugal := by
  refine ⟨Stock.hasPoint_start ?_ ?_ depth, List.forall_mem_singleton.mpr ⟨terms, rfl⟩⟩
  · intro t ht hdup
    refine hterms (hdup.mono ?_)
    intro u hu
    rw [List.mem_singleton.mp hu]
    exact ht
  · rintro d hd program source rfl
    refine ⟨hruns _ hd, ?_⟩
    intro hdup
    rcases Term.occursIn_quoted_iff.mp hdup with heq | hinside
    · cases heq
    · exact hstack program source hd hinside

variable (h : ∀ depth, (Point.start depth terms stack).Frugal)

include h

/-- With a limit above the number of terms there is room from the start on. -/
theorem evaluate_prints_of_frugal {depth : Nat}
    (hdepth : Term.count terms + Datum.count stack < depth) :
    ((upTo depth).evaluate terms ⟨stack, .builtins⟩).Prints fun fault => fault = .tooLong := by
  have hsize : (Point.start depth terms stack).size = Term.count terms + Datum.count stack := rfl
  have hroom : (Point.start depth terms stack).HasRoom := by
    refine List.forall_mem_singleton.mpr ?_
    rw [hsize]
    exact hdepth
  refine evaluate_prints (m := upTo depth) (h depth).stock ?_
  intro q hq fault hfault
  exact ((h depth).reaches hroom hq).2.eq_tooLong hfault

/-- All limits above the number of terms are as good as the least of them. -/
theorem evaluate_eq_of_frugal {depth : Nat}
    (hdepth : Term.count terms + Datum.count stack < depth) :
    (upTo depth).evaluate terms ⟨stack, .builtins⟩ =
      (upTo (Term.count terms + Datum.count stack + 1)).evaluate terms ⟨stack, .builtins⟩ := by
  induction hdepth with
  | refl => rfl
  | @step depth hdepth ih =>
    have hprints := evaluate_prints_of_frugal h hdepth
    have hdeepens := deepens_evaluate_succ depth terms ⟨stack, .builtins⟩
    rw [← ih]
    exact (hprints.eq_of_deepens (by simp) hdeepens).symm

end

/-- Programs without `dup` halt, and execute each of their terms at most once. Let terms be run over
the builtin words from a stack each of whose closures runs what it shows, and let `dup` occur
neither in the terms nor in what a closure shows, at any depth. Take the number of terms in the
program and in the closures of the stack, at all depths. On every course of the run, whatever its
limit, terms are executed at most so often, the last one counted even if it fails. Under every limit
above the number the evaluation is one and the same; it asks for nothing but to print lines and,
whatever the answers, ends in an outcome or because an integer is too long to be printed. So it
never goes too deep, against no script and on no console, and direct evaluation, which has no limit,
comes to a verdict. -/
theorem halts_without_dup {terms : List Term} {stack : List Datum}
    (hterms : ¬ (Term.word "dup").OccursIn terms) (hruns : ∀ d ∈ stack, d.RunsItsSource)
    (hstack : ∀ program source, .closure program source ∈ stack →
      ¬ (Term.word "dup").OccursIn source) :
    let total := Term.count terms + Datum.count stack
    let s : State := ⟨stack, .builtins⟩
    (∀ depth course, (Point.start depth terms stack :: course).IsChain (Next .builtins) →
      (Point.start depth terms stack :: course).countP Point.executes ≤ total) ∧
    (∀ depth, total < depth →
      (upTo depth).evaluate terms s = (upTo (total + 1)).evaluate terms s ∧
      ((upTo depth).evaluate terms s).Prints (fun fault => fault = .tooLong) ∧
      (∀ script, ((upTo depth).simulate script terms s).result ≠ .error .tooDeep) ∧
      ∀ input, ((live ((upTo depth).evaluate terms s)).onConsole input).1.result ≠
        .error .tooDeep) ∧
    ∀ script, ∃ verdict, Direct.Gives .builtins (.terms terms) stack script verdict := by
  intro total s
  have hfrugal := frugal_start hterms hruns hstack
  have hdeep : ¬ (Fault.tooDeep = Fault.tooLong) := by simp
  have hprints : ∀ depth, total < depth →
      ((upTo depth).evaluate terms s).Prints fun fault => fault = .tooLong :=
    fun depth hdepth => evaluate_prints_of_frugal hfrugal hdepth
  have hscript : ∀ depth, total < depth → ∀ script,
      ((upTo depth).simulate script terms s).result ≠ .error .tooDeep :=
    fun depth hdepth script => (hprints depth hdepth).scripted_ne_tooDeep hdeep script
  refine ⟨fun depth course => (hfrugal depth).countP_le, fun depth hdepth =>
    ⟨evaluate_eq_of_frugal hfrugal hdepth, hprints depth hdepth, hscript depth hdepth, ?_⟩, ?_⟩
  · intro input hresult
    obtain ⟨report, hrun, -, hfault⟩ := (hprints depth hdepth).onConsole
    rw [hrun] at hresult
    exact hdeep (hfault _ hresult)
  · intro script
    have hresult := hscript (total + 1) (Nat.lt_succ_self total) script
    rw [simulate_upTo] at hresult
    rcases Direct.standard_simulates (total + 1) (.terms terms) stack script with
      htooDeep | ⟨verdict, hgives, -⟩
    · exact absurd htooDeep hresult
    · exact ⟨verdict, hgives⟩

/-- A closure that doubles and runs what it finds finds itself, at whatever depth. -/
theorem runState_dup_i (m : Machine) (source : List Term) (depth : Nat) :
    let body : Program := .terms [.word "dup", .word "i"]
    runState ⟨[.closure body source], .builtins⟩ (m.run depth body) = .fail .tooDeep := by
  intro body
  induction depth with
  | zero => rfl
  | succ depth ih =>
    have hbody : runState ⟨[.closure body source], .builtins⟩ (m.run (depth + 1) body) =
        runState ⟨[.closure body source], .builtins⟩ ((m.run depth body).bind .done) := rfl
    rw [hbody, bind_done_right, ih]

/-- That closures run what they show cannot be done without. Let a closure show no terms and run
`dup i`. With two of it on the stack, the single term `i` runs the one on the other, which doubles
it and runs it again, and so on: under every limit the run goes too deep. -/
theorem halts_without_dup_hidden :
    let hidden : Datum := .closure (.terms [.word "dup", .word "i"]) []
    let terms : List Term := [.word "i"]
    let stack : List Datum := [hidden, hidden]
    ¬ hidden.RunsItsSource ∧ ¬ (Term.word "dup").OccursIn terms ∧
      (∀ program source, .closure program source ∈ stack → ¬ (Term.word "dup").OccursIn source) ∧
      Term.count terms + Datum.count stack = 1 ∧
      ∀ depth, ((upTo depth).simulate [] terms ⟨stack, .builtins⟩).result = .error .tooDeep := by
  intro hidden terms stack
  have hdeep : ∀ depth,
      runState ⟨stack, .builtins⟩ ((upTo depth).start (.terms terms)) = .fail .tooDeep := by
    intro depth
    cases depth with
    | zero => rfl
    | succ depth =>
      have hcall : runState ⟨stack, .builtins⟩ ((upTo (depth + 1)).start (.terms terms)) =
          runState ⟨[hidden], .builtins⟩
            (((upTo (depth + 1)).run depth (.terms [.word "dup", .word "i"])).bind .done) := rfl
      rw [hcall, bind_done_right, runState_dup_i]
  have hterms : ¬ (Term.word "dup").OccursIn terms :=
    Term.not_occursIn_of_flat (by simp [terms]) (by simp [terms])
  refine ⟨by simp [hidden, Datum.RunsItsSource], hterms, ?_, rfl, ?_⟩
  · intro program source hmem
    obtain ⟨-, rfl⟩ : _ ∧ source = [] := by simpa [stack, hidden] using hmem
    exact Term.not_occursIn_of_flat List.not_mem_nil fun _ => List.not_mem_nil
  · intro depth
    show (scripted [] (.note _ (catchErrors (runState ⟨stack, .builtins⟩ _)))).run.result = _
    rw [hdeep]
    rfl

/-- The terms `[1 pop] i i` on the closure `[pop]` and an integer: six terms in all, and six are
executed, so seven levels are as good as any number of them. The terms `[dup i] dup i` are five, and
go on for ever. -/
theorem halts_without_dup_twice :
    let terms : List Term := [.quoted [.number 1, .word "pop"], .word "i", .word "i"]
    let stack : List Datum := [.closure (.terms [.word "pop"]) [.word "pop"], .int 7]
    let endless : List Term := [.quoted [.word "dup", .word "i"], .word "dup", .word "i"]
    Term.count terms + Datum.count stack = 6 ∧
      (∀ depth, 6 < depth → (upTo depth).evaluate terms ⟨stack, .builtins⟩ =
        (upTo 7).evaluate terms ⟨stack, .builtins⟩) ∧
      ((upTo 7).simulate [] terms ⟨stack, .builtins⟩).result =
        .ok ([], .ok (⟨[], .builtins⟩, ())) ∧
      Term.count endless = 5 ∧
      ((upTo 7).simulate [] endless .initial).result = .error .tooDeep := by
  intro terms stack endless
  have hterms : ¬ (Term.word "dup").OccursIn terms := by
    intro hdup
    cases hdup with
    | here hmem => simp [terms] at hmem
    | inside hmem h =>
      obtain rfl : _ = [Term.number 1, .word "pop"] := by simpa [terms] using hmem
      exact Term.not_occursIn_of_flat (by simp) (by simp) h
  have hruns : ∀ d ∈ stack, d.RunsItsSource := by simp [stack, Datum.RunsItsSource]
  have hstack : ∀ program source, .closure program source ∈ stack →
      ¬ (Term.word "dup").OccursIn source := by
    intro program source hmem
    obtain ⟨-, rfl⟩ : _ ∧ source = [Term.word "pop"] := by simpa [stack] using hmem
    exact Term.not_occursIn_of_flat (by simp) (by simp)
  have hhalts := (halts_without_dup hterms hruns hstack).2.1
  exact ⟨rfl, fun depth hdepth => (hhalts depth hdepth).1, by rfl, rfl, by rfl⟩

end Machine

end Concatenative
