import Concatenative.Proofs.RoundTrip
import Concatenative.Proofs.Stock
import Mathlib.Data.List.Forall2

/-!
# A stack is written as a program for it

The lines that show a stack are program text. Each value is shown as a term that pushes it: an integer
as a number, a closure as a quotation. So the lines from the bottom to the top, one after the other,
are a program that builds the stack on an empty one, and does nothing else.

For this the closures have to show terms that the grammar can spell. In a session they do, because
their terms have all been read from source text, and nothing but integers and such closures ever gets
on the stack.
-/

namespace Concatenative

open Concatenative.Computation

/-! ## The values of a session -/

/-- The datum is an integer, or a closure that runs what it shows and shows terms that can be
spelled. -/
inductive Datum.IsValue : Datum → Prop where
  | int (n : Int) : IsValue (.int n)
  | closure {source : List Term} (h : ∀ t ∈ source, t.Spellable) :
      IsValue (.closure (.terms source) source)

/-- Terms that can be spelled make values and nothing else. -/
def Stock.values : Stock where
  HasTerm := Term.Spellable
  HasDatum := Datum.IsValue
  int := .int
  closure body hbody := by
    cases hbody with
    | quoted h => exact .closure h
  called program source hvalue := by
    cases hvalue with
    | closure h => exact ⟨source, rfl, h⟩

/-- Whatever the source texts of a session, there are values on its stack and nothing else. -/
theorem Session.hasState_values (depth : Nat) (input sources : List String) :
    Stock.values.HasState (after (.upTo depth) ⟨.initial, input⟩ sources).state := by
  have hsources : ∀ source ∈ sources, Stock.values.HasSource source :=
    fun source _ terms hterms => Term.spellable_of_parse hterms
  exact Stock.hasState_session hsources depth input

/-! ## Terms that push values -/

/-- The term pushes the datum. -/
inductive Term.Pushes : Term → Datum → Prop where
  | number (n : Int) : Pushes (.number n) (.int n)
  | quoted (body : List Term) : Pushes (.quoted body) (.closure (.terms body) body)

/-- Terms that push data leave these on the stack, the last one on top. -/
theorem runState_termsCode_of_pushes {ts : List Term} {ds : List Datum}
    (h : List.Forall₂ Term.Pushes ts ds) (exec : Program → Computation Unit)
    (stack : List Datum) (words : Dictionary) :
    runState ⟨stack, words⟩ (termsCode exec ts) = .done (⟨ds.reverse ++ stack, words⟩, ()) := by
  induction h generalizing stack with
  | nil => rfl
  | @cons t d ts ds hpush _ ih =>
    have hfirst : runState ⟨stack, words⟩ (t.code exec) = .done (⟨d :: stack, words⟩, ()) := by
      cases hpush with
      | number n => rfl
      | quoted body => rfl
    simp only [termsCode, bind_eq, runState_bind, hfirst, bind_done]
    rw [ih, List.reverse_cons, List.append_assoc, List.singleton_append]

/-- A program of such terms succeeds in any session, and prints and reads nothing. -/
theorem Session.step_of_pushes {source : String} {ts : List Term} {ds : List Datum}
    (hsource : Grammar.parse source = .ok ts) (h : List.Forall₂ Term.Pushes ts ds) (limit : Nat)
    (s : State) (input : List String) :
    Session.step (.upTo (limit + 1)) ⟨s, input⟩ source =
      (⟨[.log (.evaluating ts.length s.stack.length)], .success⟩,
        ⟨⟨ds.reverse ++ s.stack, s.words⟩, input⟩) := by
  have hrun : runState s ((Machine.upTo (limit + 1)).start (.terms ts)) =
      .done (⟨ds.reverse ++ s.stack, s.words⟩, ()) :=
    runState_termsCode_of_pushes h _ s.stack s.words
  rw [Session.step_of_parse hsource]
  unfold Machine.evaluate
  rw [hrun]
  rfl

/-! ## Lines -/

theorem Datum.displays?_eq_some_iff {ds : List Datum} {texts : List String} :
    Datum.displays? ds = some texts ↔
      List.Forall₂ (fun d text => Datum.display? d = some text) ds texts := by
  induction ds generalizing texts with
  | nil => simp [displays?, eq_comm]
  | cons d ds ih =>
    simp only [displays?, Option.bind_eq_bind, Option.bind_eq_some_iff, List.forall₂_cons_left_iff,
      ← ih]
    constructor
    · rintro ⟨first, hfirst, others, hothers, hpure⟩
      exact ⟨first, others, hfirst, hothers, (Option.some.inj hpure).symm⟩
    · rintro ⟨first, others, hfirst, hothers, rfl⟩
      exact ⟨first, hfirst, others, hothers, rfl⟩

theorem Datum.display?_int (n : Int) : (Datum.int n).display? = Decimal.write? n := by
  simp [display?]

/-- A closure is displayed as the quotation of the terms that it shows. -/
theorem Datum.display?_closure (program : Program) (source : List Term) :
    (Datum.closure program source).display? = (Term.quoted source).datum.display? := by
  have hlist := Term.display?_list source
  simp only [Datum.display?] at hlist
  simp only [Term.datum, Datum.display?]
  rw [← hlist, Option.map_map]
  rfl

theorem Decimal.isSome_write?_iff {n : Int} : (Decimal.write? n).isSome ↔ Decimal.Writable n := by
  unfold Decimal.write?
  split
  · simpa
  · simpa

/-- A value that can be displayed is displayed as a term that pushes it and can be spelled. -/
theorem Datum.IsValue.exists_term {d : Datum} (hd : d.IsValue) {text : String}
    (h : d.display? = some text) :
    ∃ t : Term, t.Pushes d ∧ t.Spellable ∧ t.datum.display? = some text := by
  cases hd with
  | int n =>
    have hwritable : Decimal.Writable n := by
      rw [← Decimal.isSome_write?_iff, ← Datum.display?_int, h]
      rfl
    exact ⟨.number n, .number n, .number hwritable, h⟩
  | @closure source hsource =>
    rw [Datum.display?_closure] at h
    exact ⟨.quoted source, .quoted source, .quoted hsource, h⟩

theorem Datum.exists_terms {ds : List Datum} {texts : List String} (hds : ∀ d ∈ ds, d.IsValue)
    (h : List.Forall₂ (fun d text => Datum.display? d = some text) ds texts) :
    ∃ ts : List Term, List.Forall₂ Term.Pushes ts ds ∧ (∀ t ∈ ts, t.Spellable) ∧
      List.Forall₂ (fun d text => Datum.display? d = some text) (Term.data ts) texts := by
  induction h with
  | nil => exact ⟨[], .nil, List.forall_mem_nil _, .nil⟩
  | cons hfirst _ ih =>
    obtain ⟨hd, hrest⟩ := List.forall_mem_cons.mp hds
    obtain ⟨t, hpush, hspell, hdisplay⟩ := hd.exists_term hfirst
    obtain ⟨ts, hpushes, hspells, hdisplays⟩ := ih hrest
    exact ⟨t :: ts, .cons hpush hpushes, List.forall_mem_cons.mpr ⟨hspell, hspells⟩,
      .cons hdisplay hdisplays⟩

/-- The lines of a stack of values, from the bottom to the top and with one blank between them, are
read as terms that push these values in this order. -/
theorem Datum.exists_parse_lines {stack : List Datum} {lines : List String}
    (hstack : ∀ d ∈ stack, d.IsValue) (h : Datum.displays? stack = some lines) :
    ∃ ts, Grammar.parse (String.intercalate " " lines.reverse) = .ok ts ∧
      List.Forall₂ Term.Pushes ts stack.reverse := by
  have hreverse : List.Forall₂ (fun d text => Datum.display? d = some text)
      stack.reverse lines.reverse :=
    List.forall₂_reverse_iff.mpr (Datum.displays?_eq_some_iff.mp h)
  have hvalues : ∀ d ∈ stack.reverse, d.IsValue := fun d hd => hstack d (List.mem_reverse.mp hd)
  obtain ⟨ts, hpushes, hspells, hdisplays⟩ := Datum.exists_terms hvalues hreverse
  -- the lines in a row are the terms displayed as one text, which is read back as these terms
  obtain ⟨text, htext, hparse⟩ := Term.exists_display?_parse hspells
  have hjoined : Term.display? ts = some (String.intercalate " " lines.reverse) := by
    rw [← Term.display?_list, Datum.display?, Datum.displays?_eq_some_iff.mpr hdisplays]
    rfl
  obtain rfl : text = String.intercalate " " lines.reverse :=
    Option.some.inj (htext.symm.trans hjoined)
  exact ⟨ts, hparse, hpushes⟩

/-- A value can be displayed, unless it is an integer that is too long. -/
theorem Datum.IsValue.exists_display?_iff {d : Datum} (hd : d.IsValue) :
    (∃ text, d.display? = some text) ↔ ∀ n, d = .int n → Decimal.Writable n := by
  cases hd with
  | int n =>
    rw [Datum.display?_int, ← Option.isSome_iff_exists, Decimal.isSome_write?_iff]
    constructor
    · rintro hwritable m heq
      cases heq
      exact hwritable
    · exact fun h => h n rfl
  | @closure source hsource =>
    rw [Datum.display?_closure, Term.display?_datum, Term.spelling?_eq (.quoted hsource)]
    constructor
    · rintro - n heq
      cases heq
    · exact fun _ => ⟨_, rfl⟩

/-- A stack of values can be shown, unless one of its integers is too long. -/
theorem Datum.exists_displays?_iff {stack : List Datum} (hstack : ∀ d ∈ stack, d.IsValue) :
    (∃ lines, Datum.displays? stack = some lines) ↔ ∀ n, .int n ∈ stack → Decimal.Writable n := by
  induction stack with
  | nil => simp [Datum.displays?]
  | cons d stack ih =>
    obtain ⟨hd, hrest⟩ := List.forall_mem_cons.mp hstack
    have hboth : (∃ lines, Datum.displays? (d :: stack) = some lines) ↔
        (∃ text, d.display? = some text) ∧ ∃ lines, Datum.displays? stack = some lines := by
      simp only [Datum.displays?_eq_some_iff, List.forall₂_cons_left_iff]
      constructor
      · rintro ⟨lines, first, others, hfirst, hothers, -⟩
        exact ⟨⟨first, hfirst⟩, others, hothers⟩
      · rintro ⟨⟨first, hfirst⟩, others, hothers⟩
        exact ⟨first :: others, first, others, hfirst, hothers, rfl⟩
    rw [hboth, hd.exists_display?_iff, ih hrest]
    simp only [List.mem_cons, or_imp, forall_and, eq_comm]

namespace Session

/-- The lines that show the stack of a session are a program for it. Let a session start from the
initial state and run any source texts. Its stack can be shown as lines exactly if none of its
integers is too long. If it can, then the lines from the bottom of the stack to the top, with single
blanks between them, are a source text that a new session runs with success and without printing or
reading anything, and it ends up in the very state that the first session is in. -/
theorem dump_restores (depth limit : Nat) (input sources : List String) :
    let s := (after (.upTo depth) ⟨.initial, input⟩ sources).state
    ((∃ lines, s.lines? = some lines) ↔ ∀ n, .int n ∈ s.stack → Decimal.Writable n) ∧
    ∀ lines, s.lines? = some lines → ∀ fresh,
      let result := step (.upTo (limit + 1)) ⟨.initial, fresh⟩ (String.intercalate " " lines.reverse)
      result.1.ending = .success ∧ result.1.events.filter Event.isLine = [] ∧
        result.2 = ⟨s, fresh⟩ := by
  intro s
  obtain ⟨hwords, hstack⟩ := hasState_values depth input sources
  refine ⟨Datum.exists_displays?_iff hstack, fun lines hlines fresh => ?_⟩
  obtain ⟨ts, hparse, hpushes⟩ := Datum.exists_parse_lines hstack hlines
  have hstate : (⟨s.stack.reverse.reverse ++ [], .builtins⟩ : State) = s := by
    rw [List.reverse_reverse, List.append_nil, ← hwords]
  rw [step_of_pushes hparse hpushes]
  refine ⟨rfl, rfl, ?_⟩
  exact congrArg (Session.mk · fresh) hstate

/-- Two runs leave a closure and a negative integer above it. Their lines in one text, the closure
first, give a new session the same stack. -/
theorem dump_restores_two :
    let source : List Term := [.quoted [], .word "dup"]
    let s : State := ⟨[.int (-7), .closure (.terms source) source], .builtins⟩
    (after (.upTo 1000) ⟨.initial, []⟩ ["[[] dup]", "-7"]).state = s ∧
      s.lines? = some ["-7", "[[] dup]"] ∧
      (step (.upTo 1000) ⟨.initial, ["unread\n"]⟩ "[[] dup] -7").2 = ⟨s, ["unread\n"]⟩ := by
  intro source s
  have hquoted : Grammar.readProgram "[[] dup]".toList =
      .ok (.item [] (.quoted (.item [] (.quoted (.close [])) (.item [' '] (.word "dup".toList)
        (.close [])))) (.close [])) := by cbv
  have hfirst := Grammar.parse_eq_ok_iff.mpr ⟨_, hquoted, rfl⟩
  have hwritable : Decimal.Writable (-7) := Decimal.writable_iff.mpr (by decide)
  have hseven : (Datum.int (-7)).display? = some "-7" := by
    rw [Datum.display?_int, Decimal.write?, if_pos hwritable]
    rfl
  have hsecond : Grammar.parse "-7" = .ok [.number (-7)] := by
    have hspell := List.forall_mem_singleton.mpr (Term.Spellable.number hwritable)
    obtain ⟨text, htext, hparse⟩ := Term.exists_display?_parse hspell
    rw [Term.display?, Term.bodySpelling?_eq hspell] at htext
    obtain rfl : "-7" = text := Option.some.inj htext
    exact hparse
  have hafter : (after (.upTo 1000) ⟨.initial, []⟩ ["[[] dup]", "-7"]).state = s := by
    simp only [after, List.foldl, step, Machine.begin, hfirst, hsecond]
    rfl
  have hlines : s.lines? = some ["-7", "[[] dup]"] :=
    Datum.displays?_eq_some_iff.mpr (.cons hseven (.cons rfl .nil))
  obtain ⟨-, hdump⟩ := dump_restores 1000 999 [] ["[[] dup]", "-7"]
  rw [hafter] at hdump
  exact ⟨hafter, hlines, (hdump _ hlines ["unread\n"]).2.2⟩

end Session

end Concatenative
