import Concatenative.Proofs.Dump

/-!
# Which data can be shown

A message shows a datum by its label, which names all its parts. The only parts that can get in the
way are the integers. So a datum has a label exactly if all integers in it can be written, wherever
they are: bare ones, those of numbers and values, those in the terms that a closure shows. The
programs that a datum may hold are not looked into.
-/

namespace Concatenative

/-! ## The integers in a datum -/

namespace Term

mutual

/-- The integers in a term. -/
def integers : Term → List Int
  | .word _ => []
  | .number value => [value]
  | .quoted body => integersOf body

/-- The integers in the terms of a list. -/
def integersOf : List Term → List Int
  | [] => []
  | t :: ts => t.integers ++ integersOf ts

end

end Term

namespace Datum

mutual

/-- The integers in a datum that its label shows. -/
def integers : Datum → List Int
  | .integer value => [value]
  | .list items => integersOf items
  | .tuple items => integersOf items
  | .record fields => fieldIntegers fields
  | .number value => [value]
  | .quoted items => integersOf items
  | .int value => [value]
  | .closure _ source => Term.integersOf source
  | .ok value => value.integers
  | .err e => e.integers
  | .error _ arguments => integersOf arguments
  | .state stack _ => integersOf stack
  | _ => []

/-- The integers in the members of a list. -/
def integersOf : List Datum → List Int
  | [] => []
  | d :: ds => d.integers ++ integersOf ds

/-- The integers in named fields. -/
def fieldIntegers : List (String × Datum) → List Int
  | [] => []
  | (_, d) :: fields => d.integers ++ fieldIntegers fields

end

end Datum

/-! ## Labels -/

/-- Two parts that are shown one after the other are shown if each of them is. -/
theorem isSome_both {α β γ : Type} (x : Option α) (y : Option β) (f : α → β → γ) :
    (do let a ← x; let b ← y; return f a b).isSome = (x.isSome && y.isSome) := by
  cases x <;> cases y <;> rfl

namespace Term

mutual

theorem isSome_label?_iff (t : Term) :
    t.label?.isSome ↔ ∀ n ∈ t.integers, Decimal.Writable n := by
  cases t with
  | word name => simp [label?, integers]
  | number value =>
    rw [label?, Option.isSome_map, Decimal.isSome_write?_iff, integers, List.forall_mem_singleton]
  | quoted body =>
    rw [label?, Option.isSome_map, integers]
    exact isSome_labels?_iff body

theorem isSome_labels?_iff (ts : List Term) :
    (labels? ts).isSome ↔ ∀ n ∈ integersOf ts, Decimal.Writable n := by
  cases ts with
  | nil => simp [labels?, integersOf]
  | cons t ts =>
    rw [labels?, isSome_both, Bool.and_eq_true, isSome_label?_iff t, isSome_labels?_iff ts,
      integersOf, List.forall_mem_append]

end

end Term

namespace Datum

mutual

/-- A datum can be shown exactly if all integers in it can be written. -/
theorem isSome_label?_iff (d : Datum) :
    d.label?.isSome ↔ ∀ n ∈ d.integers, Decimal.Writable n := by
  cases d with
  | none => simp [label?, integers]
  | bool value => cases value <;> simp [label?, integers]
  | text value => simp [label?, integers]
  | integer value => rw [label?, Decimal.isSome_write?_iff, integers, List.forall_mem_singleton]
  | fraction value => simp [label?, integers]
  | list items =>
    rw [label?, Option.isSome_map, integers]
    exact isSome_labels?_iff items
  | tuple items =>
    rw [label?, Option.isSome_map, integers]
    exact isSome_labels?_iff items
  | record fields =>
    rw [label?, Option.isSome_map, integers]
    exact isSome_fieldLabels?_iff fields
  | word name => simp [label?, integers]
  | number value =>
    rw [label?, Option.isSome_map, Decimal.isSome_write?_iff, integers, List.forall_mem_singleton]
  | quoted items =>
    rw [label?, Option.isSome_map, integers]
    exact isSome_labels?_iff items
  | int value =>
    rw [label?, Option.isSome_map, Decimal.isSome_write?_iff, integers, List.forall_mem_singleton]
  | closure program source =>
    rw [label?, Option.isSome_map, integers]
    exact Term.isSome_labels?_iff source
  | expect line => simp [label?, integers]
  | send line => simp [label?, integers]
  | ok value =>
    rw [label?, Option.isSome_map, integers]
    exact isSome_label?_iff value
  | err e =>
    rw [label?, Option.isSome_map, integers]
    exact isSome_label?_iff e
  | error kind arguments =>
    rw [label?, Option.isSome_map, integers]
    exact isSome_labels?_iff arguments
  | state stack words =>
    rw [label?, Option.isSome_map, integers]
    exact isSome_labels?_iff stack
  | program code mark => simp [label?, integers]

theorem isSome_labels?_iff (ds : List Datum) :
    (labels? ds).isSome ↔ ∀ n ∈ integersOf ds, Decimal.Writable n := by
  cases ds with
  | nil => simp [labels?, integersOf]
  | cons d ds =>
    rw [labels?, isSome_both, Bool.and_eq_true, isSome_label?_iff d, isSome_labels?_iff ds,
      integersOf, List.forall_mem_append]

theorem isSome_fieldLabels?_iff (fields : List (String × Datum)) :
    (fieldLabels? fields).isSome ↔ ∀ n ∈ fieldIntegers fields, Decimal.Writable n := by
  match fields with
  | [] => simp [fieldLabels?, fieldIntegers]
  | (name, d) :: fields =>
    rw [fieldLabels?, isSome_both, Bool.and_eq_true, isSome_label?_iff d,
      isSome_fieldLabels?_iff fields, fieldIntegers, List.forall_mem_append]

end

end Datum

end Concatenative
