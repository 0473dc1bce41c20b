import Concatenative.Grammar.Token
import Concatenative.Decimal
import Concatenative.Proofs.Alphabet

/-!
# Reading the decimal text of a number

Writing an integer and reading the text gives the integer back, for every integer that is short
enough to be written. Reading is the more generous of the two, but it has the same limit: what it
reads can always be written.
-/

namespace Concatenative.Decimal

open Concatenative.Text

/-! ## Digits and their values -/

theorem digitValue?_of_isDigit {c : Char} (h : c.isDigit = true) :
    digitValue? c = some (c.toNat - '0'.toNat) := by
  have hrange : 48 ≤ c.toNat ∧ c.toNat ≤ 57 := Char.isDigit_iff_toNat.mp h
  have hge : ¬c.toNat < 0x30 := by omega
  have hlt : c.toNat < 0x30 + 10 := by omega
  simp only [digitValue?, digitZeros, digitValueAmong, if_neg hge, if_pos hlt]
  rfl

theorem isDigit_of_mem_toDigits {n : Nat} {c : Char} (h : c ∈ Nat.toDigits 10 n) :
    isDigit c = true := by
  have hascii : c.isDigit = true := Nat.isDigit_of_mem_toDigits (by decide) (by decide) h
  simp only [isDigit, digitValue?_of_isDigit hascii, Option.isSome_some]

/-- The digits that a number is written with stand for the number. -/
theorem positional_toDigits (n : Nat) :
    positional ((Nat.toDigits 10 n).filterMap digitValue?) = n := by
  have hfold : ∀ (cs : List Char) (start : Nat), (∀ c ∈ cs, c.isDigit = true) →
      (cs.filterMap digitValue?).foldl (fun m d => m * 10 + d) start =
        Nat.ofDigitChars 10 cs start := by
    intro cs
    induction cs with
    | nil => intro start _; rfl
    | cons c cs ih =>
      intro start hcs
      have hc := digitValue?_of_isDigit (hcs c List.mem_cons_self)
      rw [List.filterMap_cons_some hc, List.foldl_cons, Nat.ofDigitChars_cons, Nat.mul_comm start]
      exact ih _ fun d hd => hcs d (List.mem_cons_of_mem c hd)
  have hdigits : ∀ c ∈ Nat.toDigits 10 n, c.isDigit = true := fun c hc =>
    Nat.isDigit_of_mem_toDigits (by decide) (by decide) hc
  rw [positional, hfold _ _ hdigits, Nat.ofDigitChars_ten_toDigits]

/-- A number with few digits is small. -/
theorem positional_lt {digits : List Nat} {k : Nat} (h : ∀ d ∈ digits, d < 10)
    (hlength : digits.length ≤ k) : positional digits < Nat.pow 10 k := by
  have hfold : ∀ (digits : List Nat) (start : Nat), (∀ d ∈ digits, d < 10) →
      digits.foldl (fun m d => m * 10 + d) start < (start + 1) * 10 ^ digits.length := by
    intro digits
    induction digits with
    | nil => intro start _; simp
    | cons d ds ih =>
      intro start hds
      have hd : d < 10 := hds d List.mem_cons_self
      calc (d :: ds).foldl (fun m d => m * 10 + d) start
          = ds.foldl (fun m d => m * 10 + d) (start * 10 + d) := rfl
        _ < (start * 10 + d + 1) * 10 ^ ds.length :=
            ih _ fun e he => hds e (List.mem_cons_of_mem d he)
        _ ≤ (start + 1) * 10 * 10 ^ ds.length := Nat.mul_le_mul_right _ (by omega)
        _ = (start + 1) * 10 ^ (d :: ds).length := by
            rw [List.length_cons, Nat.pow_succ, Nat.mul_assoc, Nat.mul_comm 10]
  calc positional digits
      < (0 + 1) * 10 ^ digits.length := hfold digits 0 h
    _ = 10 ^ digits.length := by rw [Nat.zero_add, Nat.one_mul]
    _ ≤ 10 ^ k := Nat.pow_le_pow_right (by decide) hlength

theorem lt_ten_of_mem_filterMap {cs : List Char} {d : Nat} (h : d ∈ cs.filterMap digitValue?) :
    d < 10 := by
  obtain ⟨c, -, hc⟩ := List.mem_filterMap.mp h
  exact digitValueAmong_lt hc

theorem length_filterMap_digitValue? {digits : List Char} (h : ∀ d ∈ digits, isDigit d = true) :
    (digits.filterMap digitValue?).length = digits.length := by
  induction digits with
  | nil => rfl
  | cons d ds ih =>
    obtain ⟨v, hv⟩ := Option.isSome_iff_exists.mp (h d List.mem_cons_self)
    rw [List.filterMap_cons_some hv, List.length_cons, List.length_cons,
      ih fun e he => h e (List.mem_cons_of_mem d he)]

/-! ## Reading digits -/

theorem ne_underscore_of_isDigit {c : Char} (h : isDigit c = true) : c ≠ '_' :=
  ne_of_class h (by decide)

theorem marksFit_digits {digits : List Char} (h : ∀ d ∈ digits, isDigit d = true)
    (afterDigit : Bool) (hne : afterDigit = true ∨ digits ≠ []) :
    marksFit afterDigit digits = true := by
  induction digits generalizing afterDigit with
  | nil => simpa [marksFit] using hne
  | cons d ds ih =>
    have hd := ne_underscore_of_isDigit (h d List.mem_cons_self)
    rw [marksFit, if_neg hd]
    exact ih (fun e he => h e (List.mem_cons_of_mem d he)) true (Or.inl rfl)

/-- Digits after a sign, or without one, are read as the number they stand for, unless there are too
many of them. -/
theorem read_digits {text digits : List Char} {negative : Bool}
    (hsign : splitSign text = (negative, digits)) (hne : digits ≠ [])
    (hdigits : ∀ d ∈ digits, isDigit d = true) :
    read text = if digitLimit < digits.length then .error (.tooLong digits.length)
      else .ok (if negative = true then -(positional (digits.filterMap digitValue?) : Int)
        else positional (digits.filterMap digitValue?)) := by
  have hrun : ∀ d ∈ digits, (isDigit d || decide (d = '_')) = true := by
    intro d hd
    rw [hdigits d hd, Bool.true_or]
  have htake := takeWhile_run hrun (clear_nil _)
  have hdrop := dropWhile_run hrun (clear_nil _)
  rw [List.append_nil] at htake hdrop
  simp only [read, hsign, htake, hdrop, marksFit_digits hdigits false (Or.inr hne),
    length_filterMap_digitValue? hdigits]
  cases negative <;> rfl

theorem read_of_splitSign {text digits : List Char} {negative : Bool}
    (hsign : splitSign text = (negative, digits)) (hne : digits ≠ [])
    (hdigits : ∀ d ∈ digits, isDigit d = true) (hlength : digits.length ≤ digitLimit) :
    read text = .ok (if negative = true then -(positional (digits.filterMap digitValue?) : Int)
      else positional (digits.filterMap digitValue?)) := by
  rw [read_digits hsign hne hdigits, if_neg (Nat.not_lt.mpr hlength)]

/-! ## Reading what was written -/

theorem lt_pow_iff {n k : Nat} (hk : 0 < k) :
    n < Nat.pow 10 k ↔ (Nat.toDigits 10 n).length ≤ k :=
  (Nat.length_toDigits_le_iff (by decide) hk).symm

/-- The numbers that can be written are those with few enough digits. -/
theorem writable_iff {n : Int} :
    Writable n ↔ (Nat.toDigits 10 n.natAbs).length ≤ digitLimit :=
  lt_pow_iff (by decide)

theorem splitSign_digits {digits : List Char} (h : ∀ d ∈ digits, isDigit d = true) :
    splitSign digits = (false, digits) := by
  rw [splitSign.eq_def]
  split
  · have hminus := h '-' List.mem_cons_self
    exact absurd hminus (by decide)
  · have hplus := h '+' List.mem_cons_self
    exact absurd hplus (by decide)
  · rfl

/-- A sign is split off the digits of a number that is negative, and nothing off the others. -/
theorem splitSign_spell (n : Int) :
    splitSign (spell n) = (decide (n < 0), Nat.toDigits 10 n.natAbs) := by
  cases n with
  | ofNat n =>
    have hnonneg : ¬Int.ofNat n < 0 := Int.not_lt.mpr (Int.natCast_nonneg n)
    rw [spell, splitSign_digits fun c hc => isDigit_of_mem_toDigits hc, decide_eq_false hnonneg]
    rfl
  | negSucc n =>
    rw [decide_eq_true (Int.negSucc_lt_zero n)]
    rfl

theorem withoutSpaces_spell (n : Int) : withoutSpaces (spell n) = spell n := by
  have hdigits : ∀ (m : Nat), ∀ c ∈ Nat.toDigits 10 m, (!isSpace c) = true := by
    intro m c hc
    rw [isSpace_of_isDigit (isDigit_of_mem_toDigits hc), Bool.not_false]
  refine List.filter_eq_self.mpr ?_
  cases n with
  | ofNat n => exact hdigits n
  | negSucc n =>
    intro c hc
    rcases List.mem_cons.mp hc with rfl | hc
    · decide
    · exact hdigits (n + 1) c hc

/-- A number that can be written is what is read from its text. -/
theorem read_spell {n : Int} (h : Writable n) : read (withoutSpaces (spell n)) = .ok n := by
  rw [withoutSpaces_spell, read_of_splitSign (splitSign_spell n) Nat.toDigits_ne_nil
    (fun c hc => isDigit_of_mem_toDigits hc) (writable_iff.mp h), positional_toDigits]
  by_cases hneg : n < 0
  · rw [if_pos (decide_eq_true hneg)]
    congr
    omega
  · rw [if_neg (by simpa using hneg)]
    congr
    omega

/-- What is read is given by digits, of which there are not too many. -/
theorem exists_digits_of_read {text : List Char} {n : Int} (h : read text = .ok n) :
    ∃ digits : List Nat, (∀ d ∈ digits, d < 10) ∧ digits.length ≤ digitLimit ∧
      n.natAbs = positional digits := by
  simp only [read] at h
  split at h
  · cases h
  · split at h
    · cases h
    · rename_i hlength
      split at h
      · cases h
      · refine ⟨_, fun d hd => lt_ten_of_mem_filterMap hd, Nat.not_lt.mp hlength, ?_⟩
        split at h
        · cases h
          exact Int.natAbs_neg _
        · cases h
          rfl

/-- A number that was read can be written. -/
theorem writable_of_read {text : List Char} {n : Int} (h : read text = .ok n) : Writable n := by
  obtain ⟨digits, hdigits, hlength, hn⟩ := exists_digits_of_read h
  rw [Writable, hn]
  exact positional_lt hdigits hlength

end Concatenative.Decimal

namespace Concatenative.Grammar

open Concatenative.Text

theorem numberSpelling_spell (n : Int) : NumberSpelling (Decimal.spell n) := by
  have hdigits : ∀ (m : Nat), ∀ d ∈ Nat.toDigits 10 m, isDigit d = true := fun m d hd =>
    Decimal.isDigit_of_mem_toDigits hd
  cases n with
  | ofNat n => exact ⟨_, Nat.toDigits_ne_nil, hdigits n, Or.inl rfl⟩
  | negSucc n =>
    exact ⟨_, Nat.toDigits_ne_nil, hdigits (n + 1), Or.inr ⟨[], List.forall_mem_nil _, rfl⟩⟩

end Concatenative.Grammar
