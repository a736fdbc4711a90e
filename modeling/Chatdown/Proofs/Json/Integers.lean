import Chatdown.Json.Number
import Chatdown.Json.Printer

/-! # Written integers

An integer of 64 bits is written without leading zeros, and its digits are read back without being
rounded or cut. Unlike strings, numbers have no end of their own: what follows them must not go on
like a number.
-/

namespace Chatdown.Json

private theorem natural_of_lt {n : Nat} (small : n < 10) : natural n = [n.digitChar] :=
  Nat.toDigits_of_lt_base small

private theorem natural_of_le {n : Nat} (large : 10 ≤ n) :
    natural n = natural (n / 10) ++ [(n % 10).digitChar] :=
  Nat.toDigits_of_base_le (by decide) large

theorem natural_ne_nil (n : Nat) : natural n ≠ [] := Nat.toDigits_ne_nil

theorem isDigit_of_mem_natural {n : Nat} {c : Char} (member : c ∈ natural n) :
    c.isDigit = true :=
  Nat.isDigit_of_mem_toDigits (by decide) (by decide) member

/-- Only zero is written with a zero in front. -/
theorem head_natural_ne_zero {n : Nat} (positive : 0 < n) : (natural n).head? ≠ some '0' := by
  induction n using Nat.strongRecOn with
  | ind n ih =>
    by_cases small : n < 10
    · rw [natural_of_lt small, List.head?_cons]
      intro zero
      have same : n = 0 := Nat.digitChar_eq_zero.mp (Option.some.inj zero)
      omega
    · have large : 10 ≤ n := by omega
      have front := ih (n / 10) (by omega) (by omega)
      rw [natural_of_le large, List.head?_append]
      cases found : (natural (n / 10)).head? with
      | none => exact absurd (List.head?_eq_none_iff.mp found) (natural_ne_nil _)
      | some c =>
        rw [found] at front
        exact front

namespace NumberScan

/-- Tests for a character that the digits of a number may go on with. -/
def continuesNumber (c : Char) : Bool := c.isDigit || c == '.' || c == 'e' || c == 'E'

/-- What may follow a number: nothing that the number could go on with. -/
def EndsNumber (rest : Text) : Prop := ∀ c ∈ rest.head?, continuesNumber c = false

theorem EndsNumber.cons {c : Char} (stop : continuesNumber c = false) (rest : Text) :
    EndsNumber (c :: rest) := by
  intro d same
  cases same
  exact stop

/-- The integers that are read as such. -/
def IsWide (n : Int) : Prop := -(Nat.pow 2 63 : Nat) ≤ n ∧ n ≤ maxNatural

private theorem addDigits_append {start significand : Nat} {digits : Text}
    (fits : addDigits start digits = (significand, 0)) (more : Text) :
    addDigits start (digits ++ more) = addDigits significand more := by
  induction digits generalizing start with
  | nil =>
    cases fits
    rfl
  | cons c digits ih =>
    simp only [addDigits] at fits
    simp only [List.cons_append, addDigits]
    split at fits
    · rename_i small
      rw [if_pos small]
      exact ih fits
    · cases fits

/-- The digits of a number that fits are added up to the number, and none is left. -/
theorem addDigits_natural {n : Nat} (fits : n ≤ maxNatural) : addDigits 0 (natural n) = (n, 0) := by
  have digit : ∀ m k : Nat, k < 10 → 10 * m + k ≤ maxNatural →
      addDigits m [k.digitChar] = (10 * m + k, 0) := by
    intro m k small fits
    have value : digitValue k.digitChar = k := Nat.toNat_digitChar_sub_48_of_lt_ten small
    simp only [addDigits, value]
    rw [if_pos fits]
  induction n using Nat.strongRecOn with
  | ind n ih =>
    by_cases small : n < 10
    · have last := digit 0 n small (by omega)
      rw [Nat.mul_zero, Nat.zero_add] at last
      rw [natural_of_lt small, last]
    · have front := ih (n / 10) (by omega) (by omega)
      have last := digit (n / 10) (n % 10) (by omega) (by omega)
      rw [natural_of_le (by omega), addDigits_append front, last]
      congr 1
      omega

private theorem takeWhile_natural (n : Nat) {rest : Text} (stop : EndsNumber rest) :
    (natural n ++ rest).takeWhile Char.isDigit = natural n := by
  rw [List.takeWhile_append_of_pos fun c member => isDigit_of_mem_natural member]
  cases rest with
  | nil => rw [List.takeWhile_nil, List.append_nil]
  | cons c rest =>
    have notDigit : c.isDigit = false := by
      have ends := stop c rfl
      simp only [continuesNumber, Bool.or_eq_false_iff] at ends
      exact ends.1.1.1
    rw [List.takeWhile_cons_of_neg (by simp [notDigit]), List.append_nil]

private theorem readExponent_of_ends (size : Nat) (negative : Bool) (whole fraction : Text)
    {rest : Text}
    (stop : EndsNumber rest) : readExponent size negative whole fraction rest =
      .complete size (ofParts size negative whole fraction none) := by
  cases rest with
  | nil => rfl
  | cons c rest =>
    have ends := stop c rfl
    simp only [continuesNumber, Bool.or_eq_false_iff, beq_eq_false_iff_ne] at ends
    have noExponent : ¬ (c = 'e' || c = 'E') = true := by simp [ends.1.2, ends.2]
    simp only [readExponent, if_neg noExponent]

private theorem ofParts_natural (size : Nat) (negative : Bool) {n : Nat} (fits : n ≤ maxNatural) :
    ofParts size negative (natural n) [] none = .ok (ofInteger negative n) := by
  simp only [ofParts, addDigits_natural fits, addDigits]
  rfl

private theorem not_leadingZero (n : Nat) :
    ¬ ((natural n).head? = some '0' && 1 < (natural n).length) = true := by
  simp only [Bool.and_eq_true, decide_eq_true_eq, not_and]
  intro zero
  have same : n = 0 := Nat.eq_zero_of_not_pos fun positive => head_natural_ne_zero positive zero
  rw [same]
  decide

/-- A natural number is read with its sign, up to the last digit. -/
theorem read_natural (negative : Bool) {n : Nat} (fits : n ≤ maxNatural) {rest : Text}
    (stop : EndsNumber rest) :
    read ((if negative then ['-'] else []) ++ natural n ++ rest) =
      .complete ((if negative then 1 else 0) + (natural n).length)
        (.ok (ofInteger negative n)) := by
  obtain ⟨first, others, digits⟩ := List.exists_cons_of_ne_nil (natural_ne_nil n)
  have isDigit : first.isDigit = true :=
    isDigit_of_mem_natural (digits ▸ List.mem_cons_self ..)
  have sign : (((if negative then ['-'] else []) ++ natural n ++ rest).head? = some '-') ↔
      negative = true := by
    cases negative with
    | true => simp
    | false =>
      have notMinus : first ≠ '-' := by rintro rfl; exact absurd isDigit (by decide)
      simp [digits, notMinus]
  have unsigned : ((if negative then ['-'] else []) ++ natural n ++ rest).drop
      (if negative then 1 else 0) = natural n ++ rest := by
    cases negative <;> rfl
  have rests : (natural n ++ rest).drop (natural n).length = rest := List.drop_left
  simp only [read, sign, Bool.decide_eq_true, unsigned, takeWhile_natural n stop, rests,
    if_neg (natural_ne_nil n), if_neg (not_leadingZero n)]
  split
  · exact absurd (stop '.' rfl) (by decide)
  · rw [readExponent_of_ends _ _ _ _ stop, ofParts_natural _ _ fits]

/-- An integer of 64 bits is read as itself, up to the last digit. -/
theorem read_integerText {n : Int} (wide : IsWide n) {rest : Text} (stop : EndsNumber rest) :
    read (integerText n ++ rest) = .complete (integerText n).length (.ok (.integer n)) := by
  obtain ⟨low, high⟩ := wide
  cases n with
  | ofNat n =>
    have fits : n ≤ maxNatural := Int.ofNat_le.mp high
    have same := read_natural false fits stop
    simp only [Bool.false_eq_true, if_false, List.nil_append, Nat.zero_add] at same
    exact same
  | negSucc n =>
    have small : n + 1 ≤ Nat.pow 2 63 := Int.ofNat_le.mp (Int.neg_le_neg_iff.mp low)
    have fits : n + 1 ≤ maxNatural := Nat.le_trans small (by decide)
    have range : (1 ≤ n + 1 && n + 1 ≤ Nat.pow 2 63) = true := by
      simp only [Bool.and_eq_true, decide_eq_true_eq]
      exact ⟨Nat.succ_pos n, small⟩
    have value : ofInteger true (n + 1) = .integer (.negSucc n) := by
      simp only [ofInteger, range]
      rfl
    have same := read_natural true fits stop
    rw [value, if_pos rfl, if_pos rfl, Nat.add_comm 1] at same
    exact same

end NumberScan

end Chatdown.Json
