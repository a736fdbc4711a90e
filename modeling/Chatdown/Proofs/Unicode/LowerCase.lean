import Chatdown.Unicode.LowerCase

/-! # Lower case of lower case

A text in lower case is its own lower-case form. For single characters this is a fact about the
table: none of its rows leads to a character that a row, its own included, takes elsewhere. The two
characters that depend on more than the table, `Σ` and `İ`, become characters of which the same is
true, and nothing becomes one of these two.
-/

namespace Chatdown

namespace Unicode

namespace CaseShift

variable {r s : CaseShift} {n : Nat}

/-- The code points that a mapping speaks about. -/
def points (s : CaseShift) : List Nat :=
  (List.range ((s.last - s.first) / s.step + 1)).map fun i => s.first + s.step * i

theorem covers_iff : s.covers n = true ↔
    s.first ≤ n ∧ n ≤ s.last ∧ (n - s.first) % s.step = 0 := by
  simp only [covers, Bool.and_eq_true, decide_eq_true_eq, beq_iff_eq, and_assoc]

private theorem mem_points (covered : s.covers n = true) : n ∈ s.points := by
  obtain ⟨low, high, aligned⟩ := covers_iff.mp covered
  refine List.mem_map.mpr ⟨(n - s.first) / s.step, ?_, ?_⟩
  · rw [List.mem_range, Nat.lt_succ_iff]
    exact Nat.div_le_div_right (Nat.sub_le_sub_right high s.first)
  · have whole := Nat.div_add_mod (n - s.first) s.step
    omega

/-- Tests whether no code point of one mapping is taken to one of another. Points are compared only
if the intervals meet. -/
def avoids (r s : CaseShift) : Bool :=
  Nat.blt (r.target r.last) s.first || Nat.blt s.last (r.target r.first) ||
    r.points.all fun n => !s.covers (r.target n)

private theorem covers_target (avoided : r.avoids s = true) (covered : r.covers n = true) :
    s.covers (r.target n) = false := by
  obtain ⟨low, high, _⟩ := covers_iff.mp covered
  have lowest : r.target r.first ≤ r.target n := by simp only [target]; omega
  have highest : r.target n ≤ r.target r.last := by simp only [target]; omega
  rw [Bool.eq_false_iff, ne_eq, covers_iff]
  rintro ⟨above, below, aligned⟩
  simp only [avoids, Bool.or_eq_true, Nat.blt_eq] at avoided
  rcases avoided with (before | after) | apart
  · omega
  · omega
  · have other := List.all_eq_true.mp apart n (mem_points covered)
    simp [covers_iff.mpr ⟨above, below, aligned⟩] at other

end CaseShift

/-- The mappings of all characters that have another lower-case form: the letters of ASCII, `İ`,
which becomes two characters, and those of the table. -/
def capitals : List CaseShift := ⟨0x41, 0x5A, 1, 32⟩ :: ⟨0x130, 0x130, 1, 0⟩ :: lowerShifts

private theorem lowerShifts_avoid_capitals :
    (lowerShifts.all fun r => capitals.all fun s => r.avoids s) = true := by
  decide +kernel

/-- A character that is its own lower-case form, wherever it stands. -/
def IsLower (c : Char) : Prop := ∀ s ∈ capitals, s.covers c.toNat = false

instance (c : Char) : Decidable (IsLower c) := List.decidableBAll _ capitals

theorem isLower_iff {c : Char} : IsLower c ↔
    ¬ (0x41 ≤ c.toNat ∧ c.toNat ≤ 0x5A) ∧ c ≠ 'İ' ∧ ∀ s ∈ lowerShifts, s.covers c.toNat = false := by
  have letter : CaseShift.covers ⟨0x41, 0x5A, 1, 32⟩ c.toNat = false ↔
      ¬ (0x41 ≤ c.toNat ∧ c.toNat ≤ 0x5A) := by
    rw [Bool.eq_false_iff, ne_eq, CaseShift.covers_iff]
    simp only [Nat.mod_one, and_true]
  have dotted : CaseShift.covers ⟨0x130, 0x130, 1, 0⟩ c.toNat = false ↔ c ≠ 'İ' := by
    rw [Bool.eq_false_iff]
    apply not_congr
    rw [CaseShift.covers_iff]
    constructor
    · rintro ⟨low, high, _⟩
      exact Char.toNat_inj.mp (Nat.le_antisymm high low)
    · rintro rfl
      decide
  rw [IsLower, capitals, List.forall_mem_cons, List.forall_mem_cons, letter, dotted]

theorem IsLower.lowerChar_eq {c : Char} (lower : IsLower c) : lowerChar c = c := by
  obtain ⟨notAscii, _, notCovered⟩ := isLower_iff.mp lower
  rw [lowerChar]
  by_cases ascii : c.toNat < 128
  · have each : ∀ n, n < 128 → ¬ (0x41 ≤ n ∧ n ≤ 0x5A) →
        (Char.ofNat n).toLower = Char.ofNat n := by decide
    have same := each c.toNat ascii notAscii
    rw [Char.ofNat_toNat] at same
    rw [if_pos ascii, same]
  · have none : lowerShifts.find? (·.covers c.toNat) = none := by simpa using notCovered
    rw [if_neg ascii, mapCase, none]

/-- A letter of ASCII stays in ASCII, and the table speaks about no such character. -/
theorem isLower_toLower {c : Char} (ascii : c.toNat < 128) : IsLower c.toLower := by
  have each : ∀ n, n < 128 → (Char.ofNat n).toLower.toNat < 128 ∧
      ¬ (0x41 ≤ (Char.ofNat n).toLower.toNat ∧ (Char.ofNat n).toLower.toNat ≤ 0x5A) := by decide
  have beyond : ∀ s ∈ lowerShifts, 128 ≤ s.first := by decide +kernel
  obtain ⟨small, notLetter⟩ := each c.toNat ascii
  rw [Char.ofNat_toNat] at small notLetter
  refine isLower_iff.mpr ⟨notLetter, ?_, ?_⟩
  · intro same
    rw [same] at small
    exact absurd small (by decide)
  · intro s member
    rw [Bool.eq_false_iff, ne_eq, CaseShift.covers_iff]
    have first := beyond s member
    omega

/-- A number that is no code point stands for the first character. -/
theorem toNat_ofNat (n : Nat) : (Char.ofNat n).toNat = n ∨ (Char.ofNat n).toNat = 0 := by
  by_cases valid : n.isValidChar
  · exact .inl (congrArg Char.toNat (dif_pos valid))
  · exact .inr (congrArg Char.toNat (dif_neg valid))

private theorem isLower_target {r : CaseShift} (row : r ∈ lowerShifts) {n : Nat}
    (covered : r.covers n = true) : IsLower (Char.ofNat (r.target n)) := by
  intro s member
  have avoided : r.avoids s = true :=
    List.all_eq_true.mp (List.all_eq_true.mp lowerShifts_avoid_capitals r row) s member
  rcases toNat_ofNat (r.target n) with same | zero
  · rw [same]
    exact CaseShift.covers_target avoided covered
  · have none : ∀ s ∈ capitals, s.covers 0 = false := by decide +kernel
    rw [zero]
    exact none s member

private theorem isLower_lowerChar {c : Char} (notDotted : c ≠ 'İ') : IsLower (lowerChar c) := by
  rw [lowerChar]
  split
  · rename_i ascii
    exact isLower_toLower ascii
  · rename_i beyond
    rw [mapCase]
    split
    · rename_i row found
      have covered := List.find?_some found
      exact isLower_target (List.mem_of_find?_eq_some found) covered
    · rename_i none
      refine isLower_iff.mpr ⟨by omega, notDotted, ?_⟩
      simpa using none

end Unicode

namespace Text

open Unicode

private theorem isLower_of_mem_lowerFrom {before t : Text} :
    ∀ c ∈ lowerFrom before t, IsLower c := by
  induction t generalizing before with
  | nil => exact List.forall_mem_nil _
  | cons c t ih =>
    rw [lowerFrom]
    split
    · -- Both small sigmas are in lower case.
      rw [List.forall_mem_cons]
      refine ⟨?_, ih⟩
      split
      · decide +kernel
      · decide +kernel
    · split
      · rw [List.forall_mem_cons, List.forall_mem_cons]
        exact ⟨by decide +kernel, by decide +kernel, ih⟩
      · rename_i notDotted
        rw [List.forall_mem_cons]
        exact ⟨isLower_lowerChar notDotted, ih⟩

private theorem lowerFrom_of_isLower {t : Text} (lower : ∀ c ∈ t, IsLower c) (before : Text) :
    lowerFrom before t = t := by
  induction t generalizing before with
  | nil => rfl
  | cons c t ih =>
    rw [List.forall_mem_cons] at lower
    have notSigma : c ≠ 'Σ' := by
      rintro rfl
      exact absurd lower.1 (by decide)
    have notDotted : c ≠ 'İ' := (isLower_iff.mp lower.1).2.1
    rw [lowerFrom, if_neg notSigma, if_neg notDotted, lower.1.lowerChar_eq, ih lower.2]

/-- Lower case of lower case is the same. -/
theorem lower_lower (t : Text) : t.lower.lower = t.lower :=
  lowerFrom_of_isLower isLower_of_mem_lowerFrom []

end Text

end Chatdown
