import Chatdown.Proofs.Mention.Pieces

/-! # Names that are looked up

Names of tokens are ASCII, where lower case is a matter of single characters. Looking up a token
therefore asks for a lower-case name, and no other key of a directory is ever seen.
-/

namespace Chatdown

namespace Text

/-- The lower-case form of an ASCII text has no exceptions. -/
theorem lower_of_ascii {t : Text} (ascii : ∀ c ∈ t, c.toNat < 128) :
    t.lower = t.map Char.toLower := by
  have from_ : ∀ before, lowerFrom before t = t.map Char.toLower := by
    induction t with
    | nil => exact fun _ => rfl
    | cons c t ih =>
      intro before
      have small := ascii c (List.mem_cons_self ..)
      have noSigma : c ≠ 'Σ' := by rintro rfl; exact absurd small (by decide)
      have noDot : c ≠ 'İ' := by rintro rfl; exact absurd small (by decide)
      have tail := ih (fun d member => ascii d (List.mem_cons_of_mem c member)) (c :: before)
      rw [lowerFrom, if_neg noSigma, if_neg noDot, tail, Unicode.lowerChar, if_pos small,
        List.map_cons]
  exact from_ []

end Text

namespace Mention

def isLowerNameChar (c : Char) : Bool := c.isLower || c.isDigit || c == '_' || c == '-'

/-- A name as it is looked up. -/
def IsLowerName (name : Text) : Prop := name ≠ [] ∧ ∀ c ∈ name, isLowerNameChar c = true

private theorem ascii_of_isNameChar {c : Char} (name : isNameChar c = true) : c.toNat < 128 := by
  have bound : ∀ d : Char, d.toNat < 128 → c.val ≤ d.val → c.toNat < 128 := fun d small below =>
    Nat.lt_of_le_of_lt (UInt32.le_iff_toNat_le.mp below) small
  have kinds : (((c.isUpper || c.isLower) || c.isDigit) || c == '_' || c == '-') = true := name
  simp only [Bool.or_eq_true, beq_iff_eq] at kinds
  rcases kinds with (((upper | lower) | digit) | rfl) | rfl
  · exact bound 'Z' (by decide) (of_decide_eq_true upper).2
  · exact bound 'z' (by decide) (of_decide_eq_true (Bool.and_eq_true_iff.mp lower).2)
  · exact bound '9' (by decide) (of_decide_eq_true (Bool.and_eq_true_iff.mp digit).2)
  · decide
  · decide

private theorem isLowerNameChar_toLower {c : Char} (name : isNameChar c = true) :
    isLowerNameChar c.toLower = true := by
  have each : ∀ n, n < 128 → isNameChar (Char.ofNat n) = true →
      isLowerNameChar (Char.ofNat n).toLower = true := by decide
  have same := each c.toNat (ascii_of_isNameChar name)
  rw [Char.ofNat_toNat] at same
  exact same name

theorem IsName.lower_eq {name : Text} (known : IsName name) :
    name.lower = name.map Char.toLower :=
  Text.lower_of_ascii fun c member => ascii_of_isNameChar (known.2 c member)

theorem IsName.isLowerName_lower {name : Text} (known : IsName name) :
    IsLowerName name.lower := by
  rw [known.lower_eq]
  refine ⟨by simpa using known.1, ?_⟩
  intro c member
  obtain ⟨d, inside, rfl⟩ := List.mem_map.mp member
  exact isLowerNameChar_toLower (known.2 d inside)

end Mention

end Chatdown
