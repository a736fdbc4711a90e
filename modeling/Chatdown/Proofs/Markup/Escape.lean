import Chatdown.Markup
import Chatdown.Proofs.Text.Runs

/-! # Escaped text

Four characters belong to markup itself, and each has an entity in which it is written as text.
Escaping works on single characters, so every law about it is a law about one character and one
about what follows.
-/

namespace Chatdown.Markup

/-- Tests for a character that markup uses itself. -/
def isSpecial (c : Char) : Bool := c == '"' || c == '&' || c == '<' || c == '>'

def entities : List Text := ["&quot;".toList, "&amp;".toList, "&lt;".toList, "&gt;".toList]

theorem isSpecial_iff {c : Char} :
    isSpecial c = true ↔ c = '"' ∨ c = '&' ∨ c = '<' ∨ c = '>' := by
  simp [isSpecial, or_assoc]

theorem escapeChar_of_ordinary {c : Char} (ordinary : isSpecial c = false) :
    escapeChar c = [c] := by
  simp only [isSpecial, Bool.or_eq_false_iff, beq_eq_false_iff_ne] at ordinary
  obtain ⟨⟨⟨quote, ampersand⟩, less⟩, greater⟩ := ordinary
  simp only [escapeChar, quote, ampersand, less, greater, if_false]

theorem escapeChar_mem_entities {c : Char} (special : isSpecial c = true) :
    escapeChar c ∈ entities := by
  rcases isSpecial_iff.mp special with rfl | rfl | rfl | rfl <;> decide

@[simp] theorem escape_nil : escape [] = [] := rfl

@[simp] theorem escape_cons (c : Char) (t : Text) : escape (c :: t) = escapeChar c ++ escape t :=
  List.flatMap_cons

@[simp] theorem escape_append (s t : Text) : escape (s ++ t) = escape s ++ escape t :=
  List.flatMap_append

theorem escape_of_ordinary {t : Text} (ordinary : ∀ c ∈ t, isSpecial c = false) :
    escape t = t := by
  induction t with
  | nil => rfl
  | cons c t ih =>
    have head := escapeChar_of_ordinary (ordinary c (List.mem_cons_self ..))
    have tail := ih fun d member => ordinary d (List.mem_cons_of_mem c member)
    rw [escape_cons, head, tail, List.singleton_append]

/-- Text of a class that has none of the four characters. -/
theorem escape_of_class {p : Char → Bool} {t : Text} (inside : ∀ c ∈ t, p c = true)
    (apart : "\"&<>".toList.all (!p ·) = true) : escape t = t := by
  refine escape_of_ordinary fun c member => ?_
  rw [Bool.eq_false_iff]
  intro special
  have listed : c ∈ "\"&<>".toList := by simpa using isSpecial_iff.mp special
  exact Text.not_mem_of_outside apart (inside c member) listed

/-- Entities begin with the only special character in them, so no other is in escaped text. -/
theorem not_mem_escape {c : Char} (special : isSpecial c = true) (other : c ≠ '&') (t : Text) :
    c ∉ escape t := by
  have onlyAmpersand : ∀ e ∈ entities, ∀ d ∈ e, isSpecial d = true → d = '&' := by
    simp [entities, isSpecial]
  intro member
  obtain ⟨d, _, written⟩ := List.mem_flatMap.mp member
  cases known : isSpecial d with
  | true => exact other (onlyAmpersand _ (escapeChar_mem_entities known) c written special)
  | false =>
    rw [escapeChar_of_ordinary known, List.mem_singleton] at written
    rw [written, known] at special
    cases special

end Chatdown.Markup
