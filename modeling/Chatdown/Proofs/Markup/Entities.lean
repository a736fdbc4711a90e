import Chatdown.Proofs.Markup.Visible
import Chatdown.Proofs.Text.Runs
import Mathlib.Data.List.Basic

/-! # Reading escaped text back

Entities are read once, from left to right. Each character is written so that its written form is
read as that character, whatever follows it, so escaped text is read as the text that was escaped,
also where that text looked escaped before. The value of an attribute is escaped and has no quote in
it, so the attribute ends where the value does.
-/

namespace Chatdown.Markup

private theorem unescape_escape (t : Text) : unescape (escape t) = t := by
  simpa [unescape] using unescape_escape_append t []

private theorem escape_injective : Function.Injective escape :=
  Function.LeftInverse.injective unescape_escape

theorem length_unescape_le (t : Text) : (unescape t).length ≤ t.length := by
  fun_induction unescape t with
  | case6 => exact Nat.le_refl 0
  | _ => simp only [List.length_cons]; omega

/-- An entity is read as one character, and is longer than that. -/
theorem length_unescape_entity_lt {e : Text} (known : e ∈ entities) (t : Text) :
    (unescape (e ++ t)).length < (e ++ t).length := by
  have rest := length_unescape_le t
  simp only [entities, List.mem_cons, List.not_mem_nil, or_false] at known
  rcases known with rfl | rfl | rfl | rfl <;>
    simp [unescape] <;> omega

private theorem unescape_cons_of_bare {c : Char} {t : Text}
    (other : ∀ e ∈ entities, ¬ e <+: c :: t) : unescape (c :: t) = c :: unescape t := by
  rw [unescape] <;> rintro rest rfl rfl
  · exact other "&quot;".toList (by decide) ⟨rest, rfl⟩
  · exact other "&amp;".toList (by decide) ⟨rest, rfl⟩
  · exact other "&lt;".toList (by decide) ⟨rest, rfl⟩
  · exact other "&gt;".toList (by decide) ⟨rest, rfl⟩

/-- Reading entities leaves a text as it is exactly if it holds none. -/
theorem unescape_eq_self_iff {t : Text} : unescape t = t ↔ ∀ e ∈ entities, ¬ e <:+: t := by
  induction t with
  | nil => simp [unescape, entities]
  | cons c t ih =>
    by_cases found : ∃ e ∈ entities, e <+: c :: t
    · obtain ⟨e, known, rest, same⟩ := found
      rw [← same]
      have shorter := length_unescape_entity_lt known rest
      constructor
      · intro unchanged
        rw [unchanged] at shorter
        exact absurd shorter (Nat.lt_irrefl _)
      · intro none
        exact absurd (List.prefix_append e rest).isInfix (none e known)
    · have other : ∀ e ∈ entities, ¬ e <+: c :: t := fun e known start => found ⟨e, known, start⟩
      rw [unescape_cons_of_bare other, List.cons_inj_right, ih]
      refine forall₂_congr fun e known => ?_
      rw [List.infix_cons_iff, or_iff_right (other e known)]

/-- Escaping leaves a text as it is exactly if there is nothing to escape in it. -/
theorem escape_eq_self_iff {t : Text} : escape t = t ↔ ∀ c ∈ t, isSpecial c = false := by
  refine ⟨fun same c member => ?_, escape_of_ordinary⟩
  have bare : ∀ e ∈ entities, ¬ e <:+: t := by
    rw [← unescape_eq_self_iff]
    calc
      unescape t = unescape (escape t) := by rw [same]
      _ = t := unescape_escape t
  rw [Bool.eq_false_iff]
  intro special
  have written : escapeChar c <:+: escape t := List.infix_flatMap_of_mem member escapeChar
  rw [same] at written
  exact bare _ (escapeChar_mem_entities special) written

/-! ## Values of attributes -/

/-- What a reader takes from the first `value` attribute of a text: its value, which goes to the
next quote, and the text after that quote. -/
def readValue : Text → Option (Text × Text)
  | 'v' :: 'a' :: 'l' :: 'u' :: 'e' :: '=' :: '"' :: t =>
    match t.dropWhile (· != '"') with
    | [] => none
    | _ :: rest => some (unescape (t.takeWhile (· != '"')), rest)
  | _ :: t => readValue t
  | [] => none

private theorem readValue_append {s : Text} (before : 'v' ∉ s) (t : Text) :
    readValue (s ++ t) = readValue t := by
  induction s with
  | nil => rfl
  | cons c s ih =>
    simp only [List.mem_cons, not_or] at before
    rw [List.cons_append, readValue, ih before.2]
    rintro rest rfl
    exact absurd rfl before.1

private theorem readValue_value {raw : Text} (noQuote : '"' ∉ raw) (rest : Text) :
    readValue ("value=\"".toList ++ (raw ++ '"' :: rest)) = some (unescape raw, rest) := by
  have inside : ∀ c ∈ raw, (c != '"') = true := fun c member =>
    bne_iff_ne.mpr fun same => noQuote (same ▸ member)
  have outside : ∀ c ∈ ('"' :: rest).head?, (c != '"') = false := by
    rintro c ⟨⟩
    rfl
  change readValue ('v' :: 'a' :: 'l' :: 'u' :: 'e' :: '=' :: '"' :: (raw ++ '"' :: rest)) = _
  rw [readValue, Text.dropWhile_run inside outside, Text.takeWhile_run inside outside]

/-- A value is read as it was given, however it looks, and so is what follows its attribute. -/
theorem readValue_link {type : Text} (before : 'v' ∉ type) (value content : Text) :
    readValue (link type value content) = some (value, '>' :: content ++ "</link>".toList) := by
  have cut : link type value content =
      ("<link type=\"".toList ++ type ++ "\" ".toList) ++
        ("value=\"".toList ++ (escape value ++ '"' :: ('>' :: content ++ "</link>".toList))) := by
    unfold link
    simp
  have noQuote : '"' ∉ escape value := not_mem_escape rfl (by decide) value
  rw [cut, readValue_append (by simp [before]), readValue_value noQuote, unescape_escape]

/-- Escaped text and the values of links and mentions can be read back, and escaping again leaves
only text without special characters as it is. -/
theorem escape_readBack :
    (∀ t, unescape (escape t) = t) ∧
    Function.Injective escape ∧
    (∀ t, escape (escape t) = escape t ↔ ∀ c ∈ t, c ≠ '"' ∧ c ≠ '&' ∧ c ≠ '<' ∧ c ≠ '>') ∧
    (∀ url content, readValue (inlineLink url content) =
      some (url, '>' :: content ++ "</link>".toList)) ∧
    ∀ kind id name, readValue (mention kind id name) =
      some (id, '>' :: name ++ "</link>".toList) := by
  refine ⟨unescape_escape, escape_injective, fun t => ?_, fun url content => ?_,
    fun kind id name => ?_⟩
  · rw [escape_injective.eq_iff, escape_eq_self_iff]
    refine forall₂_congr fun c _ => ?_
    rw [← Bool.not_eq_true, isSpecial_iff]
    simp only [not_or, ne_eq]
  · exact readValue_link (by decide) url content
  · have before : 'v' ∉ kind.name := by cases kind <;> decide
    exact readValue_link before id name

end Chatdown.Markup
