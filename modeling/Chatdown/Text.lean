/-!
# Texts

A text is the list of its characters. Programs that hold a `String` turn it into a text at their
edge, with `String.toList`, and back with `String.ofList`.
-/

namespace Chatdown

/-- A text, as the sequence of its characters. -/
abbrev Text := List Char

namespace Text

/-- The number of bytes that the UTF-8 form of a text takes. -/
def byteLength : Text → Nat
  | [] => 0
  | c :: t => c.utf8Size + byteLength t

/-- Puts wordings into one, with a separator between neighbours. -/
abbrev join (separator : Text) (wordings : List Text) : Text := separator.intercalate wordings

/-- What follows `start` in a text, if the text begins with it. -/
def after? : (start : Text) → Text → Option Text
  | [], t => some t
  | _ :: _, [] => none
  | c :: start, d :: t => if c = d then after? start t else none

theorem after?_eq_some_iff {start t rest : Text} :
    after? start t = some rest ↔ t = start ++ rest := by
  induction start generalizing t with
  | nil => simp [after?]
  | cons c start ih =>
    cases t with
    | nil => simp [after?]
    | cons d t =>
      by_cases same : c = d
      · simp [after?, same, ih]
      · simp [after?, same, Ne.symm same]

/-- What follows the first `n` bytes of a text, if a character begins there. -/
def afterBytes? : Nat → Text → Option Text
  | 0, t => some t
  | _ + 1, [] => none
  | n + 1, c :: t => if c.utf8Size ≤ n + 1 then afterBytes? (n + 1 - c.utf8Size) t else none

theorem afterBytes?_eq_some_iff {n : Nat} {t rest : Text} :
    afterBytes? n t = some rest ↔ ∃ earlier, byteLength earlier = n ∧ t = earlier ++ rest := by
  fun_induction afterBytes? n t with
  | case1 t =>
    constructor
    · rintro ⟨⟩
      exact ⟨[], rfl, rfl⟩
    · rintro ⟨earlier, empty, rfl⟩
      cases earlier with
      | nil => rfl
      | cons c earlier =>
        have taken := c.utf8Size_pos
        rw [byteLength] at empty
        omega
  | case2 n =>
    constructor
    · rintro ⟨⟩
    · rintro ⟨earlier, length, same⟩
      rw [(List.append_eq_nil_iff.mp same.symm).1] at length
      cases length
  | case3 n c t fits ih =>
    rw [ih]
    clear ih
    constructor
    · rintro ⟨earlier, length, rfl⟩
      have whole : byteLength (c :: earlier) = n + 1 := by
        rw [byteLength, length]
        omega
      exact ⟨c :: earlier, whole, rfl⟩
    · rintro ⟨earlier, length, same⟩
      cases earlier with
      | nil => cases length
      | cons d earlier =>
        obtain ⟨rfl, rfl⟩ := List.cons.inj same
        rw [byteLength] at length
        exact ⟨earlier, by omega, rfl⟩
  | case4 n c t exceeds =>
    constructor
    · rintro ⟨⟩
    · rintro ⟨earlier, length, same⟩
      cases earlier with
      | nil => cases length
      | cons d earlier =>
        obtain ⟨rfl, _⟩ := List.cons.inj same
        rw [byteLength] at length
        omega

end Text

end Chatdown
