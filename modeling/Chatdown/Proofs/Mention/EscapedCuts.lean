import Chatdown.Proofs.Mention.Cuts

/-! # Cuts of escaped texts

What a text is cut into does not change when it is escaped: entities neither begin nor end a token,
and tokens have nothing to escape. So the cut of an escaped text is that of the text with its gaps
escaped, and substitution in an escaped text puts mentions exactly where the text itself has tokens.
-/

namespace Chatdown.Mention

open Markup

namespace Cut

def escaped (cut : Cut) : Cut :=
  ⟨escape cut.start, cut.tokens.map fun (name, gap) => (name, escape gap)⟩

private theorem ofPieces_escaped (pieces : List Piece) :
    ofPieces (pieces.flatMap Piece.escaped) = (ofPieces pieces).escaped := by
  induction pieces with
  | nil => rfl
  | cons piece pieces ih =>
    rw [List.flatMap_cons]
    cases piece with
    | char c =>
      rw [Piece.escaped, ofPieces_chars, ih, ofPieces]
      simp only [escaped, escape_cons]
    | token name =>
      rw [Piece.escaped, List.singleton_append, ofPieces, ih, ofPieces]
      rfl

/-- The cut of an escaped text is the cut of the text with its gaps escaped. -/
theorem IsOf.escaped {cut : Cut} {t : Text} (isOf : cut.IsOf t) : cut.escaped.IsOf (escape t) := by
  have whole := isOf_ofPieces (escape t)
  rwa [pieces_escape, ofPieces_escaped, ← isOf.eq_ofPieces] at whole

end Cut

/-- Substitution in an escaped text escapes the gaps of the text and puts the mention of a manager
in the place of each of its tokens whose name is known. The gaps and tokens of the escaped text are
no others than these. -/
theorem substitute_escaped_cut (find? : Text → Option Manager) (t : Text) :
    ∃ cut : Cut, (cut.IsOf t ∧ ∀ other : Cut, other.IsOf t → other = cut) ∧
      (cut.escaped.IsOf (escape t) ∧
        ∀ other : Cut, other.IsOf (escape t) → other = cut.escaped) ∧
      substitute find? (escape t) = cut.escaped.filled find? := by
  have isOf := Cut.isOf_ofPieces t
  refine ⟨Cut.ofPieces (pieces t), ⟨isOf, fun other => Cut.IsOf.eq_ofPieces⟩,
    ⟨isOf.escaped, fun other otherIsOf => ?_⟩, ?_⟩
  · rw [otherIsOf.eq_ofPieces, isOf.escaped.eq_ofPieces]
  · rw [substitute, pieces_escape, ← Cut.filled_ofPieces, Cut.ofPieces_escaped]

/-- The letters of an entity that stands before an `@` or after a name belong to no token. -/
example : Cut.ofPieces (pieces (escape "&@amp<@lt;".toList)) =
    ⟨"&amp;".toList, [("amp".toList, "&lt;".toList), ("lt".toList, [';'])]⟩ := by
  decide +kernel

end Chatdown.Mention
