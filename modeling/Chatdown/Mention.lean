import Chatdown.Manager
import Chatdown.Markup

/-!
# Mentions

A mention token is an `@` with the longest run of name characters after it. A text is cut into
its tokens and the characters between them once, and each token whose name is known becomes a
mention of that manager; what is put in its place is never read again.
-/

namespace Chatdown.Mention

/-- Tests for a character of user names: an ASCII letter or digit, `_` or `-`. -/
def isNameChar (c : Char) : Bool := c.isAlphanum || c == '_' || c == '-'

/-- A character that stands for itself, or the name of a mention token. -/
inductive Piece where
  | char (c : Char)
  | token (name : Text)
  deriving DecidableEq, Repr

/-- Cuts a text into mention tokens and other characters. -/
def pieces : Text → List Piece
  | [] => []
  | c :: rest =>
    if c = '@' && rest.takeWhile isNameChar ≠ [] then
      .token (rest.takeWhile isNameChar) :: pieces (rest.dropWhile isNameChar)
    else
      .char c :: pieces rest
termination_by t => t.length
decreasing_by
  all_goals simp only [List.length_cons]
  · exact Nat.lt_succ_of_le (List.dropWhile_sublist isNameChar).length_le
  · exact Nat.lt_succ_self _

/-- What a piece becomes when names are looked up in lower case by `find?`. -/
def Piece.fill (find? : Text → Option Manager) : Piece → Text
  | .char c => [c]
  | .token name =>
    match find? name.lower with
    | some m => Markup.mention .manager m.id m.name
    | none => '@' :: name

/-- Replaces the mention tokens of a text whose names are known. -/
def substitute (find? : Text → Option Manager) (t : Text) : Text :=
  (pieces t).flatMap (Piece.fill find?)

end Chatdown.Mention
