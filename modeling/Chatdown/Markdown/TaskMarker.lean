import Chatdown.Document
import Chatdown.Markdown.Character

/-!
# Task markers

A list item is a task if its first paragraph begins with a box in brackets, `[ ]` or `[x]`.
-/

namespace Chatdown.Markdown.TaskMarker

/-- What follows the box at the start of a text, without the space after it. -/
def after? (t : Text) : Option Text :=
  match t.dropWhile isGap with
  | '[' :: c :: ']' :: t =>
    if c = ' ' || c = 'x' || c = 'X' then
      match t with
      | [] => some []
      | d :: t => if isGap d then some t else none
    else none
  | _ => none

/-- The texts at the start of a list of nodes, joined, and the nodes after them. -/
def leadingText : List Inline → Text × List Inline
  | .text t :: is => (t ++ (leadingText is).1, (leadingText is).2)
  | is => ([], is)

/-- The content of a paragraph after the box that it begins with. -/
def contentAfter? (content : List Inline) : Option (List Inline) :=
  let (start, rest) := leadingText content
  (after? start).map fun t => .text t :: rest

end Chatdown.Markdown.TaskMarker
