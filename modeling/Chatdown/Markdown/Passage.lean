import Chatdown.Document

/-!
# Passages

The source of the inline content of one block, put together from the lines of a document, with
what is needed to tell where its characters stand in the document.
-/

namespace Chatdown.Markdown

/-- The source of inline content. -/
structure Passage where
  text : Text
  /-- The line of the document on which the content begins. -/
  line : Nat
  /-- For each line of the content, how many bytes of the document's line come before it. -/
  margins : List Nat
  deriving Repr

namespace Passage

/-- The place of the byte with the given number, from 0, on a line of the content. -/
def position (p : Passage) (line width : Nat) : Position :=
  ⟨p.line + line, p.margins.getD line 0 + width + 1⟩

end Passage

end Chatdown.Markdown
