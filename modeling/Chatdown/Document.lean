import Chatdown.Text

/-!
# Documents

The tree of a Markdown document. Blocks are kept apart from inline content, and a block tree is
generic in what stands for the content of its paragraphs, headings and table cells: their source
while the blocks are being found, and inline nodes in a document that has been read.
-/

namespace Chatdown

/-- A place in a source: the line, counted from 1, and the byte of that line, counted from 1. -/
structure Position where
  line : Nat
  column : Nat
  deriving DecidableEq, Repr

/-- Inline content. -/
inductive Inline where
  | text (literal : Text)
  | softBreak
  | hardBreak
  | code (literal : Text)
  | html (literal : Text)
  | emphasis (children : List Inline)
  | strong (children : List Inline)
  | strikethrough (children : List Inline)
  /-- A link and where it starts; URLs that are recognised in running text have no place. -/
  | link (url : Text) (start : Option Position) (children : List Inline)
  | image (url : Text) (children : List Inline)
  deriving Repr

/-- What the items of a list share: the character of their marker (the bullet, or the delimiter
after the number) and the width that marker and spaces take in the first item. -/
structure ListStyle where
  marker : Char
  padding : Nat
  deriving DecidableEq, Repr

mutual

inductive Block (α : Type) where
  | paragraph (content : α)
  | heading (level : Nat) (content : α)
  | code (literal : Text)
  | html (literal : Text)
  | thematicBreak
  | quote (blocks : List (Block α))
  | list (style : ListStyle) (items : List (Item α))
  | table (rows : List (List α))
  deriving Repr

/-- An item of a list, with the width that its marker and the spaces after it take. -/
inductive Item (α : Type) where
  | plain (padding : Nat) (blocks : List (Block α))
  /-- An item that began with a task marker; it is laid out like the first item of its list. -/
  | task (blocks : List (Block α))
  deriving Repr

end

def Item.blocks {α : Type} : Item α → List (Block α)
  | .plain _ blocks => blocks
  | .task blocks => blocks

/-- The width that marker and spaces of an item take in a list of the given style. -/
def Item.paddingIn {α : Type} (style : ListStyle) : Item α → Nat
  | .plain padding _ => padding
  | .task _ => style.padding

/-- A document that has been read: its blocks in order. -/
abbrev Document := List (Block (List Inline))

end Chatdown
