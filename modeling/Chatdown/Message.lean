import Chatdown.Text

/-!
# Messages

A message is a list of blocks of markup, code and bullets.
-/

namespace Chatdown

inductive MessageBlock where
  /-- Markup. -/
  | text (value : Text)
  /-- Code that is shown as it is. -/
  | code (language : Option Text) (value : Text)
  /-- Blocks with one bullet each. -/
  | bullets (blocks : List MessageBlock)
  deriving Repr

/-- A message, as the chat platform takes it. -/
structure Message where
  blocks : List MessageBlock
  deriving Repr

namespace MessageBlock

def kindName : MessageBlock → Text
  | .text _ => "text".toList
  | .code _ _ => "code".toList
  | .bullets _ => "bullets".toList

mutual

/-- The kind of a block with, for bullets, the kinds of the blocks inside. -/
def outline : MessageBlock → Text
  | .bullets blocks => "bullets(".toList ++ outlines blocks ++ [')']
  | .text value => kindName (.text value)
  | .code language value => kindName (.code language value)

/-- The kinds of a list of blocks, between commas. -/
def outlines : List MessageBlock → Text
  | [] => []
  | [b] => outline b
  | b :: bs => outline b ++ ',' :: outlines bs

end

end MessageBlock

end Chatdown
