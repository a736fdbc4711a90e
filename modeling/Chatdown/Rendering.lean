import Chatdown.Document
import Chatdown.GitHub
import Chatdown.Mention
import Chatdown.Message

/-!
# Rendering documents

A document becomes a message with one block for each block at its top: lists become bullets, code
becomes code, and all else becomes markup. Literal text is escaped first and its mentions are
substituted after that. Elements are never nested: what stands inside emphasis, strong emphasis,
a heading or a link is shown as plain text.

Throughout, `find?` looks up managers by their lower-case user names, and `source` is the text
that the document was read from.
-/

namespace Chatdown

namespace Inline

mutual

/-- The literal text of a node and its descendants, without formatting. -/
def literal : Inline → Text
  | .text t => t
  | .softBreak => ['\n']
  | .hardBreak => ['\n']
  | .code t => t
  | .html t => t
  | .emphasis children => literals children
  | .strong children => literals children
  | .strikethrough children => literals children
  | .link _ _ children => literals children
  | .image _ children => literals children

def literals : List Inline → Text
  | [] => []
  | i :: is => literal i ++ literals is

end

end Inline

namespace Rendering

/-- Tests whether a link shows its own URL, where the URL may have gained a scheme that the text
lacks. -/
def showsItself (url shown : Text) : Bool :=
  url = shown || Text.after? "http://".toList url = some shown ||
    Text.after? "mailto:".toList url = some shown

/-- The lines of a source as a reader of plain text counts them: they end at line feeds, and a
carriage return before a line feed is part of the line's end. -/
def sourceLines (current : Text) : Text → List Text
  | [] => if current = [] then [] else [current.reverse]
  | '\r' :: '\n' :: rest => current.reverse :: sourceLines [] rest
  | '\n' :: rest => current.reverse :: sourceLines [] rest
  | c :: rest => sourceLines (c :: current) rest

/-- Tests whether the source has the text in brackets at the given place. -/
def isBracketed (source : Text) (start : Option Position) (shown : Text) : Bool :=
  match start with
  | none => false
  | some ⟨0, _⟩ => false
  | some ⟨_, 0⟩ => false
  | some p =>
    match (sourceLines [] source)[p.line - 1]?.bind (Text.afterBytes? (p.column - 1)) with
    | none => false
    | some rest => (('[' :: shown) ++ [']']).isPrefixOf rest

/-- Tests for a link that was written as a bare or angle-bracketed URL. -/
def isAutolink (source : Text) (url : Text) (start : Option Position)
    (children : List Inline) : Bool :=
  let shown := Inline.literals children
  showsItself url shown && !isBracketed source start shown

section

variable (find? : Text → Option Manager) (source : Text)

/-- Literal text as markup: escaped, and with its mentions substituted. -/
def literal (t : Text) : Text := Mention.substitute find? (Markup.escape t)

mutual

/-- The markup of an inline node. -/
def inline : Inline → Text
  | .text t => literal find? t
  | .softBreak => ['\n']
  | .hardBreak => ['\n']
  | .code t => '`' :: literal find? t ++ ['`']
  | .html t => literal find? t
  | .emphasis children => Markup.italic (literal find? (Inline.literals children))
  | .strong children => Markup.bold (literal find? (Inline.literals children))
  | .strikethrough children => inlines [] children
  | .link url start children =>
    if isAutolink source url start children then
      Markup.inlineLink url (Markup.escape (GitHub.shown url))
    else
      Markup.inlineLink url (literal find? (Inline.literals children))
  | .image _ children => inlines [] children

/-- The markup of a list of nodes that follows the text `pending`. Neighbouring texts are joined
before their mentions are looked for. -/
def inlines (pending : Text) : List Inline → Text
  | [] => literal find? pending
  | .text t :: is => inlines (pending ++ t) is
  | i :: is => literal find? pending ++ inline i ++ inlines [] is

end

mutual

/-- The markup of a block as running text. -/
def block : Block (List Inline) → Text
  | .paragraph content => inlines find? source [] content
  | .heading _ content => Markup.bold (literal find? (Inline.literals content))
  | .code t => literal find? t
  | .html t => literal find? t
  | .thematicBreak => []
  | .quote children => blocks children
  | .list _ children => items children
  | .table rows => rows.flatMap fun cells => cells.flatMap (inlines find? source [])

def blocks : List (Block (List Inline)) → Text
  | [] => []
  | b :: bs => block b ++ blocks bs

def item : Item (List Inline) → Text
  | .plain _ children => blocks children
  | .task children => blocks children

def items : List (Item (List Inline)) → Text
  | [] => []
  | i :: is => item i ++ items is

end

/-- Tests for a block whose content is lines of the source. -/
def isRaw {α : Type} : Block α → Bool
  | .code _ => true
  | .html _ => true
  | _ => false

mutual

/-- A block inside a list item as indented lines. -/
def nested (offset : Nat) : Block (List Inline) → Text
  | .list style children => nestedItems style offset children
  | .paragraph content => block find? source (.paragraph content)
  | .heading level content => block find? source (.heading level content)
  | .code t => block find? source (.code t)
  | .html t => block find? source (.html t)
  | .thematicBreak => []
  | .quote children => block find? source (.quote children)
  | .table rows => block find? source (.table rows)

/-- The items of a nested list, one after another: `offset` spaces, the marker and the item. -/
def nestedItems (style : ListStyle) (offset : Nat) : List (Item (List Inline)) → Text
  | [] => []
  | [i] => List.replicate offset ' ' ++ style.marker :: itemLines style offset i
  | i :: is =>
    List.replicate offset ' ' ++ style.marker :: itemLines style offset i ++
      '\n' :: nestedItems style offset is

/-- The blocks of an item on lines of their own, lists in it moved in by the item's padding. -/
def itemLines (style : ListStyle) (offset : Nat) : Item (List Inline) → Text
  | .plain padding children => childLines (blocks find? source children) (offset + padding) children
  | .task children => childLines (blocks find? source children) (offset + style.padding) children

/-- Blocks on lines of their own. In the place of a raw block stands `whole`, the running text of
the item that it belongs to. -/
def childLines (whole : Text) (offset : Nat) : List (Block (List Inline)) → Text
  | [] => []
  | [b] => if isRaw b then whole else nested offset b
  | b :: bs => (if isRaw b then whole else nested offset b) ++ '\n' :: childLines whole offset bs

end

/-- The message block of a block at the top of a document. -/
def messageBlock : Block (List Inline) → MessageBlock
  | .list style children =>
    .bullets (children.map fun i => .text (itemLines find? source style 0 i))
  | .code t => .code none t
  | b => .text (block find? source b)

def messageBlocks (document : Document) : List MessageBlock :=
  document.map (messageBlock find? source)

end

end Rendering

end Chatdown
