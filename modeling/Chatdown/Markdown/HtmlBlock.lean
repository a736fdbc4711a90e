import Chatdown.Markdown.RawHtml

/-!
# HTML blocks

A line that begins with certain HTML opens a block of raw lines. What it begins with decides how
far the block goes.
-/

namespace Chatdown.Markdown

/-- What an HTML block begins with. -/
inductive HtmlBlock where
  /-- A tag whose element holds text that is no HTML. -/
  | verbatim
  | comment
  | instruction
  | declaration
  | characterData
  /-- A tag that is known to lay out blocks. -/
  | layout
  /-- Any tag that is alone on its line. -/
  | tag
  deriving DecidableEq, Repr

namespace HtmlBlock

/-- The elements that hold text which is no HTML. -/
def verbatimNames : List Text := ["script", "pre", "textarea", "style"].map String.toList

/-- The elements that lay out blocks. -/
def layoutNames : List Text :=
  ["address", "article", "aside", "base", "basefont", "blockquote", "body", "caption", "center",
    "col", "colgroup", "dd", "details", "dialog", "dir", "div", "dl", "dt", "fieldset",
    "figcaption", "figure", "footer", "form", "frame", "frameset", "h1", "h2", "h3", "h4", "h5",
    "h6", "head", "header", "hr", "html", "iframe", "legend", "li", "link", "main", "menu",
    "menuitem", "nav", "noframes", "ol", "optgroup", "option", "p", "param", "search", "section",
    "summary", "table", "tbody", "td", "tfoot", "th", "thead", "title", "tr", "track",
    "ul"].map String.toList

def lowered (t : Text) : Text := t.map Char.toLower

/-- The name at the start of a text, in lower case, and what follows it. -/
def name (t : Text) : Text × Text :=
  (lowered (t.takeWhile Char.isAlphanum), t.dropWhile Char.isAlphanum)

/-- Tests for a tag of an element that holds text, after its `<`. -/
def startsVerbatim (t : Text) : Bool :=
  let (name, rest) := name t
  verbatimNames.contains name && rest.head?.all fun c => isGap c || c == '>'

/-- Tests for a tag of an element that lays out blocks, after its `<`. -/
def startsLayout (t : Text) : Bool :=
  let (name, rest) := name ((Text.after? ['/'] t).getD t)
  layoutNames.contains name &&
    match rest with
    | [] => true
    | '/' :: '>' :: _ => true
    | c :: _ => isGap c || c == '>'

/-- Tests for a tag that is alone on its line, after its `<`. -/
def isTag (t : Text) : Bool := (RawHtml.afterTag? t).any fun rest => rest.all isSpacing

/-- The block that a line opens, by the line without its indent. A tag that only stands alone does
not end a paragraph. -/
def start? (inParagraph : Bool) (body : Text) : Option HtmlBlock := do
  let t ← Text.after? ['<'] body
  if startsVerbatim t then some verbatim
  else if "!--".toList.isPrefixOf t then some comment
  else if "?".toList.isPrefixOf t then some instruction
  else if "![cdata[".toList.isPrefixOf (lowered t) then some characterData
  else if (Text.after? ['!'] t).any fun t => t.head?.any Char.isUpper then some declaration
  else if startsLayout t then some layout
  else if !inParagraph && isTag t then some tag
  else none

/-- Tests whether a word stands somewhere in a text. -/
def holds (word : Text) : Text → Bool
  | [] => word.isEmpty
  | c :: t => word.isPrefixOf (c :: t) || holds word t

/-- Tests whether a line, without its indent, is the last of a block. -/
def isEnd (body : Text) : HtmlBlock → Bool
  | verbatim => verbatimNames.any fun name => holds ("</".toList ++ name ++ ['>']) (lowered body)
  | comment => holds "-->".toList body
  | instruction => holds "?>".toList body
  | declaration => body.contains '>'
  | characterData => holds "]]>".toList body
  | layout => false
  | tag => false

def endsAtBlank : HtmlBlock → Bool
  | layout => true
  | tag => true
  | _ => false

end HtmlBlock

end Chatdown.Markdown
