import Chatdown.Markdown.Cursor
import Chatdown.Markdown.HtmlBlock

/-!
# What opens a block

Where the blocks that go on from the line before have been passed, a line may open further ones:
any number of containers, inside each other, and then one block that holds none. What it opens is
read off the line alone; of the blocks that are open, only an open paragraph matters.
-/

namespace Chatdown.Markdown

/-- The start of a block that holds other blocks. -/
inductive ContainerStart where
  | quote
  /-- The start of an item: the character of its marker, the columns before the marker, and those
  from the marker to the content. -/
  | item (marker : Char) (indent padding : Nat)
  deriving DecidableEq, Repr

inductive LeafStart where
  | heading (level : Nat)
  /-- The fence of a code block: its character and length, and the bytes of its indent. -/
  | fence (mark : Char) (length indent : Nat)
  | html (kind : HtmlBlock)
  | thematicBreak
  | indentedCode
  deriving DecidableEq, Repr

/-- The indent from which on a line is code. -/
def codeIndent : Nat := 4

/-- The number of containers on one line, from which on no more items are opened. -/
def itemDepthLimit : Nat := 100

namespace LeafStart

/-- The level of a heading and the characters up to its content. -/
def heading? (body : Text) : Option (Nat × Nat) :=
  let level := (body.takeWhile (· = '#')).length
  let rest := body.drop level
  if 1 ≤ level && level ≤ 6 && rest.head?.all isPad then
    some (level, level + (rest.takeWhile isPad).length)
  else
    none

/-- The character and the length of the fence that opens a code block. What follows backticks on
the line has none. -/
def fence? (body : Text) : Option (Char × Nat) :=
  match body with
  | [] => none
  | c :: _ =>
    let length := (body.takeWhile (· = c)).length
    if (c = '\x60' || c = '~') && 3 ≤ length &&
        !(c = '\x60' && (body.drop length).contains '\x60') then
      some (c, length)
    else
      none

def closesFence (mark : Char) (length : Nat) (body : Text) : Bool :=
  let run := (body.takeWhile (· = mark)).length
  length ≤ run && (body.drop run).all isPad

/-- Tests for a thematic break: three or more of one character, with spaces between them. -/
def isThematicBreak (body : Text) : Bool :=
  match body with
  | [] => false
  | c :: _ =>
    (c = '*' || c = '-' || c = '_') && body.all (fun d => d = c || isPad d) && 3 ≤ body.count c

/-- The block other than indented code that a line opens, and the place of its content. -/
def read? (inParagraph : Bool) (c : Cursor) : Option (LeafStart × Cursor) :=
  let body := c.body
  match heading? body with
  | some (level, size) => some (heading level, c.toBody.advanceChars size)
  | none =>
    match fence? body with
    | some (mark, length) =>
      some (fence mark length (c.rest.length - body.length), c.toBody.advanceChars length)
    | none =>
      match HtmlBlock.start? inParagraph body with
      | some kind => some (html kind, c)
      | none => if isThematicBreak body then some (thematicBreak, c) else none

end LeafStart

namespace ContainerStart

/-- The marker of a list item, with the number of its characters. Space follows it; to end a
paragraph it has to have content, and the number 1 if it has one. -/
def marker? (inParagraph : Bool) (body : Text) : Option (Char × Nat) :=
  let digits := body.takeWhile Char.isDigit
  match body.drop digits.length with
  | [] => none
  | c :: rest =>
    let isMarker :=
      if digits = [] then c = '*' || c = '-' || c = '+' else c = '.' || c = ')'
    let isAllowed := digits = [] || digits.foldl (fun n d => 10 * n + (d.toNat - '0'.toNat)) 0 = 1
    if isMarker && digits.length ≤ 9 && rest.head?.all isSpacing &&
        (!inParagraph || isAllowed && !rest.all isPad) then
      some (c, digits.length + 1)
    else
      none

/-- Moves over the space before a quote's content. -/
def skipQuoteSpace (c : Cursor) : Cursor := c.skipIndent 1

/-- The place of an item's content and the columns from the marker to it, after a marker of the
given width. More than four columns of space belong to the content, but for the first. -/
def content (width : Nat) (c : Cursor) : Cursor × Nat :=
  let space := c.indent
  if 1 ≤ space && space ≤ 4 && !c.isBlank then (c.advanceColumns space, width + space)
  else (c.skipIndent 1, width + 1)

/-- The container that a line opens when it opens no other block, and the place of its content. -/
def item? (inParagraph : Bool) (c : Cursor) : Option (ContainerStart × Cursor) :=
  match marker? inParagraph c.body with
  | some (marker, size) =>
    let (inside, padding) := content size (c.toBody.advanceChars size)
    some (item marker c.indent padding, inside)
  | none => none

end ContainerStart

/-- All that a line opens. -/
structure BlockStarts where
  containers : List ContainerStart
  leaf : Option LeafStart
  /-- The place of the content of the innermost of these blocks. -/
  inside : Cursor
  deriving DecidableEq, Repr

namespace BlockStarts

def isEmpty (s : BlockStarts) : Bool := s.containers.isEmpty && s.leaf.isNone

/-- Puts a container around what is opened. -/
def inContainer (start : ContainerStart) (s : BlockStarts) : BlockStarts :=
  { s with containers := start :: s.containers }

/-- Reads what a line opens from a cursor on, when it has opened `depth` containers before it.
`inParagraph` says whether the cursor is inside an open paragraph, and `lazy` whether the line may
go on with a paragraph that it does not reach. Every container takes a character of the line, so
that there are at most `limit` if the line has so many characters. -/
def read (limit depth : Nat) (inParagraph lazy : Bool) (c : Cursor) : BlockStarts :=
  match limit with
  | 0 => ⟨[], none, c⟩
  | limit + 1 =>
    if codeIndent ≤ c.indent then
      if !lazy && !c.isBlank then ⟨[], some .indentedCode, c.advanceColumns codeIndent⟩
      else ⟨[], none, c⟩
    else if c.body.head? = some '>' then
      let inside := ContainerStart.skipQuoteSpace c.toBody.advanceChar
      inContainer .quote (read limit (depth + 1) false false inside)
    else
      match LeafStart.read? inParagraph c with
      | some (leaf, inside) => ⟨[], some leaf, inside⟩
      | none =>
        match if depth + 1 < itemDepthLimit then ContainerStart.item? inParagraph c else none with
        | some (start, inside) => inContainer start (read limit (depth + 1) false false inside)
        | none => ⟨[], none, c⟩

end BlockStarts

/-- The level of the heading that a line under a paragraph makes of it. -/
def underline? (c : Cursor) : Option Nat :=
  match c.body with
  | [] => none
  | mark :: _ =>
    if c.indent < codeIndent && (c.body.dropWhile (· = mark)).all isPad then
      if mark = '=' then some 1 else if mark = '-' then some 2 else none
    else
      none

end Chatdown.Markdown
