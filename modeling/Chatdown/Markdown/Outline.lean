import Chatdown.Document
import Chatdown.Markdown.BlockStart
import Chatdown.Markdown.LinkTable
import Chatdown.Markdown.Passage
import Chatdown.Markdown.TableRow

/-!
# Outlines

The blocks of a document are found line by line. An outline holds the blocks that are finished and
those that are still open: containers inside each other and one block at the innermost place. A
line goes on with as many of the open blocks as it can, closes the others, and may open new ones;
the only exception is a line that goes on with a paragraph although it does not reach it.
-/

namespace Chatdown.Markdown

/-- A paragraph that is open. Its lines and their margins are given backwards; margins stay when
link definitions are taken out of the lines. -/
structure OpenParagraph where
  line : Nat
  column : Nat
  margins : List Nat
  lines : List Text
  /-- Whether a line has been refused as the delimiter row of a table. -/
  tableRefused : Bool
  deriving Repr

/-- A container that is open. The blocks in it are given backwards. -/
inductive OpenContainer where
  | quote (blocks : List (Block Passage))
  /-- An item with the columns before its marker and those from the marker to its content, and the
  list that it belongs to, with its finished items backwards. -/
  | item (style : ListStyle) (items : List (Item Passage)) (indent padding : Nat)
      (blocks : List (Block Passage))
  deriving Repr

/-- The innermost open block. Lines, rows and items are given backwards. -/
inductive OpenBlock where
  | paragraph (content : OpenParagraph)
  /-- Fenced code; the line that opens it is the first of its lines. -/
  | fenced (mark : Char) (length indent : Nat) (lines : List Text)
  | indented (lines : List Text)
  | html (kind : HtmlBlock) (lines : List Text)
  | table (column columns : Nat) (rows : List (List Passage))
  /-- A list between its items. -/
  | list (style : ListStyle) (items : List (Item Passage))
  deriving Repr

/-- What has been read of a document. -/
structure Outline where
  /-- The finished blocks outside of open containers, backwards. -/
  blocks : List (Block Passage)
  /-- The open containers, innermost first. -/
  containers : List OpenContainer
  innermost : Option OpenBlock
  links : LinkTable
  /-- The lines that have been read. -/
  line : Nat

/-- Lines that are given backwards, in order and with their ends. -/
def rawLines (lines : List Text) : Text := lines.reverse.flatMap (· ++ ['\n'])

namespace OpenParagraph

def text (p : OpenParagraph) : Text := rawLines p.lines

def start (line : Nat) (c : Cursor) : OpenParagraph :=
  let c := c.toBody
  ⟨line, c.offset + 1, [c.margin], [c.remainder], false⟩

def add (p : OpenParagraph) (c : Cursor) : OpenParagraph :=
  { p with margins := c.margin :: p.margins, lines := c.remainder :: p.lines }

/-- A passage that stands where the paragraph does. -/
def passage (p : OpenParagraph) (text : Text) : Passage := ⟨text, p.line, p.margins.reverse⟩

end OpenParagraph

namespace Outline

def empty : Outline := ⟨[], [], none, .empty, 0⟩

/-- Adds a finished block to the innermost container. -/
def add (o : Outline) (b : Block Passage) : Outline :=
  match o.containers with
  | [] => { o with blocks := b :: o.blocks }
  | .quote blocks :: cs => { o with containers := .quote (b :: blocks) :: cs }
  | .item style items indent padding blocks :: cs =>
    { o with containers := .item style items indent padding (b :: blocks) :: cs }

/-- Closes a paragraph. The link definitions at its start are no content; a paragraph without
content is no block. -/
def closeParagraph (o : Outline) (p : OpenParagraph) : Outline :=
  let (links, text) := LinkDefinition.readAll o.links p.text
  let o := { o with links }
  if text = [] then o else o.add (.paragraph (p.passage text))

def closeInnermost (o : Outline) : Outline :=
  let rest := { o with innermost := none }
  match o.innermost with
  | none => o
  | some (.paragraph p) => rest.closeParagraph p
  | some (.fenced _ _ _ lines) => rest.add (.code (rawLines lines.dropLast))
  | some (.indented lines) => rest.add (.code (rawLines (lines.dropWhile (·.all isPad))))
  | some (.html _ lines) => rest.add (.html (rawLines lines))
  | some (.table _ _ rows) => rest.add (.table rows.reverse)
  | some (.list style items) => rest.add (.list style items.reverse)

/-- Closes the innermost container with what is open in it. The list of a closed item stays open. -/
def closeContainer (o : Outline) : Outline :=
  let o := o.closeInnermost
  match o.containers with
  | [] => o
  | .quote blocks :: cs => { o with containers := cs }.add (.quote blocks.reverse)
  | .item style items _ padding blocks :: cs =>
    { o with
      containers := cs
      innermost := some (.list style (.plain padding blocks.reverse :: items)) }

def closeContainers (o : Outline) : Nat → Outline
  | 0 => o
  | n + 1 => o.closeContainer.closeContainers n

/-- Opens a container. An item goes on with an open list of the same style. -/
def openContainer (o : Outline) (start : ContainerStart) : Outline :=
  match start, o.innermost with
  | .item marker indent padding, some (.list style items) =>
    if marker = style.marker then
      { o with
        innermost := none
        containers := .item style items indent padding [] :: o.containers }
    else
      let o := o.closeInnermost
      { o with containers := .item ⟨marker, padding⟩ [] indent padding [] :: o.containers }
  | .item marker indent padding, _ =>
    let o := o.closeInnermost
    { o with containers := .item ⟨marker, padding⟩ [] indent padding [] :: o.containers }
  | .quote, _ =>
    let o := o.closeInnermost
    { o with containers := .quote [] :: o.containers }

/-- The cursor inside a quote, if its mark comes next on the line. -/
def enterQuote? (c : Cursor) : Option Cursor :=
  if c.indent < codeIndent && c.body.head? = some '>' then
    some (ContainerStart.skipQuoteSpace c.toBody.advanceChar)
  else
    none

/-- The cursor inside an item, if the line is indented far enough. A blank line goes on with an
item that holds something. -/
def enterItem? (indent padding : Nat) (isEmpty : Bool) (c : Cursor) : Option Cursor :=
  if indent + padding ≤ c.indent then some (c.advanceColumns (indent + padding))
  else if c.isBlank && !isEmpty then some c.toBody
  else none

/-- Goes into the open containers, outermost first, as far as the line reaches: the place where
their content begins, and the number of containers that are not reached. `holdsBlock` says whether a
block that is no container is open inside them. -/
def descend (holdsBlock : Bool) (c : Cursor) : List OpenContainer → Cursor × Nat
  | [] => (c, 0)
  | container :: inner =>
    let inside? :=
      match container with
      | .quote _ => enterQuote? c
      | .item _ _ indent padding blocks =>
        enterItem? indent padding (blocks.isEmpty && inner.isEmpty && !holdsBlock) c
    match inside? with
    | some c => descend holdsBlock c inner
    | none => (c, inner.length + 1)

/-- The text of an ATX heading: hashes at the end, after a space, are no part of it. -/
def headingText (t : Text) : Text :=
  let t := trimEnd isSpacing t
  let before := trimEnd (· = '#') t
  if before = [] || before ≠ t && before.getLast?.any isPad then trimEnd isSpacing before else t

/-- The row of cells of a table of which the first column is at the given column, filled up or cut
to a number of cells. -/
def row (line column columns : Nat) (cells : List TableRow.Cell) : List Passage :=
  let cells := cells.take columns
  cells.map (fun cell => ⟨cell.text, line, [column - 1 + cell.offset]⟩) ++
    List.replicate (columns - cells.length) ⟨[], line, []⟩

/-- Adds a line of HTML; a line that ends the block closes it. -/
def addHtmlLine (o : Outline) (kind : HtmlBlock) (lines : List Text) (c : Cursor) : Outline :=
  let o := { o with innermost := some (.html kind (c.remainder :: lines)) }
  if kind.isEnd c.body then o.closeInnermost else o

/-- Opens a block that is no container, after all that it is not in has been closed. -/
def openLeaf (o : Outline) (start : LeafStart) (c : Cursor) : Outline :=
  let o := o.closeInnermost
  match start with
  | .heading level =>
    o.add (.heading level ⟨headingText c.toBody.remainder, o.line, [c.toBody.margin]⟩)
  | .fence mark length indent =>
    { o with innermost := some (.fenced mark length indent [c.remainder]) }
  | .html kind => o.addHtmlLine kind [] c
  | .thematicBreak => o.add .thematicBreak
  | .indentedCode => { o with innermost := some (.indented [c.remainder]) }

/-- Makes a heading of a paragraph. If only link definitions are in it, there is no heading and the
line is the first that is left of the paragraph. -/
def underline (o : Outline) (p : OpenParagraph) (level : Nat) (c : Cursor) : Outline :=
  let (links, text) := LinkDefinition.readAll o.links p.text
  if text = [] then
    { o with links, innermost := some (.paragraph ({ p with lines := [] }.add c.toBody)) }
  else
    { o with links, innermost := none }.add (.heading level (p.passage text))

def openParagraph (o : Outline) (c : Cursor) : Outline :=
  if c.isBlank then o
  else
    let o := o.closeInnermost
    { o with innermost := some (.paragraph (.start o.line c)) }

/-- The table that a paragraph and the delimiter row after it make: the last line of the paragraph
is the header, and the lines before it are a paragraph of their own. -/
def openTable? (o : Outline) (p : OpenParagraph) (columns : Nat) : Option Outline :=
  match p.lines with
  | [] => none
  | header :: earlier =>
    let cells := TableRow.cells header
    if cells.length = columns then
      let o := { o with innermost := none }
      let before := trim isSpacing (TableRow.unescapePipes (['\n'].intercalate earlier.reverse))
      let o :=
        if earlier = [] then o
        else o.add (.paragraph ⟨before, p.line, p.margins.reverse.take earlier.length⟩)
      let rows := [row (p.line + earlier.length) p.column columns cells]
      some { o with innermost := some (.table p.column columns rows) }
    else none

/-- Goes on with a paragraph that the line reaches and in which it opens nothing. -/
def addToParagraph (o : Outline) (p : OpenParagraph) (c : Cursor) : Outline :=
  let columns? :=
    if c.indent < codeIndent && !p.tableRefused then TableRow.columns? c.body else none
  match columns? with
  | none => { o with innermost := some (.paragraph (p.add c.toBody)) }
  | some columns =>
    match o.openTable? p columns with
    | some o => o
    | none =>
      { o with innermost := some (.paragraph ({ p with tableRefused := true }.add c.toBody)) }

/-- Opens blocks, inside each other, and a paragraph for content that is in none of them. -/
def openStarts (o : Outline) (starts : BlockStarts) : Outline :=
  let o := starts.containers.foldl openContainer o
  match starts.leaf with
  | some start => o.openLeaf start starts.inside
  | none => o.openParagraph starts.inside

/-- Reads a line of which the place inside all open containers is given. -/
def readInside (o : Outline) (c : Cursor) : Outline :=
  let starts := BlockStarts.read c.rest.length 0 false false c
  match o.innermost with
  | none => o.openStarts starts
  | some (.fenced mark length indent lines) =>
    if c.indent < codeIndent && LeafStart.closesFence mark length c.body then o.closeInnermost
    else
      let line := (c.skipIndent indent).remainder
      { o with innermost := some (.fenced mark length indent (line :: lines)) }
  | some (.indented lines) =>
    if codeIndent ≤ c.indent then
      { o with innermost := some (.indented ((c.advanceColumns codeIndent).remainder :: lines)) }
    else if c.isBlank then { o with innermost := some (.indented ([] :: lines)) }
    else o.openStarts starts
  | some (.html kind lines) =>
    if kind.endsAtBlank && c.isBlank then o.closeInnermost else o.addHtmlLine kind lines c
  | some (.table column columns rows) =>
    let cells := TableRow.cells c.body
    if cells = [] then o.closeInnermost.openStarts starts
    else if starts.isEmpty then
      let rows := row o.line column columns cells :: rows
      { o with innermost := some (.table column columns rows) }
    else o.openStarts starts
  | some (.list _ _) => o.openStarts starts
  | some (.paragraph p) =>
    if c.isBlank then o.closeInnermost
    else
      match underline? c with
      | some level => o.underline p level c
      | none =>
        let starts := BlockStarts.read c.rest.length 0 true true c
        if starts.isEmpty then o.addToParagraph p c else o.openStarts starts

/-- Reads a line that does not reach some of the open containers, from the place inside those that
it does reach. If it opens nothing, it goes on with an open paragraph all the same. -/
def readOutside (o : Outline) (unreached : Nat) (c : Cursor) : Outline :=
  match o.innermost with
  | some (.paragraph p) =>
    let starts := BlockStarts.read c.rest.length 0 false true c
    if starts.isEmpty && !c.isBlank then { o with innermost := some (.paragraph (p.add c)) }
    else (o.closeContainers unreached).openStarts starts
  | _ => (o.closeContainers unreached).openStarts (BlockStarts.read c.rest.length 0 false false c)

def readLine (o : Outline) (line : Text) : Outline :=
  let start := if o.line = 0 then Cursor.atFirstStart line else Cursor.atStart line
  let (c, unreached) := descend o.innermost.isSome start o.containers.reverse
  let o := { o with line := o.line + 1 }
  if unreached = 0 then o.readInside c else o.readOutside unreached c

def close (o : Outline) : Outline := (o.closeContainers o.containers.length).closeInnermost

def ofLines (lines : List Text) : Outline := (lines.foldl readLine empty).close

end Outline

end Chatdown.Markdown
