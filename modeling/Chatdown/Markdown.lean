import Chatdown.Markdown.Address
import Chatdown.Markdown.Inlines
import Chatdown.Markdown.Line
import Chatdown.Markdown.Outline
import Chatdown.Markdown.TaskMarker

/-!
# Reading Markdown

A source is read in two steps: its lines give the outline of its blocks, with all link definitions,
and then the passages in the outline give the inline content. List items that begin with a task
marker are told apart in the second step, since the marker is text only if nothing else claims it.
-/

namespace Chatdown.Markdown

/-- The inline content of a passage, with its addresses. -/
def content (links : LinkTable) (p : Passage) : List Inline := Address.inNodes [] (p.inlines links)

mutual

def finishBlock (links : LinkTable) : Block Passage → Block (List Inline)
  | .paragraph p => .paragraph (content links p)
  | .heading level p => .heading level (content links p)
  | .code t => .code t
  | .html t => .html t
  | .thematicBreak => .thematicBreak
  | .quote blocks => .quote (finishBlocks links blocks)
  | .list style items => .list style (finishItems links items)
  | .table rows => .table (rows.map fun row => row.map (content links))

def finishBlocks (links : LinkTable) : List (Block Passage) → List (Block (List Inline))
  | [] => []
  | b :: bs => finishBlock links b :: finishBlocks links bs

def finishItem (links : LinkTable) : Item Passage → Item (List Inline)
  | .task blocks => .task (finishBlocks links blocks)
  | .plain padding blocks =>
    match blocks with
    | .paragraph p :: bs =>
      match TaskMarker.contentAfter? (p.inlines links) with
      | some task => .task (.paragraph (Address.inNodes [] task) :: finishBlocks links bs)
      | none => .plain padding (.paragraph (content links p) :: finishBlocks links bs)
    | bs => .plain padding (finishBlocks links bs)

def finishItems (links : LinkTable) : List (Item Passage) → List (Item (List Inline))
  | [] => []
  | i :: is => finishItem links i :: finishItems links is

end

/-- The document of a Markdown source. -/
def read (source : Text) : Document :=
  let o := Outline.ofLines (Line.split source)
  finishBlocks o.links o.blocks.reverse

end Chatdown.Markdown
