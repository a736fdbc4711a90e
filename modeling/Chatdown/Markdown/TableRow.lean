import Chatdown.Markdown.Character

/-!
# Rows of tables

A row is a line of cells between pipes. A pipe after a backslash belongs to its cell.
-/

namespace Chatdown.Markdown.TableRow

structure Cell where
  text : Text
  /-- The byte of the line at which the cell begins. -/
  offset : Nat
  deriving DecidableEq, Repr

def isCellSpace (c : Char) : Bool := isPad c || c == '\x0b' || c == '\x0c'

/-- Takes away the backslashes before pipes. -/
def unescapePipes : Text → Text
  | [] => []
  | [c] => [c]
  | c :: d :: t =>
    if c = '\\' && d = '|' then unescapePipes (d :: t) else c :: unescapePipes (d :: t)

def Cell.ofSource (source : Text) (offset : Nat) : Cell :=
  ⟨trim isSpacing (unescapePipes source), offset⟩

/-- The cells of a text that is part of a row. The source of the first cell so far is given
backwards, and begins at `offset`; while `skipping`, spaces do not count as part of it. -/
def cellsFrom (offset : Nat) (skipping : Bool) (source : Text) : Text → List Cell
  | [] => if source = [] then [] else [Cell.ofSource source.reverse offset]
  | c :: t =>
    if skipping && isCellSpace c then cellsFrom (offset + 1) true [] t
    else if c = '|' && source.head? ≠ some '\\' then
      Cell.ofSource source.reverse offset ::
        cellsFrom (offset + Text.byteLength source + 1) true [] t
    else cellsFrom offset false (c :: source) t

/-- The cells of a row; a pipe at the start or at the end of it separates nothing. -/
def cells : Text → List Cell
  | '|' :: t => cellsFrom 1 true [] t
  | t => cellsFrom 0 false [] t

/-- Tests for a cell of the row that comes after the header: hyphens, with a colon at either end
or none. -/
def isDelimiter (cell : Cell) : Bool :=
  let t := trim isCellSpace cell.text
  let t := (Text.after? [':'] t).getD t
  let hyphens := (t.takeWhile (· = '-')).length
  0 < hyphens && (t.drop hyphens = [] || t.drop hyphens = [':'])

/-- The number of columns, if a line is the row that comes after a header. -/
def columns? (line : Text) : Option Nat :=
  let row := cells line
  if row ≠ [] && row.all isDelimiter then some row.length else none

end Chatdown.Markdown.TableRow
