import Chatdown.Markdown.Character

/-!
# Cursors

A place on a line, known both by its byte and by its column. A tab leads to the next column that
is a multiple of four, and a cursor may stand inside a tab.
-/

namespace Chatdown.Markdown

/-- A place on a line. -/
structure Cursor where
  /-- What follows on the line; a tab that the cursor is inside of comes first. -/
  rest : Text
  /-- The bytes before that. -/
  offset : Nat
  column : Nat
  inTab : Bool
  deriving DecidableEq, Repr

namespace Cursor

def atStart (line : Text) : Cursor := ⟨line, 0, 0, false⟩

/-- The start of the first line of a document, after a byte order mark. -/
def atFirstStart (line : Text) : Cursor :=
  match line with
  | [] => atStart []
  | c :: t => if c = '\uFEFF' then ⟨t, 3, 0, false⟩ else atStart line

def toTabStop (column : Nat) : Nat := 4 - column % 4

/-- The columns that the spaces and tabs at the start of a text take from a column on. -/
def indentFrom (column : Nat) : Text → Nat
  | [] => 0
  | c :: t =>
    if c = ' ' then indentFrom (column + 1) t + 1
    else if c = '\t' then indentFrom (column + toTabStop column) t + toTabStop column
    else 0

/-- The columns that spaces and tabs take after the cursor. -/
def indent (c : Cursor) : Nat := indentFrom c.column c.rest

/-- What follows after spaces and tabs. -/
def body (c : Cursor) : Text := c.rest.dropWhile isPad

/-- Tests whether only spaces and tabs follow. -/
def isBlank (c : Cursor) : Bool := c.body.isEmpty

def advanceColumn (c : Cursor) : Cursor :=
  match c.rest with
  | [] => c
  | d :: t =>
    if d = '\t' && 1 < toTabStop c.column then { c with column := c.column + 1, inTab := true }
    else ⟨t, c.offset + d.utf8Size, c.column + d.utf8Size, false⟩

def advanceColumns (c : Cursor) : Nat → Cursor
  | 0 => c
  | n + 1 => c.advanceColumn.advanceColumns n

def advanceChar (c : Cursor) : Cursor :=
  match c.rest with
  | [] => c
  | d :: t =>
    if d = '\t' then ⟨t, c.offset + 1, c.column + toTabStop c.column, false⟩
    else ⟨t, c.offset + d.utf8Size, c.column + d.utf8Size, false⟩

def advanceChars (c : Cursor) : Nat → Cursor
  | 0 => c
  | n + 1 => c.advanceChar.advanceChars n

def toBody (c : Cursor) : Cursor := c.advanceChars (c.rest.takeWhile isPad).length

/-- Moves over at most `n` columns of spaces and tabs. -/
def skipIndent (c : Cursor) : Nat → Cursor
  | 0 => c
  | n + 1 => if c.rest.head?.any isPad then c.advanceColumn.skipIndent n else c

/-- What is left of the line: a tab that the cursor is inside of counts as spaces. -/
def remainder (c : Cursor) : Text :=
  if c.inTab then List.replicate (toTabStop c.column) ' ' ++ c.rest.tail else c.rest

/-- The byte of the line at which the remainder begins; spaces in place of a tab come before it. -/
def margin (c : Cursor) : Nat := if c.inTab then c.offset + 1 else c.offset

end Cursor

end Chatdown.Markdown
