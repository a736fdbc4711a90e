import Chatdown.Document
import Chatdown.Unicode.Blank
import Chatdown.Unicode.Symbol

/-!
# Emphasis

Runs of `*`, `_` and `~` open and close emphasis. What a run may do follows from its neighbours;
which runs belong together is found by going through the closing ones in order and looking for
the nearest opening run before each.
-/

namespace Chatdown.Markdown

structure DelimiterRun where
  mark : Char
  length : Nat
  opens : Bool
  closes : Bool
  deriving DecidableEq, Repr

namespace DelimiterRun

/-- Tests for a neighbour that is white space; the end of the content counts as such. -/
def isBlankNeighbour (c : Option Char) : Bool := c.all Unicode.isBlank

def isSymbolNeighbour (c : Option Char) : Bool := c.any Unicode.isSymbol

/-- The first character of a text that is not a tilde. -/
def neighbour (t : Text) : Option Char := (t.dropWhile (· = '~')).head?

/-- The run of a mark between two texts, of which the one before is given backwards. -/
def between (mark : Char) (length : Nat) (before after : Text) : DelimiterRun :=
  let prev := neighbour before
  let next := neighbour after
  let flanksLeft := !isBlankNeighbour next &&
    (!isSymbolNeighbour next || isBlankNeighbour prev || isSymbolNeighbour prev)
  let flanksRight := !isBlankNeighbour prev &&
    (!isSymbolNeighbour prev || isBlankNeighbour next || isSymbolNeighbour next)
  if mark = '_' then
    ⟨mark, length, flanksLeft && (!flanksRight || isSymbolNeighbour prev),
      flanksRight && (!flanksLeft || isSymbolNeighbour next)⟩
  else
    ⟨mark, length, flanksLeft, flanksRight⟩

/-- Tests whether one run may open what another closes. Where one of them could do both, their
lengths may not add up to a multiple of three, unless both are such multiples. -/
def pairsWith (opener closer : DelimiterRun) : Bool :=
  opener.opens && opener.mark = closer.mark &&
    !((closer.opens || opener.closes) && (opener.length + closer.length) % 3 = 0 &&
      !(opener.length % 3 = 0 && closer.length % 3 = 0))

end DelimiterRun

/-- A piece of inline content whose emphasis has not been found yet: a node, or a run with the
number of its marks that have not been used. -/
inductive Piece where
  | node (content : Inline)
  | run (delimiters : DelimiterRun) (left : Nat)

namespace Piece

/-- A piece as a node; marks that are left over are text. -/
def toInline : Piece → Inline
  | node content => content
  | run delimiters left => .text (List.replicate left delimiters.mark)

end Piece

namespace Emphasis

/-- The nearest run that pairs with a closing one in pieces that are given backwards: the run and
its marks, the pieces after it in order, and those before it. -/
def opener? (closer : DelimiterRun) (inside : List Piece) :
    List Piece → Option (DelimiterRun × Nat × List Piece × List Piece)
  | [] => none
  | .node content :: before => opener? closer (.node content :: inside) before
  | .run opener left :: before =>
    if opener.pairsWith closer then some (opener, left, inside, before)
    else opener? closer (.run opener left :: inside) before

/-- The marks of a run that are left over, in front of pieces that are given backwards. -/
def putBack (delimiters : DelimiterRun) : (left : Nat) → List Piece → List Piece
  | 0, pieces => pieces
  | left + 1, pieces => .run delimiters (left + 1) :: pieces

/-- Closes what a run can close, given its marks that are left and the pieces before it backwards.
The answer is all pieces up to the end of the run. Two marks at either side are strong emphasis.
Tildes have to match exactly; if they do not, there is no answer. -/
def close (closer : DelimiterRun) : (left : Nat) → List Piece → Option (List Piece)
  | 0, before => some before
  | left + 1, before =>
    match opener? closer [] before with
    | none => some (.run closer (left + 1) :: before)
    | some (opener, marks, inside, outer) =>
      let children := inside.map Piece.toInline
      if closer.mark = '~' then
        if marks = left + 1 && marks ≤ 2 then
          some (.node (.strikethrough children) :: outer)
        else
          none
      else if marks ≤ 1 then
        close closer left (.node (.emphasis children) :: outer)
      else
        match left with
        | 0 => some (.node (.emphasis children) :: putBack opener (marks - 1) outer)
        | left + 1 =>
          close closer left (.node (.strong children) :: putBack opener (marks - 2) outer)

/-- Finds the emphasis among pieces. Those before them are given backwards, and so is the answer.
From a run of tildes that does not match on, all runs are left as they are. -/
def pair (before : List Piece) : List Piece → List Piece
  | [] => before
  | .node content :: pieces => pair (.node content :: before) pieces
  | .run delimiters left :: pieces =>
    if delimiters.closes then
      match close delimiters left before with
      | some before => pair before pieces
      | none => pieces.reverse ++ .run delimiters left :: before
    else
      pair (.run delimiters left :: before) pieces

/-- The inline nodes that pieces amount to. -/
def resolve (pieces : List Piece) : List Inline := (pair [] pieces).reverse.map Piece.toInline

end Emphasis

end Chatdown.Markdown
