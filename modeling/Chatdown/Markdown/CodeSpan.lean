import Chatdown.Markdown.Character

/-!
# Code spans

A run of backticks opens a span of code that ends with the next run of the same length. While a
reader looks for such an end it remembers the runs that it meets. Once it has reached the end of the
content without success, it looks again only if it remembers a run ahead.
-/

namespace Chatdown.Markdown.CodeSpan

/-- The longest run that can open a span. -/
def maximalRun : Nat := 80

/-- The runs that have been met. -/
structure Memory where
  /-- Whether the end of the content has been reached. -/
  exhausted : Bool := false
  /-- The length and the place of each run, latest first. -/
  runs : List (Nat × Nat) := []
  deriving DecidableEq, Repr

namespace Memory

def note (m : Memory) (size position : Nat) : Memory :=
  if size ≤ maximalRun then { m with runs := (size, position) :: m.runs } else m

/-- Tests whether a run may be closed after the given place. -/
def allows (m : Memory) (size position : Nat) : Bool :=
  size ≤ maximalRun && !(m.exhausted && (m.runs.lookup size).getD 0 ≤ position)

end Memory

/-- Looks for the first run of `size` backticks, from a place on before which `run` backticks stand,
and answers the place after it. -/
def search (size : Nat) (m : Memory) (position run : Nat) : Text → Option Nat × Memory
  | [] =>
    let met := if run = 0 then m else m.note run (position - run)
    if run = size then (some position, met) else (none, { met with exhausted := true })
  | c :: t =>
    if c = '\x60' then search size m (position + 1) (run + 1) t
    else if run = 0 then search size m (position + 1) 0 t
    else if run = size then (some position, m.note run (position - run))
    else search size (m.note run (position - run)) (position + 1) 0 t

/-- The code that the inside of a span stands for: line ends are spaces, and one space is taken
away at either end of code that has a space at both and holds anything else. -/
def normalize (inside : Text) : Text :=
  let code := inside.map fun c => if c = '\n' then ' ' else c
  if code.head? = some ' ' && code.getLast? = some ' ' && code.any (· ≠ ' ') then
    code.tail.dropLast
  else
    code

/-- Reads a span after the first backtick, which is at the given place: its code, and the number of
characters that it takes. -/
def read (m : Memory) (position : Nat) (t : Text) : Option (Text × Nat) × Memory :=
  let more := (t.takeWhile (· = '\x60')).length
  let size := more + 1
  let start := position + size
  if m.allows size start then
    match search size m start 0 (t.drop more) with
    | (some stop, m) =>
      let length := stop - start
      (some (normalize ((t.drop more).take (length - size)), more + length), m)
    | (none, m) => (none, m)
  else
    (none, m)

end Chatdown.Markdown.CodeSpan
