/-!
# Tables of code points

Character properties are kept as sorted lists of closed intervals of code points, and case
mappings as intervals that move by one distance. Both are read by plain search, so a property of
every character is a property of a finite table.
-/

namespace Chatdown.Unicode

/-- Tests whether one of the closed intervals holds the character. -/
def inIntervals (table : List (Nat × Nat)) (c : Char) : Bool :=
  table.any fun (first, last) => first ≤ c.toNat && c.toNat ≤ last

/-- Code points `first`, `first + step`, … up to `last`, each of which maps to the code point
`shift` away. -/
structure CaseShift where
  first : Nat
  last : Nat
  step : Nat
  shift : Int
  deriving DecidableEq, Repr

namespace CaseShift

/-- Tests whether the mapping speaks about the code point. -/
def covers (s : CaseShift) (n : Nat) : Bool :=
  s.first ≤ n && n ≤ s.last && (n - s.first) % s.step == 0

/-- Where the mapping takes a code point that it covers. -/
def target (s : CaseShift) (n : Nat) : Nat := (n + s.shift).toNat

end CaseShift

/-- Maps a character by the first row that covers it; others stay. -/
def mapCase (table : List CaseShift) (c : Char) : Char :=
  match table.find? (·.covers c.toNat) with
  | some row => Char.ofNat (row.target c.toNat)
  | none => c

end Chatdown.Unicode
