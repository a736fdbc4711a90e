import Chatdown.Markdown.Character
import Chatdown.Markdown.CharacterNames

/-!
# Character references

A reference stands for characters by name (`&amp;`) or by number (`&#38;`, `&#x26;`).
-/

namespace Chatdown.Markdown.CharacterReference

/-- The code points written between commas. -/
def readCodes (codes : Text) : Text :=
  ((String.ofList codes).splitOn ",").map fun code =>
    Char.ofNat (code.toList.foldl (fun n c => 16 * n + hexValue c) 0)

/-- Every name with the characters that it stands for. -/
def table : List (Text × Text) :=
  CharacterNames.all.flatMap fun names =>
    (names.splitOn " ").map fun entry =>
      let name := entry.toList.takeWhile (· ≠ '=')
      (name, readCodes (entry.toList.drop (name.length + 1)))

/-- The character of a numeric reference; numbers that are no character give U+FFFD. -/
def ofCode (n : Nat) : Char :=
  if n = 0 || 0xD800 ≤ n && n ≤ 0xE000 || 0x110000 ≤ n then '\uFFFD' else Char.ofNat n

/-- Reads digits of a base up to a semicolon, at most `limit` of them. The answer counts the
semicolon. -/
def number? (isDigit : Char → Bool) (base limit : Nat) (t : Text) : Option (Text × Nat) :=
  let digits := t.takeWhile isDigit
  if 1 ≤ digits.length && digits.length ≤ limit && (t.drop digits.length).head? = some ';' then
    some ([ofCode (digits.foldl (fun n c => base * n + hexValue c) 0)], digits.length + 1)
  else
    none

/-- Reads a name up to a semicolon. The answer counts the semicolon. -/
def named? (t : Text) : Option (Text × Nat) :=
  let name := t.takeWhile Char.isAlphanum
  if (t.drop name.length).head? = some ';' then
    (table.lookup name).map fun characters => (characters, name.length + 1)
  else
    none

/-- Reads the reference that begins with an ampersand before the given text: what it stands for,
and how many characters it takes after the ampersand. -/
def read? : Text → Option (Text × Nat)
  | '#' :: t =>
    match t with
    | 'x' :: t => (number? isHexDigit 16 6 t).map fun (characters, n) => (characters, n + 2)
    | 'X' :: t => (number? isHexDigit 16 6 t).map fun (characters, n) => (characters, n + 2)
    | t => (number? Char.isDigit 10 7 t).map fun (characters, n) => (characters, n + 1)
  | t => named? t

/-- Replaces the references of a text, after `skip` characters that have been read. -/
def resolveFrom : (skip : Nat) → Text → Text
  | _, [] => []
  | skip + 1, _ :: t => resolveFrom skip t
  | 0, c :: t =>
    if c = '&' then
      match read? t with
      | some (characters, n) => characters ++ resolveFrom n t
      | none => c :: resolveFrom 0 t
    else
      c :: resolveFrom 0 t

/-- Replaces the references of a text by what they stand for. -/
def resolve (t : Text) : Text := resolveFrom 0 t

end Chatdown.Markdown.CharacterReference
