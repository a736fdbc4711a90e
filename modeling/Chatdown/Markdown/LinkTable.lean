import Chatdown.Markdown.Destination
import Chatdown.Unicode.Blank
import Chatdown.Unicode.CaseFold

/-!
# Link definitions

Definitions give URLs to labels. They stand at the start of a paragraph, whole lines each, and
the first definition of a label holds. Labels that differ only in case and white space are equal.
-/

namespace Chatdown.Markdown

namespace Label

/-- The source of a label up to its closing bracket. -/
def inside? : Text → Option Text
  | [] => none
  | '\\' :: d :: t =>
    if Unicode.isAsciiSymbol d then (inside? t).map fun label => '\\' :: d :: label
    else (inside? (d :: t)).map ('\\' :: ·)
  | c :: t =>
    if c = ']' then some []
    else if c = '[' then none
    else (inside? t).map (c :: ·)

/-- Reads a label after its opening bracket: the label without outer spaces, and the number of
characters up to the closing bracket and with it. A label has at most 1000 bytes. -/
def read? (t : Text) : Option (Text × Nat) := do
  let label ← inside? t
  if Text.byteLength label ≤ 1000 then some (trim isSpacing label, label.length + 1) else none

/-- A text with each run of white space replaced by one space. -/
def collapse (inBlank : Bool) : Text → Text
  | [] => []
  | c :: t =>
    if Unicode.isBlank c then
      if inBlank then collapse true t else ' ' :: collapse true t
    else c :: collapse false t

/-- The form of a label by which labels are compared. -/
def normal (label : Text) : Text := Text.fold (collapse false (trim isSpacing label))

end Label

/-- The URLs of labels in normal form. -/
structure LinkTable where
  entries : List (Text × Text)

namespace LinkTable

def empty : LinkTable := ⟨[]⟩

def find? (links : LinkTable) (label : Text) : Option Text := links.entries.lookup label

/-- Adds a definition, unless the label has one. -/
def define (links : LinkTable) (label url : Text) : LinkTable :=
  match links.find? label with
  | some _ => links
  | none => ⟨links.entries ++ [(label, url)]⟩

end LinkTable

namespace LinkDefinition

/-- Skips spaces and tabs, at most one line end, and spaces and tabs after that. -/
def skipToNext (t : Text) : Text :=
  match t.dropWhile isPad with
  | '\n' :: t => t.dropWhile isPad
  | t => t

/-- What follows the rest of a line, if only spaces and tabs are left on it. -/
def afterLine? (t : Text) : Option Text :=
  match t.dropWhile isPad with
  | [] => some []
  | c :: t => if c = '\n' then some t else none

/-- Reads the definition at the start of a text: the label in normal form, the URL, and what
follows on the next line. A title that does not end its line is none. -/
def read? (t : Text) : Option (Text × Text × Text) := do
  let t ← Text.after? ['['] t
  let (label, size) ← Label.read? t
  if label = [] then none else
  let t ← Text.after? [':'] (t.drop size)
  let t := skipToNext t
  let (source, size) ← Destination.read? t
  let tail := t.drop size
  let title := skipToNext tail
  let withTitle := do
    if title.length = tail.length then none else
    let size ← Title.length? title
    afterLine? (title.drop size)
  let rest ← withTitle <|> afterLine? tail
  return (Label.normal label, Destination.url source, rest)

/-- Reads the definitions at the start of a text: the table with them, and what follows them. -/
def readAll (links : LinkTable) (t : Text) : LinkTable × Text :=
  match read? t with
  | none => (links, t)
  | some (label, url, rest) =>
    if rest.length < t.length then readAll (links.define label url) rest else (links, t)
termination_by t.length

end LinkDefinition

end Chatdown.Markdown
