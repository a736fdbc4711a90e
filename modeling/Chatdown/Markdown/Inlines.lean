import Chatdown.Markdown.Autolink
import Chatdown.Markdown.CodeSpan
import Chatdown.Markdown.Emphasis
import Chatdown.Markdown.LinkTable
import Chatdown.Markdown.Passage
import Chatdown.Markdown.RawHtml

/-!
# Inline content

A passage is read from left to right. At each character the reader takes that character and some
that follow it, and puts down a piece; a closing bracket may make a link of the pieces since the
bracket that it closes. Emphasis is found in the pieces of a link when it is closed, and in all
that remain at the end.
-/

namespace Chatdown.Markdown

structure Opening where
  image : Bool
  /-- Whether another bracket has been opened after it. -/
  followed : Bool
  start : Position
  /-- The source after the bracket. -/
  rest : Text
  /-- The pieces before the bracket, backwards. -/
  outer : List Piece

/-- What has been read of a passage. -/
structure InlineReader where
  /-- The source before this point, backwards. -/
  before : Text
  /-- The line breaks that have been read as such. -/
  line : Nat
  /-- The bytes since the last of them. -/
  width : Nat
  /-- The pieces since the innermost open bracket, backwards. -/
  pieces : List Piece
  /-- The open brackets, innermost first. -/
  openings : List Opening
  /-- Whether no bracket has been closed since the last one was opened. -/
  inBrackets : Bool
  /-- Whether a link has been made since the last bracket that could begin one. -/
  afterLink : Bool
  unended : RawHtml.Unended
  spans : CodeSpan.Memory

namespace InlineReader

def fresh : InlineReader := ⟨[], 0, 0, [], [], false, false, {}, {}⟩

def position (r : InlineReader) (p : Passage) : Position := p.position r.line r.width

def move (r : InlineReader) (source : Text) : InlineReader :=
  { r with before := source.reverse ++ r.before, width := r.width + Text.byteLength source }

def put (r : InlineReader) (content : Inline) : InlineReader :=
  { r with pieces := .node content :: r.pieces }

def putText (r : InlineReader) (literal : Text) : InlineReader := r.put (.text literal)

/-- Takes characters away from the end of the text that was put down last. -/
def takeBack (r : InlineReader) (n : Nat) : InlineReader :=
  match r.pieces with
  | .node (.text literal) :: pieces =>
    { r with pieces := .node (.text (literal.take (literal.length - n))) :: pieces }
  | _ => r

/-- The characters that may begin something other than text. -/
def isSpecial (c : Char) : Bool := "\n\\&<[]!~*_\x60:w".toList.contains c

/-- Tests whether a hard line break was put down last. -/
def isAfterBreak (r : InlineReader) : Bool :=
  match r.pieces with
  | .node .hardBreak :: _ => true
  | _ => false

/-- Reads a run of text: spaces are dropped before the end of a line and after a hard break. -/
def readText (r : InlineReader) (c : Char) (t : Text) : InlineReader × Nat :=
  let more := t.takeWhile (!isSpecial ·)
  let literal := c :: more
  let literal :=
    if (t.drop more.length).head? = some '\n' then trimEnd isSpacing literal else literal
  let literal := if r.isAfterBreak then trimStart isSpacing literal else literal
  (r.putText literal, more.length)

/-- Reads the end of a line, which is a hard break after two spaces. -/
def readLineEnd (r : InlineReader) : InlineReader :=
  match r.before with
  | ' ' :: ' ' :: _ => r.put .hardBreak
  | _ => r.put .softBreak

/-- Reads a backslash: before a symbol it stands for that symbol, at the end of a line it is a hard
break. -/
def readBackslash (r : InlineReader) (t : Text) : InlineReader × Nat :=
  match t with
  | [] => (r.putText ['\\'], 0)
  | c :: _ =>
    if Unicode.isAsciiSymbol c then (r.putText [c], 1)
    else if c = '\n' then (r.put .hardBreak, 1)
    else (r.putText ['\\'], 0)

def readAmpersand (r : InlineReader) (t : Text) : InlineReader × Nat :=
  match CharacterReference.read? t with
  | some (characters, n) => (r.putText characters, n)
  | none => (r.putText ['&'], 0)

/-- Reads a run of backticks with the code span that it opens. -/
def readBackticks (r : InlineReader) (t : Text) : InlineReader × Nat :=
  match CodeSpan.read r.spans r.before.length t with
  | (some (code, n), spans) => ({ r with spans }.put (.code code), n)
  | (none, spans) =>
    let more := t.takeWhile (· = '\x60')
    ({ r with spans }.putText ('\x60' :: more), more.length)

/-- Reads an opening angle bracket with the autolink or the HTML that it begins. A link starts
after the bracket. -/
def readAngle (r : InlineReader) (p : Passage) (t : Text) : InlineReader × Nat :=
  match Autolink.angled? t with
  | some (link, n) =>
    (r.put (.link link.url (some ((r.move ['<']).position p)) [.text link.shown]), n)
  | none =>
    match RawHtml.read? r.unended t with
    | (some rest, unended) =>
      let n := t.length - rest.length
      ({ r with unended }.put (.html ('<' :: t.take n)), n)
    | (none, unended) => ({ r with unended }.putText ['<'], 0)

def readMarks (r : InlineReader) (c : Char) (t : Text) : InlineReader × Nat :=
  let more := (t.takeWhile (· = c)).length
  let delimiters := DelimiterRun.between c (more + 1) r.before (t.drop more)
  ({ r with pieces := .run delimiters (more + 1) :: r.pieces }, more)

def readColon (r : InlineReader) (t : Text) : InlineReader × Nat :=
  match if r.inBrackets then none else Autolink.atColon? r.before (':' :: t) with
  | some (link, scheme) =>
    ((r.takeBack scheme).put (.link link.url none [.text link.shown]),
      link.shown.length - scheme - 1)
  | none => (r.putText [':'], 0)

/-- Reads a `w` with the URL that it begins. -/
def readHost (r : InlineReader) (t : Text) : InlineReader × Nat :=
  match if r.inBrackets then none else Autolink.atHost? r.before ('w' :: t) with
  | some link => (r.put (.link link.url none [.text link.shown]), link.shown.length - 1)
  | none => (r.putText ['w'], 0)

def openBracket (r : InlineReader) (p : Passage) (image : Bool) (rest : Text) : InlineReader :=
  let outerOpenings :=
    match r.openings with
    | [] => []
    | o :: os => { o with followed := true } :: os
  { r with
    pieces := []
    openings := ⟨image, false, r.position p, rest, r.pieces⟩ :: outerOpenings
    inBrackets := true
    afterLink := r.afterLink && image }

/-- Gives the innermost open bracket up: it is text. -/
def abandon (r : InlineReader) : InlineReader :=
  match r.openings with
  | [] => r
  | o :: openings =>
    let bracket := if o.image then "![".toList else ['[']
    { r with pieces := r.pieces ++ .node (.text bracket) :: o.outer, openings }

/-- The URL of the bracket that is closed before the given text, with the number of characters
that name it after the closing bracket: in parentheses, by a label, or by what the bracket holds
if no other was opened inside it. -/
def target? (links : LinkTable) (o : Opening) (t : Text) : Option (Text × Nat) :=
  let inside := o.rest.take (o.rest.length - (t.length + 1))
  let byContent (n : Nat) : Option (Text × Nat) :=
    if o.followed then none else (links.find? (Label.normal inside)).map (·, n)
  let byLabel : Option (Text × Nat) :=
    match (Text.after? ['['] t).bind Label.read? with
    | some ([], n) => byContent (n + 1)
    | some (label, n) => (links.find? (Label.normal label)).map (·, n + 1)
    | none => byContent 0
  let inParentheses : Option (Text × Nat) :=
    (Text.after? ['('] t).bind fun t =>
      (Destination.inParentheses? t).map fun (url, n) => (url, n + 1)
  inParentheses <|> byLabel

/-- Reads a closing bracket. Links do not hold links: a bracket that has one inside stays text. -/
def closeBracket (r : InlineReader) (links : LinkTable) (t : Text) : InlineReader × Nat :=
  let r := { r with inBrackets := false }
  match r.openings with
  | [] => (r.putText [']'], 0)
  | o :: openings =>
    match if r.afterLink && !o.image then none else target? links o t with
    | some (url, n) =>
      let children := Emphasis.resolve r.pieces.reverse
      let node := if o.image then .image url children else .link url (some o.start) children
      let pieces := .node node :: o.outer
      ({ r with pieces, openings, afterLink := r.afterLink || !o.image }, n)
    | none => (r.abandon.putText [']'], 0)

/-- Reads a character and what belongs to it. The answer counts the characters taken after it. -/
def readItem (r : InlineReader) (links : LinkTable) (p : Passage) (c : Char) (t : Text) :
    InlineReader × Nat :=
  if c = '\n' then (r.readLineEnd, (t.takeWhile isPad).length)
  else if c = '\\' then r.readBackslash t
  else if c = '&' then r.readAmpersand t
  else if c = '\x60' then r.readBackticks t
  else if c = '<' then r.readAngle p t
  else if c = '*' || c = '_' || c = '~' then r.readMarks c t
  else if c = ':' then r.readColon t
  else if c = 'w' then r.readHost t
  else if c = '[' then (r.openBracket p false t, 0)
  else if c = '!' then
    match t with
    | '[' :: '^' :: _ => (r.putText ['!'], 0)
    | '[' :: t => (r.openBracket p true t, 1)
    | _ => (r.putText ['!'], 0)
  else if c = ']' then r.closeBracket links t
  else r.readText c t

/-- Reads a character and what belongs to it, and moves over it. -/
def step (r : InlineReader) (links : LinkTable) (p : Passage) (c : Char) (t : Text) :
    InlineReader × Nat :=
  let (next, n) := r.readItem links p c t
  let moved := next.move (c :: t.take n)
  if c = '\n' then ({ moved with line := r.line + 1, width := n }, n) else (moved, n)

/-- Reads a text, of which the first `skip` characters have been read. -/
def run (links : LinkTable) (p : Passage) : InlineReader → (skip : Nat) → Text → InlineReader
  | r, _, [] => r
  | r, skip + 1, _ :: t => run links p r skip t
  | r, 0, c :: t =>
    let (r, n) := r.step links p c t
    run links p r n t

/-- All pieces in order, when the end has been reached with so many brackets open. -/
def close : List Opening → InlineReader → List Piece
  | [], r => r.pieces.reverse
  | _ :: openings, r => close openings r.abandon

end InlineReader

namespace Passage

/-- The inline content that a passage is the source of. -/
def inlines (links : LinkTable) (p : Passage) : List Inline :=
  let r := InlineReader.run links p .fresh 0 (trimEnd isSpacing p.text)
  Emphasis.resolve (r.close r.openings)

end Passage

end Chatdown.Markdown
