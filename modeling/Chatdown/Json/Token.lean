import Chatdown.Json.Number
import Chatdown.Json.StringScan

/-!
# Tokens

A JSON text as a list of tokens with their places. What is wrong inside a token is kept with it,
since it is an error only where the token is read.
-/

namespace Chatdown.Json

/-- An error of syntax, as it is noticed by a reader who wants the value and by one who passes over
it. -/
structure Fault where
  read : Error
  skip : Error
  deriving Repr

/-- A fault that both readers notice alike. -/
def Fault.both (e : Error) : Fault := ⟨e, e⟩

inductive TokenKind where
  | openArray
  | closeArray
  | openObject
  | closeObject
  | comma
  | colon
  | string (text : Except Error Text)
  /-- A value other than a string. -/
  | scalar (value : Except Error Json)
  | brokenString (fault : Fault)
  | brokenScalar (fault : Fault)
  /-- A character that begins no token. -/
  | stray
  /-- The end of the text. -/
  | finish
  deriving Repr

/-- A token and its places. -/
structure Token where
  kind : TokenKind
  start : Place
  /-- The place after the first byte. -/
  peeked : Place
  /-- The place after the token. -/
  stop : Place
  deriving Repr

namespace Token

/-- Tests for white space between tokens. -/
def isBlank (c : Char) : Bool := c = ' ' || c = '\t' || c = '\n' || c = '\r'

/-- Reads a word after its first letter: the number of characters that agree with it, and whether
they are all. -/
def agree : (word : Text) → Text → Nat × Bool
  | [], _ => (0, true)
  | _ :: _, [] => (0, false)
  | w :: word, c :: t => if w = c then ((agree word t).1 + 1, (agree word t).2) else (0, false)

/-- The token that begins with the first letter of a word, with the number of its characters. -/
def readWord (word : Text) (value : Json) (place : Place) (t : Text) : TokenKind × Nat :=
  let (size, complete) := agree word t
  if complete then (.scalar (.ok value), size)
  else
    let rest := t.drop size
    let place := place.skip size t
    let fault := if rest = [] then SyntaxFault.endInValue else .noIdentifier
    (.brokenScalar (.both (.malformed fault (place.skip 1 rest))), size)

/-- The token of a number, with the number of its characters. -/
def readNumber (place : Place) (t : Text) : TokenKind × Nat :=
  match NumberScan.read t with
  | .complete size (.ok value) => (.scalar (.ok value), size)
  | .complete size (.error stop) =>
    (.scalar (.error (.malformed .numberRange (place.skip stop t))), size)
  | .malformed size =>
    let rest := t.drop size
    let place := (place.skip size t).skip 1 rest
    let fault := if rest = [] then SyntaxFault.endInValue else .number
    (.brokenScalar ⟨.malformed fault place, .malformed .number place⟩, size)

/-- The token of a string, of which the text after the opening quote is given, with the number of
its characters and the place after it. -/
def readString (place : Place) (t : Text) : TokenKind × Nat × Place :=
  let scan := StringScan.read (place.next '"') t
  match scan.text, scan.broken with
  | text, none => (.string text, scan.size, scan.stop)
  | .error e, some skip => (.brokenString ⟨e, skip⟩, scan.size, scan.stop)
  | .ok _, some skip => (.brokenString (.both skip), scan.size, scan.stop)

/-- The token at the start of a text, with the number of its characters and the place after it. -/
def readKind (place : Place) (c : Char) (t : Text) : TokenKind × Nat × Place :=
  let ofSize (kind : TokenKind × Nat) : TokenKind × Nat × Place :=
    (kind.1, kind.2, place.skip kind.2 (c :: t))
  if c = '[' then ofSize (.openArray, 1)
  else if c = ']' then ofSize (.closeArray, 1)
  else if c = '\x7b' then ofSize (.openObject, 1)
  else if c = '\x7d' then ofSize (.closeObject, 1)
  else if c = ',' then ofSize (.comma, 1)
  else if c = ':' then ofSize (.colon, 1)
  else if c = '"' then readString place t
  else if c = 'n' then ofSize (readWord "null".toList .null place (c :: t))
  else if c = 't' then ofSize (readWord "true".toList (.bool true) place (c :: t))
  else if c = 'f' then ofSize (readWord "false".toList (.bool false) place (c :: t))
  else if c = '-' || c.isDigit then ofSize (readNumber place (c :: t))
  else ofSize (.stray, 1)

/-- The tokens of a text, of which `skip` characters have been read; the others begin at `place`. -/
def scanFrom (place : Place) : (skip : Nat) → Text → List Token
  | _, [] => [⟨.finish, place, place, place⟩]
  | skip + 1, _ :: t => scanFrom place skip t
  | 0, c :: t =>
    if isBlank c then scanFrom (place.next c) 0 t
    else
      let (kind, size, stop) := readKind place c t
      ⟨kind, place, place.skip 1 (c :: t), stop⟩ :: scanFrom stop (size - 1) t

def scan (t : Text) : List Token := scanFrom .start 0 t

end Token

end Chatdown.Json
