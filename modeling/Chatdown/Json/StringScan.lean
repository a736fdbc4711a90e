import Chatdown.Json.Error
import Chatdown.Markdown.Character

/-!
# Reading strings

A string is read up to its closing quote. A reader that wants the text refuses some strings that
one who passes over them accepts: surrogates that come without their partner. The scan gives the
answers to both.
-/

namespace Chatdown.Json

/-- What has been read of a string. -/
inductive StringText where
  /-- The characters so far, backwards, and a leading surrogate that waits for its partner. -/
  | reading (characters : Text) (lead : Option Nat)
  | failed (e : Error)
  deriving Repr

namespace StringText

/-- Adds a character that stands for itself or was escaped by one; `unpaired` is the error if a
surrogate was waiting. -/
def push (c : Char) (unpaired : Error) : StringText → StringText
  | reading characters none => reading (c :: characters) none
  | reading _ (some _) => failed unpaired
  | failed e => failed e

/-- Adds what a hexadecimal escape stands for, which ends at the given place. -/
def pushUnit (unit : Nat) (place : Place) : StringText → StringText
  | reading characters none =>
    if 0xDC00 ≤ unit && unit ≤ 0xDFFF then failed (.malformed .loneSurrogate place)
    else if 0xD800 ≤ unit && unit ≤ 0xDBFF then reading characters (some unit)
    else reading (Char.ofNat unit :: characters) none
  | reading characters (some lead) =>
    if 0xDC00 ≤ unit && unit ≤ 0xDFFF then
      reading (Char.ofNat (0x10000 + (lead - 0xD800) * 0x400 + (unit - 0xDC00)) :: characters) none
    else failed (.malformed .loneSurrogate place)
  | failed e => failed e

/-- The text when the closing quote has been read. -/
def finish (unpaired : Error) : StringText → Except Error Text
  | reading characters none => .ok characters.reverse
  | reading _ (some _) => .error unpaired
  | failed e => .error e

/-- The error of one who wants the text, when the string is broken off by an error. A surrogate that
waits is noticed first, unless it is the string's end or another escape that is broken. -/
def breakOff (e : Error) (unpaired : Option Error) : StringText → Error
  | reading _ (some _) => unpaired.getD e
  | reading _ none => e
  | failed e => e

end StringText

structure StringScan where
  text : Except Error Text
  /-- The error of one who passes over the string, which is then not closed. -/
  broken : Option Error
  /-- The characters of the string, the closing quote included. -/
  size : Nat
  /-- The place after them. -/
  stop : Place
  deriving Repr

namespace StringScan

def simpleEscape? (c : Char) : Option Char :=
  if c = '"' || c = '\\' || c = '/' then some c
  else if c = 'b' then some '\x08'
  else if c = 'f' then some '\x0c'
  else if c = 'n' then some '\n'
  else if c = 'r' then some '\r'
  else if c = 't' then some '\t'
  else none

/-- The number that four hexadecimal digits at the start of a text make. -/
def unit? (t : Text) : Option Nat :=
  let digits := t.take 4
  if digits.length = 4 && digits.all Markdown.isHexDigit then
    some (digits.foldl (fun n c => 16 * n + Markdown.hexValue c) 0)
  else none

/-- A scan that ends with an error, which both readers notice unless one of them has noticed
something before. -/
def brokenOff (text : StringText) (e : Error) (unpaired : Option Error) (size : Nat)
    (place : Place) : StringScan :=
  ⟨.error (text.breakOff e unpaired), some e, size, place⟩

/-- Reads the rest of a string. Of the text, `skip` characters have been read already; `place` is
where the others begin, and `size` characters of the string come before them. -/
def readFrom (text : StringText) (place : Place) (size : Nat) : (skip : Nat) → Text → StringScan
  | skip + 1, _ :: t => readFrom text place size skip t
  | _, [] => brokenOff text (.malformed .endInString place) none size place
  | 0, c :: t =>
    let after := place.next c
    let unpaired := Error.malformed .endOfEscape (place.skip 1 (c :: t))
    if c = '"' then ⟨text.finish unpaired, none, size + 1, after⟩
    else if c < ' ' then
      match text with
      | .reading _ none =>
        ⟨.error (.malformed .controlCharacter after), some (.malformed .controlCharacter place),
          size, place⟩
      | _ => brokenOff text (.malformed .controlCharacter place) (some unpaired) size place
    else if c = '\\' then
      match t with
      | [] => brokenOff text (.malformed .endInString after) none size after
      | d :: digits =>
        let unpaired := Error.malformed .endOfEscape (after.skip 1 t)
        if d = 'u' then
          match unit? digits with
          | some unit =>
            let stop := ⟨place.line, place.column + 6⟩
            readFrom (text.pushUnit unit stop) stop (size + 6) 5 t
          | none =>
            let e :=
              if Text.byteLength digits < 4 then
                Error.malformed .endInString ((after.next d).skip 4 digits)
              else Error.malformed .escape ((after.next d).skip 4 digits)
            brokenOff text e none size place
        else
          match simpleEscape? d with
          | some character => readFrom (text.push character unpaired) (after.next d) (size + 2) 1 t
          | none => brokenOff text (.malformed .escape (after.skip 1 t)) (some unpaired) size place
    else readFrom (text.push c unpaired) after (size + 1) 0 t

/-- Reads the string after an opening quote. -/
def read (place : Place) (t : Text) : StringScan := readFrom (.reading [] none) place 1 0 t

end StringScan

end Chatdown.Json
