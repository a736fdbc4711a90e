import Chatdown.Json.Printer
import Chatdown.Unicode.Printable

/-!
# Errors of decoding

What can be wrong with a JSON text or with the value in it, where it was noticed, and how that is
said.
-/

namespace Chatdown.Json

/-- A place in a text: the line, counted from 1, and the bytes of that line before the place. -/
structure Place where
  line : Nat
  column : Nat
  deriving DecidableEq, Repr

namespace Place

def start : Place := ⟨1, 0⟩

def next (p : Place) (c : Char) : Place :=
  if c = '\n' then ⟨p.line + 1, 0⟩ else ⟨p.line, p.column + c.utf8Size⟩

/-- The place after a number of bytes of the text that follows, or at its end. -/
def skip (p : Place) (bytes : Nat) : Text → Place
  | [] => p
  | c :: t =>
    if bytes = 0 then p
    else if c.utf8Size ≤ bytes then (p.next c).skip (bytes - c.utf8Size) t
    else ⟨p.line, p.column + bytes⟩

end Place

inductive SyntaxFault where
  | endInList
  | endInObject
  | endInString
  | endInValue
  | noColon
  | noListEnd
  | noObjectEnd
  | noIdentifier
  | noValue
  | escape
  | number
  | numberRange
  | controlCharacter
  | keyType
  | loneSurrogate
  | endOfEscape
  | trailingComma
  | trailingCharacters
  | depth
  deriving DecidableEq, Repr

namespace SyntaxFault

def message : SyntaxFault → String
  | endInList => "EOF while parsing a list"
  | endInObject => "EOF while parsing an object"
  | endInString => "EOF while parsing a string"
  | endInValue => "EOF while parsing a value"
  | noColon => "expected `:`"
  | noListEnd => "expected `,` or `]`"
  | noObjectEnd => "expected `,` or `\x7d`"
  | noIdentifier => "expected ident"
  | noValue => "expected value"
  | escape => "invalid escape"
  | number => "invalid number"
  | numberRange => "number out of range"
  | controlCharacter => "control character (\\u0000-\\u001F) found while parsing a string"
  | keyType => "key must be a string"
  | loneSurrogate => "lone leading surrogate in hex escape"
  | endOfEscape => "unexpected end of hex escape"
  | trailingComma => "trailing comma"
  | trailingCharacters => "trailing characters"
  | depth => "recursion limit exceeded"

/-- Tests whether the text has ended too early. -/
def isEnd : SyntaxFault → Bool
  | endInList => true
  | endInObject => true
  | endInString => true
  | endInValue => true
  | _ => false

end SyntaxFault

/-- A value where another kind of value is wanted. -/
inductive Found where
  | value (v : Json)
  | sequence
  | map
  deriving Repr

namespace Found

def name : Found → Text
  | .value .null => "null".toList
  | .value (.bool true) => "boolean `true`".toList
  | .value (.bool false) => "boolean `false`".toList
  | .value (.integer n) => "integer `".toList ++ integerText n ++ ['\x60']
  | .value (.float negative magnitude) =>
    "floating point `".toList ++ floatText negative magnitude ++ ['\x60']
  | .value (.string t) => "string ".toList ++ t.display
  | .value (.array _) => "sequence".toList
  | .value (.object _) => "map".toList
  | .sequence => "sequence".toList
  | .map => "map".toList

end Found

/-- What is wrong with the value in a JSON text. -/
inductive DataFault where
  | invalidType (found : Found) (wanted : Text)
  | variantIndex (index : Int) (count : Nat)
  | unknownVariant (name : Text) (known : List Text)
  | invalidLength (length : Nat) (wanted : Text)
  | missingField (name : Text)
  | duplicateField (name : Text)
  deriving Repr

namespace DataFault

def quoted (name : Text) : Text := '\x60' :: name ++ ['\x60']

def message : DataFault → Text
  | invalidType found wanted =>
    "invalid type: ".toList ++ found.name ++ ", expected ".toList ++ wanted
  | variantIndex index count =>
    "invalid value: integer ".toList ++ quoted (integerText index) ++
      ", expected variant index 0 <= i < ".toList ++ natural count
  | unknownVariant name known =>
    "unknown variant ".toList ++ quoted name ++ ", expected one of ".toList ++
      Text.join ", ".toList (known.map quoted)
  | invalidLength length wanted =>
    "invalid length ".toList ++ natural length ++ ", expected ".toList ++ wanted
  | missingField name => "missing field ".toList ++ quoted name
  | duplicateField name => "duplicate field ".toList ++ quoted name

end DataFault

/-- What is wrong, and the place where it was noticed. Values that have been kept to be decoded
later have no places. -/
inductive Error where
  | malformed (fault : SyntaxFault) (place : Place)
  | data (fault : DataFault) (place : Option Place)
  deriving Repr

inductive ErrorKind where
  | malformed
  | ended
  | data
  deriving DecidableEq, Repr

namespace Error

def kind : Error → ErrorKind
  | malformed fault _ => if fault.isEnd then .ended else .malformed
  | data _ _ => .data

def placeText (p : Place) : Text :=
  " at line ".toList ++ natural p.line ++ " column ".toList ++ natural p.column

def message : Error → Text
  | malformed fault place => fault.message.toList ++ placeText place
  | data fault none => fault.message
  | data fault (some place) => fault.message ++ placeText place

def orAt (place : Place) : Error → Error
  | data fault none => data fault (some place)
  | e => e

end Error

end Chatdown.Json
