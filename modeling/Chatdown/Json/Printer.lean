import Chatdown.Json.Value

/-!
# Writing JSON

The compact form has no white space. The pretty form has one element or member on a line, indented
by two spaces for each level. In strings only quotes, backslashes and control characters are
escaped.
-/

namespace Chatdown.Json

def hexDigit (n : Nat) : Char := Nat.digitChar n

def escapeChar (c : Char) : Text :=
  if c = '"' then ['\\', '"']
  else if c = '\\' then ['\\', '\\']
  else if c = '\x08' then ['\\', 'b']
  else if c = '\t' then ['\\', 't']
  else if c = '\n' then ['\\', 'n']
  else if c = '\x0c' then ['\\', 'f']
  else if c = '\r' then ['\\', 'r']
  else if c < ' ' then "\\u00".toList ++ [hexDigit (c.toNat / 16), hexDigit (c.toNat % 16)]
  else [c]

def quote (t : Text) : Text := '"' :: t.flatMap escapeChar ++ ['"']

def natural (n : Nat) : Text := Nat.toDigits 10 n

def integerText : Int → Text
  | .ofNat n => natural n
  | .negSucc n => '-' :: natural (n + 1)

/-- A floating point number: the shortest decimal that is read as the number. It is written with a
point if its first digit is among the first sixteen before or the first five after the point, and
else with an exponent. -/
def floatText (negative : Bool) (magnitude : Binary64) : Text :=
  let sign := if negative then ['-'] else []
  if magnitude.mantissa = 0 then sign ++ "0.0".toList
  else
    let (digits, exponent) := magnitude.shortest
    let digits := natural digits
    let point : Int := digits.length + exponent
    sign ++
      if 0 ≤ exponent && point ≤ 16 then
        digits ++ List.replicate exponent.toNat '0' ++ ".0".toList
      else if 0 < point && point ≤ 16 then
        digits.take point.toNat ++ '.' :: digits.drop point.toNat
      else if -5 < point && point ≤ 0 then
        "0.".toList ++ List.replicate (-point).toNat '0' ++ digits
      else
        let rest := digits.drop 1
        digits.take 1 ++ (if rest = [] then [] else '.' :: rest) ++ 'e' :: integerText (point - 1)

mutual

def compact : Json → Text
  | null => "null".toList
  | bool true => "true".toList
  | bool false => "false".toList
  | integer n => integerText n
  | float negative magnitude => floatText negative magnitude
  | string t => quote t
  | array elements => '[' :: compactElements elements ++ [']']
  | object members => '\x7b' :: compactMembers members ++ ['\x7d']

/-- The compact forms of elements, between commas. -/
def compactElements : List Json → Text
  | [] => []
  | [v] => compact v
  | v :: vs => compact v ++ ',' :: compactElements vs

def compactMembers : List (Text × Json) → Text
  | [] => []
  | [(key, v)] => quote key ++ ':' :: compact v
  | (key, v) :: ms => quote key ++ ':' :: compact v ++ ',' :: compactMembers ms

end

def newLine (level : Nat) : Text := '\n' :: List.replicate (2 * level) ' '

mutual

def pretty (level : Nat) : Json → Text
  | null => "null".toList
  | bool true => "true".toList
  | bool false => "false".toList
  | integer n => integerText n
  | float negative magnitude => floatText negative magnitude
  | string t => quote t
  | array [] => "[]".toList
  | array (v :: vs) =>
    '[' :: newLine (level + 1) ++ pretty (level + 1) v ++ prettyElements (level + 1) vs ++
      newLine level ++ [']']
  | object [] => ['\x7b', '\x7d']
  | object ((key, v) :: ms) =>
    '\x7b' :: newLine (level + 1) ++ quote key ++ ": ".toList ++ pretty (level + 1) v ++
      prettyMembers (level + 1) ms ++ newLine level ++ ['\x7d']

/-- The pretty forms of elements that follow another, each after a comma on a line of its own. -/
def prettyElements (level : Nat) : List Json → Text
  | [] => []
  | v :: vs => ',' :: newLine level ++ pretty level v ++ prettyElements level vs

def prettyMembers (level : Nat) : List (Text × Json) → Text
  | [] => []
  | (key, v) :: ms =>
    ',' :: newLine level ++ quote key ++ ": ".toList ++ pretty level v ++ prettyMembers level ms

end

end Chatdown.Json
