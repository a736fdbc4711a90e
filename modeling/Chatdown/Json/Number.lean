import Chatdown.Json.Value

/-!
# Reading numbers

Integers are read as such if they fit into 64 bits. Any other number is a significand of 64 bits,
beyond which digits are dropped, times a power of ten.
-/

namespace Chatdown.Json

/-- The number at the start of a text. -/
inductive NumberScan where
  /-- So many characters go on like a number, and what follows them does not. -/
  | malformed (size : Nat)
  /-- A number of so many characters. One that is too large is noticed after so many of them. -/
  | complete (size : Nat) (value : Except Nat Json)
  deriving Repr

namespace NumberScan

/-- The greatest natural number of 64 bits. -/
def maxNatural : Nat := Nat.pow 2 64 - 1

/-- The greatest exponent that is read digit by digit. -/
def maxExponent : Nat := Nat.pow 2 31 - 1

def digitValue (c : Char) : Nat := c.toNat - '0'.toNat

/-- Goes on with a significand as long as it does not get too large: the significand, and the
number of digits that are left. -/
def addDigits (significand : Nat) : Text → Nat × Nat
  | [] => (significand, 0)
  | c :: t =>
    let more := 10 * significand + digitValue c
    if more ≤ maxNatural then addDigits more t else (significand, t.length + 1)

/-- An integer, given by its sign and its absolute value. A negative zero is no integer. -/
def ofInteger (negative : Bool) (n : Nat) : Json :=
  if !negative then .integer n
  else if 1 ≤ n && n ≤ Nat.pow 2 63 then .integer (-n)
  else .float true ((Binary64.nearest? n 1).getD .zero)

/-- A number that is no integer, of which the text takes `size` characters. -/
def ofDecimal (size : Nat) (negative : Bool) (significand : Nat) (exponent : Int) :
    Except Nat Json :=
  match Binary64.ofDecimal? significand exponent with
  | some x => .ok (.float negative x)
  | none => .error size

/-- Reads the digits of an exponent, of which so many characters come before the rest: the exponent,
or the number of characters after which it gets too large. -/
def exponentFrom (size exponent : Nat) : Text → Except Nat Nat
  | [] => .ok exponent
  | c :: t =>
    let more := 10 * exponent + digitValue c
    if more ≤ maxExponent then exponentFrom (size + 1) more t else .error (size + 1)

def ofParts (size : Nat) (negative : Bool) (whole : Text) (fraction : Text)
    (exponent : Option (Bool × Text)) : Except Nat Json :=
  let (significand, dropped) := addDigits 0 whole
  let (significand, ignored) := addDigits significand fraction
  let shift : Int := (dropped : Int) - ((fraction.length - ignored : Nat) : Int)
  match exponent with
  | none =>
    if fraction = [] && dropped = 0 then .ok (ofInteger negative significand)
    else ofDecimal size negative significand shift
  | some (down, digits) =>
    match exponentFrom (size - digits.length) 0 digits with
    | .ok n => ofDecimal size negative significand (if down then shift - n else shift + n)
    | .error stop =>
      if significand ≠ 0 && !down then .error stop else .ok (.float negative .zero)

/-- Reads the exponent and finishes the number; `size` characters come before `t`. -/
def readExponent (size : Nat) (negative : Bool) (whole fraction t : Text) : NumberScan :=
  match t with
  | [] => .complete size (ofParts size negative whole fraction none)
  | c :: t =>
    if c = 'e' || c = 'E' then
      let sign := (t.take 1).filter fun c => c = '+' || c = '-'
      let digits := (t.drop sign.length).takeWhile Char.isDigit
      let size := size + 1 + sign.length
      if digits = [] then .malformed size
      else
        let size := size + digits.length
        .complete size (ofParts size negative whole fraction (some (sign = ['-'], digits)))
    else .complete size (ofParts size negative whole fraction none)

def read (t : Text) : NumberScan :=
  let negative := t.head? = some '-'
  let sign := if negative then 1 else 0
  let t := t.drop sign
  let digits := t.takeWhile Char.isDigit
  if digits = [] then .malformed sign
  else if digits.head? = some '0' && 1 < digits.length then .malformed (sign + 1)
  else
    let size := sign + digits.length
    match t.drop digits.length with
    | '.' :: rest =>
      let fraction := rest.takeWhile Char.isDigit
      if fraction = [] then .malformed (size + 1)
      else
        readExponent (size + 1 + fraction.length) negative digits fraction
          (rest.drop fraction.length)
    | rest => readExponent size negative digits [] rest

end NumberScan

end Chatdown.Json
