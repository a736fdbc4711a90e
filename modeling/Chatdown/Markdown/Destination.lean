import Chatdown.Markdown.CharacterReference

/-!
# Destinations and titles of links

What stands in the parentheses of an inline link and after the label of a link definition. The
scanners answer how many characters they take.
-/

namespace Chatdown.Markdown

open Unicode (isAsciiSymbol)

/-- Takes the backslashes away by which symbols are escaped. -/
def unescape : Text → Text
  | [] => []
  | [c] => [c]
  | c :: d :: t =>
    if c = '\\' && isAsciiSymbol d then d :: unescape t else c :: unescape (d :: t)

namespace Destination

/-- The inside of a destination in angle brackets, up to the closing bracket. -/
def angled? : Text → Option Text
  | [] => none
  | ['\\'] => none
  | '\\' :: c :: t => (angled? t).map fun inside => '\\' :: c :: inside
  | c :: t =>
    if c = '>' then some []
    else if c = '<' || c = '\n' then none
    else (angled? t).map (c :: ·)

/-- A destination without brackets, in which `depth` parentheses are open. It ends before a
space, a control character or the parenthesis that closes none of its own. -/
def bare? (depth : Nat) : Text → Option Text
  | [] => none
  | '\\' :: d :: t =>
    if isAsciiSymbol d then (bare? depth t).map fun url => '\\' :: d :: url
    else (bare? depth (d :: t)).map ('\\' :: ·)
  | c :: t =>
    if c = '(' then
      if depth < 32 then (bare? (depth + 1) t).map (c :: ·) else none
    else if c = ')' then
      match depth with
      | 0 => some []
      | depth + 1 => (bare? depth t).map (c :: ·)
    else if isSpacing c || isControl c then
      if depth = 0 then some [] else none
    else (bare? depth t).map (c :: ·)

/-- Reads a destination: its source, and the number of characters that it takes. Something has to
follow it. -/
def read? (t : Text) : Option (Text × Nat) :=
  match t with
  | [] => none
  | '<' :: t => do
    let url ← angled? t
    if url.length + 1 < t.length then some (url, url.length + 2) else none
  | c :: _ =>
    if isSpacing c || isControl c then none
    else (bare? 0 t).map fun url => (url, url.length)

def url (source : Text) : Text := unescape (CharacterReference.resolve (trim isSpacing source))

end Destination

namespace Title

/-- The end of a title after `taken` characters. A closing mark after a backslash is part of the
title if another one ends it; `best` is the last such mark. -/
def endFrom (opening closing : Char) (escaped : Bool) (taken : Nat) (best : Option Nat) :
    Text → Option Nat
  | [] => best
  | c :: t =>
    if c = closing then
      if escaped then endFrom opening closing false (taken + 1) (some (taken + 1)) t
      else some (taken + 1)
    else if c = opening && !escaped then best
    else endFrom opening closing (c = '\\') (taken + 1) best t

/-- The number of characters that a title takes at the start of a text. -/
def length? : Text → Option Nat
  | '"' :: t => endFrom '"' '"' false 1 none t
  | '\'' :: t => endFrom '\'' '\'' false 1 none t
  | '(' :: t => endFrom '(' ')' false 1 none t
  | _ => none

end Title

namespace Destination

/-- Reads what follows the opening parenthesis of an inline link: the URL, and the number of
characters up to the closing parenthesis and with it. -/
def inParentheses? (t : Text) : Option (Text × Nat) := do
  let before := (t.takeWhile isGap).length
  let (source, size) ← read? (t.drop before)
  let rest := t.drop (before + size)
  let between := (rest.takeWhile isGap).length
  let title := if between = 0 then 0 else (Title.length? (rest.drop between)).getD 0
  let rest := rest.drop (between + title)
  let after := (rest.takeWhile isGap).length
  if (rest.drop after).head? = some ')' then
    some (url source, before + size + between + title + after + 1)
  else
    none

end Destination

end Chatdown.Markdown
