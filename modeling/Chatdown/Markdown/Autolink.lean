import Chatdown.Markdown.CharacterReference
import Chatdown.Unicode.Blank

/-!
# Autolinks

URLs and addresses that are links as they stand: in angle brackets, or bare in running text,
where a URL is known by its scheme or by `www.`.
-/

namespace Chatdown.Markdown

/-- A link that is written as its own URL. -/
structure Autolink where
  url : Text
  shown : Text
  deriving DecidableEq, Repr

namespace Autolink

def isSchemeChar (c : Char) : Bool := c.isAlphanum || c == '.' || c == '+' || c == '-'

/-- Tests for a character of the URIs that may stand in angle brackets. -/
def isUriChar (c : Char) : Bool := ' ' < c && c != '<' && c != '>'

/-- The URI before a closing angle bracket. -/
def uri? (t : Text) : Option Text :=
  let scheme := t.takeWhile isSchemeChar
  match t.drop scheme.length with
  | ':' :: t =>
    let body := t.takeWhile isUriChar
    if (scheme.head?.any Char.isAlpha && 2 ≤ scheme.length && scheme.length ≤ 32) &&
        (t.drop body.length).head? = some '>' then
      some (scheme ++ ':' :: body)
    else
      none
  | _ => none

/-- Tests for a character of the local part of an address. -/
def isLocalChar (c : Char) : Bool :=
  c.isAlphanum || ".!#$%&'*+/=?^_\x60\x7b|\x7d~-".toList.contains c

/-- Tests for a host name, of whose first label `taken` characters have been read. Labels have
up to 63 letters, digits and hyphens, and no hyphen at either end. -/
def isHostName (taken : Nat) (afterHyphen : Bool) : Text → Bool
  | [] => 0 < taken && !afterHyphen
  | c :: t =>
    if c = '.' then 0 < taken && !afterHyphen && isHostName 0 false t
    else if c = '-' then 0 < taken && taken < 63 && isHostName (taken + 1) true t
    else c.isAlphanum && taken < 63 && isHostName (taken + 1) false t

/-- The address before a closing angle bracket. -/
def address? (t : Text) : Option Text :=
  let user := t.takeWhile isLocalChar
  match t.drop user.length with
  | '@' :: t =>
    let host := t.takeWhile (· ≠ '>')
    if user ≠ [] && isHostName 0 false host && host.length < t.length then
      some (user ++ '@' :: host)
    else
      none
  | _ => none

/-- Reads an autolink after its opening angle bracket, with the number of characters up to the
closing bracket and with it. -/
def angled? (t : Text) : Option (Autolink × Nat) :=
  match uri? t with
  | some source =>
    let target := CharacterReference.resolve source
    some (⟨target, target⟩, source.length + 1)
  | none =>
    (address? t).map fun source =>
      let target := CharacterReference.resolve source
      (⟨"mailto:".toList ++ target, target⟩, source.length + 1)

/-- Tests for a character of host names in running text, which may be in any script. -/
def isHostChar (c : Char) : Bool := !(Unicode.isBlank c || Unicode.isSymbol c) || c == '-'

/-- Tests whether a text begins with a host, of which so many dots have been read and so many
underscores in the last but one label and in the last. These two may have none, unless the name
takes up all of the text and has more than ten dots. If `dotted`, a dot is required. -/
def startsHost (dotted : Bool) (dots before last : Nat) : Text → Bool
  | [] => (before = 0 && last = 0 || 10 < dots) && (!dotted || 0 < dots)
  | c :: t =>
    if c = '_' then startsHost dotted dots before (last + 1) t
    else if c = '.' then startsHost dotted (dots + 1) last 0 t
    else if isHostChar c then startsHost dotted dots before last t
    else before = 0 && last = 0 && (!dotted || 0 < dots)

/-- Tests for a character that does not end a bare URL. -/
def isLoose (c : Char) : Bool := "?!.,:*_~'\"".toList.contains c

/-- Takes away, from the end of a URL that is given backwards, what belongs to the text around
it: punctuation, character references, and closing parentheses without an opening one. The first
`skip` characters have been taken away already. -/
def tighten : (skip : Nat) → Text → Text
  | _, [] => []
  | skip + 1, _ :: r => tighten skip r
  | 0, c :: r =>
    if isLoose c then tighten 0 r
    else if c = ';' then
      let name := r.takeWhile Char.isAlpha
      if name ≠ [] && (r.drop name.length).head? = some '&' then tighten (name.length + 1) r
      else tighten 0 r
    else if c = ')' && r.count '(' < (c :: r).count ')' then tighten 0 r
    else c :: r

/-- The URL at the start of a text: up to white space or a `<`, and tightened. -/
def extent (t : Text) : Text :=
  (tighten 0 ((t.takeWhile fun c => !isSpacing c && c != '<').reverse)).reverse

def schemes : List Text := ["http".toList, "https".toList, "ftp".toList]

/-- The bare URL around a colon, with the length of its scheme. The text before the colon is given
backwards, and `t` is the text from the colon on. -/
def atColon? (before t : Text) : Option (Autolink × Nat) :=
  let scheme := (before.takeWhile Char.isAlpha).reverse
  match t with
  | ':' :: '/' :: '/' :: c :: rest =>
    if schemes.contains scheme && startsHost false 0 0 0 (c :: rest) then
      let url := scheme ++ extent t
      some (⟨url, url⟩, scheme.length)
    else
      none
  | _ => none

/-- Tests whether a host may begin after a text that is given backwards. -/
def mayStartHost : Text → Bool
  | [] => true
  | c :: _ => isSpacing c || "*_~([".toList.contains c

/-- The bare URL at the start of a text that begins with `www.`, where the text before it is given
backwards. -/
def atHost? (before t : Text) : Option Autolink :=
  if mayStartHost before && "www.".toList.isPrefixOf t && startsHost true 0 0 0 t then
    some ⟨"http://".toList ++ extent t, extent t⟩
  else
    none

end Autolink

end Chatdown.Markdown
