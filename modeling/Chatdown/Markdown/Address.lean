import Chatdown.Document
import Chatdown.Markdown.Character

/-!
# E-mail addresses in running text

Addresses are found after all else: in the texts between other nodes, but not in links and images.
-/

namespace Chatdown.Markdown.Address

/-- Tests for a character that may stand before the `@` of an address. -/
def isUserChar (c : Char) : Bool := c.isAlphanum || ".+-_".toList.contains c

/-- Tests whether a text that is given backwards ends with exactly this word. -/
def endsWithWord (word before : Text) : Bool := (before.takeWhile Char.isAlpha).reverse = word

/-- Tests whether a colon after a text that is given backwards belongs to an address. -/
def mayPrecede (before : Text) : Bool :=
  endsWithWord "mailto".toList before || endsWithWord "xmpp".toList before

/-- The part of an address before its `@`, taken from the end of a text; both are given
backwards. -/
def user : Text → Text
  | [] => []
  | c :: before => if isUserChar c || c = ':' && mayPrecede before then c :: user before else []

/-- Tests whether the part before an `@`, given backwards, names the scheme `xmpp`. -/
def isChat : Text → Bool
  | [] => false
  | c :: before => c = ':' && endsWithWord "xmpp".toList before || isChat before

/-- The part of an address after its `@`, taken from the start of a text. There is none if another
`@` comes next. -/
def host? (chat : Bool) : Text → Option Text
  | [] => some []
  | c :: t =>
    if c.isAlphanum || c = '-' || c = '_' || c = '/' && chat ||
        c = '.' && t.head?.any Char.isAlphanum then
      (host? chat t).map (c :: ·)
    else if c = '@' then none
    else some []

/-- The parts of the address around an `@`, the first of them backwards. The host has a dot and
ends with a letter. -/
def around? (before after : Text) : Option (Text × Text) := do
  let user := user before
  let host ← host? (isChat user) after
  if user ≠ [] && host.contains '.' && host.getLast?.any Char.isAlpha then some (user, host)
  else none

/-- The link to an address, of which the part before the `@` is given backwards. -/
def link (user host : Text) : Inline :=
  let address := user.reverse ++ '@' :: host
  .link (if user.contains ':' then address else "mailto:".toList ++ address) none [.text address]

/-- By how much a character changes the number of open brackets. -/
def bracketChange (c : Char) : Int := if c = '[' then 1 else if c = ']' then -1 else 0

/-- Splits a text at its addresses, after `skip` characters that have been read. The text since the
last address is given backwards; where more brackets have been opened than closed in it, there are
no addresses. -/
def split (depth : Int) (before : Text) : (skip : Nat) → Text → List Inline
  | _, [] => [.text before.reverse]
  | skip + 1, _ :: t => split depth before skip t
  | 0, c :: t =>
    let depth := depth + bracketChange c
    match if c = '@' && depth ≤ 0 then around? before t else none with
    | some (user, host) =>
      .text (before.drop user.length).reverse :: link user host :: split 0 [] host.length t
    | none => split depth (c :: before) 0 t

mutual

/-- Makes links of the addresses in a node. -/
def inNode : Inline → Inline
  | .text t => .text t
  | .softBreak => .softBreak
  | .hardBreak => .hardBreak
  | .code t => .code t
  | .html t => .html t
  | .emphasis children => .emphasis (inNodes [] children)
  | .strong children => .strong (inNodes [] children)
  | .strikethrough children => .strikethrough (inNodes [] children)
  | .link url start children => .link url start children
  | .image url children => .image url children

/-- Makes links of the addresses in nodes that follow the text `pending`, which is given backwards.
Neighbouring texts are joined. -/
def inNodes (pending : Text) : List Inline → List Inline
  | [] => split 0 [] 0 pending.reverse
  | .text t :: is => inNodes (t.reverse ++ pending) is
  | i :: is => split 0 [] 0 pending.reverse ++ inNode i :: inNodes [] is

end

end Chatdown.Markdown.Address
