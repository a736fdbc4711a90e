import Chatdown.Text
import Chatdown.Unicode.Symbol

/-!
# Characters of Markdown

The character classes that the grammar of Markdown speaks of. All but the flanking of emphasis
and the host names of bare URLs are about ASCII alone.
-/

namespace Chatdown.Markdown

/-- Tests for a space or a tab. -/
def isPad (c : Char) : Bool := c == ' ' || c == '\t'

/-- Tests for a character that is trimmed from the ends of content and that ends a bare URL. -/
def isSpacing (c : Char) : Bool :=
  c == ' ' || c == '\t' || c == '\n' || c == '\x0c' || c == '\r'

/-- Tests for a character that may stand between the parts of a link or a tag. -/
def isGap (c : Char) : Bool := isSpacing c || c == '\x0b'

def isControl (c : Char) : Bool := c < ' ' || c == '\x7f'

def isHexDigit (c : Char) : Bool :=
  c.isDigit || 'a' ≤ c && c ≤ 'f' || 'A' ≤ c && c ≤ 'F'

def hexValue (c : Char) : Nat :=
  if c.isDigit then c.toNat - '0'.toNat else c.toLower.toNat - 'a'.toNat + 10

/-- A text without the characters of a class at its start. -/
def trimStart (p : Char → Bool) (t : Text) : Text := t.dropWhile p

/-- A text without the characters of a class at its end. -/
def trimEnd (p : Char → Bool) (t : Text) : Text := (t.reverse.dropWhile p).reverse

/-- A text without the characters of a class at either end. -/
def trim (p : Char → Bool) (t : Text) : Text := trimEnd p (trimStart p t)

end Chatdown.Markdown
