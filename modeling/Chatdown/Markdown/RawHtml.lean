import Chatdown.Markdown.Character

/-!
# Raw HTML

The forms of HTML that inline content may hold: tags, comments, processing instructions,
declarations and character data sections. Each scanner answers what follows the form, and none
needs to look back.
-/

namespace Chatdown.Markdown.RawHtml

/-- Tests for a character of attribute names other than the first. -/
def isAttributeChar (c : Char) : Bool :=
  c.isAlphanum || c == '_' || c == ':' || c == '.' || c == '-'

/-- Tests for the first character of an attribute name. -/
def startsAttribute (c : Char) : Bool := c.isAlpha || c == '_' || c == ':'

/-- Tests for a character of attribute values that stand without quotes. -/
def isUnquotedChar (c : Char) : Bool :=
  !(isGap c || c == '"' || c == '\'' || c == '=' || c == '<' || c == '>' || c == '\x60')

/-- What of a tag has been read. -/
inductive TagPart where
  | name
  | blank
  | attributeName
  | attributeBlank
  | equals
  | unquoted
  | quoted (mark : Char)
  | quotedEnd
  | slash
  | closingName
  | closingBlank
  deriving DecidableEq, Repr

namespace TagPart

/-- The part that a character leads to, for a character that does not end the tag. -/
def next? (c : Char) : TagPart → Option TagPart
  | name =>
    if c.isAlphanum || c == '-' then some name
    else if isGap c then some blank
    else if c = '/' then some slash
    else none
  | blank =>
    if isGap c then some blank
    else if startsAttribute c then some attributeName
    else if c = '/' then some slash
    else none
  | attributeName =>
    if isAttributeChar c then some attributeName
    else if isGap c then some attributeBlank
    else if c = '=' then some equals
    else if c = '/' then some slash
    else none
  | attributeBlank =>
    if isGap c then some attributeBlank
    else if startsAttribute c then some attributeName
    else if c = '=' then some equals
    else if c = '/' then some slash
    else none
  | equals =>
    if isGap c then some equals
    else if c = '"' || c = '\'' then some (quoted c)
    else if isUnquotedChar c then some unquoted
    else none
  | unquoted =>
    if isUnquotedChar c then some unquoted
    else if isGap c then some blank
    else none
  | quoted mark => if c = mark then some quotedEnd else some (quoted mark)
  | quotedEnd =>
    if isGap c then some blank
    else if c = '/' then some slash
    else none
  | slash => none
  | closingName =>
    if c.isAlphanum || c == '-' then some closingName
    else if isGap c then some closingBlank
    else none
  | closingBlank => if isGap c then some closingBlank else none

/-- Tests whether a `>` ends the tag here. -/
def mayEnd : TagPart → Bool
  | equals => false
  | quoted _ => false
  | _ => true

/-- What follows the tag of which a part has been read. -/
def after? (part : TagPart) : Text → Option Text
  | [] => none
  | c :: t =>
    if c = '>' && part.mayEnd then some t
    else
      match part.next? c with
      | some part => after? part t
      | none => none

end TagPart

/-- What follows an opening or closing tag, after its `<`. -/
def afterTag? : Text → Option Text
  | [] => none
  | '/' :: c :: t => if c.isAlpha then TagPart.closingName.after? t else none
  | c :: t => if c.isAlpha then TagPart.name.after? t else none

/-- What follows the end of a comment. Inside it, two hyphens take the character after them along
unless that ends the comment. -/
def afterComment? : Text → Option Text
  | [] => none
  | '-' :: '-' :: c :: t => if c = '>' then some t else afterComment? t
  | '-' :: c :: t => if c = '-' then none else afterComment? t
  | _ :: t => afterComment? t

def afterCharacterData? : Text → Option Text
  | [] => none
  | ']' :: ']' :: c :: t => if c = '>' then some t else afterCharacterData? t
  | ']' :: c :: t => if c = ']' then none else afterCharacterData? t
  | _ :: t => afterCharacterData? t

def afterInstruction? : Text → Option Text
  | [] => none
  | '?' :: c :: t => if c = '>' then some t else afterInstruction? t
  | _ :: t => afterInstruction? t

def afterAngle? : Text → Option Text
  | [] => none
  | c :: t => if c = '>' then some t else afterAngle? t

/-- What follows a declaration, after its `<!`: a name in capital letters and a space come first. -/
def afterDeclaration? (t : Text) : Option Text :=
  match t.takeWhile Char.isUpper, t.dropWhile Char.isUpper with
  | _ :: _, c :: t => if isGap c then afterAngle? t else none
  | _, _ => none

/-- What follows the opening of a character data section, after its `<![`, in either case. -/
def afterCharacterDataStart? (t : Text) : Option Text :=
  let start := "cdata[".toList
  if (t.take start.length).map Char.toLower = start then some (t.drop start.length) else none

/-- The forms that are no longer looked for, since an earlier one had no end. -/
structure Unended where
  comment : Bool := false
  instruction : Bool := false
  deriving DecidableEq, Repr

/-- Reads the HTML that begins with a `<` before the given text: what follows it, and what is not
to be looked for from here on. After a comment without an end nothing that begins with `<!` is
taken for HTML. -/
def read? (unended : Unended) (t : Text) : Option Text × Unended :=
  match t with
  | '!' :: t =>
    if unended.comment then (none, unended)
    else
      match t with
      | '-' :: '-' :: t =>
        match t with
        | '>' :: t => (some t, unended)
        | '-' :: '>' :: t => (some t, unended)
        | t =>
          match afterComment? t with
          | some t => (some t, unended)
          | none => (none, { unended with comment := true })
      | '[' :: t => ((afterCharacterDataStart? t).bind afterCharacterData?, unended)
      | t => (afterDeclaration? t, unended)
  | '?' :: t =>
    if unended.instruction then (none, unended)
    else
      match afterInstruction? t with
      | some t => (some t, unended)
      | none => (none, { unended with instruction := true })
  | t => (afterTag? t, unended)

end Chatdown.Markdown.RawHtml
