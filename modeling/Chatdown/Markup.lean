import Chatdown.Text

/-!
# Chat markup

The markup that a chat client renders. Builders return plain text, and markup is composed by
writing the results after each other. A value that stands in an attribute is escaped here;
content is embedded as given, so text of users has to be escaped before it becomes content.
-/

namespace Chatdown.Markup

inductive MentionKind where
  | manager
  | team
  deriving DecidableEq, Repr

/-- The value of the `type` attribute of a mention. -/
def MentionKind.name : MentionKind → Text
  | .manager => "manager".toList
  | .team => "team".toList

/-- The written form of a character: the four that markup uses are written as entities. -/
def escapeChar (c : Char) : Text :=
  if c = '"' then "&quot;".toList
  else if c = '&' then "&amp;".toList
  else if c = '<' then "&lt;".toList
  else if c = '>' then "&gt;".toList
  else [c]

/-- Escapes a text, so that it stands for itself in content and in attributes. -/
def escape (t : Text) : Text := t.flatMap escapeChar

def emoji (name : Text) : Text := ':' :: name ++ [':']

def bold (content : Text) : Text := "<b>".toList ++ content ++ "</b>".toList

def italic (content : Text) : Text := "<i>".toList ++ content ++ "</i>".toList

def link (type value content : Text) : Text :=
  "<link type=\"".toList ++ type ++ "\" value=\"".toList ++ escape value ++ "\">".toList ++
    content ++ "</link>".toList

/-- A mention of a manager or a team. The name is content and may itself hold markup. -/
def mention (kind : MentionKind) (id name : Text) : Text := link kind.name id name

def inlineLink (url content : Text) : Text := link "url".toList url content

/-- A placeholder for a variable, with the text to show in its place if there is one. -/
def placeholder (key alternative : Text) : Text :=
  let name := if alternative = [] then key else key ++ '|' :: alternative
  '$' :: '\x7b' :: name ++ ['\x7d']

end Chatdown.Markup
