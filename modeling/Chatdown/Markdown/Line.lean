import Chatdown.Text

/-!
# Lines

The lines of a source. A line ends with a line feed, a carriage return, or both in this order, and
the end belongs to no line. NUL stands for U+FFFD.
-/

namespace Chatdown.Markdown.Line

/-- The lines of a text that goes on with a line of which the start is given backwards. -/
def splitFrom (line : Text) : Text → List Text
  | [] => if line = [] then [] else [line.reverse]
  | '\r' :: '\n' :: t => line.reverse :: splitFrom [] t
  | c :: t =>
    if c = '\n' || c = '\r' then line.reverse :: splitFrom [] t
    else splitFrom ((if c = '\x00' then '\uFFFD' else c) :: line) t

def split (source : Text) : List Text := splitFrom [] source

end Chatdown.Markdown.Line
