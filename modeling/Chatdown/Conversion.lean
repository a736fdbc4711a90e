import Chatdown.Directory
import Chatdown.Markdown
import Chatdown.Rendering
import Chatdown.Text.Utf8

/-!
# Converting Markdown to messages

The blocks of the message that a Markdown source becomes. Sources may come as bytes, of which those
that are no UTF-8 are replaced before anything is read.
-/

namespace Chatdown

/-- The message blocks of a Markdown source, with mentions of the managers whom `find?` knows by
their lower-case user names. -/
def convert (find? : Text → Option Manager) (source : Text) : List MessageBlock :=
  Rendering.messageBlocks find? source (Markdown.read source)

def convertBytes (find? : Text → Option Manager) (source : List UInt8) : List MessageBlock :=
  convert find? (Utf8.decodeLossy source)

end Chatdown
