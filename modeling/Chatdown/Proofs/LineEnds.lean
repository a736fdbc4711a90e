import Chatdown.Conversion
import Chatdown.Proofs.Markdown.Lines
import Chatdown.Proofs.Rendering.SourceLines

/-! # Line ends

The lines of a source are found twice: by the reader of Markdown, which keeps none of their ends, and
by the renderer when it looks up the line where a link starts. Both see the same lines whether they
end with line feeds or with carriage returns and line feeds, and whether or not the last line has an
end. Therefore none of this makes a difference to the message.
-/

namespace Chatdown

open Markdown

/-- All that a conversion knows of its source are the lines, as either reader sees them. -/
theorem convert_congr (find? : Text → Option Manager) {s t : Text}
    (read : Line.split s = Line.split t)
    (shown : Rendering.sourceLines [] s = Rendering.sourceLines [] t) :
    convert find? s = convert find? t := by
  rw [convert, convert, Markdown.read, Markdown.read, read,
    Rendering.messageBlocks_congr find? shown]

/-- A source without carriage returns gives the same blocks when each of its line feeds gets a
carriage return, and when its last line gets an end that it does not have. -/
theorem convert_lineEnds (find? : Text → Option Manager) {source : Text}
    (noReturn : '\r' ∉ source) :
    convert find? source.withReturns = convert find? source ∧
      (source.getLast? ≠ some '\n' → convert find? (source ++ ['\n']) = convert find? source) := by
  constructor
  · apply convert_congr
    · exact Line.isLineReader_splitFrom.withReturns noReturn []
    · exact Rendering.isLineReader_sourceLines.withReturns noReturn []
  · intro unended
    -- The empty source has no line that could get an end: a blank line is added, and shows nothing.
    by_cases empty : source = []
    · subst empty
      rfl
    · apply convert_congr
      · exact Line.isLineReader_splitFrom.append_feed noReturn unended (.inr empty)
      · exact Rendering.isLineReader_sourceLines.append_feed noReturn unended (.inr empty)

/-- Breaks, code and a link that is told apart by its place on the second line. -/
theorem convert_lineEnds_link :
    let jo := Directory.ofList [⟨"7".toList, "Jo".toList, none, some "jo".toList, none⟩]
    let source : Text :=
      "a\\\n[http://x.io](http://x.io) http://x.io  \n@jo\n\n```\n\n @jo\n```\n- b\n\n      c".toList
    let returns : Text :=
      ("a\\\r\n[http://x.io](http://x.io) http://x.io  \r\n@jo\r\n\r\n```\r\n\r\n @jo\r\n```\r\n" ++
        "- b\r\n\r\n      c").toList
    ('\r' ∉ source ∧ convert jo.find? returns = convert jo.find? source) ∧
      source.getLast? ≠ some '\n' ∧
      convert jo.find? (source ++ ['\n']) = convert jo.find? source := by
  intro jo source returns
  have noReturn : '\r' ∉ source := by decide
  have unended : source.getLast? ≠ some '\n' := by decide
  have spelled : source.withReturns = returns := by decide
  have same := convert_lineEnds jo.find? noReturn
  rw [spelled] at same
  exact ⟨⟨noReturn, same.1⟩, unended, same.2 unended⟩

end Chatdown
