import Chatdown.Text

/-!
# Short names of GitHub pages

The page of an issue or a pull request is shown as `#` and its number, and a comparison as the
range that it compares.
-/

namespace Chatdown.GitHub

/-- A nonempty path segment that a slash ends, and what follows the slash. -/
def segment? (path : Text) : Option (Text × Text) :=
  match path.takeWhile (· ≠ '/'), path.dropWhile (· ≠ '/') with
  | c :: name, _ :: rest => some (c :: name, rest)
  | _, _ => none

/-- What follows the two segments of owner and repository in the URL of a repository page. -/
def repositoryPath? (url : Text) : Option Text := do
  let rest ← Text.after? "http".toList url
  let rest := (Text.after? ['s'] rest).getD rest
  let rest ← Text.after? "://github.com/".toList rest
  let (_, rest) ← segment? rest
  let (_, rest) ← segment? rest
  return rest

def nonempty? (t : Text) : Option Text := if t = [] then none else some t

/-- The number of the issue or pull request that a URL leads to. -/
def issueNumber? (url : Text) : Option Text := do
  let path ← repositoryPath? url
  let number ← Text.after? "issues/".toList path <|> Text.after? "pull/".toList path
  nonempty? (number.takeWhile Char.isDigit)

def comparedRange? (url : Text) : Option Text := do
  let path ← repositoryPath? url
  let range ← Text.after? "compare/".toList path
  nonempty? (range.takeWhile (· ≠ '/'))

/-- The short name of the page that a URL leads to. -/
def reference? (url : Text) : Option Text :=
  (issueNumber? url).map ('#' :: ·) <|> comparedRange? url

/-- How a URL is shown: by its short name if it has one. -/
def shown (url : Text) : Text := (reference? url).getD url

end Chatdown.GitHub
