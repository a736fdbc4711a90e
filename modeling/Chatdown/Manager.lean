import Chatdown.Unicode.LowerCase

/-!
# Managers

The people of the chat platform whom a document may mention, and the name under which each is
known in a directory.
-/

namespace Chatdown

/-- A person of the chat platform. -/
structure Manager where
  id : Text
  name : Text
  email : Option Text
  githubUsername : Option Text
  githubOrganization : Option Text
  deriving DecidableEq, Repr

namespace Manager

/-- A manager of whom only the identity is known. -/
def ofIdentity (id name : Text) : Manager := ⟨id, name, none, none, none⟩

/-- The part of an address before its first `@`, if it has one. -/
def localPart? (address : Text) : Option Text :=
  if '@' ∈ address then some (address.takeWhile (· ≠ '@')) else none

/-- The part of the e-mail address before its first `@`. -/
def emailLocalPart? (m : Manager) : Option Text := m.email.bind localPart?

/-- The lower-case name under which a manager is listed: the GitHub user name, or else the local
part of the e-mail address. -/
def key? (m : Manager) : Option Text :=
  (m.githubUsername <|> m.emailLocalPart?).map Text.lower

end Manager

end Chatdown
