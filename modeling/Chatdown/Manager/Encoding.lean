import Chatdown.Json.Printer
import Chatdown.Manager

/-!
# Managers as JSON

A record is an object with all five members; those that are not set are null.
-/

namespace Chatdown.Manager

def optional (t : Option Text) : Json :=
  match t with
  | some t => .string t
  | none => .null

def toJson (m : Manager) : Json :=
  .object [("id".toList, .string m.id), ("name".toList, .string m.name),
    ("email".toList, optional m.email), ("github_username".toList, optional m.githubUsername),
    ("github_organization".toList, optional m.githubOrganization)]

end Chatdown.Manager
