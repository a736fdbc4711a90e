import Chatdown.Json.Decoding
import Chatdown.Manager

/-!
# Reading managers from JSON

A record is an object, of which only the members with known names matter, or an array of the members
in their order. Identity and name are required.
-/

namespace Chatdown.Manager

open Json (Tree Element Member Error Fault Place)

/-- The members of a record. -/
inductive Field where
  | id
  | name
  | email
  | githubUsername
  | githubOrganization
  deriving DecidableEq, Repr

namespace Field

def key : Field → Text
  | id => "id".toList
  | name => "name".toList
  | email => "email".toList
  | githubUsername => "github_username".toList
  | githubOrganization => "github_organization".toList

def all : List Field := [id, name, email, githubUsername, githubOrganization]

def ofKey? (key : Text) : Option Field := all.find? fun f => f.key = key

end Field

/-- The members that have been read. -/
structure Draft where
  id : Option Text := none
  name : Option Text := none
  email : Option (Option Text) := none
  githubUsername : Option (Option Text) := none
  githubOrganization : Option (Option Text) := none
  deriving DecidableEq, Repr

namespace Draft

def has (d : Draft) : Field → Bool
  | .id => d.id.isSome
  | .name => d.name.isSome
  | .email => d.email.isSome
  | .githubUsername => d.githubUsername.isSome
  | .githubOrganization => d.githubOrganization.isSome

def read (d : Draft) (field : Field) (tree : Tree) : Except Error Draft :=
  match field with
  | .id => tree.text.map fun t => { d with id := some t }
  | .name => tree.text.map fun t => { d with name := some t }
  | .email => tree.optionalText.map fun t => { d with email := some t }
  | .githubUsername => tree.optionalText.map fun t => { d with githubUsername := some t }
  | .githubOrganization => tree.optionalText.map fun t => { d with githubOrganization := some t }

def readMembers (d : Draft) : List Member → Except Error Draft
  | [] => .ok d
  | .mk key afterKey tree :: members =>
    match key with
    | .error e => .error e
    | .ok key =>
      match Field.ofKey? key with
      | none =>
        match tree.skip with
        | .error e => .error e
        | .ok _ => readMembers d members
      | some field =>
        if d.has field then .error (.data (.duplicateField field.key) (some afterKey))
        else
          match d.read field tree with
          | .error e => .error e
          | .ok d => readMembers d members

/-- The record with the members that have been read, or the first required one that is missing. -/
def finish (d : Draft) : Except Field Manager :=
  match d.id, d.name with
  | none, _ => .error .id
  | some _, none => .error .name
  | some id, some name =>
    .ok ⟨id, name, d.email.getD none, d.githubUsername.getD none, d.githubOrganization.getD none⟩

/-- Reads the elements of an array as the given members, of which `index` come before; `last` is the
element before them. The array ends with the members at the latest. -/
def readElements (d : Draft) (index : Nat) (last : Option Element) (elements : List Element)
    (ending : Except Fault Place) : List Field → Except Error Draft
  | [] =>
    match last.bind (·.closing.error) with
    | some e => .error e
    | none => .ok d
  | field :: fields =>
    match Tree.nextElement? elements ending with
    | .error e => .error e
    | .ok (some (element, elements)) =>
      match d.read field element.tree with
      | .error e => .error e
      | .ok d => readElements d (index + 1) (some element) elements ending fields
    | .ok none =>
      match field, ending with
      | .id, .ok stop => .error (tooShort index stop)
      | .name, .ok stop => .error (tooShort index stop)
      | _, _ => .ok d
where
  /-- The error of an array that ends before a required member. -/
  tooShort (length : Nat) (stop : Place) : Error :=
    .data (.invalidLength length "struct Manager with 5 elements".toList) (some stop)

end Draft

def ofTree : Tree → Except Error Manager
  | .object _ _ members ending =>
    match Draft.readMembers {} members, ending with
    | .error e, _ => .error e
    | .ok _, .error f => .error f.read
    | .ok d, .ok stop => d.finish.mapError fun field => .data (.missingField field.key) (some stop)
  | .array start _ elements ending =>
    match Draft.readElements {} 0 none elements ending Field.all with
    | .error e => .error e
    | .ok d => d.finish.mapError fun field => .data (.missingField field.key) (some start)
  | tree => .error (tree.mismatch "struct Manager".toList)

def ofElements : List Element → Except Error (List Manager)
  | [] => .ok []
  | element :: elements =>
    match ofTree element.tree with
    | .error e => .error e
    | .ok m => (ofElements elements).map (m :: ·)

def listOfTree : Tree → Except Error (List Manager)
  | .array _ _ elements ending =>
    match ofElements elements, ending with
    | .error e, _ => .error e
    | .ok _, .error f => .error f.read
    | .ok managers, .ok _ => .ok managers
  | tree => .error (tree.mismatch "a sequence".toList)

def ofJsonText (t : Text) : Except Error Manager := Json.decode ofTree t

def listOfJsonText (t : Text) : Except Error (List Manager) := Json.decode listOfTree t

end Chatdown.Manager
