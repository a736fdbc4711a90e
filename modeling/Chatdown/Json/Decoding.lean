import Chatdown.Json.Tree

/-!
# Decoding located trees

The readers that all decoders are made of. A tree is read from left to right, and the first thing
that is wrong with it, be it syntax or data, is the error.
-/

namespace Chatdown.Json

/-- The arrays and objects that may be open inside each other. -/
def depthLimit : Nat := 127

namespace Element

def tree : Element → Tree
  | mk tree _ => tree

/-- What comes of closing the array after an element. -/
def closing : Element → Closing
  | mk _ closing => closing

end Element

namespace Tree

mutual

/-- The value of a tree that is kept to be decoded later, if at most `depth` containers are open
inside each other. -/
def value (depth : Nat) : Tree → Except Error Json
  | scalar v _ => v
  | fault f => .error f.read
  | array _ peeked elements ending =>
    match depth with
    | 0 => .error (.malformed .depth peeked)
    | depth + 1 =>
      match elementValues depth elements, ending with
      | .error e, _ => .error e
      | .ok _, .error f => .error f.read
      | .ok vs, .ok _ => .ok (.array vs)
  | object _ peeked members ending =>
    match depth with
    | 0 => .error (.malformed .depth peeked)
    | depth + 1 =>
      match memberValues depth members, ending with
      | .error e, _ => .error e
      | .ok _, .error f => .error f.read
      | .ok ms, .ok _ => .ok (.object ms)

def elementValues (depth : Nat) : List Element → Except Error (List Json)
  | [] => .ok []
  | .mk tree _ :: elements =>
    match value depth tree with
    | .error e => .error e
    | .ok v => (elementValues depth elements).map (v :: ·)

def memberValues (depth : Nat) : List Member → Except Error (List (Text × Json))
  | [] => .ok []
  | .mk key _ tree :: members =>
    match key with
    | .error e => .error e
    | .ok key =>
      match value depth tree with
      | .error e => .error e
      | .ok v => (memberValues depth members).map ((key, v) :: ·)

end

mutual

/-- Passes over a tree of which the value does not matter. -/
def skip : Tree → Except Error Unit
  | scalar _ _ => .ok ()
  | fault f => .error f.skip
  | array _ _ elements ending =>
    match skipElements elements, ending with
    | .error e, _ => .error e
    | .ok _, .error f => .error f.skip
    | .ok _, .ok _ => .ok ()
  | object _ _ members ending =>
    match skipMembers members, ending with
    | .error e, _ => .error e
    | .ok _, .error f => .error f.skip
    | .ok _, .ok _ => .ok ()

def skipElements : List Element → Except Error Unit
  | [] => .ok ()
  | .mk tree _ :: elements =>
    match skip tree with
    | .error e => .error e
    | .ok _ => skipElements elements

def skipMembers : List Member → Except Error Unit
  | [] => .ok ()
  | .mk _ _ tree :: members =>
    match skip tree with
    | .error e => .error e
    | .ok _ => skipMembers members

end

/-- The error of a tree that is not of the wanted kind. Containers are not looked into. -/
def mismatch (wanted : Text) : Tree → Error
  | scalar (.ok v) stop => .data (.invalidType (.value v) wanted) (some stop)
  | scalar (.error e) _ => e
  | fault f => f.read
  | array start _ _ _ => .data (.invalidType .sequence wanted) (some start)
  | object start _ _ _ => .data (.invalidType .map wanted) (some start)

def text : Tree → Except Error Text
  | scalar (.ok (.string t)) _ => .ok t
  | tree => .error (tree.mismatch "a string".toList)

/-- The text of a string, or nothing for null. -/
def optionalText : Tree → Except Error (Option Text)
  | scalar (.ok .null) _ => .ok none
  | tree => tree.text.map some

/-- The first of the remaining elements of an array, with those after it, unless it has ended. -/
def nextElement? (elements : List Element) (ending : Except Fault Place) :
    Except Error (Option (Element × List Element)) :=
  match elements, ending with
  | element :: elements, _ => .ok (some (element, elements))
  | [], .ok _ => .ok none
  | [], .error f => .error f.read

end Tree

/-- Decodes a JSON text, which is one value. -/
def decode {α : Type} (decoder : Tree → Except Error α) (t : Text) : Except Error α :=
  let (tree, trailing) := Tree.ofText t
  match decoder tree, trailing with
  | .error e, _ => .error e
  | .ok _, some e => .error e
  | .ok a, none => .ok a

end Chatdown.Json
