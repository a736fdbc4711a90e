import Chatdown.Json.Decoding
import Chatdown.Message

/-!
# Reading messages from JSON

A block is an object whose member `type` names its kind, at whatever place it stands, or an array
of the kind's name and the members of the kind in their order. The members of a block are kept until
its kind is known, and blocks inside a block are decoded from what has been kept; there, a kind may
also be given by its number.
-/

namespace Chatdown

open Json (Tree Element Member Error Fault Place DataFault)

namespace MessageBlock

inductive Kind where
  | text
  | code
  | bullets
  deriving DecidableEq, Repr

namespace Kind

def name : Kind → Text
  | text => "text".toList
  | code => "code".toList
  | bullets => "bullets".toList

def all : List Kind := [text, code, bullets]

def ofName (name : Text) : Except DataFault Kind :=
  match all.find? fun k => k.name = name with
  | some k => .ok k
  | none => .error (.unknownVariant name (all.map Kind.name))

def wanted : Text := "variant identifier".toList

/-- Decodes a kind that has not been kept: a name. -/
def ofTree : Tree → Except Error Kind
  | .scalar (.ok (.string name)) stop => (ofName name).mapError fun f => .data f (some stop)
  | tree => .error (tree.mismatch wanted)

/-- Decodes a kind that has been kept: a name or a number. -/
def ofJson : Json → Except DataFault Kind
  | .string name => ofName name
  | .integer n =>
    if n < 0 then .error (.invalidType (.value (.integer n)) wanted)
    else
      match all[n.toNat]? with
      | some k => .ok k
      | none => .error (.variantIndex n all.length)
  | v => .error (.invalidType (.value v) wanted)

/-- How many members a kind has, in words. -/
def elements : Kind → Text
  | text => "1 element".toList
  | code => "2 elements".toList
  | bullets => "1 element".toList

/-- How a kind is called when its members are too few. -/
def wantedMembers (k : Kind) : Text :=
  let variant :=
    match k with
    | text => "Text".toList
    | code => "Code".toList
    | bullets => "Bullets".toList
  "struct variant MessageBlock::".toList ++ variant ++ " with ".toList ++ k.elements

/-- What is wanted of an array of members that are too many. -/
def wantedLength (k : Kind) : Text := k.elements ++ " in sequence".toList

end Kind

def wanted : Text := "internally tagged enum MessageBlock".toList

/-- The error of a value that has been kept and is of the wrong type. -/
def mismatch (v : Json) (wanted : Text) : DataFault := .invalidType (.value v) wanted

/-- The text of a string that has been kept. -/
def textOf : Json → Except DataFault Text
  | .string t => .ok t
  | v => .error (mismatch v "a string".toList)

/-- The text of a string that has been kept, or nothing for null. -/
def optionalTextOf : Json → Except DataFault (Option Text)
  | .null => .ok none
  | v => (textOf v).map some

/-- The members of a block that have been read. -/
structure Draft where
  language : Option (Option Text) := none
  value : Option Text := none
  blocks : Option (List MessageBlock) := none
  deriving Repr

namespace Draft

/-- The block of a kind with the members that have been read. -/
def finish (d : Draft) : Kind → Except DataFault MessageBlock
  | .text =>
    match d.value with
    | some value => .ok (.text value)
    | none => .error (.missingField "value".toList)
  | .code =>
    match d.value with
    | some value => .ok (.code (d.language.getD none) value)
    | none => .error (.missingField "value".toList)
  | .bullets =>
    match d.blocks with
    | some blocks => .ok (.bullets blocks)
    | none => .error (.missingField "blocks".toList)

/-- Reads a language, if there is none yet. -/
def setLanguage (d : Draft) (v : Json) : Except DataFault Draft :=
  match d.language with
  | some _ => .error (.duplicateField "language".toList)
  | none => (optionalTextOf v).map fun t => { d with language := some t }

/-- Reads a value, if there is none yet. -/
def setValue (d : Draft) (v : Json) : Except DataFault Draft :=
  match d.value with
  | some _ => .error (.duplicateField "value".toList)
  | none => (textOf v).map fun t => { d with value := some t }

end Draft

/-- The kind that is named among members that have been kept. -/
def kindAmong (found : Option Kind) : List (Text × Json) → Except DataFault Kind
  | [] =>
    match found with
    | some k => .ok k
    | none => .error (.missingField "type".toList)
  | (key, v) :: members =>
    if key = "type".toList then
      match found with
      | some _ => .error (.duplicateField "type".toList)
      | none =>
        match Kind.ofJson v with
        | .error f => .error f
        | .ok k => kindAmong (some k) members
    else kindAmong found members

/-- A block that was decoded from an array with `count` members and `more` elements after them. -/
def atMost (k : Kind) (count : Nat) (more : List Json) (b : MessageBlock) :
    Except DataFault MessageBlock :=
  if more.isEmpty then .ok b else .error (.invalidLength (count + more.length) k.wantedLength)

mutual

def ofJson : Json → Except DataFault MessageBlock
  | .object members =>
    match kindAmong none members with
    | .error f => .error f
    | .ok k => ofMembers k {} members
  | .array elements =>
    match elements with
    | [] => .error (.missingField "type".toList)
    | v :: vs =>
      match Kind.ofJson v with
      | .error f => .error f
      | .ok k => ofElements k vs
  | v => .error (mismatch v wanted)

/-- Decodes the members of a block of the given kind; those that the kind does not have do not
matter. -/
def ofMembers (k : Kind) (d : Draft) : List (Text × Json) → Except DataFault MessageBlock
  | [] => d.finish k
  | (key, v) :: members =>
    let next? : Except DataFault Draft :=
      match k with
      | .text => if key = "value".toList then d.setValue v else .ok d
      | .code =>
        if key = "language".toList then d.setLanguage v
        else if key = "value".toList then d.setValue v
        else .ok d
      | .bullets =>
        if key = "blocks".toList then
          match d.blocks with
          | some _ => .error (.duplicateField "blocks".toList)
          | none => (listOfJson v).map fun blocks => { d with blocks := some blocks }
        else .ok d
    match next? with
    | .error f => .error f
    | .ok d => ofMembers k d members

/-- Decodes the elements after the kind of a block that is an array. -/
def ofElements (k : Kind) : List Json → Except DataFault MessageBlock
  | [] =>
    match k with
    | .code => .error (.invalidLength 1 k.wantedMembers)
    | _ => .error (.invalidLength 0 k.wantedMembers)
  | v :: vs =>
    match k with
    | .text => (textOf v).bind fun value => atMost k 1 vs (.text value)
    | .bullets => (listOfJson v).bind fun blocks => atMost k 1 vs (.bullets blocks)
    | .code =>
      (optionalTextOf v).bind fun language =>
        match vs with
        | [] => .error (.invalidLength 1 k.wantedMembers)
        | v :: vs => (textOf v).bind fun value => atMost k 2 vs (.code language value)

def listOfJson : Json → Except DataFault (List MessageBlock)
  | .array elements => ofJsons elements
  | v => .error (mismatch v "a sequence".toList)

def ofJsons : List Json → Except DataFault (List MessageBlock)
  | [] => .ok []
  | v :: vs =>
    match ofJson v with
    | .error f => .error f
    | .ok b => (ofJsons vs).map (b :: ·)

end

/-- The kind and the other members of a block that is an object. -/
def splitMembers (depth : Nat) (found : Option Kind) :
    List Member → Except Error (Option Kind × List (Text × Json))
  | [] => .ok (found, [])
  | .mk key afterKey tree :: members =>
    match key with
    | .error e => .error e
    | .ok key =>
      if key = "type".toList then
        match found with
        | some _ => .error (.data (.duplicateField "type".toList) (some afterKey))
        | none =>
          match Kind.ofTree tree with
          | .error e => .error e
          | .ok k => splitMembers depth (some k) members
      else
        match tree.value depth with
        | .error e => .error e
        | .ok v => (splitMembers depth found members).map fun (k, ms) => (k, (key, v) :: ms)

/-- Decodes a block, if at most `depth` containers are open inside each other. -/
def ofTree (depth : Nat) : Tree → Except Error MessageBlock
  | .object _ peeked members ending =>
    match depth with
    | 0 => .error (.malformed .depth peeked)
    | depth + 1 =>
      match splitMembers depth none members, ending with
      | .error e, _ => .error e
      | .ok _, .error f => .error f.read
      | .ok (none, _), .ok stop => .error (.data (.missingField "type".toList) (some stop))
      | .ok (some k, members), .ok _ => (ofMembers k {} members).mapError (.data · none)
  | .array _ peeked elements ending =>
    match depth with
    | 0 => .error (.malformed .depth peeked)
    | depth + 1 =>
      match elements, ending with
      | [], .error f => .error f.read
      | [], .ok stop => .error (.data (.missingField "type".toList) (some stop))
      | .mk tree _ :: elements, ending =>
        match Kind.ofTree tree with
        | .error e => .error e
        | .ok k =>
          match Tree.elementValues depth elements, ending with
          | .error e, _ => .error e
          | .ok _, .error f => .error f.read
          | .ok vs, .ok _ => (ofElements k vs).mapError (.data · none)
  | tree => .error (tree.mismatch wanted)

/-- Decodes blocks. An error in a block that has no place is noticed after the block. -/
def ofTreeElements (depth : Nat) : List Element → Except Error (List MessageBlock)
  | [] => .ok []
  | .mk tree closing :: elements =>
    match ofTree depth tree with
    | .error e => .error (e.orAt closing.place)
    | .ok b => (ofTreeElements depth elements).map (b :: ·)

def listOfTree (depth : Nat) : Tree → Except Error (List MessageBlock)
  | .array _ peeked elements ending =>
    match depth with
    | 0 => .error (.malformed .depth peeked)
    | depth + 1 =>
      match ofTreeElements depth elements, ending with
      | .error e, _ => .error e
      | .ok _, .error f => .error f.read
      | .ok blocks, .ok _ => .ok blocks
  | tree => .error (tree.mismatch "a sequence".toList)

def ofJsonText (t : Text) : Except Error MessageBlock := Json.decode (ofTree Json.depthLimit) t

end MessageBlock

namespace Message

/-- The containers that may be open inside a message. -/
def depth : Nat := Json.depthLimit - 1

/-- Reads the members of a message that is an object: its blocks, if they have been there. -/
def readMembers (found : Option (List MessageBlock)) :
    List Member → Except Error (Option (List MessageBlock))
  | [] => .ok found
  | .mk key afterKey tree :: members =>
    match key with
    | .error e => .error e
    | .ok key =>
      if key = "blocks".toList then
        match found with
        | some _ => .error (.data (.duplicateField "blocks".toList) (some afterKey))
        | none =>
          match MessageBlock.listOfTree depth tree with
          | .error e => .error e
          | .ok blocks => readMembers (some blocks) members
      else
        match tree.skip with
        | .error e => .error e
        | .ok _ => readMembers found members

/-- Decodes a message: an object with the member `blocks`, or an array of that one member. -/
def ofTree : Tree → Except Error Message
  | .object _ _ members ending =>
    match readMembers none members, ending with
    | .error e, _ => .error e
    | .ok _, .error f => .error f.read
    | .ok none, .ok stop => .error (.data (.missingField "blocks".toList) (some stop))
    | .ok (some blocks), .ok _ => .ok ⟨blocks⟩
  | .array _ _ elements ending =>
    match elements, ending with
    | [], .error f => .error f.read
    | [], .ok stop =>
      .error (.data (.invalidLength 0 "struct Message with 1 element".toList) (some stop))
    | .mk tree closing :: _, _ =>
      match MessageBlock.listOfTree depth tree, closing.error with
      | .error e, _ => .error e
      | .ok _, some e => .error e
      | .ok blocks, none => .ok ⟨blocks⟩
  | tree => .error (tree.mismatch "struct Message".toList)

def ofJsonText (t : Text) : Except Error Message := Json.decode ofTree t

end Message

end Chatdown
