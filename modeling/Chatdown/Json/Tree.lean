import Chatdown.Json.Token

/-!
# Located trees

The tree of a JSON text, with the places that errors of decoding refer to. A tree breaks off at the
first error of syntax, and it is up to its readers whether they get that far: all containers around
that place end with it.
-/

namespace Chatdown.Json

/-- What comes of closing an array at some place: the place that is reached, and what is wrong if
the array does not end there. -/
structure Closing where
  place : Place
  error : Option Error
  deriving Repr

mutual

inductive Tree where
  /-- A value without parts, and the place after it. -/
  | scalar (value : Except Error Json) (stop : Place)
  /-- An array, its place, and the place after its bracket. -/
  | array (start peeked : Place) (elements : List Element) (ending : Except Fault Place)
  | object (start peeked : Place) (members : List Member) (ending : Except Fault Place)
  | fault (f : Fault)

/-- An element of an array, with what comes of closing the array after it. -/
inductive Element where
  | mk (tree : Tree) (closing : Closing)

/-- A member of an object, with the place that is reached by closing the object after its key. -/
inductive Member where
  | mk (key : Except Error Text) (afterKey : Place) (tree : Tree)

end

/-- A container of which a part has been read. Elements and members are given backwards. -/
inductive Frame where
  | array (start peeked : Place) (elements : List Element)
  | object (start peeked : Place) (members : List Member)
  /-- An object of which a member has been read up to its value. -/
  | member (start peeked : Place) (members : List Member) (key : Except Error Text)
      (afterKey : Place)

namespace Frame

/-- What comes of closing an array before the given tokens. -/
def closing : List Token → Closing
  | [] => ⟨.start, none⟩
  | token :: rest =>
    match token.kind with
    | .closeArray => ⟨token.stop, none⟩
    | .finish => ⟨token.start, some (.malformed .endInList token.peeked)⟩
    | .comma =>
      match rest with
      | [] => ⟨token.stop, none⟩
      | next :: _ =>
        let fault :=
          match next.kind with
          | .closeArray => SyntaxFault.trailingComma
          | _ => .trailingCharacters
        ⟨next.start, some (.malformed fault next.peeked)⟩
    | _ => ⟨token.start, some (.malformed .trailingCharacters token.peeked)⟩

/-- The place that is reached by closing an object before the given tokens. -/
def objectClosing : List Token → Place
  | [] => .start
  | token :: _ =>
    match token.kind with
    | .closeObject => token.stop
    | _ => token.start

def add (tree : Tree) (rest : List Token) : Frame → Frame
  | array start peeked elements => array start peeked (.mk tree (closing rest) :: elements)
  | object start peeked members => object start peeked members
  | member start peeked members key afterKey =>
    object start peeked (.mk key afterKey tree :: members)

def close (ending : Except Fault Place) : Frame → Tree
  | array start peeked elements => .array start peeked elements.reverse ending
  | object start peeked members => .object start peeked members.reverse ending
  | member start peeked members _ _ => .object start peeked members.reverse ending

end Frame

namespace Tree

/-- What may come next in a text. -/
inductive Expected where
  /-- The value of the text. -/
  | text
  /-- The first element of an array, or its end. -/
  | firstElement
  /-- The element after a comma. -/
  | element
  /-- The value of a member. -/
  | value
  /-- A comma or the end of the innermost container. -/
  | separator
  /-- The first key of an object, or its end. -/
  | firstKey
  /-- The key after a comma. -/
  | key
  /-- The colon after a key. -/
  | colon
  deriving DecidableEq, Repr

namespace Expected

def isValue : Expected → Bool
  | text => true
  | firstElement => true
  | element => true
  | value => true
  | _ => false

def isKey : Expected → Bool
  | firstKey => true
  | key => true
  | _ => false

/-- The fault of a token that cannot come next. -/
def fault (frame : Option Frame) (token : Token) (expected : Expected) : Fault :=
  let malformed (f : SyntaxFault) : Error := .malformed f token.peeked
  match token.kind, expected with
  | .finish, .firstElement => .both (malformed .endInList)
  | .finish, .firstKey => .both (malformed .endInObject)
  | .finish, .key => ⟨malformed .endInValue, malformed .endInObject⟩
  | .finish, .colon => .both (malformed .endInObject)
  | .finish, .separator =>
    match frame with
    | some (.array _ _ _) => .both (malformed .endInList)
    | _ => .both (malformed .endInObject)
  | .finish, _ => .both (malformed .endInValue)
  | _, .separator =>
    match frame with
    | some (.array _ _ _) => .both (malformed .noListEnd)
    | _ => .both (malformed .noObjectEnd)
  | .closeArray, .element => ⟨malformed .trailingComma, malformed .noValue⟩
  | .closeObject, .key => ⟨malformed .trailingComma, malformed .keyType⟩
  | _, .key => .both (malformed .keyType)
  | _, .firstKey => .both (malformed .keyType)
  | _, .colon => .both (malformed .noColon)
  | _, _ => .both (malformed .noValue)

end Expected

/-- The tree of a text that breaks off with a fault, after the given value in the given containers,
innermost first. -/
def breakOff (f : Fault) (tree : Tree) : List Frame → Tree
  | [] => tree
  | frame :: frames => breakOff f ((frame.add tree []).close (.error f)) frames

/-- The tree of a text that breaks off with a fault before what is expected. The fault is the value
if one has to come next, and the end of the innermost container if not. -/
def stop (f : Fault) (expected : Expected) (frames : List Frame) : Tree :=
  match expected, frames with
  | .text, _ => breakOff f (.fault f) frames
  | .value, _ => breakOff f (.fault f) frames
  | .colon, _ => breakOff f (.fault f) frames
  | _, [] => .fault f
  | _, frame :: frames => breakOff f (frame.close (.error f)) frames

/-- What has been read of a text. -/
inductive State where
  /-- What is expected, and the containers around it, innermost first. -/
  | reading (expected : Expected) (frames : List Frame)
  /-- The text has ended, or it has broken off. -/
  | done (tree : Tree)

namespace State

/-- The state after a value that comes before the given tokens. -/
def afterValue (tree : Tree) (frames : List Frame) (rest : List Token) : State :=
  match frames with
  | [] => done tree
  | frame :: frames => reading .separator (frame.add tree rest :: frames)

/-- The state after a token that cannot come next. -/
def unexpected (expected : Expected) (frames : List Frame) (token : Token) : State :=
  done (stop (expected.fault frames.head? token) expected frames)

/-- The state after a key that comes before the given tokens. -/
def afterKey? (key : Except Error Text) (frames : List Frame) (rest : List Token) : Option State :=
  match frames with
  | .object start peeked members :: frames =>
    some (reading .colon (.member start peeked members key (Frame.objectClosing rest) :: frames))
  | _ => none

/-- The state after a token, if it may come next. The tokens after it tell what comes of closing a
container there. -/
def step? (expected : Expected) (frames : List Frame) (token : Token) (rest : List Token) :
    Option State :=
  match token.kind with
  | .openArray =>
    if expected.isValue then
      some (reading .firstElement (.array token.start token.peeked [] :: frames))
    else none
  | .openObject =>
    if expected.isValue then
      some (reading .firstKey (.object token.start token.peeked [] :: frames))
    else none
  | .closeArray =>
    match expected, frames with
    | .firstElement, frame :: frames =>
      some (afterValue (frame.close (.ok token.stop)) frames rest)
    | .separator, .array start peeked elements :: frames =>
      some (afterValue ((Frame.array start peeked elements).close (.ok token.stop)) frames rest)
    | _, _ => none
  | .closeObject =>
    match expected, frames with
    | .firstKey, frame :: frames => some (afterValue (frame.close (.ok token.stop)) frames rest)
    | .separator, .object start peeked members :: frames =>
      some (afterValue ((Frame.object start peeked members).close (.ok token.stop)) frames rest)
    | _, _ => none
  | .comma =>
    match expected, frames with
    | .separator, .array start peeked elements :: frames =>
      some (reading .element (.array start peeked elements :: frames))
    | .separator, .object start peeked members :: frames =>
      some (reading .key (.object start peeked members :: frames))
    | _, _ => none
  | .colon => if expected = .colon then some (reading .value frames) else none
  | .string text =>
    if expected.isKey then afterKey? text frames rest
    else if expected.isValue then
      some (afterValue (.scalar (text.map .string) token.stop) frames rest)
    else none
  | .scalar value =>
    if expected.isValue then some (afterValue (.scalar value token.stop) frames rest) else none
  | .brokenString f =>
    if expected.isKey then some (done (stop f expected frames))
    else if expected.isValue then some (done (breakOff f (.fault f) frames))
    else none
  | .brokenScalar f =>
    if expected.isValue then some (done (breakOff f (.fault f) frames)) else none
  | .stray => none
  | .finish => none

def step (expected : Expected) (frames : List Frame) (token : Token) (rest : List Token) : State :=
  match step? expected frames token rest with
  | some next => next
  | none => unexpected expected frames token

/-- Reads tokens until the text has ended: its tree, and the tokens after it. -/
def run : State → List Token → Tree × List Token
  | done tree, rest => (tree, rest)
  | reading expected frames, [] =>
    (stop (.both (.malformed .endInValue .start)) expected frames, [])
  | reading expected frames, token :: rest => run (step expected frames token rest) rest

end State

/-- What stands after a value that should be the whole text. -/
def trailing? : List Token → Option Error
  | [] => none
  | token :: _ =>
    match token.kind with
    | .finish => none
    | _ => some (.malformed .trailingCharacters token.peeked)

/-- The tree of a text, and the error if something comes after its value. -/
def ofText (t : Text) : Tree × Option Error :=
  let (tree, rest) := State.run (.reading .text []) (Token.scan t)
  (tree, trailing? rest)

end Tree

end Chatdown.Json
