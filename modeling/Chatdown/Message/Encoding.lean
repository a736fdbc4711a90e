import Chatdown.Json.Printer
import Chatdown.Message

/-!
# Messages as JSON

A block is an object whose member `type` names its kind; a language is written only if it is set.
-/

namespace Chatdown

namespace MessageBlock

mutual

def toJson : MessageBlock → Json
  | .text value => .object [("type".toList, .string "text".toList), ("value".toList, .string value)]
  | .code none value =>
    .object [("type".toList, .string "code".toList), ("value".toList, .string value)]
  | .code (some language) value =>
    .object [("type".toList, .string "code".toList), ("language".toList, .string language),
      ("value".toList, .string value)]
  | .bullets blocks =>
    .object [("type".toList, .string "bullets".toList), ("blocks".toList, .array (toJsons blocks))]

def toJsons : List MessageBlock → List Json
  | [] => []
  | b :: bs => toJson b :: toJsons bs

end

end MessageBlock

def Message.toJson (m : Message) : Json :=
  .object [("blocks".toList, .array (MessageBlock.toJsons m.blocks))]

end Chatdown
