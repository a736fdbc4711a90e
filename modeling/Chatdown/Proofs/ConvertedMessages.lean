import Mathlib.Data.List.Forall2
import Chatdown.Conversion
import Chatdown.Proofs.Message.RoundTrip

/-! # Converted messages

A document and its message have the same number of blocks, and each block of the message is of the
kind that its block of the document asks for. Lists are flattened, so that bullets never hold bullets
and a message is never deeper than five containers: whoever receives a converted message reads it
back, whatever the source was.
-/

namespace Chatdown

open Json (nestings)

/-- The kind of the block that a block at the top of a document becomes. -/
def Block.messageKind {α : Type} : Block α → MessageBlock.Kind
  | .list _ _ => .bullets
  | .code _ => .code
  | .paragraph _ => .text
  | .heading _ _ => .text
  | .html _ => .text
  | .thematicBreak => .text
  | .quote _ => .text
  | .table _ => .text

namespace Rendering

section

variable (find? : Text → Option Manager) (source : Text)

/-- What a block at the top of a document becomes: a list, one text for each of its items; code, code
of no language; and all else, its running text. -/
inductive Becomes : Block (List Inline) → MessageBlock → Prop where
  | bullets {style : ListStyle} {items : List (Item (List Inline))} {entries : List MessageBlock}
      (each : List.Forall₂ (fun i entry => entry = .text (itemLines find? source style 0 i))
        items entries) :
      Becomes (.list style items) (.bullets entries)
  | code (t : Text) : Becomes (.code t) (.code none t)
  | text {b : Block (List Inline)} (running : b.messageKind = .text) :
      Becomes b (.text (block find? source b))

private theorem becomes_messageBlock (b : Block (List Inline)) :
    Becomes find? source b (messageBlock find? source b) := by
  cases b with
  | list style items =>
    apply Becomes.bullets
    rw [List.forall₂_map_right_iff, List.forall₂_same]
    intro i _
    rfl
  | code t => exact .code t
  | _ => exact .text rfl

private theorem becomes_messageBlocks (document : Document) :
    List.Forall₂ (Becomes find? source) document (messageBlocks find? source document) := by
  rw [messageBlocks, List.forall₂_map_right_iff, List.forall₂_same]
  intro b _
  exact becomes_messageBlock find? source b

private theorem kind_messageBlock (b : Block (List Inline)) :
    (messageBlock find? source b).kind = b.messageKind := by
  cases b <;> rfl

private theorem kinds_messageBlocks (document : Document) :
    (messageBlocks find? source document).map MessageBlock.kind =
      document.map Block.messageKind := by
  rw [messageBlocks, List.map_map]
  exact List.map_congr_left fun b _ => kind_messageBlock find? source b

end

end Rendering

namespace MessageBlock

/-- Blocks are as deep as the deepest of them. -/
theorem nestings_toJsons_le {α : Type} {R : α → MessageBlock → Prop} {n : Nat}
    (bounded : ∀ a b, R a b → b.toJson.nesting ≤ n) {as : List α} {bs : List MessageBlock}
    (related : List.Forall₂ R as bs) : nestings (toJsons bs) ≤ n := by
  induction related with
  | nil => exact Nat.zero_le n
  | cons head _ ih => exact Nat.max_le.mpr ⟨bounded _ _ head, ih⟩

end MessageBlock

namespace Rendering

variable {find? : Text → Option Manager} {source : Text}

/-- Bullets are an array of texts in an object. -/
theorem Becomes.nesting_le {b : Block (List Inline)} {entry : MessageBlock}
    (becomes : Becomes find? source b entry) : entry.toJson.nesting ≤ 3 := by
  cases becomes with
  | @bullets _ _ entries each =>
    have texts : nestings (MessageBlock.toJsons entries) ≤ 1 := by
      refine MessageBlock.nestings_toJsons_le ?_ each
      rintro i _ rfl
      simp
    rw [MessageBlock.nesting_bullets]
    omega
  | code t => simp
  | text running => simp

private theorem nesting_messageBlocks_le (document : Document) :
    (Message.mk (messageBlocks find? source document)).toJson.nesting ≤ 5 := by
  have blocks := MessageBlock.nestings_toJsons_le
    (fun _ _ becomes => becomes.nesting_le) (becomes_messageBlocks find? source document)
  rw [Message.nesting_toJson]
  exact Nat.add_le_add_right blocks 2

end Rendering

open Rendering

/-- A converted message is far from the limit of the reader. -/
theorem nesting_convertBytes_lt (find? : Text → Option Manager) (bytes : List UInt8) :
    (Message.mk (convertBytes find? bytes)).toJson.nesting < Json.depthLimit :=
  Nat.lt_of_le_of_lt (nesting_messageBlocks_le (Markdown.read (Utf8.decodeLossy bytes))) (by decide)

/-- Whatever bytes are converted, the blocks of the message are those of the document in their order,
each of the kind that is asked for, and the message is read back from both of its written forms. -/
theorem convertBytes_delivered (find? : Text → Option Manager) (bytes : List UInt8) :
    let source := Utf8.decodeLossy bytes
    let message : Message := ⟨convertBytes find? bytes⟩
    List.Forall₂ (Becomes find? source) (Markdown.read source) message.blocks ∧
      message.blocks.map MessageBlock.kind = (Markdown.read source).map Block.messageKind ∧
      message.toJson.nesting < Json.depthLimit ∧
      Message.ofJsonText message.toJson.compact = .ok message ∧
      Message.ofJsonText (message.toJson.pretty 0) = .ok message := by
  intro source message
  have shallow : message.toJson.nesting < Json.depthLimit := nesting_convertBytes_lt find? bytes
  have readBack {t : Text} (written : t ∈ message.toJson.writtenForms) :
      Message.ofJsonText t = .ok message :=
    (message.ofJsonText_within written).eq_ok (Nat.le_of_lt shallow)
  refine ⟨becomes_messageBlocks find? source _, kinds_messageBlocks find? source _, shallow, ?_, ?_⟩
  · exact readBack (by simp [Json.writtenForms])
  · exact readBack (by simp [Json.writtenForms])

end Chatdown
