import Chatdown.Proofs.Manager.RoundTrip
import Chatdown.Proofs.Message.Depth

/-! # Writing what has been read

Readers take many texts that no writer makes: members in any order and unknown ones between them,
arrays in place of objects, kinds given by number, white space and escapes of all sorts. Whatever is
read from such a text, the text that is written for it is read back as the same thing.
-/

namespace Chatdown

/-- If what is read from a text is written like `a`, and both are read back, then it is `a`. -/
theorem read_eq_of_write_eq {ε α : Type} {read : Text → Except ε α} (write : α → Text) {t : Text}
    {a : α} (written : (read t).toOption.map write = some (write a))
    (back : ∀ b, read t = .ok b → read (write b) = .ok b) (self : read (write a) = .ok a) :
    read t = .ok a := by
  cases same : read t with
  | error e =>
    rw [same] at written
    cases written
  | ok b =>
    rw [same] at written
    have again := back b same
    rw [Option.some.inj written, self] at again
    exact again.symm

/-- What is decoded from a text is decoded again from what is written for it, so that decoding,
writing and decoding once more is the same as decoding once. In particular, a block or message that
is decoded has fewer than 128 containers inside each other when it is written. -/
theorem ofJsonText_rewritten (t : Text) :
    (∀ b, MessageBlock.ofJsonText t = .ok b → b.toJson.nesting < 128 ∧
      ∀ u ∈ [b.toJson.compact, b.toJson.pretty 0], MessageBlock.ofJsonText u = .ok b) ∧
    (∀ m, Message.ofJsonText t = .ok m → m.toJson.nesting < 128 ∧
      ∀ u ∈ [m.toJson.compact, m.toJson.pretty 0], Message.ofJsonText u = .ok m) ∧
    ∀ m, Manager.ofJsonText t = .ok m →
      ∀ u ∈ [m.toJson.compact, m.toJson.pretty 0], Manager.ofJsonText u = .ok m := by
  refine ⟨?_, ?_, ?_⟩
  · intro b read
    have shallow := MessageBlock.nesting_le_of_ofJsonText read
    refine ⟨Nat.lt_succ_of_le shallow, ?_⟩
    intro u written
    exact (b.ofJsonText_within written).eq_ok shallow
  · intro m read
    have shallow := Message.nesting_le_of_ofJsonText read
    refine ⟨Nat.lt_succ_of_le shallow, ?_⟩
    intro u written
    exact (m.ofJsonText_within written).eq_ok shallow
  · intro m _ u written
    exact m.ofJsonText_of_written written

/-- Bullets in an array, with a block inside that has its kind last and one that is an array with its
kind as a number; a message with another member; a record in an array that ends early. -/
theorem ofJsonText_rewritten_arrays :
    let b : MessageBlock := .bullets [.text "A/".toList, .code none []]
    let m : Message := ⟨[.text "a".toList]⟩
    let r : Manager := .ofIdentity "1".toList "n".toList
    let inside := "\x7b\"value\":\"\\u0041\\/\", \"x\":[1.5], \"type\":\"text\"\x7d,\n[1,null,\"\"]"
    let blockText := "[\"bullets\",[".toList ++ inside.toList ++ "]]".toList
    let messageText := "\x7b\"x\":[],\"blocks\":[[\"text\",\"a\"]]\x7d ".toList
    let recordText := "[\"1\",\"n\"\t]".toList
    (MessageBlock.ofJsonText blockText = .ok b ∧
      MessageBlock.ofJsonText (b.toJson.pretty 0) = .ok b) ∧
    (Message.ofJsonText messageText = .ok m ∧ Message.ofJsonText (m.toJson.pretty 0) = .ok m) ∧
      Manager.ofJsonText recordText = .ok r ∧ Manager.ofJsonText r.toJson.compact = .ok r := by
  intro b m r inside blockText messageText recordText
  have ⟨blocks, _, _⟩ := ofJsonText_rewritten blockText
  have ⟨_, messages, _⟩ := ofJsonText_rewritten messageText
  have ⟨_, _, records⟩ := ofJsonText_rewritten recordText
  have readBlock : MessageBlock.ofJsonText blockText = .ok b :=
    read_eq_of_write_eq (fun b => b.toJson.compact) (by decide +kernel)
      (fun b read => (blocks b read).2 _ (.head _))
      ((b.ofJsonText_within (.head _)).eq_ok (by decide))
  have readMessage : Message.ofJsonText messageText = .ok m :=
    read_eq_of_write_eq (fun m => m.toJson.compact) (by decide +kernel)
      (fun m read => (messages m read).2 _ (.head _))
      ((m.ofJsonText_within (.head _)).eq_ok (by decide))
  have readRecord : Manager.ofJsonText recordText = .ok r :=
    read_eq_of_write_eq (fun r => r.toJson.compact) (by decide +kernel)
      (fun r read => records r read _ (.head _)) (r.ofJsonText_of_written (.head _))
  refine ⟨⟨readBlock, ?_⟩, ⟨readMessage, ?_⟩, readRecord, ?_⟩
  · exact (blocks b readBlock).2 _ (.tail _ (.head _))
  · exact (messages m readMessage).2 _ (.tail _ (.head _))
  · exact records r readRecord _ (.head _)

end Chatdown
