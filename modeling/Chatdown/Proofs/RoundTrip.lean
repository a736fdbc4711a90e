import Chatdown.Proofs.Manager.RoundTrip
import Chatdown.Proofs.Message.RoundTrip

/-! # Reading back what is written

Writers and readers of the two formats agree on every value. Only the depth of readers stands
between a message and its round trip, and a reader that is not deep enough says so; it never takes
what has been written for something else.
-/

namespace Chatdown

/-- Blocks and messages are read back from both of their written forms if fewer than 128 containers
are open inside each other, and are refused for their depth if not. Records are always read back. -/
theorem ofJsonText_written :
    (∀ b : MessageBlock, ∀ t ∈ [b.toJson.compact, b.toJson.pretty 0],
      ∃ place, MessageBlock.ofJsonText t =
        if b.toJson.nesting < 128 then .ok b else .error (.malformed .depth place)) ∧
    (∀ m : Message, ∀ t ∈ [m.toJson.compact, m.toJson.pretty 0],
      ∃ place, Message.ofJsonText t =
        if m.toJson.nesting < 128 then .ok m else .error (.malformed .depth place)) ∧
    ∀ m : Manager, Manager.ofJsonText m.toJson.compact = .ok m := by
  refine ⟨?_, ?_, ?_⟩
  · intro b t written
    exact (b.ofJsonText_within written).exists_eq_ite
  · intro m t written
    exact (m.ofJsonText_within written).exists_eq_ite
  · intro m
    exact m.ofJsonText_of_written (List.mem_cons_self ..)

/-- Bullets are two containers deep: 63 of them can be inside each other, but not 64. -/
theorem ofJsonText_written_bullets :
    let inside (n : Nat) : MessageBlock :=
      Nat.repeat (fun b => .bullets [b]) n (.code (some "\"\\".toList) "\x01\né".toList)
    MessageBlock.ofJsonText ((inside 63).toJson.pretty 0) = .ok (inside 63) ∧
      ∃ place, MessageBlock.ofJsonText (inside 64).toJson.compact =
        .error (.malformed .depth place) := by
  intro inside
  obtain ⟨_, read⟩ := ofJsonText_written.1 (inside 63) _ (List.mem_cons_of_mem _ (.head _))
  obtain ⟨place, refused⟩ := ofJsonText_written.1 (inside 64) _ (.head _)
  rw [if_pos (by decide +kernel)] at read
  rw [if_neg (by decide +kernel)] at refused
  exact ⟨read, place, refused⟩

end Chatdown
