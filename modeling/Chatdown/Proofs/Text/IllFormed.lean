import Chatdown.Conversion
import Chatdown.Proofs.Text.Utf8
import Mathlib.Data.Nat.Find

/-! # Ill-formed bytes

Where no character begins, the bytes that begin some character, as many as there are, or else a
single byte, make an ill-formed part. Bytes are read by taking characters and ill-formed parts off
their front, and there is one way to do so: the decoder does just this. An ill-formed part takes
nothing from the text around it, so damaged bytes before or after a text do not change how it is
read.
-/

namespace Chatdown.Utf8

/-- Tells that bytes begin the form of some character. -/
def IsStart (bytes : List UInt8) : Prop := ∃ c, bytes <+: String.utf8EncodeChar c

/-- Tells that `part` is the ill-formed part at the front of `part ++ rest`. -/
structure IsIllFormed (part rest : List UInt8) : Prop where
  ne_nil : part ≠ []
  noChar : ∀ c, ¬ String.utf8EncodeChar c <+: part ++ rest
  start : IsStart part ∨ part.length = 1
  longest : ∀ bytes, bytes <+: part ++ rest → IsStart bytes → bytes.length ≤ part.length

/-- How bytes are read: with U+FFFD for each ill-formed part. -/
inductive Reads : List UInt8 → Text → Prop where
  | nil : Reads [] []
  | char (c : Char) {rest : List UInt8} {t : Text} (later : Reads rest t) :
      Reads (String.utf8EncodeChar c ++ rest) (c :: t)
  | illFormed {part rest : List UInt8} {t : Text} (damaged : IsIllFormed part rest)
      (later : Reads rest t) : Reads (part ++ rest) ('\uFFFD' :: t)

theorem IsLead.isStart {a : UInt8} {p : Partial} (lead : IsLead a p) {tail front : List UInt8}
    (completed : p.IsCompletedBy tail) (start : front <+: a :: tail) : IsStart front :=
  ⟨Char.ofNat (p.codeWith tail), (lead.utf8EncodeChar_codeWith completed).symm ▸ start⟩

/-- Where no character begins, there is an ill-formed part. -/
theorem exists_isIllFormed {bytes : List UInt8} (some : bytes ≠ [])
    (noChar : ∀ c, ¬ String.utf8EncodeChar c <+: bytes) :
    ∃ part rest, bytes = part ++ rest ∧ IsIllFormed part rest := by
  classical
  let fits (n : Nat) : Prop := IsStart (bytes.take n) ∨ n = 1
  let n := Nat.findGreatest fits bytes.length
  have nonempty : 1 ≤ bytes.length := List.length_pos_iff.mpr some
  have positive : 1 ≤ n := Nat.le_findGreatest nonempty (.inr rfl)
  have within : n ≤ bytes.length := Nat.findGreatest_le bytes.length
  have length : (bytes.take n).length = n := List.length_take_of_le within
  refine ⟨bytes.take n, bytes.drop n, (List.take_append_drop n bytes).symm, ?_, ?_, ?_, ?_⟩
  · exact List.length_pos_iff.mp (length.symm ▸ positive)
  · rwa [List.take_append_drop]
  · rw [length]
    exact Nat.findGreatest_spec (P := fits) nonempty (.inr rfl)
  · intro other front start
    rw [List.take_append_drop] at front
    rw [length]
    by_contra longer
    apply Nat.findGreatest_is_greatest (P := fits) (Nat.lt_of_not_le longer) front.length_le
    exact .inl (List.prefix_iff_eq_take.mp front ▸ start)

namespace Decoder

/-- Within a character it stays in progress, and what completes it then completes it from where it
was. -/
theorem foldl_read_within {p : Partial} {bytes tail : List UInt8}
    (completed : p.IsCompletedBy (bytes ++ tail)) (more : tail ≠ [])
    (decoded : List (Option Char)) :
    ∃ q : Partial, bytes.foldl read ⟨decoded, some p⟩ = ⟨decoded, some q⟩ ∧
      ∀ tail, q.IsCompletedBy tail → p.IsCompletedBy (bytes ++ tail) := by
  induction bytes generalizing p with
  | nil => exact ⟨p, rfl, fun _ => id⟩
  | cons b bytes ih =>
    have admitted := completed.1
    have owed : p.owed ≠ 0 := by
      intro last
      have ended := List.length_eq_zero_iff.mp (completed.2.1.trans last)
      exact more (List.append_eq_nil_iff.mp ended).2
    obtain ⟨q, read, completes⟩ := ih ((Partial.isCompletedBy_next_iff admitted owed).mpr completed)
    refine ⟨q, ?_, fun tail ends => ?_⟩
    · rw [List.foldl_cons, read_admitted admitted owed, read]
    · exact (Partial.isCompletedBy_next_iff admitted owed).mp (completes tail ends)

/-- After the start of a character, the bytes that are admitted are those that go on with it. -/
theorem foldl_read_start {bytes : List UInt8} (start : IsStart bytes) (some : bytes ≠ [])
    (notWhole : ∀ c, String.utf8EncodeChar c ≠ bytes) (decoded : List (Option Char)) :
    ∃ p : Partial, bytes.foldl read ⟨decoded, none⟩ = ⟨decoded, Option.some p⟩ ∧
      ∀ b, p.Admits b → IsStart (bytes ++ [b]) := by
  obtain ⟨c, tail, form⟩ := start
  have more : tail ≠ [] := by
    rintro rfl
    exact notWhole c (form.symm.trans (List.append_nil bytes))
  obtain ⟨a, others, rfl⟩ := List.exists_cons_of_ne_nil some
  rcases utf8EncodeChar_cases c with ⟨b, -, -, one⟩ | ⟨b, p, bytes, lead, completed, several, -⟩
  · rw [one, List.cons_append] at form
    exact absurd (List.append_eq_nil_iff.mp (List.cons.inj form).2).2 more
  · rw [several, List.cons_append] at form
    obtain ⟨rfl, rfl⟩ := List.cons.inj form
    obtain ⟨q, within, completes⟩ := foldl_read_within completed more decoded
    refine ⟨q, ?_, fun b admitted => ?_⟩
    · exact (congrArg (others.foldl read) (start_lead lead decoded)).trans within
    · have whole := completes _ (Partial.isCompletedBy_replicate admitted)
      exact lead.isStart whole ⟨List.replicate q.owed 0x80, by simp⟩

end Decoder

open Decoder

/-- An ill-formed part is one hole. -/
theorem scan_isIllFormed {part rest : List UInt8} (damaged : IsIllFormed part rest) :
    scan (part ++ rest) = none :: scan rest := by
  have afterHole : (rest.foldl read ⟨[none], none⟩).finish = none :: scan rest := by
    rw [finish_eq, ended_foldl]
    simp
  have noChar (c : Char) : String.utf8EncodeChar c ≠ part := by
    rintro rfl
    exact damaged.noChar c (List.prefix_append _ rest)
  rw [scan, List.foldl_append]
  by_cases start : IsStart part
  · obtain ⟨p, within, goesOn⟩ := foldl_read_start start damaged.ne_nil noChar []
    rw [fresh, within]
    cases rest with
    | nil => rfl
    | cons b rest =>
      have refused : ¬ p.Admits b := by
        intro admitted
        have longer := damaged.longest (part ++ [b]) ⟨rest, by simp⟩ (goesOn b admitted)
        rw [List.length_append, List.length_singleton] at longer
        omega
      rw [List.foldl_cons, read_refused refused]
      exact afterHole
  · obtain ⟨a, rfl⟩ := List.length_eq_one_iff.mp (damaged.start.resolve_left start)
    rcases start_cases a with ascii | ⟨p, lead⟩ | hole
    · exact absurd (utf8EncodeChar_one ascii) (noChar _)
    · obtain ⟨b, admitted⟩ := lead.exists_admitted
      have whole := Partial.isCompletedBy_replicate admitted
      exact absurd (lead.isStart whole ⟨b :: List.replicate p.owed 0x80, rfl⟩) start
    · have one : [a].foldl read fresh = ⟨[none], none⟩ := hole []
      rw [one]
      exact afterHole

private theorem decodeLossy_around (a b : List UInt8) (c : Char) (t : Text) :
    decodeLossy (a ++ encode (c :: t) ++ b) = decodeLossy a ++ (c :: t) ++ decodeLossy b := by
  rw [decodeLossy, scan_around, List.map_append, List.map_append, List.map_map]
  simp [decodeLossy, Function.comp_def]

private theorem decodeLossy_encode (t : Text) : decodeLossy (encode t) = t := by
  cases t with
  | nil => rfl
  | cons c t => simpa [decodeLossy, scan, fresh, finish] using decodeLossy_around [] [] c t

private theorem decodeLossy_char (c : Char) (rest : List UInt8) :
    decodeLossy (String.utf8EncodeChar c ++ rest) = c :: decodeLossy rest := by
  simpa [encode, decodeLossy, scan, fresh, finish] using decodeLossy_around [] rest c []

private theorem decodeLossy_isIllFormed {part rest : List UInt8} (damaged : IsIllFormed part rest) :
    decodeLossy (part ++ rest) = '\uFFFD' :: decodeLossy rest := by
  rw [decodeLossy, scan_isIllFormed damaged]
  rfl

private theorem reads_decodeLossy (bytes : List UInt8) : Reads bytes (decodeLossy bytes) := by
  induction length : bytes.length using Nat.strongRecOn generalizing bytes with
  | ind n ih =>
    by_cases empty : bytes = []
    · subst empty
      exact .nil
    by_cases character : ∃ c, String.utf8EncodeChar c <+: bytes
    · obtain ⟨c, rest, rfl⟩ := character
      have shorter : rest.length < n := by
        have positive := List.length_pos_iff.mpr (String.utf8EncodeChar_ne_nil (c := c))
        rw [List.length_append] at length
        omega
      rw [decodeLossy_char]
      exact .char c (ih rest.length shorter rest rfl)
    · obtain ⟨part, rest, rfl, damaged⟩ := exists_isIllFormed empty (not_exists.mp character)
      have shorter : rest.length < n := by
        have positive := List.length_pos_iff.mpr damaged.ne_nil
        rw [List.length_append] at length
        omega
      rw [decodeLossy_isIllFormed damaged]
      exact .illFormed damaged (ih rest.length shorter rest rfl)

/-- The decoder reads bytes in the only way there is. -/
theorem reads_iff {bytes : List UInt8} {t : Text} : Reads bytes t ↔ decodeLossy bytes = t := by
  constructor
  · intro reads
    induction reads with
    | nil => rfl
    | char c _ ih => rw [decodeLossy_char, ih]
    | illFormed damaged _ ih => rw [decodeLossy_isIllFormed damaged, ih]
  · rintro rfl
    exact reads_decodeLossy bytes

/-- Damaged bytes before and after a text are read as if the text were not there, and the text as if
they were not there. So the form of a text is converted as that text, and all else is read with
U+FFFD for each ill-formed part. -/
theorem decodeLossy_intact (find? : Text → Option Manager) (a b : List UInt8) {s : Text}
    (some : s ≠ []) :
    decodeLossy (a ++ encode s ++ b) = decodeLossy a ++ s ++ decodeLossy b ∧
      (∀ t, decodeLossy (encode t) = t) ∧
      (∀ t, convertBytes find? (encode t) = convert find? t) ∧
      ∀ bytes t, Reads bytes t ↔ decodeLossy bytes = t := by
  refine ⟨?_, decodeLossy_encode, fun t => ?_, fun _ _ => reads_iff⟩
  · obtain ⟨c, t, rfl⟩ := List.exists_cons_of_ne_nil some
    exact decodeLossy_around a b c t
  · rw [convertBytes, decodeLossy_encode]

/-- A character that is cut off before a text, and the rest of one after it. -/
theorem decodeLossy_intact_truncated :
    let find? := Directory.empty.find?
    "é€".toList ≠ [] ∧
      (decodeLossy [0xF0, 0x9F, 0xC3, 0xA9, 0xE2, 0x82, 0xAC, 0x82, 0xAC] =
          "\uFFFDé€\uFFFD\uFFFD".toList ∧
        (∀ t, decodeLossy (encode t) = t) ∧
        (∀ t, convertBytes find? (encode t) = convert find? t) ∧
        ∀ bytes t, Reads bytes t ↔ decodeLossy bytes = t) := by
  intro find?
  have some : "é€".toList ≠ [] := by decide
  have before : decodeLossy [0xF0, 0x9F] = ['\uFFFD'] := by decide
  have after : decodeLossy [0x82, 0xAC] = ['\uFFFD', '\uFFFD'] := by decide
  have form : encode "é€".toList = [0xC3, 0xA9, 0xE2, 0x82, 0xAC] := by decide
  have intact := decodeLossy_intact find? [0xF0, 0x9F] [0x82, 0xAC] some
  rw [before, after, form] at intact
  exact ⟨some, intact⟩

end Chatdown.Utf8
