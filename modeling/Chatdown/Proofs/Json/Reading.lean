import Chatdown.Json.Decoding
import Chatdown.Proofs.Json.Scanning

/-! # Reading written values

Tokens of a value, read where a value may come, lead to a tree of that value, and the containers
around it are as before. With the tokens of written forms that makes every decoder of a written
value see a tree of it, with nothing wrong in the tree and nothing behind it.
-/

namespace Chatdown.Json

namespace Tree

mutual

/-- A tree that is a value with places, and nothing is wrong with it. -/
def Locates : Tree → Json → Prop
  | tree, .array vs => ∃ start peeked elements stop,
      tree = .array start peeked elements (.ok stop) ∧ ElementsLocate elements vs
  | tree, .object ms => ∃ start peeked members stop,
      tree = .object start peeked members (.ok stop) ∧ MembersLocate members ms
  | tree, v => ∃ stop, tree = .scalar (.ok v) stop

def ElementsLocate : List Element → List Json → Prop
  | elements, [] => elements = []
  | elements, v :: vs => ∃ tree closing others,
      elements = .mk tree closing :: others ∧ Locates tree v ∧ ElementsLocate others vs

def MembersLocate : List Member → List (Text × Json) → Prop
  | members, [] => members = []
  | members, (key, v) :: ms => ∃ afterKey tree others,
      members = .mk (.ok key) afterKey tree :: others ∧ Locates tree v ∧ MembersLocate others ms

end

namespace State

private theorem run_step {expected : Expected} {frames : List Frame} {token : Token}
    {rest : List Token}
    {next : State} (steps : step? expected frames token rest = some next) :
    run (.reading expected frames) (token :: rest) = run next rest := by
  rw [run, step, steps]

section Steps

variable {expected : Expected} {token : Token}

private theorem step?_openArray (kind : token.kind = .openArray) (value : expected.isValue = true)
    (frames : List Frame) (rest : List Token) :
    step? expected frames token rest =
      some (.reading .firstElement (.array token.start token.peeked [] :: frames)) := by
  simp only [step?, kind, value, if_true]

private theorem step?_openObject (kind : token.kind = .openObject) (value : expected.isValue = true)
    (frames : List Frame) (rest : List Token) :
    step? expected frames token rest =
      some (.reading .firstKey (.object token.start token.peeked [] :: frames)) := by
  simp only [step?, kind, value, if_true]

private theorem step?_scalar {v : Json} (kind : token.kind = .scalar (.ok v))
    (value : expected.isValue = true) (frames : List Frame) (rest : List Token) :
    step? expected frames token rest =
      some (afterValue (.scalar (.ok v) token.stop) frames rest) := by
  simp only [step?, kind, value, if_true]

private theorem isKey_of_isValue (value : expected.isValue = true) : expected.isKey = false := by
  cases expected <;> first | rfl | cases value

private theorem step?_string {t : Text} (kind : token.kind = .string (.ok t))
    (value : expected.isValue = true) (frames : List Frame) (rest : List Token) :
    step? expected frames token rest =
      some (afterValue (.scalar (.ok (.string t)) token.stop) frames rest) := by
  simp only [step?, kind, value, isKey_of_isValue value, Bool.false_eq_true, if_false, if_true]
  rfl

private theorem step?_key {t : Text} (kind : token.kind = .string (.ok t))
    (key : expected.isKey = true)
    (start peeked : Place) (members : List Member) (frames : List Frame) (rest : List Token) :
    step? expected (.object start peeked members :: frames) token rest =
      some (.reading .colon
        (.member start peeked members (.ok t) (Frame.objectClosing rest) :: frames)) := by
  simp only [step?, kind, key, if_true, afterKey?]

private theorem step?_colon (kind : token.kind = .colon) (frames : List Frame) (rest : List Token) :
    step? .colon frames token rest = some (.reading .value frames) := by
  simp only [step?, kind, if_true]

end Steps

/-- Tokens that are read as a value wherever one may come. -/
def ReadAs (v : Json) (tokens : List Token) : Prop :=
  ∀ expected frames rest, expected.isValue = true → ∃ tree : Tree, tree.Locates v ∧
    run (.reading expected frames) (tokens ++ rest) = run (afterValue tree frames rest) rest

def ReadAsLaterElements (vs : List Json) (tokens : List Token) : Prop :=
  ∀ start peeked before frames rest, ∃ elements, ElementsLocate elements vs ∧
    run (.reading .separator (.array start peeked before :: frames)) (tokens ++ rest) =
      run (.reading .separator (.array start peeked (elements.reverse ++ before) :: frames)) rest

/-- Tokens that are read as one member, where a key may come. -/
def ReadAsMember (key : Text) (v : Json) (tokens : List Token) : Prop :=
  ∀ expected start peeked before frames rest, expected.isKey = true →
    ∃ afterKey tree, Locates tree v ∧
      run (.reading expected (.object start peeked before :: frames)) (tokens ++ rest) =
        run (.reading .separator
          (.object start peeked (.mk (.ok key) afterKey tree :: before) :: frames)) rest

def ReadAsLaterMembers (ms : List (Text × Json)) (tokens : List Token) : Prop :=
  ∀ start peeked before frames rest, ∃ members, MembersLocate members ms ∧
    run (.reading .separator (.object start peeked before :: frames)) (tokens ++ rest) =
      run (.reading .separator (.object start peeked (members.reverse ++ before) :: frames)) rest

private theorem readAs_scalar {v : Json} {token : Token} (kind : token.kind = .scalar (.ok v))
    (located : ∀ stop, (Tree.scalar (.ok v) stop).Locates v) : ReadAs v [token] := by
  intro expected frames rest value
  exact ⟨_, located token.stop, run_step (step?_scalar kind value frames rest)⟩

private theorem readAs_string {t : Text} {token : Token} (kind : token.kind = .string (.ok t)) :
    ReadAs (.string t) [token] := by
  intro expected frames rest value
  exact ⟨_, ⟨token.stop, rfl⟩, run_step (step?_string kind value frames rest)⟩

section Arrays

variable {opening closing : Token}

private theorem readAs_emptyArray (opens : opening.kind = .openArray)
    (closes : closing.kind = .closeArray) : ReadAs (.array []) [opening, closing] := by
  intro expected frames rest value
  refine ⟨.array opening.start opening.peeked [] (.ok closing.stop), ⟨_, _, _, _, rfl, rfl⟩, ?_⟩
  rw [List.cons_append, run_step (step?_openArray opens value frames _)]
  apply run_step
  simp only [step?, closes]
  rfl

/-- An array ends with the token that closes it, and all elements before it have been kept. -/
theorem readAs_array {v : Json} {vs : List Json} {first later : List Token}
    (opens : opening.kind = .openArray) (read : ReadAs v first)
    (readLater : ReadAsLaterElements vs later) (closes : closing.kind = .closeArray) :
    ReadAs (.array (v :: vs)) (opening :: first ++ later ++ [closing]) := by
  intro expected frames rest value
  -- What closing the array after its first element would give depends on all tokens behind it.
  obtain ⟨tree, located, head⟩ := read .firstElement
    (.array opening.start opening.peeked [] :: frames) (later ++ closing :: rest) rfl
  obtain ⟨elements, locateOthers, tail⟩ := readLater opening.start opening.peeked
    [.mk tree (Frame.closing (later ++ closing :: rest))] frames (closing :: rest)
  refine ⟨.array opening.start opening.peeked
    (.mk tree (Frame.closing (later ++ closing :: rest)) :: elements) (.ok closing.stop),
    ⟨_, _, _, _, rfl, _, _, _, rfl, located, locateOthers⟩, ?_⟩
  simp only [List.cons_append, List.append_assoc, List.nil_append]
  rw [run_step (step?_openArray opens value frames _), head, afterValue, Frame.add, tail]
  apply run_step
  simp only [step?, closes, Frame.close, List.reverse_append, List.reverse_reverse]
  rfl

private theorem readAsLaterElements_nil : ReadAsLaterElements [] [] :=
  fun _ _ _ _ _ => ⟨[], rfl, rfl⟩

private theorem readAsLaterElements_cons {v : Json} {vs : List Json} {comma : Token}
    {first later : List Token} (separates : comma.kind = .comma) (read : ReadAs v first)
    (readLater : ReadAsLaterElements vs later) :
    ReadAsLaterElements (v :: vs) (comma :: first ++ later) := by
  intro start peeked before frames rest
  obtain ⟨tree, located, head⟩ := read .element (.array start peeked before :: frames)
    (later ++ rest) rfl
  obtain ⟨elements, locateOthers, tail⟩ := readLater start peeked
    (.mk tree (Frame.closing (later ++ rest)) :: before) frames rest
  refine ⟨.mk tree (Frame.closing (later ++ rest)) :: elements,
    ⟨_, _, _, rfl, located, locateOthers⟩, ?_⟩
  have steps : step? .separator (.array start peeked before :: frames) comma
      (first ++ (later ++ rest)) =
        some (.reading .element (.array start peeked before :: frames)) := by
    simp only [step?, separates]
  rw [List.cons_append, List.cons_append, List.append_assoc, run_step steps, head, afterValue,
    Frame.add, tail, List.reverse_cons, List.append_assoc, List.singleton_append]

end Arrays

section Objects

variable {opening closing : Token}

private theorem readAsMember {key : Text} {v : Json} {name colon : Token} {value : List Token}
    (names : name.kind = .string (.ok key)) (separates : colon.kind = .colon)
    (read : ReadAs v value) : ReadAsMember key v (name :: colon :: value) := by
  intro expected start peeked before frames rest isKey
  let afterKey := Frame.objectClosing (colon :: (value ++ rest))
  obtain ⟨tree, located, tail⟩ := read .value
    (.member start peeked before (.ok key) afterKey :: frames) rest rfl
  refine ⟨afterKey, tree, located, ?_⟩
  rw [List.cons_append, List.cons_append, run_step (step?_key names isKey ..),
    run_step (step?_colon separates ..), tail]
  rfl

private theorem readAs_emptyObject (opens : opening.kind = .openObject)
    (closes : closing.kind = .closeObject) : ReadAs (.object []) [opening, closing] := by
  intro expected frames rest value
  refine ⟨.object opening.start opening.peeked [] (.ok closing.stop), ⟨_, _, _, _, rfl, rfl⟩, ?_⟩
  rw [List.cons_append, run_step (step?_openObject opens value frames _)]
  apply run_step
  simp only [step?, closes]
  rfl

/-- An object ends with the token that closes it, and all members before it have been kept. -/
theorem readAs_object {key : Text} {v : Json} {ms : List (Text × Json)} {first later : List Token}
    (opens : opening.kind = .openObject) (read : ReadAsMember key v first)
    (readLater : ReadAsLaterMembers ms later) (closes : closing.kind = .closeObject) :
    ReadAs (.object ((key, v) :: ms)) (opening :: first ++ later ++ [closing]) := by
  intro expected frames rest value
  obtain ⟨afterKey, tree, located, head⟩ := read .firstKey opening.start opening.peeked [] frames
    (later ++ closing :: rest) rfl
  obtain ⟨members, locateOthers, tail⟩ := readLater opening.start opening.peeked
    [.mk (.ok key) afterKey tree] frames (closing :: rest)
  refine ⟨.object opening.start opening.peeked (.mk (.ok key) afterKey tree :: members)
    (.ok closing.stop), ⟨_, _, _, _, rfl, _, _, _, rfl, located, locateOthers⟩, ?_⟩
  simp only [List.cons_append, List.append_assoc, List.nil_append]
  rw [run_step (step?_openObject opens value frames _), head, tail]
  apply run_step
  simp only [step?, closes, Frame.close, List.reverse_append, List.reverse_reverse]
  rfl

private theorem readAsLaterMembers_nil : ReadAsLaterMembers [] [] :=
  fun _ _ _ _ _ => ⟨[], rfl, rfl⟩

private theorem readAsLaterMembers_cons {key : Text} {v : Json} {ms : List (Text × Json)}
    {comma : Token}
    {first later : List Token} (separates : comma.kind = .comma) (read : ReadAsMember key v first)
    (readLater : ReadAsLaterMembers ms later) :
    ReadAsLaterMembers ((key, v) :: ms) (comma :: first ++ later) := by
  intro start peeked before frames rest
  obtain ⟨afterKey, tree, located, head⟩ := read .key start peeked before frames (later ++ rest) rfl
  obtain ⟨members, locateOthers, tail⟩ := readLater start peeked
    (.mk (.ok key) afterKey tree :: before) frames rest
  refine ⟨.mk (.ok key) afterKey tree :: members, ⟨_, _, _, rfl, located, locateOthers⟩, ?_⟩
  have steps : step? .separator (.object start peeked before :: frames) comma
      (first ++ (later ++ rest)) =
        some (.reading .key (.object start peeked before :: frames)) := by
    simp only [step?, separates]
  rw [List.cons_append, List.cons_append, List.append_assoc, run_step steps, head, tail,
    List.reverse_cons, List.append_assoc, List.singleton_append]

end Objects

end State

open State Token

mutual

/-- Tokens of the kinds of a value are read as that value. -/
theorem readAs_of_kinds : ∀ (v : Json) (tokens : List Token),
    tokens.map kind = v.tokenKinds → ReadAs v tokens
  | .null, tokens, kinds => by
    obtain ⟨token, rfl, same⟩ := List.map_eq_singleton_iff.mp kinds
    exact readAs_scalar same fun stop => ⟨stop, rfl⟩
  | .bool _, tokens, kinds => by
    obtain ⟨token, rfl, same⟩ := List.map_eq_singleton_iff.mp kinds
    exact readAs_scalar same fun stop => ⟨stop, rfl⟩
  | .integer _, tokens, kinds => by
    obtain ⟨token, rfl, same⟩ := List.map_eq_singleton_iff.mp kinds
    exact readAs_scalar same fun stop => ⟨stop, rfl⟩
  | .float _ _, tokens, kinds => by
    obtain ⟨token, rfl, same⟩ := List.map_eq_singleton_iff.mp kinds
    exact readAs_scalar same fun stop => ⟨stop, rfl⟩
  | .string _, tokens, kinds => by
    obtain ⟨token, rfl, same⟩ := List.map_eq_singleton_iff.mp kinds
    exact readAs_string same
  | .array [], tokens, kinds => by
    obtain ⟨opening, tail, rfl, opens, kinds⟩ := List.map_eq_cons_iff.mp kinds
    obtain ⟨closing, rfl, closes⟩ := List.map_eq_singleton_iff.mp kinds
    exact readAs_emptyArray opens closes
  | .array (v :: vs), tokens, kinds => by
    obtain ⟨inside, last, rfl, kinds, closingKind⟩ := List.map_eq_append_iff.mp kinds
    obtain ⟨opening, tail, rfl, opens, kinds⟩ := List.map_eq_cons_iff.mp kinds
    obtain ⟨first, later, rfl, firstKinds, laterKinds⟩ := List.map_eq_append_iff.mp kinds
    obtain ⟨closing, rfl, closes⟩ := List.map_eq_singleton_iff.mp closingKind
    exact readAs_array opens (readAs_of_kinds v first firstKinds)
      (readAsLaterElements_of_kinds vs later laterKinds) closes
  | .object [], tokens, kinds => by
    obtain ⟨opening, tail, rfl, opens, kinds⟩ := List.map_eq_cons_iff.mp kinds
    obtain ⟨closing, rfl, closes⟩ := List.map_eq_singleton_iff.mp kinds
    exact readAs_emptyObject opens closes
  | .object ((key, v) :: ms), tokens, kinds => by
    obtain ⟨inside, last, rfl, kinds, closingKind⟩ := List.map_eq_append_iff.mp kinds
    obtain ⟨opening, tail, rfl, opens, kinds⟩ := List.map_eq_cons_iff.mp kinds
    obtain ⟨name, tail, rfl, names, kinds⟩ := List.map_eq_cons_iff.mp kinds
    obtain ⟨colon, tail, rfl, separates, kinds⟩ := List.map_eq_cons_iff.mp kinds
    obtain ⟨first, later, rfl, firstKinds, laterKinds⟩ := List.map_eq_append_iff.mp kinds
    obtain ⟨closing, rfl, closes⟩ := List.map_eq_singleton_iff.mp closingKind
    have member := readAsMember names separates (readAs_of_kinds v first firstKinds)
    exact readAs_object opens member (readAsLaterMembers_of_kinds ms later laterKinds) closes

private theorem readAsLaterElements_of_kinds : ∀ (vs : List Json) (tokens : List Token),
    tokens.map kind = laterElementKinds vs → ReadAsLaterElements vs tokens
  | [], tokens, kinds => by
    rw [List.map_eq_nil_iff.mp kinds]
    exact readAsLaterElements_nil
  | v :: vs, tokens, kinds => by
    obtain ⟨comma, tail, rfl, separates, kinds⟩ := List.map_eq_cons_iff.mp kinds
    obtain ⟨first, later, rfl, firstKinds, laterKinds⟩ := List.map_eq_append_iff.mp kinds
    exact readAsLaterElements_cons separates (readAs_of_kinds v first firstKinds)
      (readAsLaterElements_of_kinds vs later laterKinds)

private theorem readAsLaterMembers_of_kinds : ∀ (ms : List (Text × Json)) (tokens : List Token),
    tokens.map kind = laterMemberKinds ms → ReadAsLaterMembers ms tokens
  | [], tokens, kinds => by
    rw [List.map_eq_nil_iff.mp kinds]
    exact readAsLaterMembers_nil
  | (key, v) :: ms, tokens, kinds => by
    obtain ⟨comma, tail, rfl, separates, kinds⟩ := List.map_eq_cons_iff.mp kinds
    obtain ⟨name, tail, rfl, names, kinds⟩ := List.map_eq_cons_iff.mp kinds
    obtain ⟨colon, tail, rfl, betweens, kinds⟩ := List.map_eq_cons_iff.mp kinds
    obtain ⟨first, later, rfl, firstKinds, laterKinds⟩ := List.map_eq_append_iff.mp kinds
    have member := readAsMember names betweens (readAs_of_kinds v first firstKinds)
    exact readAsLaterMembers_cons separates member (readAsLaterMembers_of_kinds ms later laterKinds)

end

mutual

/-- Nothing is in the way of a reader that passes over a value. -/
theorem skip_of_locates : ∀ (v : Json) (tree : Tree), tree.Locates v → tree.skip = .ok ()
  | .null, _, ⟨_, rfl⟩ => rfl
  | .bool _, _, ⟨_, rfl⟩ => rfl
  | .integer _, _, ⟨_, rfl⟩ => rfl
  | .float _ _, _, ⟨_, rfl⟩ => rfl
  | .string _, _, ⟨_, rfl⟩ => rfl
  | .array vs, _, ⟨_, _, elements, _, rfl, located⟩ => by
    simp only [skip, skipElements_of_locate vs elements located]
  | .object ms, _, ⟨_, _, members, _, rfl, located⟩ => by
    simp only [skip, skipMembers_of_locate ms members located]

private theorem skipElements_of_locate : ∀ (vs : List Json) (elements : List Element),
    ElementsLocate elements vs → skipElements elements = .ok ()
  | [], _, rfl => rfl
  | v :: vs, _, ⟨tree, _, others, rfl, located, locateOthers⟩ => by
    simp only [skipElements, skip_of_locates v tree located,
      skipElements_of_locate vs others locateOthers]

private theorem skipMembers_of_locate : ∀ (ms : List (Text × Json)) (members : List Member),
    MembersLocate members ms → skipMembers members = .ok ()
  | [], _, rfl => rfl
  | (_, v) :: ms, _, ⟨_, tree, others, rfl, located, locateOthers⟩ => by
    simp only [skipMembers, skip_of_locates v tree located,
      skipMembers_of_locate ms others locateOthers]

end

/-- A text with the tokens of a value has a tree of that value, and nothing comes after it. -/
theorem ofText_of_scans {t : Text} {v : Json} (scans : Scans t v.tokenKinds []) :
    ∃ tree : Tree, tree.Locates v ∧ ofText t = (tree, none) := by
  obtain ⟨tokens, last, kinds, finish, scanned⟩ := scans.scan_eq
  obtain ⟨tree, located, read⟩ := readAs_of_kinds v tokens kinds .text [] [last] rfl
  refine ⟨tree, located, ?_⟩
  rw [ofText, scanned, read]
  simp only [afterValue, run, trailing?, finish]

end Tree

open Token

def writtenForms (v : Json) : List Text := [v.compact, v.pretty 0]

/-- Both written forms of a value have its tokens, whatever follows that is no part of a number. -/
theorem scans_writtenForms {v : Json} (exact : v.IsExact) {t : Text} (written : t ∈ v.writtenForms)
    {rest : Text} (ends : NumberScan.EndsNumber rest) : Scans (t ++ rest) v.tokenKinds rest := by
  simp only [writtenForms, List.mem_cons, List.not_mem_nil, or_false] at written
  rcases written with rfl | rfl
  · exact compact_scans v exact rest ends
  · exact pretty_scans v exact 0 rest ends

/-- Both written forms of a value are read as a tree of the value, also with white space behind them,
so that decoding them is decoding the tree. -/
theorem decode_writtenForms_append {v : Json} (exact : v.IsExact) {t : Text}
    (written : t ∈ v.writtenForms) {blanks : Text} (blank : ∀ c ∈ blanks, isBlank c = true) :
    ∃ tree : Tree, tree.Locates v ∧
      ∀ {α : Type} (decoder : Tree → Except Error α),
        decode decoder (t ++ blanks) = decoder tree := by
  have value := scans_writtenForms exact written (endsNumber_of_blank blank)
  have ending : Scans blanks [] [] := by
    simpa only [List.append_nil] using scans_blanks blank []
  have scans := value.trans ending
  rw [List.append_nil] at scans
  obtain ⟨tree, located, read⟩ := Tree.ofText_of_scans scans
  refine ⟨tree, located, ?_⟩
  intro α decoder
  simp only [decode, read]
  cases decoder tree <;> rfl

theorem decode_writtenForms {v : Json} (exact : v.IsExact) {t : Text}
    (written : t ∈ v.writtenForms) : ∃ tree : Tree, tree.Locates v ∧
      ∀ {α : Type} (decoder : Tree → Except Error α), decode decoder t = decoder tree := by
  have read := decode_writtenForms_append exact written (List.forall_mem_nil _)
  rwa [List.append_nil] at read

end Chatdown.Json
