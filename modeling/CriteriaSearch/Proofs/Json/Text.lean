import CriteriaSearch.Proofs.Json.Numerals
import CriteriaSearch.Proofs.Json.Values

namespace CriteriaSearch

/-!
# Printed values are read back

The indented text of a value is read from left to right by one fold, and the
induction over the value follows the containers.  What carries it is a statement
about every state in which a value may begin: behind the text of the value the
reader is as good as in the state in which the value is complete.  Between two
values stand a comma, a new line or a bracket, and white space changes nothing.

Strings hold any characters.  Each is written as itself or by an escape, and
both put it back into the string that is being read.
-/

namespace Json

mutual

/-- The doubles in a value. -/
def doubles : Json → List Binary64
  | .null | .bool _ | .num (.integer _) | .str _ => []
  | .num (.real x) => [x]
  | .arr items => doublesItems items
  | .obj members => doublesMembers members

def doublesItems : List Json → List Binary64
  | [] => []
  | item :: rest => item.doubles ++ doublesItems rest

def doublesMembers : List (String × Json) → List Binary64
  | [] => []
  | (_, value) :: rest => value.doubles ++ doublesMembers rest

end

/-- The value that a text writes, if no more than so many of its containers
stand inside one another. -/
def parseWithin? (room : Nat) (text : String) : Option Json :=
  match (Decode.json (.text room) (Reading.ofText text.toList).1 :
      Except (DecodeError Empty) Json), (Reading.ofText text.toList).2 with
  | .ok value, true => some value
  | _, _ => none

/-- The limit that is set to every text. -/
theorem parse?_eq_parseWithin? (text : String) :
    parse? text = parseWithin? Origin.nestingLimit text := by
  rw [parse?, Decode.fromText, parseWithin?]
  rcases Reading.ofText text.toList with ⟨reading, ended⟩
  cases decoded :
      (Decode.json (.text Origin.nestingLimit) reading : Except (DecodeError Empty) Json) with
  | error problem =>
      simp only [decoded]
      rfl
  | ok value =>
      simp only [decoded]
      cases ended <;> rfl

theorem parseWithin?_eq_some {room : Nat} {text : String} {value : Json} :
    parseWithin? room text = some value ↔
      (Decode.json (.text room) (Reading.ofText text.toList).1 :
          Except (DecodeError Empty) Json) = .ok value ∧
        (Reading.ofText text.toList).2 = true := by
  unfold parseWithin?
  split
  · next held decoded ended => simp [decoded, ended]
  · next other =>
      refine ⟨nofun, ?_⟩
      rintro ⟨decoded, ended⟩
      exact absurd ended (other value decoded)

end Json

/-- The double, printed by itself, is read back. -/
def Binary64.ReadsBack (x : Binary64) : Prop :=
  Json.parse? (Json.num (.real x)).indented = some (.num (.real x))

namespace Reading

open State
open Json (escaped quoted freshLine indentedChars indentedItems indentedMembers)

/-! ## White space -/

theorem foldl_step_freshLine {st : State} (idle : ∀ c, isSpace c = true → st.step c = st)
    (depth : Nat) : (freshLine depth).foldl step st = st := by
  have spaces (n : Nat) : (List.replicate n ' ').foldl step st = st := by
    induction n with
    | zero => rfl
    | succ n ih => rw [List.replicate_succ, List.foldl_cons, idle ' ' rfl, ih]
  rw [freshLine, List.foldl_cons, idle '\n' rfl, spaces]

namespace State

theorem idle_of_value {st : State} {mayClose : Bool} (phase : st.phase = .value mayClose) (c : Char)
    (space : isSpace c = true) : st.step c = st := by
  rw [step_of_value phase]
  exact if_pos space

theorem idle_of_separator {st : State} (phase : st.phase = .separator) (c : Char)
    (space : isSpace c = true) : st.step c = st := by
  rw [step_of_separator phase]
  exact if_pos space

theorem idle_of_name {st : State} {mayClose : Bool} (phase : st.phase = .name mayClose) (c : Char)
    (space : isSpace c = true) : st.step c = st := by
  simp only [step, phase, if_pos space]

/-- A new line settles a state. -/
theorem Settles.foldl_freshLine {st done : State} (settles : st.Settles done)
    (phase : done.phase = .separator) (depth : Nat) :
    (freshLine depth).foldl State.step st = done := by
  have idle := idle_of_separator phase
  have ended := foldl_step_freshLine idle depth
  rw [freshLine, List.foldl_cons, idle '\n' rfl] at ended
  rw [freshLine, List.foldl_cons, settles.step '\n' (Or.inr rfl), idle '\n' rfl, ended]

end State

/-! ## Strings -/

private theorem hexDigit?_hexDigit {n : Nat} (small : n < 16) :
    Text.hexDigit? (Json.hexDigit n) = some n := by
  have all : ∀ k : Fin 16, Text.hexDigit? (Json.hexDigit k.val) = some k.val := by decide
  exact all ⟨n, small⟩

/-- A character of a string is read back, however it is written. -/
theorem foldl_step_escaped (frames : List Frame) (top : Option Reading) (chars : List Char)
    (c : Char) :
    (escaped c).foldl step ⟨frames, top, .string { chars }⟩ =
      ⟨frames, top, .string { chars := c :: chars }⟩ := by
  unfold escaped
  split
  · next quote => rw [quote]; rfl
  split
  · next backslash => rw [backslash]; rfl
  split
  · next newLine => rw [newLine]; rfl
  split
  · next tab => rw [tab]; rfl
  split
  · next carriageReturn => rw [carriageReturn]; rfl
  split
  · next backspace => rw [← Char.ofNat_toNat c, backspace]; rfl
  split
  · next formFeed => rw [← Char.ofNat_toNat c, formFeed]; rfl
  split
  · next control =>
      have zero : Text.hexDigit? '0' = some 0 := rfl
      have high := hexDigit?_hexDigit (n := c.toNat / 16) (by omega)
      have low := hexDigit?_hexDigit (n := c.toNat % 16) (by omega)
      have unit : 16 * (c.toNat / 16) + c.toNat % 16 = c.toNat := Nat.div_add_mod _ _
      -- no control character is half of a surrogate pair
      have single : ¬ 0xD800 ≤ c.toNat ∧ ¬ 0xDC00 ≤ c.toNat := by omega
      simp [step, stepString, zero, high, low, unit, single, Quotation.pushUnit]
  · next quote backslash _ _ _ _ _ plain =>
      simp only [List.foldl_cons, List.foldl_nil, step, stepString, if_neg quote,
        if_neg backslash, if_neg plain]
      rfl

theorem foldl_step_flatMap_escaped (frames : List Frame) (top : Option Reading)
    (cs chars : List Char) :
    (cs.flatMap escaped).foldl step ⟨frames, top, .string { chars }⟩ =
      ⟨frames, top, .string { chars := cs.reverse ++ chars }⟩ := by
  induction cs generalizing chars with
  | nil => rfl
  | cons c rest ih =>
      rw [List.flatMap_cons, List.foldl_append, foldl_step_escaped, ih, List.reverse_cons,
        List.append_assoc]
      rfl

theorem completeString_with_phase (st : State) (phase : Phase) (text : Option String) :
    completeString { st with phase } text = st.completeString text := by
  rcases st with ⟨frames, top, old⟩
  rcases frames with _ | ⟨_ | _ | _, outer⟩ <;> rfl

/-- A quoted string is read back as the name of a member or as a value,
whatever its place asks for. -/
theorem foldl_step_quoted {st : State} (opens : st.step '"' = { st with phase := .string {} })
    (s : String) : (quoted s.toList).foldl step st = st.completeString (some s) := by
  have text : Quotation.text { chars := s.toList.reverse ++ [] } = some s := by
    simp [Quotation.text]
  rw [quoted, List.foldl_cons, opens, List.foldl_append, foldl_step_flatMap_escaped,
    List.foldl_cons, List.foldl_nil, ← text]
  exact completeString_with_phase st _ _

theorem readsAs_quoted (s : String) : ReadsAs (quoted s.toList) (.str (some s)) := by
  intro st ready
  have ⟨mayClose, phase⟩ := ready.phase
  have value : st.completeString (some s) = st.complete (.str (some s)) := by
    unfold completeString
    split
    · next done outer frames => exact absurd frames (ready.frames done outer)
    · rfl
  rw [foldl_step_quoted (step_of_value phase '"'), value]
  exact Settles.refl (ready.phase_complete _)

/-! ## Scalars -/

theorem eq_num_of_json_eq_ok {o : Origin} {reading : Reading} {n : Number}
    (decoded : Decode.json o reading = (.ok (.num n) : Except (DecodeError Empty) Json)) :
    reading = .num (some n) := by
  cases reading with
  | num number =>
      cases number with
      | none => cases decoded
      | some m => rw [Json.num.inj (Except.ok.inj decoded)]
  | str text => cases text <;> cases decoded
  | arr items closed =>
      rw [Decode.json] at decoded
      rcases Decode.bind_eq_ok.1 decoded with ⟨inner, -, decoded⟩
      rcases Decode.bind_eq_ok.1 decoded with ⟨values, -, decoded⟩
      rcases Decode.bind_eq_ok.1 decoded with ⟨_, -, decoded⟩
      cases decoded
  | obj members closed =>
      rw [Decode.json] at decoded
      rcases Decode.bind_eq_ok.1 decoded with ⟨inner, -, decoded⟩
      rcases Decode.bind_eq_ok.1 decoded with ⟨values, -, decoded⟩
      rcases Decode.bind_eq_ok.1 decoded with ⟨_, -, decoded⟩
      cases decoded
  | _ => cases decoded

theorem ofText_of_parse? {text : String} {n : Number} (parsed : Json.parse? text = some (.num n)) :
    ofText text.toList = (.num (some n), true) := by
  rw [Json.parse?_eq_parseWithin?, Json.parseWithin?_eq_some] at parsed
  exact Prod.ext (eq_num_of_json_eq_ok parsed.1) parsed.2

/-- A double that is read back by itself is read back inside a document. -/
theorem readsAs_real {x : Binary64} (back : x.ReadsBack) :
    ReadsAs (Number.real x).text (.num (some (.real x))) := by
  have alone := ofText_of_parse? back
  rw [Json.indented, String.toList_ofList] at alone
  exact readsAs_of_ofText (isNumeralChar_of_mem_text Layout.json x) alone

private theorem foldl_step_literal (st : State) (c : Char) (rest : List Char) (means : Reading) :
    (c :: rest).foldl step { st with phase := .literal (c :: rest) means } =
      st.complete means := by
  induction rest generalizing c with
  | nil =>
      have last := complete_with_phase st (.literal [c] means) means
      simpa [step] using last
  | cons next more ih =>
      have first : State.step { st with phase := .literal (c :: next :: more) means } c =
          { st with phase := .literal (next :: more) means } := by simp [step]
      rw [List.foldl_cons, first]
      exact ih next

/-- A literal is read back once its first character has told which it is. -/
theorem readsAs_literal {first c : Char} {rest : List Char} {means : Reading}
    (opens : ∀ (st : State) (mayClose : Bool),
      st.stepValue mayClose first = { st with phase := .literal (c :: rest) means }) :
    ReadsAs (first :: c :: rest) means := by
  intro st ready
  have ⟨mayClose, phase⟩ := ready.phase
  rw [List.foldl_cons, step_of_value phase, opens, foldl_step_literal]
  exact Settles.refl (ready.phase_complete means)

/-! ## Containers -/

theorem step_open_array {st : State} (ready : st.Ready) :
    st.step '[' = ⟨.items [] :: st.frames, st.top, .value true⟩ := by
  have ⟨mayClose, phase⟩ := ready.phase
  exact step_of_value phase '['

theorem step_open_object {st : State} (ready : st.Ready) :
    st.step '\x7b' = ⟨.members [] :: st.frames, st.top, .name true⟩ := by
  have ⟨mayClose, phase⟩ := ready.phase
  exact step_of_value phase '\x7b'

theorem step_close_array (st : State) (done : List Reading) :
    State.step ⟨.items done :: st.frames, st.top, .separator⟩ ']' =
      st.complete (.arr done.reverse true) :=
  complete_with_phase st .separator _

theorem step_close_object (st : State) (done : List (Option String × Reading)) :
    State.step ⟨.members done :: st.frames, st.top, .separator⟩ '}' =
      st.complete (.obj done.reverse true) :=
  complete_with_phase st .separator _

/-- An item goes into the array that is open. -/
theorem settles_item {depth : Nat} {item : Json}
    (reads : ReadsAs (item.indentedChars depth) (ofJson item)) (done : List Reading)
    (outer : List Frame) (top : Option Reading) (mayClose : Bool) :
    State.Settles
      ((freshLine depth ++ item.indentedChars depth).foldl step
        ⟨.items done :: outer, top, .value mayClose⟩)
      ⟨.items (ofJson item :: done) :: outer, top, .separator⟩ := by
  have ready : State.Ready ⟨.items done :: outer, top, .value mayClose⟩ := ⟨⟨mayClose, rfl⟩, nofun⟩
  rw [List.foldl_append, foldl_step_freshLine (idle_of_value rfl)]
  exact reads _ ready

/-- A member goes into the object that is open. -/
theorem settles_member {depth : Nat} {value : Json}
    (reads : ReadsAs (value.indentedChars depth) (ofJson value)) (name : String)
    (done : List (Option String × Reading)) (outer : List Frame) (top : Option Reading)
    (mayClose : Bool) :
    State.Settles
      ((freshLine depth ++ quoted name.toList ++ ':' :: ' ' :: value.indentedChars depth).foldl step
        ⟨.members done :: outer, top, .name mayClose⟩)
      ⟨.members ((some name, ofJson value) :: done) :: outer, top, .separator⟩ := by
  have ready : State.Ready ⟨.named done (some name) :: outer, top, .value false⟩ :=
    ⟨⟨false, rfl⟩, nofun⟩
  have named : (quoted name.toList).foldl step ⟨.members done :: outer, top, .name mayClose⟩ =
      ⟨.named done (some name) :: outer, top, .colon⟩ := foldl_step_quoted rfl name
  rw [List.foldl_append, List.foldl_append, foldl_step_freshLine (idle_of_name rfl), named]
  exact reads _ ready

mutual

/-- The text of a value is read as the value, wherever a value may begin. -/
theorem readsAs_indentedChars (depth : Nat) : (value : Json) →
    (∀ x ∈ value.doubles, x.ReadsBack) → ReadsAs (value.indentedChars depth) (ofJson value)
  | .null, _ => readsAs_literal fun _ _ => rfl
  | .bool true, _ => readsAs_literal fun _ _ => rfl
  | .bool false, _ => readsAs_literal fun _ _ => rfl
  | .num (.integer n), _ => readsAs_integer n
  | .num (.real x), back => readsAs_real (back x List.mem_cons_self)
  | .str s, _ => readsAs_quoted s
  | .arr [], _ => by
      intro st ready
      have closed := complete_with_phase st (.value true) (.arr [] true)
      rw [indentedChars, List.foldl_cons, step_open_array ready]
      exact closed ▸ Settles.refl (ready.phase_complete _)
  | .arr (item :: rest), back => by
      intro st ready
      have inside := settles_indentedItems (depth + 1) (item :: rest) (List.cons_ne_nil _ _) back
        [] st.frames st.top true
      rw [indentedChars, List.foldl_cons, step_open_array ready, List.append_assoc,
        List.foldl_append, List.foldl_append, inside.foldl_freshLine rfl, List.foldl_cons,
        List.foldl_nil, step_close_array, List.append_nil, List.reverse_reverse]
      exact Settles.refl (ready.phase_complete _)
  | .obj [], _ => by
      intro st ready
      have closed := complete_with_phase st (.name true) (.obj [] true)
      rw [indentedChars, List.foldl_cons, step_open_object ready]
      exact closed ▸ Settles.refl (ready.phase_complete _)
  | .obj (member :: rest), back => by
      intro st ready
      have inside := settles_indentedMembers (depth + 1) (member :: rest) (List.cons_ne_nil _ _)
        back [] st.frames st.top true
      rw [indentedChars, List.foldl_cons, step_open_object ready, List.append_assoc,
        List.foldl_append, List.foldl_append, inside.foldl_freshLine rfl, List.foldl_cons,
        List.foldl_nil, step_close_object, List.append_nil, List.reverse_reverse]
      exact Settles.refl (ready.phase_complete _)

/-- Items are read one after the other. -/
theorem settles_indentedItems (depth : Nat) : (items : List Json) → items ≠ [] →
    (∀ x ∈ Json.doublesItems items, x.ReadsBack) →
    ∀ (done : List Reading) (outer : List Frame) (top : Option Reading) (mayClose : Bool),
      State.Settles
        ((indentedItems depth items).foldl step ⟨.items done :: outer, top, .value mayClose⟩)
        ⟨.items ((ofItems items).reverse ++ done) :: outer, top, .separator⟩
  | [], inhabited, _ => absurd rfl inhabited
  | [item], _, back => by
      have own := readsAs_indentedChars depth item (List.forall_mem_append.mp back).1
      exact settles_item own
  | item :: next :: rest, _, back => by
      intro done outer top mayClose
      have ⟨first, later⟩ := List.forall_mem_append.mp back
      have own := settles_item (readsAs_indentedChars depth item first) done outer top mayClose
      have following := settles_indentedItems depth (next :: rest) (List.cons_ne_nil _ _) later
        (ofJson item :: done) outer top false
      rw [indentedItems, List.foldl_append, List.foldl_cons, own.step ',' (Or.inl rfl), ofItems,
        List.reverse_cons, List.append_assoc]
      exact following

/-- Members are read one after the other. -/
theorem settles_indentedMembers (depth : Nat) : (members : List (String × Json)) → members ≠ [] →
    (∀ x ∈ Json.doublesMembers members, x.ReadsBack) →
    ∀ (done : List (Option String × Reading)) (outer : List Frame) (top : Option Reading)
      (mayClose : Bool),
      State.Settles
        ((indentedMembers depth members).foldl step ⟨.members done :: outer, top, .name mayClose⟩)
        ⟨.members ((ofMembers members).reverse ++ done) :: outer, top, .separator⟩
  | [], inhabited, _ => absurd rfl inhabited
  | [(name, value)], _, back => by
      have own := readsAs_indentedChars depth value (List.forall_mem_append.mp back).1
      exact settles_member own name
  | (name, value) :: next :: rest, _, back => by
      intro done outer top mayClose
      have ⟨first, later⟩ := List.forall_mem_append.mp back
      have own := settles_member (readsAs_indentedChars depth value first) name done outer top
        mayClose
      have following := settles_indentedMembers depth (next :: rest) (List.cons_ne_nil _ _) later
        ((some name, ofJson value) :: done) outer top false
      rw [indentedMembers, ← List.cons_append, ← List.cons_append, ← List.append_assoc,
        List.foldl_append, List.foldl_cons, own.step ',' (Or.inl rfl), ofMembers,
        List.reverse_cons, List.append_assoc]
      exact following

end

/-- The indented text of a value, read as a document, is the value. -/
theorem ofText_indented {value : Json} (back : ∀ x ∈ value.doubles, x.ReadsBack) :
    ofText value.indented.toList = (ofJson value, true) := by
  rw [Json.indented, String.toList_ofList]
  exact (readsAs_indentedChars 0 value back).ofText

end Reading

/-- The indented text of a value is parsed to the value itself. -/
theorem Json.parseWithin?_indented {value : Json} {room : Nat} (canonical : value.Canonical)
    (back : ∀ x ∈ value.doubles, x.ReadsBack) (depth : value.depth ≤ room) :
    parseWithin? room value.indented = some value := by
  rw [parseWithin?_eq_some, Reading.ofText_indented back]
  exact ⟨Decode.json_ofJson_of_admits depth canonical, rfl⟩

end CriteriaSearch
