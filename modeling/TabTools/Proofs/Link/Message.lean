import TabTools.Link.Stream
import TabTools.Proofs.Json.OneLine
import TabTools.Proofs.Json.RoundTrip
import TabTools.Proofs.Text

/-!
# Messages of the link read back

**Main result** (`parse?_render`). The text of a message is read as that message, if its data is
readable inside of an object. The kind may be any text.

**One line** (`plain_message`). The text of a message has no control characters, so it has no line
feed of its own; it is not blank, and it ends in a brace (`lineMessage?_render`,
`dropReturn_render`). What a line ending could be taken for does not occur in it.
-/

namespace TabTools.Link

open Json Text

/-! ## The text of a message -/

theorem kindField_eq : "\x7b\"kind\":".toList = '{' :: (renderString "kind" ++ [':']) := by
  decide +kernel

theorem dataField_eq : ",\"data\":".toList = ',' :: (renderString "data" ++ [':']) := by
  decide +kernel

namespace Message

theorem render_eq (m : Message) :
    m.render = '{' :: (renderString "kind" ++ ':' :: (renderString m.kind ++
      ',' :: (renderString "data" ++ ':' :: (m.data.render ++ ['}'])))) := by
  unfold Message.render
  simp only [kindField_eq, dataField_eq, List.cons_append, List.append_assoc, List.nil_append]

/-- **A message stands on one line.** -/
theorem plain_message (m : Message) : Plain m.render := by
  have marks : 0x20 ≤ '{'.toNat ∧ 0x20 ≤ ':'.toNat ∧ 0x20 ≤ ','.toNat ∧ 0x20 ≤ '}'.toNat := by
    decide
  simp only [render_eq, plain_cons, plain_append, plain_nil, plain_renderString, plain_render, marks,
    and_self]

theorem getLast?_render (m : Message) : m.render.getLast? = some '}' := by
  unfold Message.render
  exact List.getLast?_concat

/-- Nothing is cut off at the end of a message. -/
theorem dropReturn_render (m : Message) : dropReturn m.render = m.render := by
  rw [dropReturn, getLast?_render, if_neg (by decide)]

theorem newline_not_mem_render (m : Message) : '\n' ∉ m.render :=
  m.plain_message.not_mem (by decide)

end Message

/-! ## Reading a message -/

theorem readString_renderString (s : String) (rest : List Char) :
    readString (renderString s ++ rest) = some (s, rest) := by
  simp [readString, renderString, skipSpace, isSpace, stringBody_escaped]

/-- What is read after the value of a field. -/
def afterField (fuel : Nat) : Option (Draft × List Char) → Option (Draft × List Char)
  | none => none
  | some (draft, rest) =>
    match skipSpace rest with
    | ',' :: rest => readFields fuel draft rest
    | '}' :: rest => some (draft, rest)
    | _ => none

/-- One field: its key, its value, and what follows. -/
theorem readFields_key (fuel : Nat) (draft : Draft) (key : String) (cs : List Char) :
    readFields (fuel + 1) draft (renderString key ++ ':' :: cs) =
      afterField fuel (readField fuel draft key.toList cs) := by
  have quote (cs : List Char) : skipSpace ('"' :: cs) = '"' :: cs := skipSpace_cons cs (by decide)
  have colon (cs : List Char) : skipSpace (':' :: cs) = ':' :: cs := skipSpace_cons cs (by decide)
  rw [readFields, renderString]
  simp only [List.cons_append, List.nil_append, List.append_assoc, quote, stringBody_escaped, colon]
  rfl

theorem readField_kind (fuel : Nat) (kind : String) (rest : List Char) :
    readField fuel {} "kind".toList (renderString kind ++ rest) =
      some ({ kind := some kind }, rest) := by
  simp [readField, readString_renderString]

theorem readField_data {fuel : Nat} {data : Json} (readable : data.Readable dataDepth)
    (long : data.render.length ≤ fuel) (kind : String) (rest : List Char) :
    readField fuel { kind := some kind } "data".toList (data.render ++ '}' :: rest) =
      some ({ kind := some kind, data := some data }, '}' :: rest) := by
  have other : "data".toList ≠ "kind".toList := by decide +kernel
  rw [readField, if_neg other, if_pos rfl,
    value_render data fuel dataDepth ('}' :: rest) readable long rfl]
  rfl

/-- **A message is read back.** -/
theorem Message.parse?_render {m : Message} (readable : m.data.Readable dataDepth) :
    Message.parse? m.render = some m := by
  have length : m.data.render.length + 2 ≤ m.render.length := by
    simp only [render_eq, List.length_cons, List.length_append, List.length_nil]
    omega
  -- Two fields are read, and there are more steps than characters.
  obtain ⟨fuel, hfuel⟩ : ∃ fuel, 2 * m.render.length + 2 = fuel + 1 + 1 := ⟨_, rfl⟩
  have fields : readFields (fuel + 1 + 1) {} (renderString "kind" ++ ':' :: (renderString m.kind ++
      ',' :: (renderString "data" ++ ':' :: (m.data.render ++ ['}'])))) =
        some (⟨some m.kind, some m.data⟩, []) := by
    rw [readFields_key, readField_kind]
    simp only [afterField, skipSpace_cons _ (show isSpace ',' = false by decide)]
    rw [readFields_key, readField_data readable (by omega)]
    simp only [afterField, skipSpace_cons _ (show isSpace '}' = false by decide)]
  -- The first field starts with its quote, so the braces do not close at once.
  obtain ⟨tail, htail⟩ : ∃ tail, renderString "kind" ++ ':' :: (renderString m.kind ++
      ',' :: (renderString "data" ++ ':' :: (m.data.render ++ ['}']))) = '"' :: tail := ⟨_, rfl⟩
  rw [htail] at fields
  rw [Message.parse?, hfuel, render_eq, htail, skipSpace_cons _ (by decide)]
  simp only [skipSpace_cons tail (show isSpace '"' = false by decide)]
  show (match readFields (fuel + 1 + 1) {} ('"' :: tail) with
    | none => none
    | some (draft, rest) => if (skipSpace rest).isEmpty then draft.finish else none) = some m
  rw [fields]
  rfl

theorem Message.trim_render_ne_nil (m : Message) : trim m.render ≠ [] := by
  intro h
  have brace := (trim_eq_nil_iff _).1 h '{' (by rw [render_eq]; exact .head _)
  exact absurd brace (by decide)

/-- **The line of a message** holds that message. -/
theorem lineMessage?_render {m : Message} (readable : m.data.Readable dataDepth) :
    lineMessage? m.render = some m := by
  rw [lineMessage?, if_neg (by simpa using m.trim_render_ne_nil), m.parse?_render readable]

end TabTools.Link
