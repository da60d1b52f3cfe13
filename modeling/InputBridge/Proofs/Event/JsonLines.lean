import InputBridge.Event.JsonLines
import InputBridge.Proofs.Event.Verdicts
import InputBridge.Proofs.Json.Spelling
import InputBridge.Proofs.Matrix.Positions
import InputBridge.Proofs.Text.Printable

/-!
# JSON lines read back

Events become numbers and the numbers become text, and neither step loses anything. Keys
and buttons share a type, but no code (`code_lt_code`), so the three numbers of an event
determine it (`Event.raw_injective`). The line of an event spells the object of these
numbers and has no line end in it, so the lines of a text and the numbers of a line are
found again.
-/

namespace InputBridge

/-! ## Numbers of an event -/

theorem Key.code_injective : Function.Injective Key.code := by
  intro key other h
  have hnodup : (Key.all.map Key.code).Nodup := by decide
  exact List.inj_on_of_nodup_map hnodup (KeyMap.mem_all_keys key) (KeyMap.mem_all_keys other) h

theorem Button.code_injective : Function.Injective Button.code := by
  intro button other h
  cases button <;> cases other <;> first | rfl | exact absurd h (by decide)

/-- The codes of the keys lie below those of the buttons. -/
theorem code_lt_code (key : Key) (button : Button) : key.code < button.code := by
  have hkeys : ∀ key ∈ Key.all, key.code < 0x100 := by decide
  have hbutton : 0x100 ≤ button.code := by cases button <;> decide
  exact UInt16.lt_of_lt_of_le (hkeys key (KeyMap.mem_all_keys key)) hbutton

theorem Event.edgeValue_injective : Function.Injective Event.edgeValue := by decide

theorem RelativeAxis.code_injective : Function.Injective RelativeAxis.code := by
  intro axis other h
  cases axis <;> cases other <;> first | rfl | exact absurd h (by decide)

theorem AbsoluteAxis.code_injective : Function.Injective AbsoluteAxis.code := by
  intro axis other h
  cases axis <;> cases other <;> first | rfl | exact absurd h (by decide)

/-- No two events have the same three numbers. -/
theorem Event.raw_inj {event other : Event} (h : event.raw = other.raw) : event = other := by
  -- The type tells keys and buttons, the axes and the sync apart.
  cases event <;> cases other <;> injection h with hkind hcode hvalue <;>
    try exact absurd hkind (by decide)
  case key.key key pressed key' pressed' =>
    rw [Key.code_injective hcode, Event.edgeValue_injective hvalue]
  case key.button key _ button _ => exact absurd hcode (UInt16.ne_of_lt (code_lt_code key button))
  case button.key button _ key _ =>
    exact absurd hcode.symm (UInt16.ne_of_lt (code_lt_code key button))
  case button.button => rw [Button.code_injective hcode, Event.edgeValue_injective hvalue]
  case relative.relative => rw [RelativeAxis.code_injective hcode, hvalue]
  case absolute.absolute => rw [AbsoluteAxis.code_injective hcode, hvalue]
  case sync.sync => rfl

/-- The three numbers as integers. -/
def RawEvent.numbers (raw : RawEvent) : List Int :=
  [raw.kind.toNat, raw.code.toNat, raw.value.toInt]

theorem RawEvent.numbers_injective : Function.Injective RawEvent.numbers := by
  rintro ⟨kind, code, value⟩ ⟨kind', code', value'⟩ h
  simp only [RawEvent.numbers, List.cons.injEq, and_true, Int.natCast_inj] at h
  obtain ⟨hkind, hcode, hvalue⟩ := h
  rw [UInt16.toNat_inj.mp hkind, UInt16.toNat_inj.mp hcode, Int32.toInt_inj.mp hvalue]

/-! ## A line -/

theorem Text.toList_decimal_ofNat (n : Nat) :
    (Text.decimal (.ofNat n)).toList = Nat.toDigits 10 n := by
  rw [Text.decimal, Nat.repr_eq_ofList_toDigits, String.toList_ofList]

theorem Text.toList_decimal_negSucc (n : Nat) :
    (Text.decimal (.negSucc n)).toList = '-' :: Nat.toDigits 10 (n + 1) := by
  rw [Text.decimal, Nat.repr_eq_ofList_toDigits]
  simp

namespace Json

/-- The integer that a token is, if it is one. -/
def Token.integer? : Token → Option Int
  | .integer value => some value
  | _ => none

/-- The integers of a text, from left to right. -/
def integers (text : List Char) : List Int := (tokens text).filterMap Token.integer?

/-- A decimal is a way to write its integer. -/
theorem spells_decimal {value : Int} (low : -2 ^ 63 ≤ value) (high : value < 2 ^ 64) :
    Spells (Text.decimal value).toList (.integer value) := by
  cases value with
  | ofNat n =>
    rw [Text.toList_decimal_ofNat]
    exact .natural (by simpa using high)
  | negSucc n =>
    rw [Text.toList_decimal_negSucc]
    exact .negative (Nat.succ_pos n) (by omega)

end Json

namespace RawEvent

open Json (Token Spells SpellsAll)

/-- The tokens of the object of a raw event. -/
def tokens (raw : RawEvent) : List Token :=
  [.openBrace, .text "type", .colon, .integer raw.kind.toNat, .comma,
    .text "code", .colon, .integer raw.code.toNat, .comma,
    .text "value", .colon, .integer raw.value.toInt, .closeBrace]

theorem spells_json (raw : RawEvent) : SpellsAll raw.json.toList raw.tokens := by
  have hkind : Spells (Text.decimal raw.kind.toNat).toList (.integer raw.kind.toNat) :=
    Json.spells_decimal (by omega) (by have := raw.kind.toNat_lt; omega)
  have hcode : Spells (Text.decimal raw.code.toNat).toList (.integer raw.code.toNat) :=
    Json.spells_decimal (by omega) (by have := raw.code.toNat_lt; omega)
  have hvalue : Spells (Text.decimal raw.value.toInt).toList (.integer raw.value.toInt) :=
    Json.spells_decimal (by have := raw.value.le_toInt; omega)
      (by have := raw.value.toInt_lt; omega)
  have hspelled : SpellsAll _ raw.tokens :=
    .next .openBrace <| .next (Json.spells_text rfl) <| .next .colon <| .next hkind <|
    .next .comma <| .next (Json.spells_text rfl) <| .next .colon <| .next hcode <|
    .next .comma <| .next (Json.spells_text rfl) <| .next .colon <| .next hvalue <|
    .next .closeBrace .done
  unfold json
  simpa using hspelled

/-- There is no line end in the line of an event. -/
theorem no_lineEnd_json (raw : RawEvent) : '\n' ∉ raw.json.toList := by
  have hdigits : ∀ n : Nat, '\n' ∉ Nat.toDigits 10 n := fun n hin =>
    absurd (Json.isDigit_toDigits n _ hin) (by decide)
  have hdecimal : ∀ value : Int, '\n' ∉ (Text.decimal value).toList := by
    intro value hin
    cases value with
    | ofNat n => exact hdigits n (Text.toList_decimal_ofNat n ▸ hin)
    | negSucc n =>
      rw [Text.toList_decimal_negSucc, List.mem_cons] at hin
      exact hin.elim (by decide) (hdigits (n + 1))
  unfold json
  simp [hdecimal]

/-- The line of a raw event is read as the object of its numbers. -/
theorem tokens_json (raw : RawEvent) : Json.tokens raw.json.toList = raw.tokens :=
  Json.tokens_of_spellsAll raw.spells_json (by simp [Json.Separated, tokens, Json.Token.isInteger])

theorem integers_json (raw : RawEvent) : Json.integers raw.json.toList = raw.numbers := by
  rw [Json.integers, tokens_json]
  rfl

end RawEvent

/-! ## A text of lines -/

/-- The lines of events, each with its line end. -/
def jsonLines (events : List Event) : String :=
  String.join (events.map fun event => event.raw.json ++ "\n")

theorem jsonLines_cons (event : Event) (rest : List Event) :
    jsonLines (event :: rest) = event.raw.json ++ "\n" ++ jsonLines rest := by
  rw [← String.toList_inj]
  simp [jsonLines, String.toList_join]

/-- A writer without limit takes every line. -/
theorem sendAll_jsonLines : ∀ (events : List Event) (before : String) (flushes : Nat),
    let sent := sendAll events (⟨{ text := before, flushes }⟩ : JsonLinesSink)
    sent.1 = events.map (⟨·, .ok ()⟩) ∧ sent.2.writer.text = before ++ jsonLines events
  | [], before, flushes => ⟨rfl, by simp [sendAll, jsonLines, String.join]⟩
  | event :: rest, before, flushes => by
    have hsend : ∃ flushes', EventSink.send event (⟨{ text := before, flushes }⟩ : JsonLinesSink) =
        (.ok (), ⟨{ text := before ++ event.raw.json ++ "\n", flushes := flushes' }⟩) := by
      cases hsync : event.isSync with
      | true => exact ⟨flushes + 1, by simp [EventSink.send, JsonLinesSink.send, Writer.write,
          Writer.flush, hsync]⟩
      | false => exact ⟨flushes, by simp [EventSink.send, JsonLinesSink.send, Writer.write, hsync]⟩
    obtain ⟨flushes', hsend⟩ := hsend
    obtain ⟨hverdicts, htext⟩ := sendAll_jsonLines rest (before ++ event.raw.json ++ "\n") flushes'
    rw [sendAll, hsend]
    refine ⟨congrArg (List.cons _) hverdicts, htext.trans ?_⟩
    rw [jsonLines_cons, String.append_assoc, String.append_assoc, String.append_assoc]

/-- A text of lines falls apart into these lines at the line ends. -/
theorem splitOn_jsonLines (events : List Event) :
    (jsonLines events).toList.splitOn '\n' = events.map (·.raw.json.toList) ++ [[]] := by
  have hlines : jsonLines events =
      String.join ((events.map (·.raw.json)).map (· ++ "\n")) := by
    rw [List.map_map]
    rfl
  have hends : ∀ line ∈ events.map (·.raw.json), '\n' ∉ line.toList := by
    intro line hin
    obtain ⟨event, -, rfl⟩ := List.mem_map.mp hin
    exact event.raw.no_lineEnd_json
  rw [hlines, Text.splitOn_lines hends, List.map_map]
  rfl

/-- The numbers of the events are read back from the lines of their text. -/
theorem integers_jsonLines (events : List Event) :
    ((jsonLines events).toList.splitOn '\n').dropLast.map Json.integers =
      events.map (·.raw.numbers) := by
  rw [splitOn_jsonLines, List.dropLast_concat, List.map_map]
  exact List.map_congr_left fun event _ => event.raw.integers_json

theorem jsonLines_injective : Function.Injective jsonLines := by
  intro events others h
  have hnumbers : Function.Injective fun event : Event => event.raw.numbers :=
    fun _ _ h => Event.raw_inj (RawEvent.numbers_injective h)
  refine List.map_injective_iff.mpr hnumbers ?_
  show events.map (·.raw.numbers) = others.map (·.raw.numbers)
  rw [← integers_jsonLines, ← integers_jsonLines, h]

/-- Events as JSON lines are uniquely decodable. Their three numbers determine them. A
writer that never fails takes a line per event, in order; no line has a line end in it;
the text splits into just these lines, and the integers of each line are the numbers of its
event. So the text after any earlier text determines the events. -/
theorem jsonLines_decodable :
    Function.Injective Event.raw ∧
    ∀ (before : String) (flushes : Nat),
      let sink : JsonLinesSink := ⟨{ text := before, flushes }⟩
      (∀ events : List Event,
        (sendAll events sink).1 = events.map (⟨·, .ok ()⟩) ∧
        ∃ written : String, (sendAll events sink).2.writer.text = before ++ written ∧
          written = String.join (events.map fun event =>
            "\x7b\"type\":" ++ Text.decimal event.raw.kind.toNat ++
              ",\"code\":" ++ Text.decimal event.raw.code.toNat ++
              ",\"value\":" ++ Text.decimal event.raw.value.toInt ++ "\x7d" ++ "\n") ∧
          (∀ event ∈ events, '\n' ∉ event.raw.json.toList) ∧
          written.toList.splitOn '\n' = events.map (·.raw.json.toList) ++ [[]] ∧
          (written.toList.splitOn '\n').dropLast.map Json.integers =
            events.map fun event =>
              [(event.raw.kind.toNat : Int), (event.raw.code.toNat : Int), event.raw.value.toInt]) ∧
      Function.Injective fun events : List Event => (sendAll events sink).2.writer.text := by
  refine ⟨fun _ _ => Event.raw_inj, fun before flushes => ⟨fun events => ?_, ?_⟩⟩
  · obtain ⟨hverdicts, htext⟩ := sendAll_jsonLines events before flushes
    exact ⟨hverdicts, jsonLines events, htext, rfl, fun event _ => event.raw.no_lineEnd_json,
      splitOn_jsonLines events, integers_jsonLines events⟩
  · intro events others h
    have htext := (sendAll_jsonLines events before flushes).2
    have hother := (sendAll_jsonLines others before flushes).2
    exact jsonLines_injective (String.append_right_inj _ |>.mp (htext.symm.trans (h.trans hother)))

end InputBridge
