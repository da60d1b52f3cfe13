import InputBridge.Proofs.Event.BoundedWriter
import InputBridge.Proofs.Event.JsonLines

/-!
# JSON lines on a bounded writer

Events that are sent to a writer with a limit leave the beginning of what they leave on one
without (`sendAll_of_kept`), and each of them is answered by where its line lies: within the
limit, cut in its object, or cut at its end (`send_of_kept`). A rejection changes nothing for
the events after it, since what they meet is the beginning of the whole text again.
-/

namespace InputBridge

/-! ## What a line is made of -/

theorem RawEvent.printable_json (raw : RawEvent) : Text.Printable raw.json := by
  have hdecimal := Text.printable_decimal
  unfold RawEvent.json
  have htype : Text.Printable "\x7b\"type\":" := by decide
  have hcode : Text.Printable ",\"code\":" := by decide
  have hvalue : Text.Printable ",\"value\":" := by decide
  have hend : Text.Printable "\x7d" := by decide
  exact (((((htype.append (hdecimal _)).append hcode).append (hdecimal _)).append hvalue).append
    (hdecimal _)).append hend

theorem RawEvent.json_ne_empty (raw : RawEvent) : raw.json ≠ "" := by
  intro h
  have hlist := congrArg String.toList h
  simp [RawEvent.json] at hlist

theorem isAscii_line (event : Event) : Text.IsAscii (event.raw.json ++ "\n") :=
  Text.isAscii_append.mpr ⟨event.raw.printable_json.isAscii, by decide⟩

theorem isAscii_jsonLines (events : List Event) : Text.IsAscii (jsonLines events) := by
  refine Text.isAscii_join fun line hline => ?_
  obtain ⟨event, -, rfl⟩ := List.mem_map.mp hline
  exact isAscii_line event

theorem jsonLines_append (earlier later : List Event) :
    jsonLines (earlier ++ later) = jsonLines earlier ++ jsonLines later := by
  rw [← String.toList_inj]
  simp [jsonLines, String.toList_join]

/-! ## One line -/

namespace JsonLinesSink

variable {sink : JsonLinesSink} {before : String}

/-- What becomes of an event behind a text. -/
def answerTo (writer : Writer) (before : String) (event : Event) : Except SinkError Unit :=
  if fits writer.limit (before ++ event.raw.json) = false then .error (.encode "writer full")
  else if fits writer.limit (before ++ event.raw.json ++ "\n") = false then
    .error (.io "writer full")
  else if event.isSync && writer.refusesFlush then .error (.io "flush failed")
  else .ok ()

/-- How often the writer is flushed for an event behind a text. -/
def flushesFor (writer : Writer) (before : String) (event : Event) : Nat :=
  if event.isSync && fits writer.limit (before ++ event.raw.json ++ "\n") then 1 else 0

/-- With a limit, what becomes of an event goes by where its object ends. -/
theorem answerTo_limited (limit : Nat) (refusesFlush : Bool) (text : String) (flushes : Nat)
    (before : String) (event : Event) :
    let reached := before.length + event.raw.json.length
    answerTo ⟨text, some limit, refusesFlush, flushes⟩ before event =
      if limit < reached then .error (.encode "writer full")
      else if reached = limit then .error (.io "writer full")
      else if event.isSync && refusesFlush then .error (.io "flush failed")
      else .ok () := by
  intro reached
  have hend : "\n".length = 1 := rfl
  simp only [answerTo, fits, Option.all_some, String.length_append, decide_eq_false_iff_not,
    Nat.not_le, hend]
  by_cases hobject : limit < reached
  · rw [if_pos hobject, if_pos hobject]
  · -- A line end that does not fit behind an object that does, is right at the limit.
    have hfull : limit < reached + 1 ↔ reached = limit := by omega
    simp only [reached] at hobject hfull ⊢
    simp only [if_neg hobject, hfull]

/-- With a limit, an event is flushed if it is a sync and its line end is within. -/
theorem flushesFor_limited (limit : Nat) (refusesFlush : Bool) (text : String) (flushes : Nat)
    (before : String) (event : Event) :
    flushesFor ⟨text, some limit, refusesFlush, flushes⟩ before event =
      if event.isSync ∧ before.length + event.raw.json.length + 1 ≤ limit then 1 else 0 := by
  simp only [flushesFor, fits, Option.all_some, String.length_append, Bool.and_eq_true,
    decide_eq_true_eq]
  rfl

/-- One event, sent to a writer that has kept the beginning of `before`. -/
theorem send_of_kept (h : sink.writer.text = kept sink.writer.limit before) (event : Event) :
    EventSink.send event sink =
      (answerTo sink.writer before event,
        ⟨{ sink.writer with
            text := kept sink.writer.limit (before ++ event.raw.json ++ "\n")
            flushes := sink.writer.flushes + flushesFor sink.writer before event }⟩) := by
  obtain ⟨writer⟩ := sink
  show send event ⟨writer⟩ = _
  unfold send answerTo flushesFor
  dsimp only at h ⊢
  rw [Writer.write_of_kept h event.raw.json_ne_empty]
  cases hobject : fits writer.limit (before ++ event.raw.json) with
  | false =>
    -- The object is cut, and so the line end is not kept either.
    have hline : fits writer.limit (before ++ event.raw.json ++ "\n") = false := by
      by_contra hne
      rw [fits_of_append (Bool.eq_true_of_not_eq_false hne)] at hobject
      exact Bool.noConfusion hobject
    simp [kept_append hobject, hline, WriteError.message]
  | true =>
    simp only [if_true]
    rw [Writer.write_of_kept rfl (by decide)]
    dsimp only
    cases hline : fits writer.limit (before ++ event.raw.json ++ "\n") with
    | false => simp [WriteError.message]
    | true => cases hsync : event.isSync <;> cases writer.refusesFlush <;>
        simp [Writer.flush, WriteError.message]

/-! ## A run -/

/-- A run leaves the beginning of the text of all its lines. -/
theorem sendAll_of_kept : ∀ (events : List Event) {sink : JsonLinesSink} {before : String},
    sink.writer.text = kept sink.writer.limit before →
      (sendAll events sink).2.writer =
        { sink.writer with
          text := kept sink.writer.limit (before ++ jsonLines events)
          flushes := (sendAll events sink).2.writer.flushes }
  | [], sink, before, h => by
    have hnone : before ++ jsonLines [] = before := by simp [jsonLines, String.join]
    rw [hnone, ← h]
    rfl
  | event :: rest, sink, before, h => by
    rw [sendAll, send_of_kept h]
    dsimp only
    rw [sendAll_of_kept rest rfl, jsonLines_cons]
    simp only [String.append_assoc]

/-- A sink that nothing was sent to leaves the beginning of the lines, and one without a limit
leaves all of them. -/
theorem writer_sendAll (events : List Event) (limit : Option Nat) (refusesFlush : Bool) :
    let sent := sendAll events (⟨{ limit, refusesFlush }⟩ : JsonLinesSink)
    sent.2.writer =
      ⟨kept limit (jsonLines events), limit, refusesFlush, sent.2.writer.flushes⟩ := by
  intro sent
  have hempty : (⟨{ limit, refusesFlush }⟩ : JsonLinesSink).writer.text = kept limit "" :=
    (kept_empty limit).symm
  have hkept := sendAll_of_kept events hempty
  rw [String.empty_append] at hkept
  exact hkept

end JsonLinesSink

/-- **JSON lines on a bounded writer.** Whatever is sent to a sink with a limited writer, and
whether or not that can be flushed, the writer keeps the first bytes of what it would hold
without the limit. The line of an event is its object, and then a line end. If the object ends
beyond the limit, sending the event fails with an encoding error; if it ends just at the limit,
with an error of the writer that is full; if it is a sync and flushing fails, with that; and
otherwise it succeeds. The writer is flushed once for each sync whose line ends within the
limit, and for nothing else. -/
theorem jsonLines_bounded (limit : Nat) (refusesFlush : Bool) :
    let bounded : JsonLinesSink := ⟨{ limit := some limit, refusesFlush }⟩
    let unlimited : JsonLinesSink := ⟨{ refusesFlush }⟩
    let output (events : List Event) := Text.bytes (sendAll events unlimited).2.writer.text
    (∀ events : List Event,
      Text.bytes (sendAll events bounded).2.writer.text = (output events).take limit) ∧
    ∀ (earlier : List Event) (event : Event) (later : List Event),
      let offset := (output earlier).length
      let size := (Text.bytes event.raw.json).length
      output (earlier ++ [event]) =
          output earlier ++ Text.bytes event.raw.json ++ Text.bytes "\n" ∧
      (sendAll (earlier ++ event :: later) bounded).1[earlier.length]? = some ⟨event,
        if limit < offset + size then .error (.encode "writer full")
        else if offset + size = limit then .error (.io "writer full")
        else if event.isSync && refusesFlush then .error (.io "flush failed")
        else .ok ()⟩ ∧
      (sendAll (earlier ++ [event]) bounded).2.writer.flushes =
        (sendAll earlier bounded).2.writer.flushes +
          if event.isSync ∧ offset + size + 1 ≤ limit then 1 else 0 := by
  intro bounded unlimited output
  have houtput : ∀ events, output events = Text.bytes (jsonLines events) := fun events =>
    congrArg (fun writer => Text.bytes writer.text)
      (JsonLinesSink.writer_sendAll events none refusesFlush)
  have hbounded : ∀ events, (sendAll events bounded).2.writer =
      ⟨kept (some limit) (jsonLines events), some limit, refusesFlush,
        (sendAll events bounded).2.writer.flushes⟩ :=
    fun events => JsonLinesSink.writer_sendAll events (some limit) refusesFlush
  refine ⟨fun events => ?_, fun earlier event later => ?_⟩
  · rw [hbounded, houtput]
    exact bytes_kept (isAscii_jsonLines events) limit
  intro offset size
  have hoffset : offset = (jsonLines earlier).length :=
    (congrArg List.length (houtput earlier)).trans (Text.length_bytes (isAscii_jsonLines earlier))
  have hsize : size = event.raw.json.length := Text.length_bytes event.raw.printable_json.isAscii
  -- The event meets the beginning of the lines before it.
  obtain ⟨hanswer, hleft⟩ := sendAll_step earlier event later bounded
  have hbefore : (sendAll earlier bounded).2.writer.text =
      kept (sendAll earlier bounded).2.writer.limit (jsonLines earlier) := by rw [hbounded]
  have hsend := JsonLinesSink.send_of_kept hbefore event
  rw [hbounded] at hsend
  have hline : jsonLines [event] = event.raw.json ++ "\n" := by
    rw [jsonLines_cons, ← String.toList_inj]
    simp [jsonLines]
  refine ⟨?_, ?_, ?_⟩
  · rw [houtput, houtput, jsonLines_append, hline, Text.bytes_append, Text.bytes_append,
      List.append_assoc]
  · rw [hanswer, hsend, hoffset, hsize]
    dsimp only
    rw [JsonLinesSink.answerTo_limited]
  · rw [hleft, hsend, hoffset, hsize]
    dsimp only
    rw [JsonLinesSink.flushesFor_limited]

-- The line of a sync has 30 bytes. One byte less leaves no room for its end, and two bytes less
-- cut its object; only a whole line is flushed.
example : [28, 29, 30].map (fun limit =>
    let sent := sendAll [.sync] (⟨{ limit := some limit, refusesFlush := true }⟩ : JsonLinesSink)
    (sent.1.map (·.answer), sent.2.writer.flushes)) =
      [([.error (.encode "writer full")], 0), ([.error (.io "writer full")], 0),
        ([.error (.io "flush failed")], 1)] := by decide

end InputBridge
