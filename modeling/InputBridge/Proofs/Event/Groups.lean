import InputBridge.Proofs.Bus.Alike
import InputBridge.Proofs.Event.Delivery

/-!
# Groups

Speaking for a device changes what a program says and nothing else: it makes the same
accesses and ends in the same value, and everything it attempts is attempted in the
name of that device (`Within.grouped`). Alike programs stay alike when they are grouped
(`Alike.grouped`), the closing sync included. `run_grouped` is the run of a group written
out: that of the program, with its remarks passed on and the sync after them. Whether there
is a sync shows in what was delivered and dropped before it (`deliver_grouped`).
-/

namespace InputBridge

/-- Is this signal a note, or an attempt of `device`? -/
def Signal.Of (device : Device) : Signal → Prop
  | .attempt which _ => which = device
  | .note _ => True

/-- A remark as it is passed on for a device. -/
def Remark.signal (device : Device) : Remark → Signal
  | .event e => .attempt device e
  | .note n => .note n

/-- The event of an attempt of `device`. -/
def Signal.eventOf? (device : Device) : Signal → Option Event
  | .attempt which event => if which = device then some event else none
  | .note _ => none

/-- What one device says holds no attempt of another. -/
theorem eventOf?_eq_nil {device other : Device} (hne : device ≠ other) {signals : List Signal}
    (h : ∀ signal ∈ signals, signal.Of device) :
    signals.filterMap (Signal.eventOf? other) = [] := by
  rw [List.filterMap_eq_nil_iff]
  intro signal hsignal
  have hof := h signal hsignal
  cases signal with
  | note note => rfl
  | attempt which event =>
    have hwhich : which = device := hof
    exact if_neg (hwhich ▸ hne)

/-- The same accesses, and signals of `device`. -/
def Scope.speaking (scope : Scope Remark) (device : Device) : Scope Signal where
  reads := scope.reads
  writes := scope.writes
  remarks := Signal.Of device

namespace Program

variable {α : Type} {post : α → Prop} {device : Device}

theorem Within.groupedFrom {scope : Scope Remark} {program : Program Remark α}
    (h : program.Within scope post) (pending : Bool) :
    (program.groupedFrom device pending).Within (scope.speaking device) post := by
  -- The sync comes at the end of a branch, so what is pending is carried along.
  induction program generalizing pending with
  | done value =>
    cases pending with
    | false => exact h
    | true => exact ⟨rfl, h⟩
  | read address width branch ih => exact ⟨h.1, fun answer => ih answer (h.2 answer) pending⟩
  | write address width value branch ih =>
    exact ⟨h.1, fun answer => ih answer (h.2 answer) pending⟩
  | emit out rest ih =>
    cases out with
    | event event => exact ⟨rfl, ih h.2 true⟩
    | note note => exact ⟨trivial, ih h.2 pending⟩

/-- A group makes the same accesses, and attempts in the name of its device only. -/
theorem Within.grouped {scope : Scope Remark} {program : Program Remark α}
    (h : program.Within scope post) :
    (program.grouped device).Within (scope.speaking device) post :=
  h.groupedFrom false

theorem Alike.groupedFrom {heed : Heed} {program program' : Program Remark α}
    (h : Alike heed post program program') (pending : Bool) :
    Alike heed post (program.groupedFrom device pending) (program'.groupedFrom device pending) := by
  induction h generalizing pending with
  | done h =>
    cases pending with
    | false => exact .done h
    | true => exact .emit (.done h)
  | read hin _ ih =>
    exact .read hin fun answer answer' hagree => ih answer answer' hagree pending
  | @emit out _ _ _ ih =>
    cases out with
    | event event => exact .emit (ih true)
    | note note => exact .emit (ih pending)

/-- Alike programs make alike groups. -/
theorem Alike.grouped {heed : Heed} {program program' : Program Remark α}
    (h : Alike heed post program program') :
    Alike heed post (program.grouped device) (program'.grouped device) :=
  h.groupedFrom false

/-! ## Groups written out -/

theorem run_groupedFrom {β : Type} [RegisterBus β] (program : Program Remark α) (pending : Bool)
    (bus : β) :
    (program.groupedFrom device pending).run bus =
      { program.run bus with
        remarks := (program.run bus).remarks.map (Remark.signal device) ++
          if pending = false ∧ (program.run bus).remarks.filterMap Remark.event? = [] then []
          else [.attempt device .sync] } := by
  induction program generalizing pending bus with
  | done value => cases pending <;> rfl
  | read address width branch ih => exact ih _ pending _
  | write address width value branch ih => exact ih _ pending _
  | emit out rest ih =>
    cases out with
    | event event =>
      simp only [groupedFrom, run, ih]
      simp [Remark.signal, Remark.event?]
    | note note =>
      simp only [groupedFrom, run, ih]
      simp [Remark.signal, Remark.event?]

/-- The run of a group: the remarks are passed on, and a sync ends them if any of them
is an event. -/
theorem run_grouped {β : Type} [RegisterBus β] (program : Program Remark α) (bus : β) :
    (program.grouped device).run bus =
      { program.run bus with
        remarks := (program.run bus).remarks.map (Remark.signal device) ++
          if (program.run bus).remarks.filterMap Remark.event? = [] then []
          else [.attempt device .sync] } := by
  unfold grouped
  rw [run_groupedFrom]
  simp only [true_and]

end Program

/-! ## The events of a group -/

/-- Events as a group: closed by one sync, if there are any. -/
def closed (events : List Event) : List Event := if events = [] then [] else events ++ [.sync]

theorem event?_signal (device : Device) (remarks : List Remark) :
    (remarks.map (Remark.signal device)).filterMap Signal.event? =
      remarks.filterMap Remark.event? := by
  rw [List.filterMap_map]
  congr 1
  funext remark
  cases remark <;> rfl

/-- What the group of a device attempts. -/
theorem events_grouped {β α : Type} [RegisterBus β] (device : Device)
    (program : Program Remark α) (bus : β) :
    ((program.grouped device).run bus).remarks.filterMap Signal.event? =
      closed ((program.run bus).remarks.filterMap Remark.event?) := by
  rw [Program.run_grouped]
  dsimp only
  rw [List.filterMap_append, event?_signal]
  unfold closed
  split
  next hnone => rw [hnone]; rfl
  next => rfl

/-- **A group is closed just if something of it was sent.** What a device says is delivered,
and then one sync if and only if an event was delivered or dropped until then. -/
theorem deliver_grouped {β σ α : Type} [RegisterBus β] [EventSink σ] (device : Device)
    (program : Program Remark α) (bus : β) (sink : σ) :
    let said := deliver ((program.run bus).remarks.map (Remark.signal device)) sink
    deliver ((program.grouped device).run bus).remarks sink =
      if 0 < said.delivered + said.dropped then
        said.followedBy (deliver [.attempt device .sync] said.sink)
      else said := by
  intro said
  have hcount : said.delivered + said.dropped =
      ((program.run bus).remarks.filterMap Remark.event?).length := by
    rw [← event?_signal device]
    exact deliver_count _ sink
  rw [Program.run_grouped, hcount]
  dsimp only
  by_cases hnone : (program.run bus).remarks.filterMap Remark.event? = []
  · rw [if_pos hnone, hnone, List.append_nil]
    rfl
  · rw [if_neg hnone, if_pos (List.length_pos_iff.mpr hnone), deliver_append]

/-- All that a device says is in its own name, so its events are those of its attempts. -/
theorem eventOf?_eq_event? {device : Device} :
    ∀ {signals : List Signal}, (∀ signal ∈ signals, signal.Of device) →
      signals.filterMap (Signal.eventOf? device) = signals.filterMap Signal.event?
  | [], _ => rfl
  | signal :: rest, h => by
    have hrest := eventOf?_eq_event? fun other hother => h other (List.mem_cons_of_mem _ hother)
    have hof := h signal (List.mem_cons_self ..)
    cases signal with
    | note note => exact hrest
    | attempt which event =>
      have hsome : (Signal.attempt which event).eventOf? device = some event := if_pos hof
      rw [List.filterMap_cons_some hsome, hrest]
      rfl

end InputBridge
