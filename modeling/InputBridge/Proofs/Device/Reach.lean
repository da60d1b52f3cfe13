import InputBridge.Device.Keyboard
import InputBridge.Proofs.Bus.Scope

/-!
# What a keyboard reaches

A scan strobes one column after the other and reads the rows, whatever it is
answered (`Keyboard.scan_within`). It says nothing: a scan that fails has nothing to
take back. Before the first scan a keyboard is set up, by writes alone.
-/

namespace InputBridge

namespace Keyboard

variable {ω : Type} (keyboard : Keyboard)

/-- What a scan may do: strobe a column or none, and read the rows. -/
def reach : Scope ω where
  reads address width := address = keyboard.rowSense ∧ width = .byte
  writes address width value := address = keyboard.columnSelect ∧ width = .word ∧
    (value = deselectAll ∨ ∃ column < columnCount, value = selectWord column)
  remarks := fun _ => False

/-- Setting up only writes, and says nothing. -/
theorem setUp_within : (keyboard.setUp : Attempt ω Unit).Within
    { reads := fun _ _ => False, remarks := fun _ => False } fun _ => True :=
  Attempt.within_bind (Attempt.within_writeByte trivial) fun _ _ =>
    Attempt.within_writeByte trivial

theorem senseColumns_within : ∀ (columns : List Nat) (snapshot : Snapshot),
    (∀ column ∈ columns, column < columnCount) →
      (keyboard.senseColumns columns snapshot : Attempt ω Snapshot).Within keyboard.reach
        fun _ => True
  | [], _, _ => Attempt.within_pure trivial
  | column :: rest, snapshot, hin => by
    have hcolumn := hin column (List.mem_cons_self ..)
    refine Attempt.within_bind
      (Attempt.within_writeWord ⟨rfl, rfl, Or.inr ⟨column, hcolumn, rfl⟩⟩) fun _ _ => ?_
    refine Attempt.within_bind (Attempt.within_readByte ⟨rfl, rfl⟩) fun rows _ => ?_
    exact senseColumns_within rest _ fun c hc => hin c (List.mem_cons_of_mem _ hc)

theorem scan_within : (keyboard.scan : Attempt ω Snapshot).Within keyboard.reach fun _ => True := by
  refine Attempt.within_bind
    (keyboard.senseColumns_within _ _ fun _ h => List.mem_range.mp h) fun snapshot _ => ?_
  refine Attempt.within_bind (Attempt.within_writeWord ⟨rfl, rfl, Or.inl rfl⟩) fun _ _ => ?_
  exact Attempt.within_pure trivial

/-- What a poll may do: what a scan may, and say anything. -/
def pollReach : Scope Remark where
  reads := (keyboard.reach : Scope Remark).reads
  writes := (keyboard.reach : Scope Remark).writes

/-- A poll makes the accesses of a scan, and changes nothing but the snapshot. -/
theorem poll_within : keyboard.poll.Within keyboard.pollReach fun result =>
    ∃ held, result.2 = { keyboard with held } := by
  have hscan : (keyboard.scan (ω := Remark)).Within keyboard.pollReach fun _ => True := by
    refine keyboard.scan_within.imp (fun moment hmoment => ?_) fun _ h => h
    cases moment with
    | read => exact hmoment
    | write => exact hmoment
    | remark => exact trivial
  refine Program.within_bind hscan fun answer _ => ?_
  cases answer with
  | error cause => exact Program.within_pure ⟨keyboard.held, rfl⟩
  | ok snapshot =>
    have hprocess : (keyboard.process snapshot).Within keyboard.pollReach fun result =>
        ∃ held, result.2 = { keyboard with held } :=
      Program.within_bind (Program.within_remarks fun _ _ => trivial) fun _ _ =>
        Program.within_pure ⟨snapshot, rfl⟩
    exact Program.within_bind hprocess fun _ hkept => Program.within_pure hkept

end Keyboard

end InputBridge
