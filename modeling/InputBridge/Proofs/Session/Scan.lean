import InputBridge.Proofs.Event.Groups
import InputBridge.Session

/-!
# The scan of a session

One tick is one program, the polls of the three devices one after the other. What is
known of a poll is known of the part of the scan that it makes up
(`scanDevice_within`, `scanDevice_alike`), and `Devices.scan_run` splits the run of a
scan into that of the keyboard and that of the pointers.
-/

namespace InputBridge

namespace Devices

variable {δ ρ : Type} {device : Device} {poll : δ → Program Remark (Except BusError ρ × δ)}
  {keeps : δ → Prop} {state? : Option δ}

theorem forall_mem_some {state : δ} (h : keeps state) : ∀ other ∈ some state, keeps other :=
  fun _ hother => Option.some.inj hother ▸ h

/-- What every poll of a device keeps to, its part of a scan keeps to. -/
theorem scanDevice_within {scope : Scope Remark}
    (h : ∀ state ∈ state?, (poll state).Within scope fun result => keeps result.2) :
    (scanDevice device poll state?).Within (scope.speaking device) fun result =>
      ∀ state ∈ result.1, keeps state := by
  cases state? with
  | none => exact Program.within_pure fun state hnone => absurd hnone (by simp)
  | some state =>
    refine Program.within_bind (h state rfl).grouped fun (answer, after) hafter => ?_
    cases answer with
    | ok value => exact Program.within_pure (forall_mem_some hafter)
    | error cause => exact ⟨trivial, forall_mem_some hafter⟩

/-- If the polls of a device are alike, so are its parts of a scan. -/
theorem scanDevice_alike {heed : Heed}
    (h : ∀ state ∈ state?,
      Program.Alike heed (fun result => keeps result.2) (poll state) (poll state)) :
    Program.Alike heed (fun result => ∀ state ∈ result.1, keeps state)
      (scanDevice device poll state?) (scanDevice device poll state?) := by
  cases state? with
  | none => exact .done fun state hnone => absurd hnone (by simp)
  | some state =>
    refine (h state rfl).grouped.bind fun (answer, after) hafter => ?_
    cases answer with
    | ok value => exact .done (forall_mem_some hafter)
    | error cause => exact .emit (.done (forall_mem_some hafter))

/-- The part of a scan that comes after the keyboard. -/
def scanPointers (devices : Devices) :
    Program Signal ((Option Mouse × Bool) × (Option Lightpen × Bool)) := do
  let mouse ← scanDevice .mouse Mouse.poll devices.mouse
  let lightpen ← scanDevice .lightpen Lightpen.poll devices.lightpen
  return (mouse, lightpen)

/-- A scan written out: the keyboard, and then the pointers on the bus that it left. -/
theorem scan_run {β : Type} [RegisterBus β] (devices : Devices) (bus : β) :
    let keyboard := (scanDevice .keyboard Keyboard.poll devices.keyboard).run bus
    let pointers := devices.scanPointers.run keyboard.bus
    devices.scan.run bus =
      ⟨(⟨keyboard.value.1, pointers.value.1.1, pointers.value.2.1⟩,
          ⟨keyboard.value.2, pointers.value.1.2, pointers.value.2.2⟩),
        pointers.bus, keyboard.remarks ++ pointers.remarks⟩ := by
  intro keyboard pointers
  have hpointers : pointers = devices.scanPointers.run keyboard.bus := rfl
  unfold scanPointers at hpointers
  rw [Program.run_bind, Program.run_bind, Program.run_pure, List.append_nil] at hpointers
  unfold scan
  rw [Program.run_bind, Program.run_bind, Program.run_bind, Program.run_pure, List.append_nil,
    hpointers]

end Devices

/-- The events that the next tick attempts in the name of a device, in order. -/
def Session.group {β σ : Type} [RegisterBus β] (session : Session β σ) (device : Device) :
    List Event :=
  session.signals.filterMap (Signal.eventOf? device)

end InputBridge
