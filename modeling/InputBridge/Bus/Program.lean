import InputBridge.Bus.Basic

/-!
# Register programs

What a device does to the bus is written as a `Program`: a decision tree whose
nodes are register accesses and remarks, and whose branches are the answers. A
program says nothing about the bus it will meet, so every statement about "any
bus, any pattern of failing accesses" is a statement about running one tree.

There are three ways to run a tree on a bus:

* `run` goes to the end and keeps the remarks in order;
* `runWithin` allows a limited number of accesses and is cut off at the next;
* `feed` hands each remark to a receiver and ends early if the receiver fails.

`run_bind` is the rule by which runs compose.
-/

namespace InputBridge

/-- A tree of register accesses and remarks of type `ω` that ends in a value. -/
inductive Program (ω α : Type) where
  | done (value : α)
  | read (address : Address) (width : Width) (next : Except BusError UInt16 → Program ω α)
  | write (address : Address) (width : Width) (value : UInt16)
      (next : Except BusError Unit → Program ω α)
  | emit (remark : ω) (next : Program ω α)

namespace Program

variable {ω ω' α γ β τ ε : Type}

/-- Continues with `next` where the first program ends. -/
protected def bind : Program ω α → (α → Program ω γ) → Program ω γ
  | .done value, next => next value
  | .read address width branch, next =>
    .read address width fun answer => (branch answer).bind next
  | .write address width value branch, next =>
    .write address width value fun answer => (branch answer).bind next
  | .emit remark rest, next => .emit remark (rest.bind next)

instance : Monad (Program ω) where
  pure := .done
  bind := Program.bind

/-- Ending at once after a program changes nothing. -/
theorem bind_done (program : Program ω α) : program.bind .done = program := by
  induction program with
  | done => rfl
  | read _ _ _ ih => simp [Program.bind, ih]
  | write _ _ _ _ ih => simp [Program.bind, ih]
  | emit _ _ ih => simp [Program.bind, ih]

/-- Continuing twice is continuing once with both. -/
theorem bind_bind (program : Program ω α) (f : α → Program ω γ) (g : γ → Program ω τ) :
    (program.bind f).bind g = program.bind fun value => (f value).bind g := by
  induction program with
  | done => rfl
  | read _ _ _ ih => simp [Program.bind, ih]
  | write _ _ _ _ ih => simp [Program.bind, ih]
  | emit _ _ ih => simp [Program.bind, ih]

instance : LawfulMonad (Program ω) :=
  LawfulMonad.mk' (Program ω) bind_done (fun _ _ => rfl) bind_bind

theorem read_bind (address : Address) (width : Width)
    (branch : Except BusError UInt16 → Program ω α) (next : α → Program ω γ) :
    Program.read address width branch >>= next =
      .read address width fun answer => branch answer >>= next := rfl

/-- Makes one remark. -/
def remark (out : ω) : Program ω Unit := .emit out (.done ())

/-- Makes a list of remarks, first to last. -/
def remarks : List ω → Program ω Unit
  | [] => .done ()
  | out :: rest => .emit out (remarks rest)

/-- The same program with every remark restated. -/
def mapRemarks (f : ω → ω') : Program ω α → Program ω' α
  | .done value => .done value
  | .read address width branch => .read address width fun answer => (branch answer).mapRemarks f
  | .write address width value branch =>
    .write address width value fun answer => (branch answer).mapRemarks f
  | .emit out rest => .emit (f out) (rest.mapRemarks f)

/-! ## Running to the end -/

/-- What a finished run leaves: its value, the bus after it, its remarks in order. -/
structure Run (β ω α : Type) where
  value : α
  bus : β
  remarks : List ω

/-- Runs a program on a bus. -/
def run [RegisterBus β] : Program ω α → β → Run β ω α
  | .done value, bus => ⟨value, bus, []⟩
  | .read address width branch, bus =>
    let (answer, bus) := RegisterBus.read address width bus
    (branch answer).run bus
  | .write address width value branch, bus =>
    let (answer, bus) := RegisterBus.write address width value bus
    (branch answer).run bus
  | .emit out rest, bus =>
    let ran := rest.run bus
    { ran with remarks := out :: ran.remarks }

/-- Runs compose: the second program starts on the bus that the first leaves,
and its remarks follow. -/
theorem run_bind [RegisterBus β] (first : Program ω α) (next : α → Program ω γ) (bus : β) :
    (first >>= next).run bus =
      ⟨((next (first.run bus).value).run (first.run bus).bus).value,
        ((next (first.run bus).value).run (first.run bus).bus).bus,
        (first.run bus).remarks ++
          ((next (first.run bus).value).run (first.run bus).bus).remarks⟩ := by
  show (first.bind next).run bus = _
  induction first generalizing bus with
  | done value => rfl
  | read address width branch ih => exact ih _ _
  | write address width value branch ih => exact ih _ _
  | emit out rest ih => simp [Program.bind, run, ih]

@[simp] theorem run_pure [RegisterBus β] (value : α) (bus : β) :
    (pure value : Program ω α).run bus = ⟨value, bus, []⟩ := rfl

@[simp] theorem run_remark [RegisterBus β] (out : ω) (bus : β) :
    (remark out).run bus = ⟨(), bus, [out]⟩ := rfl

@[simp] theorem run_remarks [RegisterBus β] (outs : List ω) (bus : β) :
    (remarks outs).run bus = ⟨(), bus, outs⟩ := by
  induction outs with
  | nil => rfl
  | cons out rest ih => simp [remarks, run, ih]

theorem run_mapRemarks [RegisterBus β] (f : ω → ω') (program : Program ω α) (bus : β) :
    (program.mapRemarks f).run bus =
      ⟨(program.run bus).value, (program.run bus).bus, (program.run bus).remarks.map f⟩ := by
  induction program generalizing bus with
  | done value => rfl
  | read address width branch ih => exact ih _ _
  | write address width value branch ih => exact ih _ _
  | emit out rest ih => simp [mapRemarks, run, ih]

/-! ## Running until cut off -/

/-- What a run with a limited number of accesses leaves: the value and the
accesses still allowed if it got to its end, and the bus and the remarks made so
far in any case. -/
structure PartialRun (β ω α : Type) where
  finished : Option (α × Option Nat)
  bus : β
  remarks : List ω

/-- Runs a program that may make `allowance` accesses (any number for `none`);
the access after those is not made and ends the run. -/
def runWithin [RegisterBus β] : Program ω α → Option Nat → β → PartialRun β ω α
  | .done value, allowance, bus => ⟨some (value, allowance), bus, []⟩
  | .read _ _ _, some 0, bus => ⟨none, bus, []⟩
  | .read address width branch, allowance, bus =>
    let (answer, bus) := RegisterBus.read address width bus
    (branch answer).runWithin (allowance.map (· - 1)) bus
  | .write _ _ _ _, some 0, bus => ⟨none, bus, []⟩
  | .write address width value branch, allowance, bus =>
    let (answer, bus) := RegisterBus.write address width value bus
    (branch answer).runWithin (allowance.map (· - 1)) bus
  | .emit out rest, allowance, bus =>
    let ran := rest.runWithin allowance bus
    { ran with remarks := out :: ran.remarks }

/-- Without a limit nothing is cut off. -/
theorem runWithin_none [RegisterBus β] (program : Program ω α) (bus : β) :
    program.runWithin none bus =
      ⟨some ((program.run bus).value, none), (program.run bus).bus, (program.run bus).remarks⟩ := by
  induction program generalizing bus with
  | done value => rfl
  | read address width branch ih => exact ih _ _
  | write address width value branch ih => exact ih _ _
  | emit out rest ih => simp [runWithin, run, ih]

/-! ## Running into a receiver -/

/-- Runs a program and hands each remark to `receive`. A failing receiver ends
the run on the spot: what the program would have done after it is not done. -/
def feed [RegisterBus β] (receive : ω → τ → Except ε Unit × τ) :
    Program ω α → β → τ → Except ε α × β × τ
  | .done value, bus, state => (.ok value, bus, state)
  | .read address width branch, bus, state =>
    let (answer, bus) := RegisterBus.read address width bus
    (branch answer).feed receive bus state
  | .write address width value branch, bus, state =>
    let (answer, bus) := RegisterBus.write address width value bus
    (branch answer).feed receive bus state
  | .emit out rest, bus, state =>
    match receive out state with
    | (.ok (), state) => rest.feed receive bus state
    | (.error problem, state) => (.error problem, bus, state)

end Program

/-- A register program that may give up with a channel error. -/
abbrev Attempt (ω α : Type) := ExceptT BusError (Program ω) α

namespace Attempt

variable {ω : Type}

/-- Reads `width` bits. -/
def read (address : Address) (width : Width) : Attempt ω UInt16 :=
  ExceptT.mk (.read address width .done)

/-- Writes `width` bits. -/
def write (address : Address) (width : Width) (value : UInt16) : Attempt ω Unit :=
  ExceptT.mk (.write address width value .done)

/-- Reads a byte; what a bus answers beyond eight bits is cut off. -/
def readByte (address : Address) : Attempt ω UInt8 := do
  return (← read address .byte).toUInt8

/-- Reads a word. -/
def readWord (address : Address) : Attempt ω UInt16 := read address .word

/-- An attempt that opens with the read of a word, written out. -/
theorem run_readWord_bind {α : Type} (address : Address) (next : UInt16 → Attempt ω α) :
    (readWord address >>= next).run = .read address .word fun answer =>
      match answer with
      | .ok word => (next word).run
      | .error cause => .done (.error cause) := by
  show Program.read address .word _ = _
  congr 1
  funext answer
  cases answer <;> rfl

/-- An attempt that opens with the read of a byte, written out. -/
theorem run_readByte_bind {α : Type} (address : Address) (next : UInt8 → Attempt ω α) :
    (readByte address >>= next).run = .read address .byte fun answer =>
      match answer with
      | .ok word => (next word.toUInt8).run
      | .error cause => .done (.error cause) := by
  show Program.read address .byte _ = _
  congr 1
  funext answer
  cases answer <;> rfl

section Run

variable {α β : Type} [RegisterBus β] {address : Address} {bus left : β}

/-- A write that succeeds is passed over. -/
theorem run_bind_of_write {width : Width} {value : UInt16}
    (h : RegisterBus.write address width value bus = (.ok (), left)) (next : Unit → Attempt ω α) :
    (write address width value >>= next).run.run bus = (next ()).run.run left := by
  show (ExceptT.bindCont next (RegisterBus.write address width value bus).1).run
    (RegisterBus.write address width value bus).2 = _
  rw [h]
  rfl

theorem run_of_write {width : Width} {value : UInt16}
    (h : RegisterBus.write address width value bus = (.ok (), left)) :
    (write address width value : Attempt ω Unit).run.run bus = ⟨.ok (), left, []⟩ := by
  show (Program.done (RegisterBus.write address width value bus).1).run
    (RegisterBus.write address width value bus).2 = _
  rw [h]
  rfl

/-- A read that succeeds is passed over with the word that it gives. -/
theorem run_bind_of_readWord {word : UInt16}
    (h : RegisterBus.read address .word bus = (.ok word, left)) (next : UInt16 → Attempt ω α) :
    (readWord address >>= next).run.run bus = (next word).run.run left := by
  rw [run_readWord_bind, Program.run, h]

theorem run_bind_of_readByte {word : UInt16}
    (h : RegisterBus.read address .byte bus = (.ok word, left)) (next : UInt8 → Attempt ω α) :
    (readByte address >>= next).run.run bus = (next word.toUInt8).run.run left := by
  rw [run_readByte_bind, Program.run, h]

end Run

/-- Writes a byte. -/
def writeByte (address : Address) (value : UInt8) : Attempt ω Unit :=
  write address .byte value.toUInt16

/-- Writes a word. -/
def writeWord (address : Address) (value : UInt16) : Attempt ω Unit := write address .word value

end Attempt

end InputBridge
