import InputBridge.Proofs.Bus.Calm

/-!
# Operations on a register file

Whoever tries a device out sets a register file up and accesses it, in any order. An
`Operation` is one step of that, `MemoryBus.after` a run of them. `deeds` is the run written
out: every operation with the register file that it met, which decides whether an access
succeeds. A register file that is reached is one that some run leaves, and what each
operation keeps, every run keeps (`after_inv`).

Almost every operation changes one thing and is the change. Of the others, `read_eq` and
`write_eq` say by what is pending what the accesses do, and `apply_setStrobed` and
`apply_connect` what else goes by what is there. A fault that wears off with some
operations and with nothing else has worn off after a run by as many as there were
(`pending_after`), whether it is one of reads or of writes.
-/

namespace InputBridge

/-- What may be done to a register file. -/
inductive Operation where
  | setLevel (address : Address) (value : UInt16)
  | setPins (address : Address) (mask : UInt16)
  | script (address : Address) (values : List UInt16)
  | strobe (address select : Address) (otherwise : UInt16)
  | setStrobed (address : Address) (selector value : UInt16)
  | failReads (address : Address) (count : UInt64)
  | failWrites (address : Address) (count : UInt64)
  | failConnect (reason : String)
  | clearFaults
  | connect
  | read (address : Address) (width : Width)
  | write (address : Address) (width : Width) (value : UInt16)
  deriving DecidableEq

/-- One operation of a run, and the register file that it met. -/
structure Deed where
  before : MemoryBus
  operation : Operation

/-- A fault after so many more accesses. -/
def Fault.usedBy : Nat → Fault → Fault
  | _, .always => .always
  | accesses, .next count => .next (count - accesses)

theorem Fault.usedBy_zero (fault : Fault) : fault.usedBy 0 = fault := by
  cases fault <;> rfl

theorem Fault.usedBy_used (accesses : Nat) (fault : Fault) :
    fault.used.usedBy accesses = fault.usedBy (accesses + 1) := by
  cases fault with
  | always => rfl
  | next count =>
    show Fault.next (count - 1 - accesses) = .next (count - (accesses + 1))
    congr 1
    omega

/-- A fault is still pending if it is endless, or was to last for more accesses. -/
theorem Fault.usedBy_ofCount_ne_none_iff {count accesses : Nat} :
    (Fault.ofCount count).usedBy accesses ≠ .next 0 ↔
      count = Fault.endless ∨ accesses < count := by
  unfold Fault.ofCount
  by_cases hendless : count = Fault.endless
  · rw [if_pos hendless]
    exact ⟨fun _ => Or.inl hendless, fun _ => nofun⟩
  · rw [if_neg hendless]
    simp only [Fault.usedBy, ne_eq, Fault.next.injEq, hendless, false_or]
    omega

namespace MemoryBus

/-- The register file after one operation. -/
def apply (bus : MemoryBus) : Operation → MemoryBus
  | .setLevel address value => bus.setLevel address value
  | .setPins address mask => bus.setPins address mask
  | .script address values => bus.script address values
  | .strobe address select otherwise => bus.strobe address select otherwise
  | .setStrobed address selector value => bus.setStrobed address selector value
  | .failReads address count => bus.failReads address (.ofCount count.toNat)
  | .failWrites address count => bus.failWrites address (.ofCount count.toNat)
  | .failConnect reason => bus.failConnect reason
  | .clearFaults => bus.clearFaults
  | .connect => bus.connect.2
  | .read address width => (bus.read address width).2
  | .write address width value => (bus.write address width value).2

/-- The register file after a run of operations. -/
def after (bus : MemoryBus) (operations : List Operation) : MemoryBus := operations.foldl apply bus

/-- A run of operations, each with the register file that it meets. -/
def deeds (bus : MemoryBus) : List Operation → List Deed
  | [] => []
  | operation :: rest => ⟨bus, operation⟩ :: (bus.apply operation).deeds rest

theorem after_append (bus : MemoryBus) (earlier later : List Operation) :
    bus.after (earlier ++ later) = (bus.after earlier).after later := List.foldl_append

/-- What is picked from a run is picked from its first deed, and then from the rest. -/
theorem filterMap_deeds_cons {α : Type} (pick : Deed → Option α) (bus : MemoryBus)
    (operation : Operation) (rest : List Operation) :
    (bus.deeds (operation :: rest)).filterMap pick =
      (pick ⟨bus, operation⟩).toList ++ ((bus.apply operation).deeds rest).filterMap pick := by
  rw [deeds, List.filterMap_cons]
  cases pick ⟨bus, operation⟩ <;> rfl

/-- What each operation keeps, a run keeps. -/
theorem after_inv {inv : MemoryBus → Prop}
    (step : ∀ bus operation, inv bus → inv (bus.apply operation)) :
    ∀ (operations : List Operation) {bus : MemoryBus}, inv bus → inv (bus.after operations)
  | [], _, h => h
  | operation :: rest, bus, h => after_inv step rest (step bus operation h)

/-! ## Operations that go by what is there -/

/-- Only a strobed register takes a value for a selector. -/
theorem apply_setStrobed (bus : MemoryBus) (address : Address) (selector value : UInt16) :
    ∃ strobes, bus.apply (.setStrobed address selector value) = { bus with strobes } := by
  show ∃ strobes, bus.setStrobed address selector value = { bus with strobes }
  unfold setStrobed
  split
  next => exact ⟨bus.strobes, rfl⟩
  next => exact ⟨_, rfl⟩

/-- A connection changes nothing, whether it is refused or not. -/
theorem apply_connect (bus : MemoryBus) : bus.apply .connect = bus := bus.connect_eq

/-! ## Faults over a run -/

/-- A fault that some operations use, and that no other touches, is used by a run as often as
they come. -/
theorem pending_after (pending : MemoryBus → Fault) (uses : Operation → Bool) :
    ∀ {operations : List Operation},
      (∀ operation ∈ operations, ∀ bus, pending (bus.apply operation) =
        if uses operation then (pending bus).used else pending bus) →
      ∀ bus, pending (bus.after operations) = (pending bus).usedBy (operations.countP uses)
  | [], _, _ => (Fault.usedBy_zero _).symm
  | operation :: rest, h, bus => by
    have hrest := pending_after pending uses
      (fun other hin => h other (List.mem_cons_of_mem _ hin)) (bus.apply operation)
    show pending ((bus.apply operation).after rest) = _
    rw [hrest, h operation (List.mem_cons_self ..), List.countP_cons]
    cases uses operation with
    | false => rfl
    | true => exact Fault.usedBy_used _ _

/-- At the start, and when the faults were cleared, none is pending. -/
theorem none_pending {operations : List Operation}
    (h : operations = [] ∨ operations.getLast? = some .clearFaults) (address : Address) :
    (({} : MemoryBus).after operations).faultAt address = .next 0 ∧
      (({} : MemoryBus).after operations).writeFaultAt address = .next 0 := by
  rcases h with rfl | hlast
  · exact ⟨rfl, rfl⟩
  · obtain ⟨earlier, rfl⟩ := List.getLast?_eq_some_iff.mp hlast
    rw [after_append]
    exact ⟨rfl, rfl⟩

end MemoryBus

end InputBridge
