import InputBridge.Proofs.Bus.Alike
import InputBridge.Proofs.Bus.Frame

/-!
# What a program sees of a register file

Two register files may differ in much that a program never sees. `SameView heed`
says that they agree in the rest: the script and the fault of every register that
is heeded, and its level in the bits that matter, where no heeded register is
strobed. Then they answer in agreement and go on to look the same
(`SameView.read`), so programs that are alike run the same on them (`SameView.alike_run`).
An access that is not seen leaves a register file that looks the same as before.
-/

namespace InputBridge

namespace MemoryBus

/-- Two register files that look the same through `heed`. A partial equivalence: a
register file looks the same as itself if no heeded register is strobed. -/
structure SameView (heed : Heed) (bus bus' : MemoryBus) : Prop where
  steady : ∀ address, heed.registers address → bus.strobes.get? address = none
  steady' : ∀ address, heed.registers address → bus'.strobes.get? address = none
  levels : ∀ address, heed.registers address →
    bus.level address &&& heed.bits address = bus'.level address &&& heed.bits address
  scripts : ∀ address, heed.registers address → bus.scriptAt address = bus'.scriptAt address
  faults : ∀ address, heed.registers address → bus.faultAt address = bus'.faultAt address

section View

variable {heed : Heed} {bus bus' bus'' : MemoryBus}

theorem SameView.symm (h : SameView heed bus bus') : SameView heed bus' bus where
  steady := h.steady'
  steady' := h.steady
  levels a ha := (h.levels a ha).symm
  scripts a ha := (h.scripts a ha).symm
  faults a ha := (h.faults a ha).symm

theorem SameView.trans (h : SameView heed bus bus') (h' : SameView heed bus' bus'') :
    SameView heed bus bus'' where
  steady := h.steady
  steady' := h'.steady'
  levels a ha := (h.levels a ha).trans (h'.levels a ha)
  scripts a ha := (h.scripts a ha).trans (h'.scripts a ha)
  faults a ha := (h.faults a ha).trans (h'.faults a ha)

theorem SameView.left (h : SameView heed bus bus') : SameView heed bus bus := h.trans h.symm

/-- A register file with the same pins. -/
def SamePins (bus after : MemoryBus) : Prop := ∀ address, after.pins address = bus.pins address

theorem samePins_run {ω α : Type} (program : Program ω α) (bus : MemoryBus) :
    SamePins bus (program.run bus).bus := by
  refine program.within_true.bus_run (fun address width after _ h => ?_)
    (fun address width value after _ h => ?_) fun _ => rfl
  · intro other
    exact pins_read.trans (h other)
  · intro other
    exact pins_write.trans (h other)

/-! ## Accesses that are not seen -/

/-- A read of another register is not seen. -/
theorem SameView.read_unheeded (h : SameView heed bus bus) {address : Address} {width : Width}
    (hout : ¬heed.registers address) : SameView heed bus (bus.read address width).2 := by
  have hne : ∀ other, heed.registers other → other ≠ address :=
    fun other hother he => hout (he ▸ hother)
  refine ⟨h.steady, fun a ha => ?_, fun a _ => ?_, fun a ha => ?_, fun a ha => ?_⟩
  · rw [strobes_read]
    exact h.steady a ha
  · rw [level_read]
  · rw [scriptAt_read, if_neg fun hself => hne a ha hself.1]
  · rw [faultAt_read, if_neg (hne a ha)]

/-- A write is not seen if the bits that matter are pins. -/
theorem SameView.write_pins (h : SameView heed bus bus) {address : Address} {width : Width}
    {value : UInt16} (hpins : bus.pins address &&& heed.bits address = heed.bits address) :
    SameView heed bus (bus.write address width value).2 := by
  refine ⟨h.steady, fun a ha => ?_, fun a _ => ?_, fun a _ => ?_, fun a _ => ?_⟩
  · rw [strobes_write]
    exact h.steady a ha
  · by_cases ha : a = address
    · rw [ha, level_write_pins hpins]
    · rw [level_write_ne ha]
  · rw [scriptAt_write]
  · rw [faultAt_write]

/-- What became of a register file, if it cannot be seen. -/
structure Unseen (heed : Heed) (bus after : MemoryBus) : Prop where
  view : SameView heed bus after
  pins : SamePins bus after

theorem Unseen.read {after : MemoryBus} (h : Unseen heed bus after) {address : Address}
    {width : Width} (hout : ¬heed.registers address) :
    Unseen heed bus (after.read address width).2 where
  view := h.view.trans (h.view.symm.left.read_unheeded hout)
  pins other := pins_read.trans (h.pins other)

theorem Unseen.write {after : MemoryBus} (h : Unseen heed bus after) {address : Address}
    {width : Width} {value : UInt16}
    (hpins : bus.pins address &&& heed.bits address = heed.bits address) :
    Unseen heed bus (after.write address width value).2 where
  view := h.view.trans (h.view.symm.left.write_pins (by rw [h.pins]; exact hpins))
  pins other := pins_write.trans (h.pins other)

/-! ## Heeded reads -/

/-- Register files that look the same answer a heeded read in agreement, and still
look the same after it. -/
theorem SameView.read (h : SameView heed bus bus') {address : Address}
    (hin : heed.registers address) (width : Width) :
    AnswersAgree (heed.bits address) (bus.read address width).1 (bus'.read address width).1 ∧
      SameView heed (bus.read address width).2 (bus'.read address width).2 := by
  refine ⟨?_, fun a ha => ?_, fun a ha => ?_, fun a ha => ?_, fun a ha => ?_, fun a ha => ?_⟩
  · rw [answer_read, answer_read, h.faults address hin, h.scripts address hin]
    split
    next =>
      cases bus'.scriptAt address with
      | nil =>
        rw [List.headD_nil, List.headD_nil, steady_eq_level (h.steady address hin),
          steady_eq_level (h.steady' address hin)]
        -- The bus cuts to the width first, the program looks at its bits after that.
        show bus.level address &&& width.mask &&& _ = bus'.level address &&& width.mask &&& _
        rw [UInt16.and_assoc, UInt16.and_comm width.mask, ← UInt16.and_assoc,
          h.levels address hin, UInt16.and_assoc, UInt16.and_comm _ width.mask,
          ← UInt16.and_assoc]
      | cons value rest => rfl
    next => rfl
  · rw [strobes_read]
    exact h.steady a ha
  · rw [strobes_read]
    exact h.steady' a ha
  · rw [level_read, level_read, h.levels a ha]
  · rw [scriptAt_read, scriptAt_read, h.faults address hin, h.scripts address hin,
      h.scripts a ha]
  · rw [faultAt_read, faultAt_read, h.faults address hin, h.faults a ha]

/-- Alike programs run the same on register files that look the same. -/
theorem SameView.alike_run (h : SameView heed bus bus') {ω α : Type} {post : α → Prop}
    {program program' : Program ω α} (hprogram : Program.Alike heed post program program') :
    (program.run bus).value = (program'.run bus').value ∧
      (program.run bus).remarks = (program'.run bus').remarks ∧
      SameView heed (program.run bus).bus (program'.run bus').bus :=
  hprogram.run (fun _ width _ _ hin hview => hview.read hin width) h

end View

end MemoryBus

end InputBridge
