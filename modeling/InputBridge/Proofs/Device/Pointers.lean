import InputBridge.Device.Lightpen
import InputBridge.Proofs.Bus.Alike
import InputBridge.Proofs.Device.MouseRuns

/-!
# What the pointers heed

The mouse and the pen only read, and only a few registers: `Mouse.reads` and
`Lightpen.reads`. Of the port that the keyboard strobes they share, they heed the two
fire lines and nothing else (`pointerBits`). `Mouse.poll_alike` and
`Lightpen.poll_alike` say so of whole polls, whatever fails.
-/

namespace InputBridge

/-! ## Registers and bits -/

/-- The bits of a register that the pointers heed: of the strobed port the fire lines. -/
def RegisterMap.pointerBits (map : RegisterMap) (address : Address) : UInt16 :=
  if address = map.ciaaPra then 0x00C0 else 0xFFFF

/-- Some registers, as the pointers heed them. -/
def RegisterMap.pointerHeed (map : RegisterMap) (registers : List Address) : Heed where
  registers := (· ∈ registers)
  bits := map.pointerBits

/-- The registers that a poll of the mice may read. -/
def Mouse.reads (mouse : Mouse) : List Address :=
  mouse.ports.flatMap fun port =>
    [(port.lines mouse.map).counters, (port.lines mouse.map).fire, (port.lines mouse.map).pot]

/-- The registers that a poll of the pen may read. -/
def Lightpen.reads (pen : Lightpen) : List Address :=
  [pen.potgor, pen.vhposr, pen.vposr, pen.joy0dat]

theorem Mouse.mem_reads {mouse : Mouse} {port : Port} (h : port ∈ mouse.ports) :
    (port.lines mouse.map).counters ∈ mouse.reads ∧ (port.lines mouse.map).fire ∈ mouse.reads ∧
      (port.lines mouse.map).pot ∈ mouse.reads := by
  unfold Mouse.reads
  simp only [List.mem_flatMap]
  exact ⟨⟨port, h, by simp⟩, ⟨port, h, by simp⟩, ⟨port, h, by simp⟩⟩

section Bits

variable (chipset : Chipset) (registers : List Address) (port : Port)

theorem heed_counters :
    ((RegisterMap.forChipset chipset).pointerHeed registers).bits
      (port.lines (.forChipset chipset)).counters = 0xFFFF := by
  cases port <;> rfl

theorem heed_pot :
    ((RegisterMap.forChipset chipset).pointerHeed registers).bits
      (port.lines (.forChipset chipset)).pot = 0xFFFF := by
  cases port <;> rfl

theorem heed_fire :
    ((RegisterMap.forChipset chipset).pointerHeed registers).bits
      (port.lines (.forChipset chipset)).fire = 0x00C0 := by
  cases port <;> rfl

end Bits

theorem toUInt8_and_congr {bit : UInt8} (hbit : 0xC0 &&& bit = bit) {fire fire' : UInt16}
    (h : fire &&& 0x00C0 = fire' &&& 0x00C0) : fire.toUInt8 &&& bit = fire'.toUInt8 &&& bit := by
  have hlow := congrArg UInt16.toUInt8 h
  rw [UInt16.toUInt8_and, UInt16.toUInt8_and] at hlow
  rw [← hbit, ← UInt8.and_assoc, ← UInt8.and_assoc]
  exact congrArg (· &&& bit) hlow

/-- The buttons depend on the strobed port through the fire lines only. -/
theorem Port.pressed_congr (map : RegisterMap) (port : Port) {fire fire' : UInt16}
    (h : fire &&& 0x00C0 = fire' &&& 0x00C0) (pot : UInt16) :
    (port.lines map).pressed fire.toUInt8 pot = (port.lines map).pressed fire'.toUInt8 pot := by
  have hbit : (0xC0 : UInt8) &&& (port.lines map).fireBit = (port.lines map).fireBit := by
    cases port with
    | port0 => show 0xC0 &&& fireBit0 = fireBit0; decide
    | port1 => show 0xC0 &&& fireBit1 = fireBit1; decide
  unfold PortLines.pressed
  rw [toUInt8_and_congr hbit h]

/-! ## The mice -/

namespace Mouse

variable {chipset : Chipset} {registers : List Address} {mouse : Mouse}

/-- Mice of the same map and ports. -/
def Kin (mouse after : Mouse) : Prop := after.map = mouse.map ∧ after.ports = mouse.ports

theorem Kin.reads {mouse after : Mouse} (h : mouse.Kin after) : after.reads = mouse.reads := by
  unfold Mouse.reads
  rw [h.1, h.2]

theorem Kin.trans {mouse after later : Mouse} (h : mouse.Kin after) (h' : after.Kin later) :
    mouse.Kin later := ⟨h'.1.trans h.1, h'.2.trans h.2⟩

theorem alike_remarks {ω α : Type} {heed : Heed} {post : α → Prop} {value : α} (h : post value) :
    ∀ outs : List ω, Program.Alike heed post (Program.remarks outs >>= fun _ => .done value)
      (Program.remarks outs >>= fun _ => .done value)
  | [] => .done h
  | _ :: rest => .emit (alike_remarks h rest)

theorem pollMotion_alike (hmap : mouse.map = .forChipset chipset)
    (hreads : ∀ address ∈ mouse.reads, address ∈ registers) {port : Port}
    (hport : port ∈ mouse.ports) :
    Program.Alike ((RegisterMap.forChipset chipset).pointerHeed registers)
      (fun result => mouse.Kin result.2) (mouse.pollMotion port) (mouse.pollMotion port) := by
  rw [pollMotion_eq hport]
  refine .read (hreads _ (mem_reads hport).1) fun answer answer' hagree => ?_
  rw [hmap, heed_counters] at hagree
  rw [hagree.eq_of_all]
  cases answer' with
  | error cause => exact .done ⟨rfl, rfl⟩
  | ok word => exact alike_remarks ⟨mouse.map_setState .., mouse.ports_setState ..⟩ _

theorem pollButtons_alike (hmap : mouse.map = .forChipset chipset)
    (hreads : ∀ address ∈ mouse.reads, address ∈ registers) {port : Port}
    (hport : port ∈ mouse.ports) :
    Program.Alike ((RegisterMap.forChipset chipset).pointerHeed registers)
      (fun result => mouse.Kin result.2) (mouse.pollButtons port) (mouse.pollButtons port) := by
  obtain ⟨_, hfire, hpot⟩ := mem_reads hport
  rw [pollButtons_eq]
  refine .read (hreads _ hfire) fun answer answer' hagree => ?_
  rw [hmap, heed_fire] at hagree
  -- The answers may differ in the columns that the keyboard left selected.
  refine hagree.elim (fun _ => .done ⟨rfl, rfl⟩) fun fire fire' hfires => ?_
  refine .read (hreads _ hpot) fun answer answer' hagree' => ?_
  rw [hmap, heed_pot] at hagree'
  rw [hagree'.eq_of_all]
  cases answer' with
  | error cause => exact .done ⟨rfl, rfl⟩
  | ok pot =>
    simp only [Port.pressed_congr mouse.map port hfires pot]
    exact alike_remarks ⟨mouse.map_setState .., mouse.ports_setState ..⟩ _

theorem pollPorts_alike {visits : List Port} (hmap : mouse.map = .forChipset chipset)
    (hreads : ∀ address ∈ mouse.reads, address ∈ registers)
    (hin : ∀ port ∈ visits, port ∈ mouse.ports) :
    Program.Alike ((RegisterMap.forChipset chipset).pointerHeed registers)
      (fun result => mouse.Kin result.2) (mouse.pollPorts visits) (mouse.pollPorts visits) := by
  induction visits generalizing mouse with
  | nil => exact .done ⟨rfl, rfl⟩
  | cons port rest ih =>
    unfold pollPorts
    refine (pollMotion_alike hmap hreads (hin port (List.mem_cons_self ..))).bind
      fun motion hmoved => ?_
    have hreads' : ∀ address ∈ motion.2.reads, address ∈ registers := hmoved.reads ▸ hreads
    have hport : port ∈ motion.2.ports := hmoved.2 ▸ hin port (List.mem_cons_self ..)
    refine (pollButtons_alike (hmoved.1.trans hmap) hreads' hport).bind
      fun visit hvisited => ?_
    have hkin := hmoved.trans hvisited
    refine (ih (hkin.1.trans hmap) (hkin.reads ▸ hreads) fun p hp =>
      hkin.2 ▸ hin p (List.mem_cons_of_mem _ hp)).bind fun remaining hpolled => ?_
    exact .done (hkin.trans hpolled)

/-- Mice of a machine that read no other registers than these. -/
structure Heeds (chipset : Chipset) (registers : List Address) (mouse : Mouse) : Prop where
  map_eq : mouse.map = .forChipset chipset
  reads : ∀ address ∈ mouse.reads, address ∈ registers

/-- A poll of the mice depends on the strobed port through the fire lines only. -/
theorem poll_alike (h : mouse.Heeds chipset registers) :
    Program.Alike ((RegisterMap.forChipset chipset).pointerHeed registers)
      (fun result => result.2.Heeds chipset registers) mouse.poll mouse.poll := by
  refine (pollPorts_alike h.map_eq h.reads fun _ hport => hport).bind
    fun (failure, polled) hpolled => ?_
  have hheeds : polled.Heeds chipset registers :=
    ⟨hpolled.1.trans h.map_eq, hpolled.reads ▸ h.reads⟩
  cases failure with
  | none => exact .done hheeds
  | some cause => exact .done hheeds

end Mouse

/-! ## The pen -/

namespace Lightpen

variable {ω : Type} (pen : Lightpen)

/-- What a poll of the pen may do: read its registers, and say anything. -/
def reach : Scope ω where
  reads address _ := address ∈ pen.reads
  writes _ _ _ := False

theorem readWord_within {address : Address} (h : address ∈ pen.reads) :
    (Attempt.readWord address : Attempt ω UInt16).Within pen.reach fun _ => True :=
  Attempt.within_readWord h

theorem sighting_within :
    (pen.sighting : Attempt ω PenSighting).Within pen.reach fun _ => True := by
  have hposition : (pen.position : Attempt ω Beam).Within pen.reach fun _ => True := by
    refine Attempt.within_bind (pen.readWord_within (by simp [reads])) fun _ _ => ?_
    refine Attempt.within_bind (pen.readWord_within (by simp [reads])) fun _ _ => ?_
    exact Attempt.within_pure trivial
  have htip : (pen.tip : Attempt ω Bool).Within pen.reach fun _ => True := by
    refine Attempt.within_bind (pen.readWord_within (by simp [reads])) fun _ _ => ?_
    exact Attempt.within_pure trivial
  refine Attempt.within_bind hposition fun _ _ => ?_
  refine Attempt.within_bind htip fun _ _ => ?_
  exact Attempt.within_pure trivial

theorem sense_within :
    (pen.sense : Attempt ω (Option PenSighting)).Within pen.reach fun _ => True := by
  have hdetect : (pen.detect : Attempt ω Bool).Within pen.reach fun _ => True := by
    refine Attempt.within_bind (pen.readWord_within (by simp [reads])) fun _ _ => ?_
    exact Attempt.within_pure trivial
  refine Attempt.within_bind hdetect fun seen _ => ?_
  cases seen with
  | true => exact Attempt.within_bind pen.sighting_within fun _ _ => Attempt.within_pure trivial
  | false => exact Attempt.within_pure trivial

/-- A poll of the pen reads its registers, and changes nothing but its state. -/
theorem poll_within :
    pen.poll.Within pen.reach fun result => ∃ state, result.2 = { pen with state } := by
  refine Program.within_bind pen.sense_within fun answer _ => ?_
  cases answer with
  | error cause => exact Program.within_pure ⟨pen.state, rfl⟩
  | ok seen =>
    refine Program.within_bind (Program.within_remarks fun _ _ => trivial) fun _ _ => ?_
    exact Program.within_pure ⟨_, rfl⟩

/-- Setting up reads the control register, and says what became of the latch. -/
theorem setUp_within : pen.setUp.Within
    { reads := fun address _ => address = pen.bplcon0
      remarks := fun note => note = .latchEnabled ∨ ∃ cause, note = .latchRefused cause }
    fun _ => True := by
  have hlatch : (pen.enableLatch (ω := Note)).Within
      { reads := fun address _ => address = pen.bplcon0
        remarks := fun note => note = .latchEnabled ∨ ∃ cause, note = .latchRefused cause }
      fun _ => True :=
    Attempt.within_bind (Attempt.within_readWord rfl) fun _ _ => Attempt.within_writeWord trivial
  refine Program.within_bind hlatch fun answer _ => ?_
  cases answer with
  | ok _ => exact ⟨Or.inl rfl, trivial⟩
  | error cause => exact ⟨Or.inr ⟨cause, rfl⟩, trivial⟩

/-- The pen of a machine, in any state, that reads no other registers than these. -/
structure Heeds (chipset : Chipset) (registers : List Address) (pen : Lightpen) : Prop where
  made : ∃ state, pen = { Lightpen.new (.forChipset chipset) with state }
  reads : ∀ address ∈ pen.reads, address ∈ registers

/-- A poll of the pen does not depend on the strobed port at all. -/
theorem poll_alike {chipset : Chipset} {registers : List Address} {pen : Lightpen}
    (h : pen.Heeds chipset registers) :
    Program.Alike ((RegisterMap.forChipset chipset).pointerHeed registers)
      (fun result => result.2.Heeds chipset registers) pen.poll pen.poll := by
  have hpoll : pen.poll.Within pen.reach fun result => result.2.Heeds chipset registers := by
    refine pen.poll_within.imp (fun _ hmoment => hmoment) fun result hresult => ?_
    obtain ⟨state, hstate⟩ := hresult
    obtain ⟨before, hbefore⟩ := h.made
    rw [hstate]
    exact ⟨⟨state, by rw [hbefore]⟩, h.reads⟩
  refine hpoll.alike (fun address _ hin => ⟨h.reads address hin, ?_⟩) fun _ _ _ hwrite => hwrite
  obtain ⟨state, rfl⟩ := h.made
  have hmem : address ∈ (Lightpen.new (.forChipset chipset)).reads := hin
  simp only [reads, List.mem_cons, List.not_mem_nil, or_false] at hmem
  rcases hmem with rfl | rfl | rfl | rfl <;> rfl

end Lightpen

end InputBridge
