import InputBridge.Proofs.Bus.Tandem
import InputBridge.Proofs.Device.PenStates
import InputBridge.Proofs.Device.Pointers
import InputBridge.Proofs.Device.Reach
import InputBridge.Proofs.Device.Reports

/-!
# Polls in tandem

Game port 0 has its two counters in one word, and a bit of that word is read a second time,
as the tip of the pen. This module compares what the devices do when the counters of port 0
are moved differently and the tip is left alone: answers agree in `RegisterMap.stillBits`.
The keyboard and the pen do the same (`Keyboard.poll_tandem`, `Lightpen.poll_tandem`). Mice
make the same accesses and may say anything, but nothing about the tip (`Mouse.poll_tandem`).
To set them up, the counters are not needed.
-/

namespace InputBridge

/-- The bits of a register that stay as they are when a mouse is moved on port 0. Of its
counters that is the tip of the pen, if the tip stays too. -/
def RegisterMap.stillBits (map : RegisterMap) (address : Address) : UInt16 :=
  if address = map.joy0dat then penTipBit else 0xFFFF

/-- The edge of the tip or of the pen tool, if the event is one. -/
def Event.tip? : Event → Option (Button × Bool)
  | .button .touch pressed => some (.touch, pressed)
  | .button .toolPen pressed => some (.toolPen, pressed)
  | _ => none

/-- The edge of the tip or of the pen tool, if the remark is one. -/
def Remark.tip? (remark : Remark) : Option (Button × Bool) := remark.event?.bind Event.tip?

/-- A mouse does not speak of the tip. -/
theorem Remark.tip?_of_mouse {remark : Remark} (h : remark.By .mouse) : remark.tip? = none := by
  cases remark with
  | note => rfl
  | event event =>
    cases event with
    | button which pressed => rcases h with rfl | rfl | rfl <;> rfl
    | _ => rfl

variable {chipset : Chipset} {bits : Address → UInt16} {τ : Type} {heard : Note → Option τ}

open Program (Tandem)

/-! ## The keyboard -/

theorem Keyboard.setUp_tandem (keyboard : Keyboard) :
    Tandem bits heard (fun answer answer' => answer = answer') keyboard.setUp.run
      keyboard.setUp.run :=
  (Tandem.of_within keyboard.setUp_within fun _ _ hread => hread.elim).imp fun _ _ h => h.1

theorem Keyboard.poll_tandem {keyboard : Keyboard}
    (h : ∃ held, keyboard = { Keyboard.new (.forChipset chipset) .standard with held }) :
    Tandem (RegisterMap.forChipset chipset).stillBits Remark.tip?
      (fun result result' => result = result' ∧
        ∃ held, result.2 = { Keyboard.new (.forChipset chipset) .standard with held })
      keyboard.poll keyboard.poll := by
  obtain ⟨held, rfl⟩ := h
  have hpoll := Keyboard.poll_within { Keyboard.new (.forChipset chipset) .standard with held }
  refine Tandem.of_within hpoll fun address width hread => ?_
  have haddress : address = (RegisterMap.forChipset chipset).rowSense := hread.1
  rw [haddress]
  cases chipset <;> rfl

/-! ## Mice -/

namespace Mouse

variable {made mouse mouse' : Mouse} {port : Port}

theorem Kin.setState (h : made.Kin mouse) (port : Port) (state : MouseState) :
    made.Kin (mouse.setState port state) :=
  h.trans ⟨mouse.map_setState .., mouse.ports_setState ..⟩

theorem Kin.fireBits (h : made.Kin mouse) : mouse.fireBits = made.fireBits := by
  unfold Mouse.fireBits
  rw [h.1, h.2]

theorem setUp_tandem (h : made.Kin mouse) (h' : made.Kin mouse')
    (hbits : bits made.map.ciaaDdra = 0xFFFF) :
    Tandem bits heard (fun answer answer' => answer = answer') mouse.setUp.run
      mouse'.setUp.run := by
  unfold setUp
  rw [Attempt.run_readByte_bind, Attempt.run_readByte_bind, h.1, h'.1, h.fireBits, h'.fireBits]
  refine .read_same hbits fun answer => ?_
  cases answer with
  | error cause => exact .done rfl
  | ok direction => exact .write fun answer => .done rfl

theorem pollMotion_tandem (h : made.Kin mouse) (h' : made.Kin mouse') (hport : port ∈ made.ports) :
    Tandem bits Remark.tip? (fun result result' => made.Kin result.2 ∧ made.Kin result'.2)
      (mouse.pollMotion port) (mouse'.pollMotion port) := by
  rw [pollMotion_eq (h.2 ▸ hport), pollMotion_eq (h'.2 ▸ hport), h.1, h'.1]
  refine .read_cases (fun _ => .done ⟨h, h'⟩) fun word word' _ => ?_
  exact .remarks_unheard ⟨h.setState .., h'.setState ..⟩
    (fun remark hin => Remark.tip?_of_mouse (by_motionRemarks _ _ _ remark hin))
    fun remark hin => Remark.tip?_of_mouse (by_motionRemarks _ _ _ remark hin)

theorem pollButtons_tandem (h : made.Kin mouse) (h' : made.Kin mouse') :
    Tandem bits Remark.tip? (fun result result' => made.Kin result.2 ∧ made.Kin result'.2)
      (mouse.pollButtons port) (mouse'.pollButtons port) := by
  have hedges : ∀ changed pressed, ∀ remark ∈ (buttonEdges changed pressed).map Remark.event,
      remark.tip? = none := by
    intro changed pressed remark hin
    obtain ⟨event, hevent, rfl⟩ := List.mem_map.mp hin
    exact Remark.tip?_of_mouse (reports_buttonEdges changed pressed event hevent)
  rw [pollButtons_eq, pollButtons_eq, h.1, h'.1]
  refine .read_cases (fun _ => .done ⟨h, h'⟩) fun fire fire' _ => ?_
  refine .read_cases (fun _ => .done ⟨h, h'⟩) fun pot pot' _ => ?_
  exact .remarks_unheard ⟨h.setState .., h'.setState ..⟩ (hedges _ _) (hedges _ _)

theorem pollPorts_tandem : ∀ {visits : List Port} {mouse mouse' : Mouse},
    made.Kin mouse → made.Kin mouse' → (∀ port ∈ visits, port ∈ made.ports) →
      Tandem bits Remark.tip? (fun result result' => made.Kin result.2 ∧ made.Kin result'.2)
        (mouse.pollPorts visits) (mouse'.pollPorts visits)
  | [], _, _, h, h', _ => .done ⟨h, h'⟩
  | port :: rest, mouse, mouse', h, h', hin => by
    unfold pollPorts
    refine (pollMotion_tandem h h' (hin port (List.mem_cons_self ..))).bind
      fun moved moved' hmoved => ?_
    refine (pollButtons_tandem hmoved.1 hmoved.2).bind fun visited visited' hvisited => ?_
    refine (pollPorts_tandem hvisited.1 hvisited.2 fun other hother =>
      hin other (List.mem_cons_of_mem _ hother)).bind fun remaining remaining' hpolled => ?_
    exact .done hpolled

/-- Mice on the same ports, in whatever states and whatever they read. -/
theorem poll_tandem (h : made.Kin mouse) (h' : made.Kin mouse') :
    Tandem bits Remark.tip? (fun result result' => made.Kin result.2 ∧ made.Kin result'.2)
      mouse.poll mouse'.poll := by
  unfold poll
  rw [h.2, h'.2]
  refine (pollPorts_tandem h h' fun _ hport => hport).bind
    fun (failure, polled) (failure', polled') hpolled => ?_
  cases failure <;> cases failure' <;> exact .done hpolled

end Mouse

/-! ## The pen -/

theorem Lightpen.setUp_tandem {pen : Lightpen} (hbits : bits pen.bplcon0 = 0xFFFF) :
    Tandem bits heard (fun answer answer' => answer = answer') pen.setUp pen.setUp :=
  (Tandem.of_within pen.setUp_within fun _ _ hread => hread ▸ hbits).imp fun _ _ h => h.1

/-- Of the counters of port 0 the pen heeds its tip only. -/
theorem Lightpen.poll_tandem {pen : Lightpen}
    (h : ∃ state, pen = { Lightpen.new (.forChipset chipset) with state }) :
    Tandem (RegisterMap.forChipset chipset).stillBits Remark.tip?
      (fun result result' => result = result' ∧
        ∃ state, result.2 = { Lightpen.new (.forChipset chipset) with state })
      pen.poll pen.poll := by
  have hconclude : ∀ seen, Tandem (RegisterMap.forChipset chipset).stillBits Remark.tip?
      (fun result result' => result = result' ∧
        ∃ state, result.2 = { Lightpen.new (.forChipset chipset) with state })
      (pen.conclude seen) (pen.conclude seen) := by
    intro seen
    have hkept : (pen.conclude seen).Within { reads := fun _ _ => False } fun result =>
        ∃ state, result.2 = { Lightpen.new (.forChipset chipset) with state } := by
      cases seen with
      | error cause => exact h
      | ok seen =>
        obtain ⟨state, rfl⟩ := h
        exact Program.within_bind (Program.within_remarks fun _ _ => trivial) fun _ _ =>
          Program.within_pure ⟨_, rfl⟩
    exact .of_within hkept fun _ _ hread => hread.elim
  have hbits : (RegisterMap.forChipset chipset).stillBits pen.potgor = 0xFFFF ∧
      (RegisterMap.forChipset chipset).stillBits pen.vhposr = 0xFFFF ∧
      (RegisterMap.forChipset chipset).stillBits pen.vposr = 0xFFFF ∧
      (RegisterMap.forChipset chipset).stillBits pen.joy0dat = penTipBit := by
    obtain ⟨state, rfl⟩ := h
    cases chipset <;> exact ⟨rfl, rfl, rfl, rfl⟩
  obtain ⟨hpotgor, hvhposr, hvposr, htip⟩ := hbits
  rw [poll_eq]
  refine .read_same hpotgor fun answer => ?_
  cases answer with
  | error cause => exact hconclude _
  | ok potgor =>
    dsimp only
    split
    · exact hconclude _
    · refine .read_same hvhposr fun answer => ?_
      cases answer with
      | error cause => exact hconclude _
      | ok vhposr =>
        refine .read_same hvposr fun answer => ?_
        cases answer with
        | error cause => exact hconclude _
        | ok vposr =>
          -- The one read that may be answered in two ways, and the tip is the same in both.
          refine .read_cases (fun _ => hconclude _) fun word word' hword => ?_
          rw [htip] at hword
          dsimp only
          rw [hword]
          exact hconclude _

end InputBridge
