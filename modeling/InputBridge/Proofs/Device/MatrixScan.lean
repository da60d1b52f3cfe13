import InputBridge.IdleMachine
import InputBridge.Proofs.Bus.Plans
import InputBridge.Proofs.Device.OnCalmBus
import InputBridge.Proofs.Matrix.Views

/-!
# The accesses of a scan

A scan makes nineteen accesses: for each column it writes the select word and reads the row
lines, and then it writes the word that selects none. `scanPlan` lists them and `scan_follows`
says that every scan makes them in that order until one fails. So all that can happen is that
the plan is carried out or given up, and which one it is on a register file shows in the faults
that are pending when the scan begins.

The rows that a column reads are those of its own select word, whatever the pins of the
register let through of it: what is strobed goes by the word that was written, not by the level
(`rowsOf_strobed`).

A scan that is given up at a read does not get to its last write. Then the column that was to
be read stays selected (`scan_leaves_selected`), and columns 6 and 7 sit on the lines of the
fire buttons.
-/

namespace InputBridge

variable {ω α β : Type}

/-! ## The matrix, column by column -/

namespace MemoryBus

variable {bus : MemoryBus} {keyboard : Keyboard} {column : Nat}

/-- The columns that are filled in get their rows, and the others keep theirs. -/
theorem column_fillIn (bus : MemoryBus) (keyboard : Keyboard) (column : Nat) :
    ∀ (columns : List Nat) (snapshot : Snapshot), (∀ filled ∈ columns, filled < columnCount) →
      (bus.fillIn keyboard snapshot columns).column column =
        if column ∈ columns then bus.rowsOf keyboard column else snapshot.column column := by
  intro columns
  induction columns with
  | nil =>
    intro snapshot _
    rw [if_neg List.not_mem_nil]
    rfl
  | cons first rest ih =>
    intro snapshot hcolumns
    obtain ⟨hbound, hrest⟩ := List.forall_mem_cons.mp hcolumns
    show (bus.fillIn keyboard (snapshot.setColumn first _) rest).column column = _
    rw [ih _ hrest, Snapshot.column_setColumn]
    by_cases hlater : column ∈ rest
    · rw [if_pos hlater, if_pos (List.mem_cons_of_mem _ hlater)]
    · rw [if_neg hlater]
      by_cases hfirst : column = first
      · rw [if_pos ⟨hfirst, hbound⟩, if_pos (List.mem_cons.mpr (.inl hfirst)), hfirst]
      · rw [if_neg fun h => hfirst h.1,
          if_neg fun hin => (List.mem_cons.mp hin).elim hfirst hlater]

theorem column_matrix (bus : MemoryBus) (keyboard : Keyboard) (hcolumn : column < columnCount) :
    (bus.matrix keyboard).column column = bus.rowsOf keyboard column := by
  unfold matrix
  rw [column_fillIn _ _ _ _ _ fun _ => List.mem_range.mp, if_pos (List.mem_range.mpr hcolumn)]

/-- Rows that are strobed through the column select are those of the select word itself. The
pins of that register do not matter. -/
theorem rowsOf_strobed {strobed : Strobed}
    (hstrobed : bus.strobes.get? keyboard.rowSense = some strobed)
    (hselect : strobed.select = keyboard.columnSelect) (column : Nat) :
    bus.rowsOf keyboard column =
      ((strobed.values.get? (selectWord column)).getD strobed.otherwise).toUInt8 := by
  let selected := bus.written keyboard.columnSelect .word (selectWord column)
  have hrows : selected.strobes.get? keyboard.rowSense = some strobed := hstrobed
  have hselector : selected.selector strobed.select = selectWord column := by
    unfold selector
    rw [latches_written, if_pos hselect, Option.getD_some, Width.and_mask_word]
  show (selected.steady keyboard.rowSense).toUInt8 = _
  rw [steady_of_strobed hrows, hselector]

end MemoryBus

/-! ## The plan of a scan -/

namespace Keyboard

/-- Selecting a column and reading its rows. -/
def strobe (keyboard : Keyboard) (column : Nat) : List Access :=
  [.write keyboard.columnSelect .word (selectWord column), .read keyboard.rowSense .byte]

/-- The accesses of a scan: every column in order, and then none is selected. -/
def scanPlan (keyboard : Keyboard) : List Access :=
  (List.range columnCount).flatMap keyboard.strobe ++
    [.write keyboard.columnSelect .word deselectAll]

variable (keyboard : Keyboard)

theorem senseColumns_follows : ∀ (columns : List Nat) (snapshot : Snapshot),
    (keyboard.senseColumns columns snapshot : Attempt ω Snapshot).Follows
      (columns.flatMap keyboard.strobe)
  | [], snapshot => Attempt.follows_pure snapshot
  | column :: rest, snapshot => by
    have hwrite := Attempt.follows_write (ω := ω) keyboard.columnSelect .word (selectWord column)
    have hread := Attempt.follows_readByte (ω := ω) keyboard.rowSense
    exact hwrite.bind fun _ => hread.bind fun rows =>
      senseColumns_follows rest (snapshot.setColumn column rows)

theorem scan_follows : (keyboard.scan : Attempt ω Snapshot).Follows keyboard.scanPlan := by
  have hwrite := Attempt.follows_write (ω := ω) keyboard.columnSelect .word deselectAll
  exact (keyboard.senseColumns_follows _ _).bind fun snapshot =>
    hwrite.bind fun _ => Attempt.follows_pure snapshot

/-- A select word is written as it is, since a word is not cut. -/
theorem written?_select (value : UInt16) :
    (Access.write keyboard.columnSelect .word value).written? =
      some ⟨keyboard.columnSelect, .word, value⟩ := by
  rw [Access.written?, Width.and_mask_word]

/-- What is written if a scan is carried out. -/
theorem written_scanPlan :
    keyboard.scanPlan.filterMap Access.written? =
      (List.range columnCount).map (fun column =>
        (⟨keyboard.columnSelect, .word, selectWord column⟩ : Written)) ++
      [⟨keyboard.columnSelect, .word, deselectAll⟩] := by
  have hstrobes : ∀ columns : List Nat,
      (columns.flatMap keyboard.strobe).filterMap Access.written? = columns.map fun column =>
        (⟨keyboard.columnSelect, .word, selectWord column⟩ : Written) := by
    intro columns
    induction columns with
    | nil => rfl
    | cons column rest ih =>
      rw [List.flatMap_cons, List.filterMap_append, ih, List.map_cons]
      rw [strobe, List.filterMap_cons_some (keyboard.written?_select _)]
      rfl
  unfold scanPlan
  rw [List.filterMap_append, hstrobes]
  rfl

/-- What a scan does on a register file whose rows are strobed through the column select. If
nothing it meets is faulty, it reads of each column the low byte of what is tabled for the
select word, and has written the nine select words and then the one that selects none. Else it
fails at the first access for which a fault is pending, with the failure of that access, and
has written what comes before it. -/
theorem scan_reads_matrix (bus : MemoryBus) {strobed : Strobed}
    (hstrobed : bus.strobes.get? keyboard.rowSense = some strobed)
    (hselect : strobed.select = keyboard.columnSelect)
    (hscript : bus.scriptAt keyboard.rowSense = []) :
    let ran := (keyboard.scan : Attempt ω Snapshot).run.run bus
    let made := (keyboard.scan : Attempt ω Snapshot).run.history bus
    ((∀ access ∈ keyboard.scanPlan, ¬bus.Refuses access) →
      (∃ snapshot, ran.value = .ok snapshot ∧ ∀ column < columnCount, snapshot.column column =
        ((strobed.values.get? (selectWord column)).getD strobed.otherwise).toUInt8) ∧
      CarriedOut keyboard.scanPlan made ∧
      ran.bus.writes.toList = bus.writes.toList ++
        (List.range columnCount).map
          (fun column => ⟨keyboard.columnSelect, .word, selectWord column⟩) ++
        [⟨keyboard.columnSelect, .word, 0xFFFF⟩]) ∧
    ∀ done failing rest, keyboard.scanPlan = done ++ failing :: rest →
      (∀ access ∈ done, ¬bus.Refuses access) → bus.Refuses failing →
      ran.value = .error failing.refusal ∧
      GivenUp done failing failing.refusal made ∧
      ran.bus.writes.toList = bus.writes.toList ++ done.filterMap Access.written? := by
  intro ran made
  have hlog : ran.bus.writes.toList = bus.writes.toList ++ made.filterMap Moment.wrote? :=
    MemoryBus.writes_run _ bus
  have hfollows := keyboard.scan_follows (ω := ω)
  constructor
  · intro hgranted
    have hmade := (hfollows.run_granted hgranted).2
    have hselecting : Access.write keyboard.columnSelect .word deselectAll ∈ keyboard.scanPlan :=
      List.mem_append_right _ (List.mem_singleton_self _)
    have hreading : Access.read keyboard.rowSense .byte ∈ keyboard.scanPlan :=
      List.mem_append_left _ (List.mem_flatMap.mpr ⟨0, by decide, by simp [strobe]⟩)
    have hfree : keyboard.Unhindered bus :=
      ⟨Decidable.not_not.mp (hgranted _ hselecting), Decidable.not_not.mp (hgranted _ hreading),
        hscript⟩
    obtain ⟨after, hrun, -⟩ := keyboard.run_scan_unhindered (ω := ω) hfree
    refine ⟨⟨bus.matrix keyboard, congrArg Program.Run.value hrun, fun column hcolumn => ?_⟩,
      hmade, ?_⟩
    · rw [bus.column_matrix keyboard hcolumn, MemoryBus.rowsOf_strobed hstrobed hselect]
    · rw [hlog, hmade.wrote, written_scanPlan, List.append_assoc]
      rfl
  · intro done failing rest hplan hgranted hrefused
    obtain ⟨hvalue, hmade⟩ := Program.Follows.run_refused (hplan ▸ hfollows) hgranted hrefused
    exact ⟨hvalue, hmade, by rw [hlog, hmade.wrote]⟩

/-- A machine with two columns tabled, the rows in the low bytes. -/
def tabledMachine : MemoryBus :=
  let map := RegisterMap.forChipset .ocs
  let bus := (idleMachine map).setStrobed map.rowSense (selectWord 0) 0x12F7
  bus.setStrobed map.rowSense (selectWord 8) 0xABFE

theorem scan_reads_matrix_of_tabledMachine :
    let keyboard := Keyboard.new (.forChipset .ocs) .standard
    let scanned := (keyboard.scan : Attempt Remark Snapshot).run.run tabledMachine
    let failing := tabledMachine.failReads keyboard.rowSense (.next 2)
    let failed := (keyboard.scan : Attempt Remark Snapshot).run.run failing
    (∃ snapshot, scanned.value = .ok snapshot ∧ snapshot.column 0 = 0xF7 ∧
      snapshot.column 1 = 0xFF ∧ snapshot.column 8 = 0xFE) ∧
    failed.value = .error (.readFailed keyboard.rowSense .byte MemoryBus.faultReason) ∧
    failed.bus.writes.toList = [⟨keyboard.columnSelect, .word, 0xFFFE⟩] := by
  intro keyboard scanned failing failed
  obtain ⟨⟨snapshot, hvalue, hrows⟩, -, -⟩ :=
    (keyboard.scan_reads_matrix (ω := Remark) tabledMachine rfl rfl rfl).1 (by decide)
  have hrefused := (keyboard.scan_reads_matrix (ω := Remark) failing rfl rfl rfl).2
    [.write keyboard.columnSelect .word (selectWord 0)] (.read keyboard.rowSense .byte) _ rfl
    (by decide) (by decide)
  exact ⟨⟨snapshot, hvalue, hrows 0 (by decide), hrows 1 (by decide), hrows 8 (by decide)⟩,
    hrefused.1, hrefused.2.2⟩

/-! ## What stays selected -/

/-- Wherever a plan of strobes is cut, the cut is either at a write to the column select, or
right behind the write that selects a column. -/
theorem strobes_split {done rest : List Access} {failing : Access} {value : UInt16} :
    ∀ (columns : List Nat), columns.flatMap keyboard.strobe ++
        [.write keyboard.columnSelect .word value] = done ++ failing :: rest →
      (∃ word, failing = .write keyboard.columnSelect .word word) ∨
      failing = .read keyboard.rowSense .byte ∧ ∃ column ∈ columns, ∃ earlier,
        done = earlier ++ [.write keyboard.columnSelect .word (selectWord column)] := by
  intro columns
  induction columns generalizing done with
  | nil =>
    intro h
    rcases done with _ | ⟨first, done⟩
    · exact .inl ⟨value, (List.cons.inj h).1.symm⟩
    · have hempty : [] = done ++ failing :: rest := (List.cons.inj h).2
      exact absurd hempty.symm (by simp)
  | cons column columns ih =>
    intro h
    rcases done with _ | ⟨first, _ | ⟨second, done⟩⟩
    · exact .inl ⟨_, (List.cons.inj h).1.symm⟩
    · obtain ⟨hfirst, hrest⟩ := List.cons.inj h
      obtain ⟨hfailing, -⟩ := List.cons.inj hrest
      exact .inr ⟨hfailing.symm, column, List.mem_cons_self .., [], by rw [← hfirst]; rfl⟩
    · obtain ⟨hfirst, hrest⟩ := List.cons.inj h
      obtain ⟨hsecond, hlater⟩ := List.cons.inj hrest
      rcases ih hlater with hwrite | ⟨hread, other, hin, earlier, hdone⟩
      · exact .inl hwrite
      · exact .inr ⟨hread, other, List.mem_cons_of_mem _ hin, first :: second :: earlier,
          by rw [hdone]; rfl⟩

/-- The select word of a column pulls down the fire line of a port for columns 6 and 7 only. -/
theorem selectWord_fireBit (map : RegisterMap) (port : Port) {column : Nat}
    (hcolumn : column < columnCount) :
    (selectWord column).toUInt8 &&& (port.lines map).fireBit = 0 ↔ column = 6 + port.index := by
  have hbits : ∀ column < columnCount,
      ((selectWord column).toUInt8 &&& fireBit0 = 0 ↔ column = 6) ∧
      ((selectWord column).toUInt8 &&& fireBit1 = 0 ↔ column = 7) := by decide
  cases port with
  | port0 => exact (hbits column hcolumn).1
  | port1 => exact (hbits column hcolumn).2

/-- Where no write to the column select fails, a scan that succeeds leaves no column selected,
and one that fails leaves the column selected whose rows it could not read. If that is column 6
or 7, the word that stays pulls the fire line of a port down. -/
theorem scan_leaves_selected [RegisterBus β] (bus : β) :
    let ran := (keyboard.scan : Attempt ω Snapshot).run.run bus
    let made := (keyboard.scan : Attempt ω Snapshot).run.history bus
    let last := lastWritten keyboard.columnSelect (made.filterMap Moment.wrote?)
    (∀ moment ∈ made, ∀ width value cause,
      moment ≠ .write keyboard.columnSelect width value (.error cause)) →
    (∀ snapshot, ran.value = .ok snapshot → last = some deselectAll) ∧
    ∀ cause, ran.value = .error cause →
      ∃ column < columnCount, last = some (selectWord column) ∧
        made.getLast? = some (.read keyboard.rowSense .byte (.error cause)) ∧
        ∀ map port, (selectWord column).toUInt8 &&& (Port.lines map port).fireBit = 0 ↔
          column = 6 + port.index := by
  intro ran made last hwrites
  have hrun : Outcome keyboard.scanPlan made ran.value := (keyboard.scan_follows (ω := ω)).run bus
  constructor
  · intro snapshot hvalue
    rw [hvalue] at hrun
    have hmade : CarriedOut keyboard.scanPlan made := hrun
    show lastWritten _ (made.filterMap Moment.wrote?) = _
    rw [hmade.wrote, written_scanPlan, lastWritten_concat, if_pos rfl]
  · intro cause hvalue
    rw [hvalue] at hrun
    obtain ⟨done, failing, rest, hplan, hgiven⟩ := hrun
    have hwrote := hgiven.wrote
    obtain ⟨granted, refused, hmade, -, haccess, hcause⟩ := hgiven
    rcases keyboard.strobes_split _ hplan with ⟨word, hword⟩ |
      ⟨hread, column, hin, earlier, hdone⟩
    · rw [hword] at haccess
      exact absurd (Moment.eq_write_of_failure haccess hcause)
        (hwrites refused (by rw [hmade]; simp) .word word cause)
    · have hcolumn : column < columnCount := List.mem_range.mp hin
      rw [hread] at haccess
      refine ⟨column, hcolumn, ?_, ?_, fun map port => selectWord_fireBit map port hcolumn⟩
      · -- The column was selected last, since the read failed behind it.
        show lastWritten _ (made.filterMap Moment.wrote?) = _
        rw [hwrote, hdone, List.filterMap_append,
          List.filterMap_cons_some (keyboard.written?_select _), List.filterMap_nil,
          lastWritten_concat, if_pos rfl]
      · rw [hmade, List.getLast?_concat, Moment.eq_read_of_failure haccess hcause]

/-- The rows of an idle machine that cannot be read once: the first column stays selected. -/
theorem scan_leaves_selected_of_failing_rows :
    let keyboard := Keyboard.new (.forChipset .ocs) .standard
    let bus := (idleMachine (.forChipset .ocs)).failReads keyboard.rowSense (.next 1)
    let made := (keyboard.scan : Attempt Remark Snapshot).run.history bus
    ∃ column < columnCount, lastWritten keyboard.columnSelect (made.filterMap Moment.wrote?) =
      some (selectWord column) := by
  intro keyboard bus made
  have hmade : made = [.write keyboard.columnSelect .word 0xFFFE (.ok ()),
      .read keyboard.rowSense .byte
        (.error (.readFailed keyboard.rowSense .byte MemoryBus.faultReason))] := rfl
  have hwrites : ∀ moment ∈ made, ∀ width value cause,
      moment ≠ .write keyboard.columnSelect width value (.error cause) := by
    rw [hmade]
    simp
  obtain ⟨column, hcolumn, hlast, -⟩ :=
    (keyboard.scan_leaves_selected (ω := Remark) bus hwrites).2 _ rfl
  exact ⟨column, hcolumn, hlast⟩

/-- No write fails, and still the last word that is written selects a column. -/
theorem scan_keeps_column_driven :
    let keyboard := Keyboard.new (.forChipset .ocs) .standard
    let bus := (idleMachine (.forChipset .ocs)).failReads keyboard.rowSense (.next 1)
    let ran := (keyboard.scan : Attempt Remark Snapshot).run.run bus
    (∀ address, bus.writeFaultAt address = .next 0) ∧
      ran.value = .error (.readFailed keyboard.rowSense .byte MemoryBus.faultReason) ∧
      lastWritten keyboard.columnSelect ran.bus.writes.toList = some 0xFFFE ∧
      (0xFFFE : UInt16) ≠ deselectAll :=
  ⟨fun _ => rfl, rfl, by decide, by decide⟩

end Keyboard

end InputBridge
