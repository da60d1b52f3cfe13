import InputBridge.Proofs.Bus.Calm
import InputBridge.Proofs.Bus.View

/-!
# Two programs in tandem

Two programs may make the same accesses and still say different things and end in different
values, since they were given different states, or make something else of answers that do
not quite agree. `Tandem` relates such programs: on answers that agree in the bits that
matter they go on side by side, the remarks that are listened for are made by both, and what
they end in is related. `Tandem.run` is the two-run theorem for them, on buses in lockstep:
buses that answer every access in agreement, whatever was asked before.

Register files that are the same but for some bits of their levels are in lockstep
(`MemoryBus.lockstep_sameBut`).
-/

namespace InputBridge

/-- A relation between states of a bus that every access keeps. Answers to reads agree in
`bits` of the register; all other answers are the same. -/
structure Lockstep {β : Type} [RegisterBus β] (bits : Address → UInt16) (related : β → β → Prop) :
    Prop where
  connect : ∀ {bus bus'}, related bus bus' →
    (RegisterBus.connect bus).1 = (RegisterBus.connect bus').1 ∧
      related (RegisterBus.connect bus).2 (RegisterBus.connect bus').2
  read : ∀ {bus bus'} address width, related bus bus' →
    AnswersAgree (bits address) (RegisterBus.read address width bus).1
        (RegisterBus.read address width bus').1 ∧
      related (RegisterBus.read address width bus).2 (RegisterBus.read address width bus').2
  write : ∀ {bus bus'} address width value, related bus bus' →
    (RegisterBus.write address width value bus).1 =
        (RegisterBus.write address width value bus').1 ∧
      related (RegisterBus.write address width value bus).2
        (RegisterBus.write address width value bus').2

namespace Program

variable {ω α α' γ γ' τ : Type} {bits : Address → UInt16} {heard : ω → Option τ}

/-- Two programs that make the same accesses, as long as reads are answered in agreement.
They end in values with `post`, and both make the remarks in which something is heard. -/
inductive Tandem (bits : Address → UInt16) (heard : ω → Option τ) (post : α → α' → Prop) :
    Program ω α → Program ω α' → Prop
  | done {value : α} {value' : α'} (h : post value value') :
      Tandem bits heard post (.done value) (.done value')
  | read {address : Address} {width : Width} {branch : Except BusError UInt16 → Program ω α}
      {branch' : Except BusError UInt16 → Program ω α'}
      (h : ∀ answer answer', AnswersAgree (bits address) answer answer' →
        Tandem bits heard post (branch answer) (branch' answer')) :
      Tandem bits heard post (.read address width branch) (.read address width branch')
  | write {address : Address} {width : Width} {value : UInt16}
      {branch : Except BusError Unit → Program ω α} {branch' : Except BusError Unit → Program ω α'}
      (h : ∀ answer, Tandem bits heard post (branch answer) (branch' answer)) :
      Tandem bits heard post (.write address width value branch)
        (.write address width value branch')
  | both {out : ω} {rest : Program ω α} {rest' : Program ω α'}
      (h : Tandem bits heard post rest rest') :
      Tandem bits heard post (.emit out rest) (.emit out rest')
  /-- A remark of the first program in which nothing is heard. -/
  | first {out : ω} {rest : Program ω α} {program' : Program ω α'} (hout : heard out = none)
      (h : Tandem bits heard post rest program') :
      Tandem bits heard post (.emit out rest) program'
  /-- A remark of the second program in which nothing is heard. -/
  | second {out : ω} {program : Program ω α} {rest' : Program ω α'} (hout : heard out = none)
      (h : Tandem bits heard post program rest') :
      Tandem bits heard post program (.emit out rest')

namespace Tandem

theorem bind {mid : α → α' → Prop} {post : γ → γ' → Prop} {first : Program ω α}
    {first' : Program ω α'} {next : α → Program ω γ} {next' : α' → Program ω γ'}
    (hfirst : Tandem bits heard mid first first')
    (hnext : ∀ value value', mid value value' →
      Tandem bits heard post (next value) (next' value')) :
    Tandem bits heard post (first >>= next) (first' >>= next') := by
  show Tandem bits heard post (first.bind next) (first'.bind next')
  -- Both trees are kept; only their ends grow.
  induction hfirst with
  | done h => exact hnext _ _ h
  | read _ ih => exact .read ih
  | write _ ih => exact .write ih
  | both _ ih => exact .both ih
  | first hout _ ih => exact .first hout ih
  | second hout _ ih => exact .second hout ih

theorem imp {post weaker : α → α' → Prop} {program : Program ω α} {program' : Program ω α'}
    (h : Tandem bits heard post program program')
    (hpost : ∀ value value', post value value' → weaker value value') :
    Tandem bits heard weaker program program' := by
  induction h with
  | done h => exact .done (hpost _ _ h)
  | read _ ih => exact .read ih
  | write _ ih => exact .write ih
  | both _ ih => exact .both ih
  | first hout _ ih => exact .first hout ih
  | second hout _ ih => exact .second hout ih

/-- A read, by what may come of it: the same failure, or words that agree. -/
theorem read_cases {post : α → α' → Prop} {address : Address} {width : Width}
    {branch : Except BusError UInt16 → Program ω α}
    {branch' : Except BusError UInt16 → Program ω α'}
    (herror : ∀ cause, Tandem bits heard post (branch (.error cause)) (branch' (.error cause)))
    (hok : ∀ word word', word &&& bits address = word' &&& bits address →
      Tandem bits heard post (branch (.ok word)) (branch' (.ok word'))) :
    Tandem bits heard post (.read address width branch) (.read address width branch') :=
  .read fun _ _ hagree => hagree.elim herror hok

/-- A read of which every bit matters is answered the same. -/
theorem read_same {post : α → α' → Prop} {address : Address} {width : Width}
    {branch : Except BusError UInt16 → Program ω α}
    {branch' : Except BusError UInt16 → Program ω α'}
    (hbits : bits address = 0xFFFF)
    (h : ∀ answer, Tandem bits heard post (branch answer) (branch' answer)) :
    Tandem bits heard post (.read address width branch) (.read address width branch') := by
  refine .read fun answer answer' hagree => ?_
  rw [hbits] at hagree
  rw [hagree.eq_of_all]
  exact h answer'

/-- A program that heeds every bit of what it reads goes in tandem with itself. -/
theorem of_within {scope : Scope ω} {post : α → Prop} {program : Program ω α}
    (h : program.Within scope post)
    (hreads : ∀ address width, scope.reads address width → bits address = 0xFFFF) :
    Tandem bits heard (fun value value' => value = value' ∧ post value) program program := by
  induction program with
  | done value => exact .done ⟨rfl, h⟩
  | read address width branch ih =>
    exact .read_same (hreads address width h.1) fun answer => ih answer (h.2 answer)
  | write address width value branch ih => exact .write fun answer => ih answer (h.2 answer)
  | emit out rest ih => exact .both (ih h.2)

/-- Different remarks, as long as nothing is heard in them. -/
theorem remarks_unheard {post : α → α' → Prop} {value : α} {value' : α'} (h : post value value') :
    ∀ {outs outs' : List ω}, (∀ out ∈ outs, heard out = none) →
      (∀ out ∈ outs', heard out = none) →
      Tandem bits heard post (Program.remarks outs >>= fun _ => .done value)
        (Program.remarks outs' >>= fun _ => .done value')
  | [], [], _, _ => .done h
  | [], _ :: _, hnone, hnone' =>
    .second (hnone' _ (List.mem_cons_self ..))
      (remarks_unheard h hnone fun out hin => hnone' out (List.mem_cons_of_mem _ hin))
  | _ :: _, _, hnone, hnone' =>
    .first (hnone _ (List.mem_cons_self ..))
      (remarks_unheard h (fun out hin => hnone out (List.mem_cons_of_mem _ hin)) hnone')

/-- Two runs in tandem: on buses in lockstep, what is heard is the same. -/
theorem run {β : Type} [RegisterBus β] {related : β → β → Prop} (hlockstep : Lockstep bits related)
    {post : α → α' → Prop} {program : Program ω α} {program' : Program ω α'}
    (h : Tandem bits heard post program program') {bus bus' : β} (hbus : related bus bus') :
    post (program.run bus).value (program'.run bus').value ∧
      related (program.run bus).bus (program'.run bus').bus ∧
      (program.run bus).remarks.filterMap heard = (program'.run bus').remarks.filterMap heard := by
  induction h generalizing bus bus' with
  | done h => exact ⟨h, hbus, rfl⟩
  | read _ ih =>
    obtain ⟨hagree, hleft⟩ := hlockstep.read _ _ hbus
    exact ih _ _ hagree hleft
  | @write address width value branch branch' _ ih =>
    obtain ⟨hsame, hleft⟩ := hlockstep.write address width value hbus
    unfold Program.run
    generalize RegisterBus.write address width value bus = left at hsame hleft ⊢
    generalize RegisterBus.write address width value bus' = left' at hsame hleft ⊢
    obtain ⟨answer, after⟩ := left
    obtain ⟨answer', after'⟩ := left'
    obtain rfl : answer = answer' := hsame
    exact ih answer hleft
  | both _ ih =>
    obtain ⟨hvalue, hleft, hremarks⟩ := ih hbus
    refine ⟨hvalue, hleft, ?_⟩
    show List.filterMap heard (_ :: _) = List.filterMap heard (_ :: _)
    rw [List.filterMap_cons, List.filterMap_cons, hremarks]
  | first hout _ ih =>
    obtain ⟨hvalue, hleft, hremarks⟩ := ih hbus
    exact ⟨hvalue, hleft, (List.filterMap_cons_none hout).trans hremarks⟩
  | second hout _ ih =>
    obtain ⟨hvalue, hleft, hremarks⟩ := ih hbus
    exact ⟨hvalue, hleft, hremarks.trans (List.filterMap_cons_none hout).symm⟩

end Tandem

end Program

/-! ## Register files -/

theorem UInt16.and_or_distrib_right (a b mask : UInt16) :
    (a ||| b) &&& mask = (a &&& mask) ||| (b &&& mask) := by
  rw [← UInt16.toBitVec_inj]
  exact BitVec.and_or_distrib_right

namespace MemoryBus

variable {bits : Address → UInt16} {bus bus' : MemoryBus}

/-- Two register files without strobed registers that differ in the levels only, and not in
`bits` of these. -/
structure SameBut (bits : Address → UInt16) (bus bus' : MemoryBus) : Prop where
  view : SameView { registers := fun _ => True, bits } bus bus'
  pins : ∀ address, bus.pins address = bus'.pins address
  writeFaults : ∀ address, bus.writeFaultAt address = bus'.writeFaultAt address
  outage : bus.outage = bus'.outage

theorem outage_read {address : Address} {width : Width} :
    (bus.read address width).2.outage = bus.outage := by
  rw [read_eq]
  split <;> rfl

theorem outage_write {address : Address} {width : Width} {value : UInt16} :
    (bus.write address width value).2.outage = bus.outage := by
  unfold write
  split <;> rfl

theorem level_write {address other : Address} {width : Width} {value : UInt16} :
    (bus.write address width value).2.level other =
      if bus.writeFaultAt address = .next 0 then (bus.written address width value).level other
      else bus.level other := by
  rw [write_eq]
  split
  next hfault => rw [hfault, if_neg (by decide)]
  next hfault => rw [hfault, if_neg (by simp)]; rfl
  next hfault => rw [hfault, if_pos rfl]

theorem SameBut.level_write (h : SameBut bits bus bus') (address : Address) (width : Width)
    (value : UInt16) (other : Address) :
    (bus.write address width value).2.level other &&& bits other =
      (bus'.write address width value).2.level other &&& bits other := by
  have hlevels : ∀ other, bus.level other &&& bits other = bus'.level other &&& bits other :=
    fun other => h.view.levels other trivial
  rw [MemoryBus.level_write, MemoryBus.level_write, h.writeFaults]
  split
  next =>
    rw [level_written, level_written, h.pins]
    split
    next heq =>
      -- The pins keep their level on both sides, and what is written is the same.
      subst heq
      have hpinned : bus.level other &&& bus'.pins other &&& bits other =
          bus'.level other &&& bus'.pins other &&& bits other := by
        rw [UInt16.and_assoc, UInt16.and_comm (bus'.pins other), ← UInt16.and_assoc, hlevels,
          UInt16.and_assoc, UInt16.and_comm (bits other), ← UInt16.and_assoc]
      rw [UInt16.and_or_distrib_right, UInt16.and_or_distrib_right, hpinned]
    next => exact hlevels other
  next => exact hlevels other

theorem SameBut.refl (hsteady : ∀ address, bus.strobes.get? address = none) :
    SameBut bits bus bus where
  view := ⟨fun a _ => hsteady a, fun a _ => hsteady a, fun _ _ => rfl, fun _ _ => rfl,
    fun _ _ => rfl⟩
  pins _ := rfl
  writeFaults _ := rfl
  outage := rfl

theorem level_setLevel (address other : Address) (value : UInt16) :
    (bus.setLevel address value).level other =
      if other = address then value else bus.level other := by
  unfold setLevel level
  rw [Table.get?_put]
  split <;> rfl

/-- Other levels may be set, as long as they agree where it matters. -/
theorem SameBut.setLevel (h : SameBut bits bus bus') {address : Address} {value value' : UInt16}
    (hvalue : value &&& bits address = value' &&& bits address) :
    SameBut bits (bus.setLevel address value) (bus'.setLevel address value') := by
  refine ⟨⟨h.view.steady, h.view.steady', fun other hin => ?_, h.view.scripts, h.view.faults⟩,
    h.pins, h.writeFaults, h.outage⟩
  rw [level_setLevel, level_setLevel]
  split
  next heq => rw [heq]; exact hvalue
  next => exact h.view.levels other hin

theorem lockstep_sameBut (bits : Address → UInt16) : Lockstep bits (SameBut bits) where
  connect {bus bus'} h := by
    show bus.connect.1 = bus'.connect.1 ∧ SameBut bits bus.connect.2 bus'.connect.2
    rw [connect_eq, connect_eq]
    refine ⟨?_, h⟩
    unfold connect
    rw [h.outage]
    split <;> rfl
  read address width h := by
    have hin : ({ registers := fun _ => True, bits } : Heed).registers address := trivial
    obtain ⟨hagree, hview⟩ := h.view.read hin width
    refine ⟨hagree, hview, fun other => ?_, fun other => ?_, ?_⟩
    · exact pins_read.trans ((h.pins other).trans pins_read.symm)
    · exact writeFaultAt_read.trans ((h.writeFaults other).trans writeFaultAt_read.symm)
    · exact outage_read.trans (h.outage.trans outage_read.symm)
  write {bus bus'} address width value h := by
    show (bus.write address width value).1 = (bus'.write address width value).1 ∧
      SameBut bits (bus.write address width value).2 (bus'.write address width value).2
    refine ⟨?_, ⟨fun other ha => ?_, fun other ha => ?_, fun other _ => ?_, fun other ha => ?_,
      fun other ha => ?_⟩, fun other => ?_, fun other => ?_, ?_⟩
    · rw [answer_write, answer_write, h.writeFaults]
    · rw [strobes_write]
      exact h.view.steady other ha
    · rw [strobes_write]
      exact h.view.steady' other ha
    · exact h.level_write address width value other
    · rw [scriptAt_write, scriptAt_write]
      exact h.view.scripts other ha
    · rw [faultAt_write, faultAt_write]
      exact h.view.faults other ha
    · rw [pins_write, pins_write]
      exact h.pins other
    · rw [writeFaultAt_write, writeFaultAt_write, h.writeFaults, h.writeFaults]
    · rw [outage_write, outage_write]
      exact h.outage

end MemoryBus

end InputBridge
