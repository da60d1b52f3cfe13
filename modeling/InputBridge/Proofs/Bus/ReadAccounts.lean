import InputBridge.Proofs.Bus.Operations

/-!
# Reads of a register file, accounted for

Four layers answer a read: the fault that is pending at the address, the script, the strobe
and the level. This module keeps the books of them over any run of operations, for one address
and whatever happens at the others.

* What was queued for an address is what its reads took, in that order, and what is still
  scripted (`queued_eq_took_append`). A read takes one value if it succeeds and one is left.
* A fault wears off by one with each read of its address and by nothing else, until it is
  replaced or cleared (`faultAt_after`). So exactly as many reads fail as were to fail
  (`read_fails_iff`).
* Every read that succeeds is counted (`readCount_after`).
* Below the script, a register that was never strobed gives its level, and a strobed one the
  value that was last given for the selector (`unscripted_read`).

What a single read gives and changes is said by `of_read_ok` and `of_read_error`, and
`reads_accounted` puts the books together.
-/

namespace InputBridge

/-! ## What an operation has to do with reads -/

namespace Operation

/-- The values that an operation queues for reads of `address`. -/
def queued (address : Address) : Operation → List UInt16
  | .script other values => if other = address then values else []
  | _ => []

/-- Is it a read of `address`? -/
def isReadOf (address : Address) : Operation → Bool
  | .read other _ => other = address
  | _ => false

/-- Does it replace or clear the fault for reads of `address`? -/
def resetsReads (address : Address) : Operation → Bool
  | .failReads other _ => other = address
  | .clearFaults => true
  | _ => false

/-- Does it make the register of `address` a strobed one? -/
def strobes (address : Address) : Operation → Bool
  | .strobe other _ _ => other = address
  | _ => false

/-- The value that it gives the register of `address` for one selector. -/
def gives? (address : Address) (selector : UInt16) : Operation → Option UInt16
  | .setStrobed other which value =>
    if other = address ∧ which = selector then some value else none
  | _ => none

end Operation

/-- A strobed register at `address` after an operation that does not make it one anew. -/
def Strobed.given (address : Address) (strobed : Strobed) : Operation → Strobed
  | .setStrobed other selector value =>
    if other = address then { strobed with values := strobed.values.put selector value }
    else strobed
  | _ => strobed

namespace Deed

/-- The word that a deed got, if it is a read that succeeded. -/
def got? (deed : Deed) : Option UInt16 :=
  match deed.operation with
  | .read address width => (deed.before.read address width).1.toOption
  | _ => none

/-- The value that a deed took off the script of `address`: the next one, if it is a read
of it that succeeded and there was one. -/
def took? (address : Address) (deed : Deed) : Option UInt16 :=
  match deed.operation with
  | .read other width =>
    if other = address ∧ (deed.before.read other width).1.isOk = true then
      (deed.before.scriptAt other).head?
    else none
  | _ => none

end Deed

namespace MemoryBus

/-! ## Scripts -/

section Steps

variable (bus : MemoryBus) (address : Address)

theorem isOk_read_iff {width : Width} :
    (bus.read address width).1.isOk = true ↔ bus.faultAt address = .next 0 := by
  rw [answer_read]
  split
  next h => exact ⟨fun _ => h, fun _ => rfl⟩
  next h => exact ⟨fun hok => (nomatch hok), fun hnone => absurd hnone h⟩

theorem scriptAt_script (other : Address) (values : List UInt16) :
    (bus.script other values).scriptAt address =
      bus.scriptAt address ++ if other = address then values else [] := by
  unfold scriptAt script
  rw [Table.get?_put]
  by_cases h : other = address
  · subst h
    rw [if_pos rfl, if_pos rfl]
    rfl
  · rw [if_neg (Ne.symm h), if_neg h, List.append_nil]

theorem took?_read (other : Address) (width : Width) :
    (⟨bus, .read other width⟩ : Deed).took? address =
      if other = address ∧ bus.faultAt other = .next 0 then (bus.scriptAt other).head?
      else none := by
  unfold Deed.took?
  simp only [isOk_read_iff]

/-- An operation leaves on the script what was there and what it queues, less what it takes. -/
theorem scriptAt_apply (operation : Operation) :
    bus.scriptAt address ++ operation.queued address =
      ((⟨bus, operation⟩ : Deed).took? address).toList ++
        (bus.apply operation).scriptAt address := by
  have hkeeps : operation.queued address = [] → (⟨bus, operation⟩ : Deed).took? address = none →
      (bus.apply operation).scriptAt address = bus.scriptAt address →
      bus.scriptAt address ++ operation.queued address =
        ((⟨bus, operation⟩ : Deed).took? address).toList ++
          (bus.apply operation).scriptAt address := by
    intro hqueued htook hsame
    rw [hqueued, htook, hsame, List.append_nil]
    rfl
  cases operation with
  | script other values => exact (bus.scriptAt_script address other values).symm
  | read other width =>
    show bus.scriptAt address ++ [] = _ ++ (bus.read other width).2.scriptAt address
    rw [List.append_nil, took?_read, scriptAt_read]
    by_cases h : other = address ∧ bus.faultAt other = .next 0
    · -- The read succeeds and takes the head of the script, if there is one.
      obtain ⟨rfl, hfault⟩ := h
      rw [if_pos ⟨rfl, hfault⟩, if_pos ⟨rfl, hfault⟩]
      cases bus.scriptAt other <;> rfl
    · have h' : ¬(address = other ∧ bus.faultAt other = .next 0) :=
        fun hself => h ⟨hself.1.symm, hself.2⟩
      rw [if_neg h, if_neg h']
      rfl
  | setStrobed other selector value =>
    obtain ⟨strobes, heq⟩ := bus.apply_setStrobed other selector value
    refine hkeeps rfl rfl ?_
    rw [heq]
    rfl
  | write other width value => exact hkeeps rfl rfl scriptAt_write
  | connect =>
    refine hkeeps rfl rfl ?_
    rw [apply_connect]
  | setLevel | setPins | strobe | failReads | failWrites | failConnect | clearFaults =>
    exact hkeeps rfl rfl rfl

/-- What is queued for an address leaves in the order in which it came, each value once. -/
theorem queued_eq_took_append (operations : List Operation) :
    bus.scriptAt address ++ operations.flatMap (Operation.queued address) =
      (bus.deeds operations).filterMap (Deed.took? address) ++
        (bus.after operations).scriptAt address := by
  induction operations generalizing bus with
  | nil => exact List.append_nil _
  | cons operation rest ih =>
    calc bus.scriptAt address ++ (operation :: rest).flatMap (Operation.queued address)
        = bus.scriptAt address ++ operation.queued address ++
            rest.flatMap (Operation.queued address) := by
          rw [List.flatMap_cons, List.append_assoc]
      _ = ((⟨bus, operation⟩ : Deed).took? address).toList ++
            ((bus.apply operation).scriptAt address ++
              rest.flatMap (Operation.queued address)) := by
          rw [bus.scriptAt_apply address operation, List.append_assoc]
      _ = ((⟨bus, operation⟩ : Deed).took? address).toList ++
            (((bus.apply operation).deeds rest).filterMap (Deed.took? address) ++
              ((bus.apply operation).after rest).scriptAt address) := by rw [ih]
      _ = _ := by
          rw [filterMap_deeds_cons, List.append_assoc]
          rfl

/-! ## The count -/

theorem readCount_read {width : Width} :
    (bus.read address width).2.readCount =
      bus.readCount + (bus.read address width).1.toOption.toList.length := by
  rw [read_eq]
  split <;> rfl

theorem readCount_apply (operation : Operation) :
    (bus.apply operation).readCount =
      bus.readCount + (⟨bus, operation⟩ : Deed).got?.toList.length := by
  cases operation with
  | read other width => exact bus.readCount_read other
  | setStrobed other selector value =>
    obtain ⟨strobes, heq⟩ := bus.apply_setStrobed other selector value
    rw [heq]
    rfl
  | write other width value =>
    show (bus.write other width value).2.readCount = _
    rw [write_eq]
    split <;> rfl
  | connect =>
    rw [apply_connect]
    rfl
  | setLevel | setPins | script | strobe | failReads | failWrites | failConnect | clearFaults => rfl

/-- The reads that succeed are counted, and nothing else is. -/
theorem readCount_after (operations : List Operation) :
    (bus.after operations).readCount =
      bus.readCount + ((bus.deeds operations).filterMap Deed.got?).length := by
  induction operations generalizing bus with
  | nil => rfl
  | cons operation rest ih =>
    show ((bus.apply operation).after rest).readCount = _
    rw [ih, readCount_apply, filterMap_deeds_cons, List.length_append, Nat.add_assoc]

/-! ## Faults -/

/-- A fault wears off with the reads of its address, and with nothing else. -/
theorem faultAt_apply {operation : Operation} (h : operation.resetsReads address = false) :
    (bus.apply operation).faultAt address =
      if operation.isReadOf address then (bus.faultAt address).used else bus.faultAt address := by
  cases operation with
  | failReads other count =>
    have hne : address ≠ other := fun heq => of_decide_eq_false h heq.symm
    show (bus.failReads other (.ofCount count.toNat)).faultAt address = _
    rw [faultAt_failReads, if_neg hne]
    rfl
  | clearFaults => exact nomatch h
  | read other width =>
    show (bus.read other width).2.faultAt address = _
    rw [faultAt_read]
    by_cases heq : address = other
    · have hread : (Operation.read other width).isReadOf address = true :=
        decide_eq_true heq.symm
      rw [if_pos heq, if_pos hread, heq]
    · have hread : (Operation.read other width).isReadOf address = false :=
        decide_eq_false fun h => heq h.symm
      rw [if_neg heq, hread]
      rfl
  | write other width value => exact faultAt_write
  | setStrobed other selector value =>
    obtain ⟨strobes, heq⟩ := bus.apply_setStrobed other selector value
    rw [heq]
    rfl
  | connect =>
    rw [apply_connect]
    rfl
  | setLevel | setPins | script | strobe | failWrites | failConnect => rfl

theorem faultAt_after {operations : List Operation}
    (h : ∀ operation ∈ operations, operation.resetsReads address = false) :
    (bus.after operations).faultAt address =
      (bus.faultAt address).usedBy (operations.countP (Operation.isReadOf address)) :=
  pending_after (·.faultAt address) (Operation.isReadOf address)
    (fun operation hin bus => bus.faultAt_apply address (h operation hin)) bus

/-- A read fails as long as fewer reads came after the fault than it was to last. -/
theorem read_fails_iff {count : UInt64} {operations : List Operation} {width : Width}
    (hfault : bus.faultAt address = .ofCount count.toNat)
    (h : ∀ operation ∈ operations, operation.resetsReads address = false) :
    ((bus.after operations).read address width).1.isOk = false ↔
      count.toNat = Fault.endless ∨
        operations.countP (Operation.isReadOf address) < count.toNat := by
  rw [← Bool.not_eq_true, isOk_read_iff, bus.faultAt_after address h, hfault]
  exact Fault.usedBy_ofCount_ne_none_iff

/-! ## Strobes -/

theorem strobes_apply {operation : Operation} (h : operation.strobes address = false) :
    (bus.apply operation).strobes.get? address =
      (bus.strobes.get? address).map fun strobed => strobed.given address operation := by
  have hkeeps : (bus.apply operation).strobes.get? address = bus.strobes.get? address →
      (∀ strobed : Strobed, strobed.given address operation = strobed) →
      (bus.apply operation).strobes.get? address =
        (bus.strobes.get? address).map fun strobed => strobed.given address operation := by
    intro hsame hgiven
    rw [hsame]
    cases bus.strobes.get? address with
    | none => rfl
    | some strobed => exact congrArg some (hgiven strobed).symm
  cases operation with
  | strobe other select otherwise =>
    have hne : address ≠ other := fun heq => of_decide_eq_false h heq.symm
    exact hkeeps (Table.get?_put_ne _ _ hne) fun _ => rfl
  | setStrobed other selector value =>
    show (bus.setStrobed other selector value).strobes.get? address = _
    unfold setStrobed
    by_cases heq : other = address
    · subst heq
      cases hstrobed : bus.strobes.get? other with
      | none => exact hstrobed
      | some strobed =>
        refine (Table.get?_put_self ..).trans (congrArg some ?_)
        exact (if_pos rfl).symm
    · refine hkeeps ?_ fun _ => if_neg heq
      show (bus.setStrobed other selector value).strobes.get? address = _
      unfold setStrobed
      split
      next => rfl
      next => exact Table.get?_put_ne _ _ (Ne.symm heq)
  | read other width => exact hkeeps (congrArg (·.get? address) strobes_read) fun _ => rfl
  | write other width value =>
    exact hkeeps (congrArg (·.get? address) strobes_write) fun _ => rfl
  | connect =>
    refine hkeeps ?_ fun _ => rfl
    rw [apply_connect]
  | setLevel | setPins | script | failReads | failWrites | failConnect | clearFaults =>
    exact hkeeps rfl fun _ => rfl

/-- A register that is not strobed stays so, and one that is takes what it is given. -/
theorem strobes_after {operations : List Operation}
    (h : ∀ operation ∈ operations, operation.strobes address = false) :
    (bus.after operations).strobes.get? address =
      (bus.strobes.get? address).map fun strobed =>
        operations.foldl (Strobed.given address) strobed := by
  induction operations generalizing bus with
  | nil => exact Option.map_id'.symm
  | cons operation rest ih =>
    show ((bus.apply operation).after rest).strobes.get? address = _
    rw [ih _ fun other hin => h other (List.mem_cons_of_mem _ hin),
      bus.strobes_apply address (h operation (List.mem_cons_self ..)), Option.map_map]
    rfl

/-- An operation changes no more of a strobed register than the value for one selector. -/
theorem given_view (strobed : Strobed) (operation : Operation) (selector : UInt16) :
    (strobed.given address operation).select = strobed.select ∧
      (strobed.given address operation).otherwise = strobed.otherwise ∧
      (strobed.given address operation).values.get? selector =
        (operation.gives? address selector).or (strobed.values.get? selector) := by
  cases operation with
  | setStrobed other which value =>
    unfold Strobed.given Operation.gives?
    dsimp only
    by_cases heq : other = address
    · rw [if_pos heq]
      refine ⟨rfl, rfl, ?_⟩
      show (strobed.values.put which value).get? selector = _
      rw [Table.get?_put]
      by_cases hwhich : which = selector
      · rw [if_pos hwhich.symm, if_pos ⟨heq, hwhich⟩]
        rfl
      · rw [if_neg (Ne.symm hwhich), if_neg fun hboth => hwhich hboth.2]
        rfl
    · rw [if_neg heq, if_neg fun hboth => heq hboth.1]
      exact ⟨rfl, rfl, rfl⟩
  | _ => exact ⟨rfl, rfl, rfl⟩

/-- A strobed register keeps what selects it and its default, and has for each selector the
value that it was given last. -/
theorem foldl_given (operations : List Operation) (selector : UInt16) :
    ∀ strobed : Strobed, let after := operations.foldl (Strobed.given address) strobed
      after.select = strobed.select ∧ after.otherwise = strobed.otherwise ∧
        after.values.get? selector =
          ((operations.filterMap (Operation.gives? address selector)).getLast?).or
            (strobed.values.get? selector) := by
  induction operations with
  | nil => exact fun _ => ⟨rfl, rfl, rfl⟩
  | cons operation rest ih =>
    intro strobed after
    obtain ⟨hselect, hotherwise, hvalues⟩ := ih (strobed.given address operation)
    obtain ⟨hselect', hotherwise', hvalues'⟩ := given_view address strobed operation selector
    refine ⟨hselect.trans hselect', hotherwise.trans hotherwise', hvalues.trans ?_⟩
    rw [hvalues', List.filterMap_cons]
    cases operation.gives? address selector with
    | none => rfl
    | some value =>
      rw [List.getLast?_cons]
      cases (rest.filterMap (Operation.gives? address selector)).getLast? <;> rfl

/-! ## One read -/

/-- A read that succeeds gives the next scripted value and takes it, and the steady value
only if there is none. -/
theorem of_read_ok {width : Width} {word : UInt16} (h : (bus.read address width).1 = .ok word) :
    match bus.scriptAt address with
    | next :: rest =>
      word = next &&& width.mask ∧ (bus.read address width).2.scriptAt address = rest
    | [] =>
      word = bus.steady address &&& width.mask ∧
        (bus.read address width).2.scriptAt address = [] := by
  have hok : (bus.read address width).1.isOk = true := by rw [h]; rfl
  have hnone : bus.faultAt address = .next 0 := (bus.isOk_read_iff address).mp hok
  have hleft : (bus.read address width).2.scriptAt address = (bus.scriptAt address).tail :=
    scriptAt_read.trans (if_pos ⟨rfl, hnone⟩)
  rw [answer_read, if_pos hnone] at h
  have hword := (Except.ok.inj h).symm
  cases hscript : bus.scriptAt address with
  | nil =>
    rw [hscript] at hleft hword
    exact ⟨hword, hleft⟩
  | cons next rest =>
    rw [hscript] at hleft hword
    exact ⟨hword, hleft⟩

/-- A read that fails changes nothing but the fault that it hits. -/
theorem of_read_error {width : Width} {cause : BusError}
    (h : (bus.read address width).1 = .error cause) :
    cause = .readFailed address width faultReason ∧
      (∃ readFaults, (bus.read address width).2 = { bus with readFaults }) ∧
      (bus.read address width).2.faultAt address = (bus.faultAt address).used ∧
      ∀ other, other ≠ address → (bus.read address width).2.faultAt other = bus.faultAt other := by
  have hfault : bus.faultAt address ≠ .next 0 := by
    intro hnone
    rw [answer_read, if_pos hnone] at h
    exact nomatch h
  have hcause := h
  rw [answer_read, if_neg hfault] at hcause
  refine ⟨(Except.error.inj hcause).symm, ?_, faultAt_read.trans (if_pos rfl),
    fun other hne => faultAt_read.trans (if_neg hne)⟩
  rw [read_eq]
  split
  next => exact ⟨bus.readFaults, rfl⟩
  next count _ => exact ⟨bus.readFaults.put address (.next count), rfl⟩
  next hnone _ => exact absurd hnone hfault
  next hnone _ => exact absurd hnone hfault

end Steps

/-! ## The books -/

/-- **Reads are accounted for.** After any run of operations on a new register file, and for
any address:

* the values queued for it are those that its reads took, in the same order, followed by
  those that are still scripted;
* the read count is the number of reads that succeeded;
* if the next read of it succeeds, it takes the next scripted value and gives that, and only
  if there is none it gives the steady value, cut to its width either way;
* if that read fails, it changes nothing but the fault at its own address, which wears off
  by one;
* after a fault for `count` reads, and with no other fault or clearing since, it fails if
  fewer than `count` reads came since, or if the fault is endless; with no fault since the
  start or since the last clearing it succeeds. -/
theorem reads_accounted (operations : List Operation) (address : Address) (width : Width) :
    let bus := ({} : MemoryBus).after operations
    let deeds := ({} : MemoryBus).deeds operations
    let answer := (bus.read address width).1
    let left := (bus.read address width).2
    operations.flatMap (Operation.queued address) =
        deeds.filterMap (Deed.took? address) ++ bus.scriptAt address ∧
      bus.readCount = (deeds.filterMap Deed.got?).length ∧
      (∀ word, answer = .ok word →
        match bus.scriptAt address with
        | next :: rest => word = next &&& width.mask ∧ left.scriptAt address = rest
        | [] => word = bus.steady address &&& width.mask ∧ left.scriptAt address = []) ∧
      (∀ cause, answer = .error cause →
        cause = .readFailed address width faultReason ∧
          (∃ readFaults, left = { bus with readFaults }) ∧
          left.faultAt address = (bus.faultAt address).used ∧
          ∀ other, other ≠ address → left.faultAt other = bus.faultAt other) ∧
      (∀ earlier count later, operations = earlier ++ .failReads address count :: later →
        (∀ operation ∈ later, operation.resetsReads address = false) →
        (answer.isOk = false ↔ count.toNat = Fault.endless ∨
          later.countP (Operation.isReadOf address) < count.toNat)) ∧
      (∀ earlier later, operations = earlier ++ later →
        (earlier = [] ∨ earlier.getLast? = some .clearFaults) →
        (∀ operation ∈ later, operation.resetsReads address = false) → answer.isOk = true) := by
  intro bus deeds answer left
  refine ⟨queued_eq_took_append {} address operations, ?count,
    fun _ hword => bus.of_read_ok address hword, fun _ hcause => bus.of_read_error address hcause,
    ?fails, ?succeeds⟩
  case count => exact (readCount_after {} operations).trans (Nat.zero_add _)
  case fails =>
    intro earlier count later hsplit hlater
    have hbus : bus = (((({} : MemoryBus).after earlier).failReads address
        (.ofCount count.toNat)).after later) := by
      show ({} : MemoryBus).after operations = _
      rw [hsplit, after_append]
      rfl
    show (bus.read address width).1.isOk = false ↔ _
    rw [hbus]
    exact read_fails_iff _ address ((faultAt_failReads ..).trans (if_pos rfl)) hlater
  case succeeds =>
    intro earlier later hsplit hcleared hlater
    have hclear := (none_pending hcleared address).1
    refine (bus.isOk_read_iff address).mpr ?_
    show (({} : MemoryBus).after operations).faultAt address = _
    rw [hsplit, after_append, faultAt_after _ address hlater, hclear]
    exact congrArg Fault.next (Nat.zero_sub _)

/-- **What is read below the script.** After any run of operations on a new register file, a
read that meets neither a fault nor a script succeeds. A register that no operation made a
strobed one gives its level. One that was made so gives the value that it was last given
since, for the word that selects, and else its default. Either is cut to the width. -/
theorem unscripted_read (operations : List Operation) {address : Address} (width : Width)
    (hfault : (({} : MemoryBus).after operations).faultAt address = .next 0)
    (hscript : (({} : MemoryBus).after operations).scriptAt address = []) :
    let bus := ({} : MemoryBus).after operations
    let answer := (bus.read address width).1
    ((∀ operation ∈ operations, operation.strobes address = false) →
        answer = .ok (bus.level address &&& width.mask)) ∧
      ∀ earlier select otherwise later,
        operations = earlier ++ .strobe address select otherwise :: later →
        (∀ operation ∈ later, operation.strobes address = false) →
        answer = .ok (((later.filterMap
          (Operation.gives? address (bus.selector select))).getLast?).getD otherwise &&&
            width.mask) := by
  intro bus answer
  have hanswer : answer = .ok (bus.steady address &&& width.mask) :=
    congrArg Prod.fst (read_eq_steady hfault hscript width)
  rw [hanswer]
  refine ⟨fun hnever => ?_, fun earlier select otherwise later hsplit hlater => ?_⟩
  · have hnone : bus.strobes.get? address = none := strobes_after {} address hnever
    rw [steady_eq_level hnone]
  · -- The strobe leaves a register without values, and the later operations give it some.
    have hbus : bus = ((({} : MemoryBus).after earlier).strobe address select otherwise).after
        later := by
      show ({} : MemoryBus).after operations = _
      rw [hsplit, after_append]
      rfl
    have hstrobed : bus.strobes.get? address =
        some (later.foldl (Strobed.given address) { select, otherwise }) := by
      rw [hbus, strobes_after _ address hlater]
      exact congrArg (Option.map _) (Table.get?_put_self ..)
    obtain ⟨hselect, hotherwise, hvalues⟩ :=
      foldl_given address later (bus.selector select) { select, otherwise }
    rw [steady_of_strobed hstrobed, hselect, hotherwise, hvalues]
    cases (later.filterMap (Operation.gives? address (bus.selector select))).getLast? <;> rfl

-- A read that fails takes nothing, and what is scripted later waits for what was before.
example : (({} : MemoryBus).deeds [.script 8 [0x01FF], .failReads 8 1, .read 8 .word,
    .script 8 [7], .read 8 .byte, .read 8 .word, .read 8 .word]).map Deed.got? =
      [none, none, none, none, some 0x00FF, some 7, some 0] := by decide

end MemoryBus

end InputBridge
