import InputBridge.Proofs.Device.Polls
import InputBridge.Proofs.Device.Reach
import InputBridge.Proofs.Event.Edges
import InputBridge.Proofs.Matrix.Views

/-!
# The edges of the keyboard

A keyboard that is polled over and over reports exactly how its snapshots
change. After a failed scan a poll does nothing (`poll_of_scan_error`), after a
successful one it reports the edges from the snapshot before to the new one
(`poll_of_scan_ok`). `KInv` is what a run of polls keeps of a keyboard with the
standard matrix. Its history of events is tied to the snapshot in hand, key by key:
the edges of a key alternate, starting with a press, and the last of them says
whether the key is held now.
`keyboard_polls_faithful` reads the whole contract off it.
-/

namespace InputBridge

/-! ## What a host sees of a key -/

/-- The edges of one key in a list of events, `true` for a press. -/
def edgesOf (key : Key) (events : List Event) : List Bool :=
  events.filterMap fun
    | .key which pressed => if which = key then some pressed else none
    | _ => none

/-- Replays one event on the set of held keys. -/
def replay (held : Key → Bool) : Event → Key → Bool
  | .key which pressed => fun key => if which = key then pressed else held key
  | _ => held

/-- The keys held after a list of events, if none is held before it. -/
def heldAfter (events : List Event) : Key → Bool := events.foldl replay fun _ => false

theorem edgesOf_append (key : Key) (earlier later : List Event) :
    edgesOf key (earlier ++ later) = edgesOf key earlier ++ edgesOf key later :=
  List.filterMap_append

/-- A key is held if its last edge was a press. -/
theorem foldl_replay (key : Key) :
    ∀ (events : List Event) (held : Key → Bool),
      events.foldl replay held key = (edgesOf key events).getLastD (held key)
  | [], _ => rfl
  | event :: rest, held => by
    rw [List.foldl_cons, foldl_replay key rest]
    cases event with
    | key which pressed =>
      by_cases h : which = key
      · have hedges : edgesOf key (.key which pressed :: rest) = pressed :: edgesOf key rest := by
          simp [edgesOf, h]
        rw [hedges, List.getLastD_cons]
        simp [replay, h]
      · have hedges : edgesOf key (.key which pressed :: rest) = edgesOf key rest := by
          simp [edgesOf, h]
        rw [hedges]
        simp [replay, h]
    | _ => rfl

/-! ## The edges between two snapshots -/

/-- The edge of one position between two snapshots, if it flipped. -/
def edgeAt (keymap : KeyMap) (earlier later : Snapshot) (p : Position) : Option Event :=
  if later.isPressed p.row p.column = earlier.isPressed p.row p.column then none
  else (keymap.get? p.row p.column).map fun key => .key key (later.isPressed p.row p.column)

/-- `events` are one edge for each position of the matrix that flipped between two
snapshots, and for no other: row by row, each with the key there and its new state. -/
def ReportsFlips (keymap : KeyMap) (earlier later : Snapshot) (events : List Event) : Prop :=
  ∃ flipped : List Position,
    flipped.Pairwise Position.Before ∧
    (∀ p, p ∈ flipped ↔ p.row < rowCount ∧ p.column < columnCount ∧
      later.isPressed p.row p.column ≠ earlier.isPressed p.row p.column) ∧
    List.Forall₂ (fun p event => ∃ key, keymap.get? p.row p.column = some key ∧
      event = .key key (later.isPressed p.row p.column)) flipped events

/-- The edges of a list of positions are edges of those among them that flipped. -/
theorem forall₂_edgeAt (keymap : KeyMap) (earlier later : Snapshot) :
    ∀ {positions : List Position}, (∀ p ∈ positions, p ∈ Position.all) →
      List.Forall₂ (fun p event => ∃ key, keymap.get? p.row p.column = some key ∧
          event = .key key (later.isPressed p.row p.column))
        (positions.filter fun p =>
          later.isPressed p.row p.column ≠ earlier.isPressed p.row p.column)
        (positions.filterMap (edgeAt keymap earlier later))
  | [], _ => .nil
  | p :: rest, hall => by
    have ih := forall₂_edgeAt keymap earlier later
      fun q hq => hall q (List.mem_cons_of_mem _ hq)
    obtain ⟨key, hkey⟩ := keymap.exists_get?_of_mem_all (hall p (List.mem_cons_self ..))
    by_cases h : later.isPressed p.row p.column = earlier.isPressed p.row p.column
    · have hnone : edgeAt keymap earlier later p = none := if_pos h
      rw [List.filter_cons_of_neg (by simp [h]), List.filterMap_cons_none hnone]
      exact ih
    · have hsome : edgeAt keymap earlier later p
          = some (.key key (later.isPressed p.row p.column)) := by
        rw [edgeAt, if_neg h, hkey, Option.map_some]
      rw [List.filter_cons_of_pos (by simp [h]), List.filterMap_cons_some hsome]
      exact .cons ⟨key, hkey, rfl⟩ ih

theorem reportsFlips_edgeAt (keymap : KeyMap) (earlier later : Snapshot) :
    ReportsFlips keymap earlier later (Position.all.filterMap (edgeAt keymap earlier later)) := by
  refine ⟨_, ?_, ?_, forall₂_edgeAt keymap earlier later fun _ h => h⟩
  · exact Position.all_pairwise.filter _
  · intro p
    rw [List.mem_filter, Position.mem_all_iff, decide_eq_true_iff, and_assoc]

/-- Where one entry of a list matters, the list gives that entry or nothing. -/
theorem filterMap_of_only {α β : Type} {f : α → Option β} {home : α} :
    ∀ {l : List α}, l.Nodup → home ∈ l → (∀ a ∈ l, a ≠ home → f a = none) →
      l.filterMap f = (f home).toList
  | [], _, hmem, _ => absurd hmem List.not_mem_nil
  | a :: rest, hnodup, hmem, honly => by
    obtain ⟨hnot, hnodup'⟩ := List.nodup_cons.mp hnodup
    by_cases ha : a = home
    · subst ha
      have hrest : rest.filterMap f = [] := by
        rw [List.filterMap_eq_nil_iff]
        intro b hb
        exact honly b (List.mem_cons_of_mem _ hb) fun he => hnot (he ▸ hb)
      cases hf : f a with
      | none => rw [List.filterMap_cons_none hf, hrest]; rfl
      | some b => rw [List.filterMap_cons_some hf, hrest]; rfl
    · have hin : home ∈ rest := (List.mem_cons.mp hmem).resolve_left fun he => ha he.symm
      rw [List.filterMap_cons_none (honly a (List.mem_cons_self ..) ha)]
      exact filterMap_of_only hnodup' hin fun b hb => honly b (List.mem_cons_of_mem _ hb)

/-- Each key has one position, so between two snapshots it has at most one edge. -/
theorem edgesOf_edgeAt {key : Key} {home : Position} (hhome : KeyMap.standard.IsHome key home)
    (earlier later : Snapshot) :
    edgesOf key (Position.all.filterMap (edgeAt .standard earlier later)) =
      if later.isPressed home.row home.column = earlier.isPressed home.row home.column then []
      else [later.isPressed home.row home.column] := by
  unfold edgesOf
  -- Only the home of the key can give an edge of it; the other positions drop out.
  rw [List.filterMap_filterMap, filterMap_of_only Position.all_nodup hhome.mem]
  · unfold edgeAt
    rw [(hhome.get?_eq_iff home hhome.mem).mpr rfl]
    split
    · rfl
    · simp
  · intro p hp hne
    unfold edgeAt
    split
    · rfl
    · cases hget : KeyMap.standard.get? p.row p.column with
      | none => rfl
      | some other =>
        have hother : other ≠ key := fun he => hne ((hhome.get?_eq_iff p hp).mp (he ▸ hget))
        simp [hother]

/-! ## One poll -/

section Poll

variable {β : Type} [RegisterBus β]

/-- What the scan of a poll answers: the snapshot, unless an access failed. -/
def Polled.scan (polled : Polled β Keyboard Nat) : Except BusError Snapshot :=
  ((polled.device.scan (ω := Remark)).run.run polled.bus).value

/-- The events of a snapshot are the edges from the one held before. -/
theorem changeRemarks_events (keyboard : Keyboard) (snapshot : Snapshot) :
    (keyboard.changeRemarks snapshot).filterMap Remark.event? =
      Position.all.filterMap (edgeAt keyboard.keymap keyboard.held snapshot) := by
  unfold Keyboard.changeRemarks Snapshot.changesFrom
  rw [← List.filterMap_eq_map, List.filterMap_filterMap, List.filterMap_filterMap]
  congr 1
  funext p
  unfold edgeAt
  by_cases h : snapshot.isPressed p.row p.column = keyboard.held.isPressed p.row p.column
  · simp only [if_pos h, Option.bind_none]
  · simp only [if_neg h, Option.bind_some, Function.comp_apply, Keyboard.changeRemark]
    cases hget : keyboard.keymap.get? p.row p.column with
    | none => rfl
    | some key => rfl

/-- A poll whose scan fails says nothing and leaves the keyboard as it was. -/
theorem poll_of_scan_error {keyboard : Keyboard} {bus : β} {cause : BusError}
    (h : (pollOnce Keyboard.poll keyboard bus).scan = .error cause) :
    (pollOnce Keyboard.poll keyboard bus).answer = .error cause ∧
      (pollOnce Keyboard.poll keyboard bus).events = [] ∧
      (pollOnce Keyboard.poll keyboard bus).after = keyboard := by
  have hsilent := (keyboard.scan_within (ω := Remark)).remarks_eq_nil (fun _ h => h) bus
  have hscan : (keyboard.scan (ω := Remark)).run.run bus
      = ⟨.error cause, ((keyboard.scan (ω := Remark)).run.run bus).bus, []⟩ := by
    rw [← hsilent, ← h]
    rfl
  unfold Polled.answer Polled.events Polled.after pollOnce Keyboard.poll
  rw [Program.run_bind, hscan]
  exact ⟨rfl, rfl, rfl⟩

/-- A poll whose scan succeeds reports how the snapshot changed, and keeps it. -/
theorem poll_of_scan_ok {keyboard : Keyboard} {bus : β} {snapshot : Snapshot}
    (h : (pollOnce Keyboard.poll keyboard bus).scan = .ok snapshot) :
    (pollOnce Keyboard.poll keyboard bus).events =
        Position.all.filterMap (edgeAt keyboard.keymap keyboard.held snapshot) ∧
      (pollOnce Keyboard.poll keyboard bus).answer =
        .ok (pollOnce Keyboard.poll keyboard bus).events.length ∧
      (pollOnce Keyboard.poll keyboard bus).after = { keyboard with held := snapshot } := by
  have hsilent := (keyboard.scan_within (ω := Remark)).remarks_eq_nil (fun _ h => h) bus
  have hscan : (keyboard.scan (ω := Remark)).run.run bus
      = ⟨.ok snapshot, ((keyboard.scan (ω := Remark)).run.run bus).bus, []⟩ := by
    rw [← hsilent, ← h]
    rfl
  unfold Polled.answer Polled.events Polled.after pollOnce Keyboard.poll
  rw [Program.run_bind, hscan]
  unfold Keyboard.process
  simp only [Program.run_bind, Program.run_remarks, Program.run_pure, List.nil_append,
    List.append_nil]
  exact ⟨changeRemarks_events keyboard snapshot, trivial, trivial⟩

/-! ## Runs -/

/-- The last snapshot that was scanned in a list of polls; at first every key is up. -/
def lastSnapshot (done : List (Polled β Keyboard Nat)) : Snapshot :=
  (done.filterMap fun polled => polled.scan.toOption).getLastD .released

/-- What a poll does after snapshot `earlier`: nothing if its scan fails, and
otherwise the edges to the new snapshot, their number, and that snapshot kept. -/
def PolledFaithfully (earlier : Snapshot) (polled : Polled β Keyboard Nat) : Prop :=
  polled.device.held = earlier ∧
    match polled.scan with
    | .error cause =>
      polled.answer = .error cause ∧ polled.events = [] ∧ polled.after = polled.device
    | .ok snapshot =>
      ReportsFlips .standard earlier snapshot polled.events ∧
        polled.answer = .ok polled.events.length ∧ polled.after.held = snapshot

/-- A keyboard with the standard matrix after a list of polls: each of them was
faithful, and the history of each key ends in what its position is now. -/
structure KInv (done : List (Polled β Keyboard Nat)) (keyboard : Keyboard) : Prop where
  keymap : keyboard.keymap = .standard
  held : keyboard.held = lastSnapshot done
  faithful : ∀ earlier polled later, done = earlier ++ polled :: later →
    PolledFaithfully (lastSnapshot earlier) polled
  alternates : ∀ key, Alternates (edgesOf key (done.flatMap Polled.events))
  last : ∀ key home, KeyMap.standard.IsHome key home →
    (edgesOf key (done.flatMap Polled.events)).getLastD false =
      keyboard.held.isPressed home.row home.column

theorem lastSnapshot_concat_error {done : List (Polled β Keyboard Nat)}
    {polled : Polled β Keyboard Nat} {cause : BusError} (h : polled.scan = .error cause) :
    lastSnapshot (done ++ [polled]) = lastSnapshot done := by
  unfold lastSnapshot
  rw [List.filterMap_append, List.filterMap_cons_none (by rw [h]; rfl), List.filterMap_nil,
    List.append_nil]

theorem lastSnapshot_concat_ok {done : List (Polled β Keyboard Nat)}
    {polled : Polled β Keyboard Nat} {snapshot : Snapshot} (h : polled.scan = .ok snapshot) :
    lastSnapshot (done ++ [polled]) = snapshot := by
  unfold lastSnapshot
  rw [List.filterMap_append, List.filterMap_cons_some (by rw [h]; rfl), List.filterMap_nil,
    List.getLastD_concat]

theorem kinv_new (map : RegisterMap) :
    KInv ([] : List (Polled β Keyboard Nat)) (Keyboard.new map .standard) where
  keymap := rfl
  held := rfl
  faithful := fun earlier _ _ h => absurd h (by simp)
  alternates := fun _ => .nil false
  last := by
    intro key home _
    exact (Snapshot.isPressed_released home.row home.column).symm

/-- A poll whose scan fails keeps the invariant: it adds no event. -/
theorem KInv.failed {done : List (Polled β Keyboard Nat)} {keyboard : Keyboard} {bus : β}
    (h : KInv done keyboard) {cause : BusError}
    (hscan : (pollOnce Keyboard.poll keyboard bus).scan = .error cause) :
    KInv (done ++ [pollOnce Keyboard.poll keyboard bus])
      (pollOnce Keyboard.poll keyboard bus).after := by
  obtain ⟨hanswer, hevents, hafter⟩ := poll_of_scan_error hscan
  have hhistory : (done ++ [pollOnce Keyboard.poll keyboard bus]).flatMap Polled.events =
      done.flatMap Polled.events := by
    rw [List.flatMap_append, List.flatMap_singleton, hevents, List.append_nil]
  constructor
  case keymap => rw [hafter]; exact h.keymap
  case held => rw [hafter, lastSnapshot_concat_error hscan]; exact h.held
  case faithful =>
    refine forall_split_concat h.faithful ⟨h.held, ?_⟩
    rw [hscan]
    exact ⟨hanswer, hevents, hafter⟩
  case alternates =>
    intro key
    rw [hhistory]
    exact h.alternates key
  case last =>
    intro key home hhome
    rw [hhistory, hafter]
    exact h.last key home hhome

theorem KInv.scanned {done : List (Polled β Keyboard Nat)} {keyboard : Keyboard} {bus : β}
    (h : KInv done keyboard) {snapshot : Snapshot}
    (hscan : (pollOnce Keyboard.poll keyboard bus).scan = .ok snapshot) :
    KInv (done ++ [pollOnce Keyboard.poll keyboard bus])
      (pollOnce Keyboard.poll keyboard bus).after := by
  obtain ⟨hevents, hanswer, hafter⟩ := poll_of_scan_ok hscan
  rw [h.keymap] at hevents
  -- A key has an edge in this poll only if its one position flipped, so its edges follow that.
  have hfollows : ∀ key home, KeyMap.standard.IsHome key home →
      let edges := edgesOf key
        ((done ++ [pollOnce Keyboard.poll keyboard bus]).flatMap Polled.events)
      Alternates edges ∧ edges.getLastD false = snapshot.isPressed home.row home.column := by
    intro key home hhome edges
    have hedges : edges = edgesOf key (done.flatMap Polled.events) ++
        if snapshot.isPressed home.row home.column = keyboard.held.isPressed home.row home.column
        then [] else [snapshot.isPressed home.row home.column] := by
      show edgesOf key _ = _
      rw [List.flatMap_append, List.flatMap_singleton, edgesOf_append, hevents,
        edgesOf_edgeAt hhome]
    rw [hedges]
    exact (h.alternates key).follow (h.last key home hhome) _
  constructor
  case keymap => rw [hafter]; exact h.keymap
  case held => rw [hafter, lastSnapshot_concat_ok hscan]
  case faithful =>
    refine forall_split_concat h.faithful ⟨h.held, ?_⟩
    rw [hscan]
    refine ⟨?_, hanswer, by rw [hafter]⟩
    rw [hevents, h.held]
    exact reportsFlips_edgeAt .standard _ _
  case alternates =>
    intro key
    obtain ⟨home, hhome⟩ := KeyMap.standard_home key
    exact (hfollows key home hhome).1
  case last =>
    intro key home hhome
    rw [hafter]
    exact (hfollows key home hhome).2

theorem kinv_step (done : List (Polled β Keyboard Nat)) (keyboard : Keyboard) (bus : β)
    (h : KInv done keyboard) :
    KInv (done ++ [pollOnce Keyboard.poll keyboard bus])
      (pollOnce Keyboard.poll keyboard bus).after := by
  cases hscan : (pollOnce Keyboard.poll keyboard bus).scan with
  | error cause => exact h.failed hscan
  | ok snapshot => exact h.scanned hscan

/-- **The keyboard end to end.** Over any run of polls of a new keyboard, on any bus:
each poll is faithful to the last snapshot before it, the edges of each key
alternate, and replaying all of them leaves exactly the keys of the last snapshot. -/
theorem keyboard_polls_faithful (map : RegisterMap) (changes : List (β → β)) (bus : β) :
    let done := polls Keyboard.poll changes (Keyboard.new map .standard) bus
    (∀ earlier polled later, done = earlier ++ polled :: later →
        PolledFaithfully (lastSnapshot earlier) polled) ∧
      (∀ key, Alternates (edgesOf key (done.flatMap Polled.events))) ∧
      ∀ key, heldAfter (done.flatMap Polled.events) key = true ↔
        ∃ row < rowCount, ∃ column < columnCount,
          KeyMap.standard.get? row column = some key ∧
            (lastSnapshot done).isPressed row column = true := by
  intro done
  have hinv : KInv done (afterPolls done (Keyboard.new map .standard)) :=
    polls_inv (fun done keyboard bus => kinv_step done keyboard bus) changes bus (kinv_new map)
  refine ⟨hinv.faithful, hinv.alternates, fun key => ?_⟩
  obtain ⟨home, hhome⟩ := KeyMap.standard_home key
  unfold heldAfter
  rw [foldl_replay, hinv.last key home hhome, hinv.held]
  constructor
  · intro hpressed
    obtain ⟨hrow, hcolumn⟩ := Position.mem_all_iff.mp hhome.mem
    have hkey := (hhome.get?_eq_iff home hhome.mem).mpr rfl
    exact ⟨home.row, hrow, home.column, hcolumn, hkey, hpressed⟩
  · rintro ⟨row, hrow, column, hcolumn, hkey, hpressed⟩
    have hat : (⟨row, column⟩ : Position) = home :=
      (hhome.get?_eq_iff ⟨row, column⟩ (Position.mem_all_iff.mpr ⟨hrow, hcolumn⟩)).mp hkey
    rw [← hat]
    exact hpressed

end Poll

end InputBridge
