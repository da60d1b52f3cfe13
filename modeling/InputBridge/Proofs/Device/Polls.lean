import InputBridge.Event.Group
import InputBridge.Proofs.Bus.History

/-!
# Runs of polls

A device is polled over and over on a bus that others may change between two
polls. `polls` is such a run: one poll per change, each with the device and the
bus that it met. `polls_inv` is the one induction over it: what one more poll
keeps of the polls so far and of the device, a whole run keeps.
-/

namespace InputBridge

/-- One poll: the device and the bus before it, and what it left. -/
structure Polled (β δ ρ : Type) where
  device : δ
  bus : β
  left : Program.Run β Remark (Except BusError ρ × δ)

namespace Polled

variable {β δ ρ : Type}

/-- What the poll answered. -/
def answer (polled : Polled β δ ρ) : Except BusError ρ := polled.left.value.1

/-- The device after the poll. -/
def after (polled : Polled β δ ρ) : δ := polled.left.value.2

/-- The events that the poll attempted. -/
def events (polled : Polled β δ ρ) : List Event := polled.left.remarks.filterMap Remark.event?

end Polled

/-- What holds of every entry of a list with those before it, and of one more entry
with all of them, holds of every entry of the longer list. -/
theorem forall_split_concat {α : Type} {property : List α → α → Prop} {entries : List α} {last : α}
    (h : ∀ earlier entry later, entries = earlier ++ entry :: later → property earlier entry)
    (hlast : property entries last) :
    ∀ earlier entry later, entries ++ [last] = earlier ++ entry :: later →
      property earlier entry := by
  intro earlier entry later heq
  -- Either the entry is the last one, or the list held it before.
  rcases List.append_eq_append_iff.mp heq with ⟨extra, hearlier, hrest⟩ | ⟨extra, hentries, hrest⟩
  · cases extra with
    | nil =>
      rw [List.append_nil] at hearlier
      injection hrest with hentry
      rw [hearlier, ← hentry]
      exact hlast
    | cons _ extra =>
      injection hrest with _ hnil
      exact absurd hnil.symm (by simp)
  · cases extra with
    | nil =>
      rw [List.append_nil] at hentries
      injection hrest with hentry
      rw [← hentries, hentry]
      exact hlast
    | cons first extra =>
      injection hrest with hfirst
      exact h earlier entry extra (hfirst ▸ hentries)

section Runs

variable {β δ ρ : Type} [RegisterBus β]

/-- Polls a device once. -/
def pollOnce (poll : δ → Program Remark (Except BusError ρ × δ)) (device : δ) (bus : β) :
    Polled β δ ρ :=
  ⟨device, bus, (poll device).run bus⟩

/-- Polls a device once per entry of `changes`; each poll comes after one change
of the bus from outside. -/
def polls (poll : δ → Program Remark (Except BusError ρ × δ)) :
    List (β → β) → δ → β → List (Polled β δ ρ)
  | [], _, _ => []
  | change :: rest, device, bus =>
    let polled := pollOnce poll device (change bus)
    polled :: polls poll rest polled.after polled.left.bus

/-- The device after a run of polls. -/
def afterPolls : List (Polled β δ ρ) → δ → δ
  | [], device => device
  | polled :: rest, _ => afterPolls rest polled.after

/-- Everything that happened in a list of polls. -/
def historyOf (poll : δ → Program Remark (Except BusError ρ × δ)) (done : List (Polled β δ ρ)) :
    List (Moment Remark) :=
  done.flatMap fun polled => (poll polled.device).history polled.bus

/-- What one more poll keeps, a run of polls keeps. -/
theorem polls_inv {poll : δ → Program Remark (Except BusError ρ × δ)}
    {inv : List (Polled β δ ρ) → δ → Prop}
    (step : ∀ done device bus, inv done device →
      inv (done ++ [pollOnce poll device bus]) (pollOnce poll device bus).after) :
    ∀ (changes : List (β → β)) {done : List (Polled β δ ρ)} {device : δ} (bus : β),
      inv done device →
      inv (done ++ polls poll changes device bus)
        (afterPolls (polls poll changes device bus) device) := by
  intro changes
  induction changes with
  | nil => intro done device bus h; rw [polls, List.append_nil]; exact h
  | cons change rest ih =>
    intro done device bus h
    rw [polls, afterPolls, List.append_cons]
    exact ih _ (step done device (change bus) h)

end Runs

end InputBridge
