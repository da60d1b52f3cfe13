import InputBridge.Proofs.Config.RoundTrip
import InputBridge.Proofs.Json.Cuts

/-!
# Readers go from left to right

Every reader goes through the tokens from left to right and never looks past the value it
reads. So what follows a value does not matter to the reader of this value (`Takes.goesOn`),
and if the value is cut, its reader misses something or has nothing left
(`Takes.unfinished`). A value in brackets is missed as long as the closing bracket is missing
(`Encloses.unclosed`).

Fields, elements and ports are all read in the same way, one after another with commas
between them; `readElement` is what their readers have in common.
-/

namespace InputBridge

open Json (Token tokens Stump Cut)

namespace Config

/-! ## Readers from left to right -/

section

variable {α β : Type} {read : List Token → Except ReadProblem (Parsed α)}

/-- What comes of reading part of a value: something is missing, or nothing is left. -/
def Unfinished (result : Except ReadProblem (Parsed α)) : Prop :=
  result = .error .malformed ∨ ∃ value, result = .ok (value, [])

/-- A reader takes some tokens as a value, whatever follows them. It does not stop before
their end, unless it has nothing left to read. -/
structure Takes (read : List Token → Except ReadProblem (Parsed α)) (used : List Token)
    (value : α) : Prop where
  clean : ∀ t ∈ used, t.isClean = true
  goesOn : ∀ rest, read (used ++ rest) = .ok (value, rest)
  unfinished : ∀ short, Cut short used → Unfinished (read short)

/-- A reader takes some tokens and a closing one as a value, whatever follows them, and it
refuses the tokens as long as the closing one is missing. -/
structure Encloses (read : List Token → Except ReadProblem (Parsed α)) (inner : List Token)
    (closing : Token) (value : α) : Prop where
  clean : ∀ t ∈ inner, t.isClean = true
  closes : closing = .closeBrace ∨ closing = .closeBracket
  goesOn : ∀ rest, read (inner ++ closing :: rest) = .ok (value, rest)
  unclosed : ∀ short, Cut short inner → read short = .error .malformed

/-- A reader from left to right: what it has read are some tokens that it takes. -/
def Orderly (read : List Token → Except ReadProblem (Parsed α)) : Prop :=
  ∀ ⦃ts value rest⦄, read ts = .ok (value, rest) → ∃ used, ts = used ++ rest ∧ Takes read used value

/-- Where a reader went on after another one, this one has read something. -/
theorem exists_of_bind_eq_ok {first : Except ReadProblem α} {next : α → Except ReadProblem β}
    {result : β} (h : (first >>= next) = .ok result) :
    ∃ value, first = .ok value ∧ next value = .ok result := by
  cases first with
  | error problem => exact absurd h (by simp [bind, Except.bind])
  | ok value => exact ⟨value, rfl, h⟩

theorem Orderly.map (h : Orderly read) (f : α → β) :
    Orderly fun ts => read ts >>= fun parsed => .ok (f parsed.1, parsed.2) := by
  intro ts result rest hread
  obtain ⟨⟨value, rest'⟩, hvalue, hresult⟩ := exists_of_bind_eq_ok hread
  obtain ⟨rfl, rfl⟩ := Prod.mk.inj (Except.ok.inj hresult)
  obtain ⟨used, rfl, htakes⟩ := h hvalue
  refine ⟨used, rfl, htakes.clean, fun rest => ?_, fun short hcut => ?_⟩
  · rw [htakes.goesOn rest]
    rfl
  · rcases htakes.unfinished short hcut with hmissing | ⟨value', hall⟩
    · rw [hmissing]
      exact .inl rfl
    · rw [hall]
      exact .inr ⟨f value', rfl⟩

/-- A value of one token. -/
theorem takes_token {t : Token} {value : α} (hclean : t.isClean = true)
    (hread : ∀ rest, read (t :: rest) = .ok (value, rest)) (hnone : read [] = .error .malformed)
    (hstump : ∀ short, Stump short t → Unfinished (read [short])) : Takes read [t] value where
  clean := List.forall_mem_singleton.mpr hclean
  goesOn := hread
  unfinished short hcut := by
    cases hcut with
    | done => exact .inl hnone
    | stump hshort => exact hstump _ hshort
    | keep hafter =>
      cases hafter
      exact .inr ⟨value, hread []⟩

theorem not_stump {short closing : Token} (h : closing = .closeBrace ∨ closing = .closeBracket) :
    ¬Stump short closing := by
  rintro hstump
  rcases h with rfl | rfl <;> cases hstump

theorem comma_ne {closing : Token} (h : closing = .closeBrace ∨ closing = .closeBracket) :
    Token.comma ≠ closing := by
  rcases h with rfl | rfl <;> decide

/-- The closing token is all or nothing. -/
theorem Encloses.takes {inner : List Token} {closing : Token} {value : α}
    (h : Encloses read inner closing value) : Takes read (inner ++ [closing]) value where
  clean := by
    intro t ht
    rcases List.mem_append.mp ht with hin | hclosing
    · exact h.clean t hin
    · obtain rfl := List.mem_singleton.mp hclosing
      rcases h.closes with rfl | rfl <;> rfl
  goesOn rest := by
    rw [List.append_assoc]
    exact h.goesOn rest
  unfinished short hcut := by
    rcases hcut.append with hinner | ⟨later, rfl, hclosing⟩
    · exact .inl (h.unclosed short hinner)
    · cases hclosing with
      | done =>
        rw [List.append_nil]
        exact .inl (h.unclosed inner (.refl inner))
      | stump hstump => exact absurd hstump (not_stump h.closes)
      | keep hnone =>
        cases hnone
        exact .inr ⟨value, h.goesOn []⟩

theorem Encloses.map {inner : List Token} {closing : Token} {value : α}
    (h : Encloses read inner closing value) (f : α → β) :
    Encloses (fun ts => read ts >>= fun parsed => .ok (f parsed.1, parsed.2)) inner closing
      (f value) where
  clean := h.clean
  closes := h.closes
  goesOn rest := by
    rw [h.goesOn rest]
    rfl
  unclosed short hcut := by
    rw [h.unclosed short hcut]
    rfl

/-! ## Lists of elements -/

/-- Reads an element, and then the closing token, or a comma and the others. -/
def readElement (read : List Token → Except ReadProblem (Parsed α)) (closing : Token)
    (last : α → β) (others : α → List Token → Except ReadProblem (Parsed β)) (ts : List Token) :
    Except ReadProblem (Parsed β) := do
  let (value, rest) ← read ts
  match rest with
  | [] => throw .malformed
  | t :: rest =>
    if t = closing then return (last value, rest)
    else if t = .comma then others value rest
    else throw .malformed

variable {closing : Token} {last : α → β} {others : α → List Token → Except ReadProblem (Parsed β)}

theorem readElement_of_unfinished {ts : List Token} (h : Unfinished (read ts)) :
    readElement read closing last others ts = .error .malformed := by
  unfold readElement
  rcases h with hmissing | ⟨value, hall⟩
  · rw [hmissing]
    rfl
  · rw [hall]
    rfl

theorem readElement_of_ok {ts rest : List Token} {t : Token} {value : α}
    (h : read ts = .ok (value, t :: rest)) :
    readElement read closing last others ts =
      if t = closing then .ok (last value, rest)
      else if t = .comma then others value rest
      else .error .malformed := by
  unfold readElement
  rw [h]
  rfl

/-- The last element and the closing token. -/
theorem Takes.closed {used : List Token} {value : α} (h : Takes read used value)
    (hcloses : closing = .closeBrace ∨ closing = .closeBracket) :
    Encloses (readElement read closing last others) used closing (last value) where
  clean := h.clean
  closes := hcloses
  goesOn rest := by
    rw [readElement_of_ok (h.goesOn (closing :: rest)), if_pos rfl]
  unclosed short hcut := readElement_of_unfinished (h.unfinished short hcut)

/-- An element, a comma and the others up to the closing token. -/
theorem Takes.followed {used inner : List Token} {value : α} {result : β}
    (h : Takes read used value) (hothers : Encloses (others value) inner closing result) :
    Encloses (readElement read closing last others) (used ++ .comma :: inner) closing result where
  clean := by
    refine List.forall_mem_append.mpr ⟨h.clean, List.forall_mem_cons.mpr ⟨rfl, hothers.clean⟩⟩
  closes := hothers.closes
  goesOn rest := by
    rw [List.append_assoc, List.cons_append, readElement_of_ok (h.goesOn _),
      if_neg (comma_ne hothers.closes), if_pos rfl]
    exact hothers.goesOn rest
  unclosed short hcut := by
    rcases hcut.append with hwithin | ⟨later, rfl, hlater⟩
    · exact readElement_of_unfinished (h.unfinished short hwithin)
    · cases hlater with
      | done => exact readElement_of_unfinished (.inr ⟨value, h.goesOn []⟩)
      | stump hstump => cases hstump
      | keep hinner =>
        rw [readElement_of_ok (h.goesOn _), if_neg (comma_ne hothers.closes), if_pos rfl]
        exact hothers.unclosed _ hinner

/-- What was read are elements up to the closing token, if this holds of the others. -/
theorem encloses_of_readElement (hread : Orderly read)
    (hcloses : closing = .closeBrace ∨ closing = .closeBracket) {ts rest : List Token} {result : β}
    (h : readElement read closing last others ts = .ok (result, rest))
    (hothers : ∀ value after, after.length < ts.length →
      others value after = .ok (result, rest) →
        ∃ inner, after = inner ++ closing :: rest ∧ Encloses (others value) inner closing result) :
    ∃ inner, ts = inner ++ closing :: rest ∧
      Encloses (readElement read closing last others) inner closing result := by
  obtain ⟨⟨value, after⟩, hvalue, -⟩ := exists_of_bind_eq_ok h
  obtain ⟨used, rfl, htakes⟩ := hread hvalue
  cases after with
  | nil =>
    rw [readElement_of_unfinished (.inr ⟨value, hvalue⟩)] at h
    exact absurd h (by simp)
  | cons t after =>
    rw [readElement_of_ok hvalue] at h
    split at h
    next heq =>
      obtain ⟨rfl, rfl⟩ := Prod.mk.inj (Except.ok.inj h)
      exact ⟨used, by rw [heq], htakes.closed hcloses⟩
    next =>
      split at h
      next heq =>
        obtain ⟨inner, rfl, hinner⟩ := hothers value after (by simp; omega) h
        exact ⟨used ++ .comma :: inner, by rw [heq]; simp, htakes.followed hinner⟩
      next => exact absurd h (by simp)

/-! ## Brackets -/

/-- What was read between brackets are the brackets, and nothing or what is read between them. -/
theorem encloses_of_brackets {opening : Token} {more : List Token → Except ReadProblem (Parsed α)}
    {empty : α} (hopening : opening = .openBrace ∨ opening = .openBracket)
    (hcloses : closing = .closeBrace ∨ closing = .closeBracket)
    (hnone : read [] = .error .malformed) (hnothing : more [] = .error .malformed)
    (hempty : ∀ rest, read (opening :: closing :: rest) = .ok (empty, rest))
    (hmore : ∀ ts, ts.head? ≠ some closing → read (opening :: ts) = more ts)
    {ts rest : List Token} {value : α}
    (hinner : more ts = .ok (value, rest) →
      ∃ inner, ts = inner ++ closing :: rest ∧ Encloses more inner closing value)
    (h : read (opening :: ts) = .ok (value, rest)) :
    ∃ inner, ts = inner ++ closing :: rest ∧ Encloses read (opening :: inner) closing value := by
  have hclean : opening.isClean = true := by
    rcases hopening with rfl | rfl <;> rfl
  have hwhole : ∀ short, ¬Stump short opening := by
    rintro short hstump
    rcases hopening with rfl | rfl <;> cases hstump
  by_cases hhead : ts.head? = some closing
  · obtain ⟨after, rfl⟩ := List.head?_eq_some_iff.mp hhead
    rw [hempty after] at h
    obtain ⟨rfl, rfl⟩ := Prod.mk.inj (Except.ok.inj h)
    refine ⟨[], rfl, by simpa using hclean, hcloses, hempty, fun short hcut => ?_⟩
    cases hcut with
    | done => exact hnone
    | stump hstump => exact absurd hstump (hwhole _)
    | keep hcut =>
      cases hcut
      rw [hmore [] (by simp), hnothing]
  · rw [hmore ts hhead] at h
    obtain ⟨inner, rfl, hencloses⟩ := hinner h
    obtain ⟨first, inner, rfl⟩ : ∃ first others, inner = first :: others :=
      List.exists_cons_of_ne_nil fun hnil => hhead (by rw [hnil]; rfl)
    have hfirst : first ≠ closing := fun heq => hhead (by rw [heq]; rfl)
    refine ⟨first :: inner, rfl, List.forall_mem_cons.mpr ⟨hclean, hencloses.clean⟩, hcloses,
      fun rest => ?_, fun short hcut => ?_⟩
    · refine (hmore _ ?_).trans (hencloses.goesOn rest)
      exact fun heq => hfirst (Option.some.inj heq)
    · cases hcut with
      | done => exact hnone
      | stump hstump => exact absurd hstump (hwhole _)
      | keep hcut =>
        refine (hmore _ ?_).trans (hencloses.unclosed _ hcut)
        -- No stump is a closing token.
        cases hcut with
        | done => simp
        | stump hstump =>
          rintro heq
          obtain rfl := Option.some.inj heq
          rcases hcloses with rfl | rfl <;> cases hstump
        | keep => exact fun heq => hfirst (Option.some.inj heq)

end

/-! ## Values -/

theorem readInteger_orderly {low high : Int} (hlow : low ≤ 0) (hhigh : 0 ≤ high) :
    Orderly (readInteger low high) := by
  intro ts value rest h
  unfold readInteger at h
  split at h
  next n after =>
    split at h
    next hrange =>
      obtain ⟨rfl, rfl⟩ := Prod.mk.inj (Except.ok.inj h)
      refine ⟨[.integer n], rfl, takes_token rfl (fun rest => if_pos hrange) rfl
        fun short hstump => ?_⟩
      cases hstump with
      | sign => exact .inl rfl
      | @digits m _ hbetween => exact .inr ⟨m, if_pos (by omega)⟩
    next => exact absurd h (by simp)
  next => exact absurd h (by simp)

theorem readMicros_orderly : Orderly readMicros :=
  (readInteger_orderly (le_refl 0) (by decide)).map fun value => UInt64.ofNat value.toNat

theorem readDelta_orderly : Orderly readDelta :=
  (readInteger_orderly (by decide) (by decide)).map Int32.ofInt

theorem readSwitch_orderly : Orderly readSwitch := by
  intro ts value rest h
  unfold readSwitch at h
  split at h
  next =>
    obtain ⟨rfl, rfl⟩ := Prod.mk.inj (Except.ok.inj h)
    refine ⟨[.truth _], rfl, takes_token rfl (fun rest => rfl) rfl fun short hstump => ?_⟩
    cases hstump
    exact .inl rfl
  next => exact absurd h (by simp)

theorem eq_index_of_readPort {ts rest : List Token} {port : Port}
    (h : readPort ts = .ok (port, rest)) : ts = .integer port.index :: rest := by
  obtain ⟨⟨value, after⟩, hvalue, hport⟩ := exists_of_bind_eq_ok h
  unfold readInteger at hvalue
  split at hvalue
  next n after' =>
    split at hvalue
    next hrange =>
      obtain ⟨rfl, rfl⟩ := Prod.mk.inj (Except.ok.inj hvalue)
      obtain ⟨number, rfl⟩ := Int.eq_ofNat_of_zero_le hrange.1
      match number, hport with
      | 0, hport | 1, hport =>
        obtain ⟨rfl, rfl⟩ := Prod.mk.inj (Except.ok.inj hport)
        rfl
    next => exact absurd hvalue (by simp)
  next => exact absurd hvalue (by simp)

theorem readPort_orderly : Orderly readPort := by
  intro ts port rest h
  obtain rfl := eq_index_of_readPort h
  refine ⟨[.integer port.index], rfl, takes_token rfl (readPort_index port) rfl
    fun short hstump => ?_⟩
  cases hstump with
  | sign => exact .inl rfl
  | @digits m _ hbetween =>
    have hport : m = Port.port0.index ∨ m = Port.port1.index := by
      cases port <;> simp only [Port.index] at hbetween ⊢ <;> omega
    rcases hport with rfl | rfl
    · exact .inr ⟨.port0, readPort_index .port0 []⟩
    · exact .inr ⟨.port1, readPort_index .port1 []⟩

/-- The number of a port is one token, and the others are left. -/
theorem readPort_cons (t : Token) (rest : List Token) :
    readPort (t :: rest) = readPort [t] >>= fun parsed => .ok (parsed.1, rest) := by
  cases t with
  | integer value =>
    unfold readPort
    by_cases hrange : 0 ≤ value ∧ value ≤ 255
    · rw [bind_of_eq_ok (readInteger_of_mem hrange rest),
        bind_of_eq_ok (readInteger_of_mem hrange [])]
      dsimp only
      cases Port.numbered value.toNat <;> rfl
    · have hout : ∀ rest, readInteger 0 255 (.integer value :: rest) = .error .outOfRange :=
        fun rest => if_neg hrange
      rw [hout, hout]
      rfl
  | _ => rfl

/-- Ports go on with more ports after a comma. -/
theorem readPortsFrom_eq : readPortsFrom = readElement readPort .closeBracket (fun port => [port])
    fun port ts => readPortsFrom ts >>= fun parsed => .ok (port :: parsed.1, parsed.2) := by
  funext ts
  cases ts with
  | nil => rfl
  | cons t rest =>
    unfold readElement
    rw [readPortsFrom, readPort_cons t rest]
    cases readPort [t] with
    | error => rfl
    | ok parsed =>
      cases rest with
      | nil => rfl
      | cons next rest => cases next <;> rfl

theorem readPortsFrom_encloses {ts rest : List Token} {ports : List Port}
    (h : readPortsFrom ts = .ok (ports, rest)) : ∃ inner, ts = inner ++ .closeBracket :: rest ∧
      Encloses readPortsFrom inner .closeBracket ports := by
  -- The others stand further to the right, so the induction is on how many tokens are left.
  induction hlength : ts.length using Nat.strongRecOn generalizing ts ports with
  | ind n ih =>
    rw [readPortsFrom_eq] at h ⊢
    refine encloses_of_readElement readPort_orderly (.inr rfl) h
      fun port after hshorter hafter => ?_
    obtain ⟨⟨others, rest'⟩, hothers, hports⟩ := exists_of_bind_eq_ok hafter
    obtain ⟨rfl, rfl⟩ := Prod.mk.inj (Except.ok.inj hports)
    obtain ⟨inner, rfl, hinner⟩ := ih _ (hlength ▸ hshorter) hothers rfl
    exact ⟨inner, rfl, hinner.map (port :: ·)⟩

theorem readPorts_orderly : Orderly readPorts := by
  intro ts ports rest h
  have hbrackets : ∃ after, ts = .openBracket :: after := by
    unfold readPorts at h
    split at h
    next => exact ⟨_, rfl⟩
    next => exact ⟨_, rfl⟩
    next => exact absurd h (by simp)
  obtain ⟨after, rfl⟩ := hbrackets
  have hmore : ∀ ts, ts.head? ≠ some .closeBracket →
      readPorts (.openBracket :: ts) = readPortsFrom ts := by
    intro ts hhead
    cases ts with
    | nil => rfl
    | cons t ts => cases t <;> first | rfl | exact absurd rfl hhead
  obtain ⟨inner, rfl, hencloses⟩ := encloses_of_brackets (.inr rfl) (.inr rfl) rfl rfl
    (fun _ => rfl) hmore readPortsFrom_encloses h
  exact ⟨_, by simp, hencloses.takes⟩

theorem eq_name_of_chipsetNamed {name : String} {chipset : Chipset}
    (h : chipsetNamed name = .ok chipset) : name = chipset.name := by
  unfold chipsetNamed at h
  split at h
  next found hfound =>
    obtain rfl := Except.ok.inj h
    unfold Chipset.named? at hfound
    simpa [eq_comm] using List.find?_some hfound
  next => exact absurd h (by simp)

/-- A chipset is its name, or an object with a member of this name. -/
theorem eq_of_readChipset {ts rest : List Token} {chipset : Chipset}
    (h : readChipset ts = .ok (chipset, rest)) :
    ts = .text chipset.name :: rest ∨
      ts = .openBrace :: .text chipset.name :: .colon :: .null :: .closeBrace :: rest := by
  unfold readChipset at h
  split at h
  next name after =>
    obtain ⟨named, hnamed, hresult⟩ := exists_of_bind_eq_ok h
    obtain ⟨rfl, rfl⟩ := Prod.mk.inj (Except.ok.inj hresult)
    exact .inl (by rw [eq_name_of_chipsetNamed hnamed])
  next name after =>
    obtain ⟨named, hnamed, hresult⟩ := exists_of_bind_eq_ok h
    split at hresult
    next =>
      obtain ⟨rfl, rfl⟩ := Prod.mk.inj (Except.ok.inj hresult)
      exact .inr (by rw [eq_name_of_chipsetNamed hnamed])
    all_goals exact absurd hresult (by simp [throw, throwThe, MonadExceptOf.throw])
  next => exact absurd h (by simp)

/-- What has to follow the name of a chipset in an object. -/
theorem readChipset_named (chipset : Chipset) (after : List Token) :
    readChipset (.openBrace :: .text chipset.name :: after) =
      match after with
      | .colon :: .null :: .closeBrace :: rest => .ok (chipset, rest)
      | .colon :: .null :: _ => .error .malformed
      | .colon :: rest => .error (unexpected rest)
      | _ => .error .malformed := by
  simp only [readChipset, chipsetNamed_name]
  rfl

theorem readChipset_orderly : Orderly readChipset := by
  intro ts chipset rest h
  rcases eq_of_readChipset h with rfl | rfl
  · refine ⟨[.text chipset.name], rfl, takes_token rfl (readChipset_text chipset) rfl
      fun short hstump => ?_⟩
    cases hstump
    exact .inl rfl
  · have hencloses : Encloses readChipset [.openBrace, .text chipset.name, .colon, .null]
        .closeBrace chipset := by
      refine ⟨by simp [Token.isClean], .inl rfl, readChipset_object chipset, fun short hcut => ?_⟩
      -- One token after the other: the cut is before it, or within it, or behind it.
      rcases hcut with _ | hstump | hcut
      · rfl
      · cases hstump
      rcases hcut with _ | hstump | hcut
      · rfl
      · cases hstump
        rfl
      all_goals rw [readChipset_named]
      rcases hcut with _ | hstump | hcut
      · rfl
      · cases hstump
      rcases hcut with _ | hstump | hcut
      · rfl
      · cases hstump
        rfl
      · cases hcut
        rfl
    exact ⟨_, rfl, hencloses.takes⟩

theorem readField_orderly (start : Config) (field : ConfigField) :
    Orderly fun ts => readField start ts field := by
  cases field with
  | pollInterval => exact readMicros_orderly.map fun pollInterval => { start with pollInterval }
  | idleSleep => exact readMicros_orderly.map fun idleSleep => { start with idleSleep }
  | settle => exact readMicros_orderly.map fun settle => { start with settle }
  | chipset => exact readChipset_orderly.map fun chipset => { start with chipset }
  | mousePorts => exact readPorts_orderly.map fun mousePorts => { start with mousePorts }
  | maxMouseDelta => exact readDelta_orderly.map fun maxMouseDelta => { start with maxMouseDelta }
  | keyboard => exact readSwitch_orderly.map fun keyboard => { start with keyboard }
  | mouse => exact readSwitch_orderly.map fun mouse => { start with mouse }
  | lightpen => exact readSwitch_orderly.map fun lightpen => { start with lightpen }

/-! ## Objects and arrays -/

/-- A member is its name, a colon and a value, and members go on with more of them. -/
theorem readMembers_named {seen : List ConfigField} {name : String} {field : ConfigField}
    (hfield : newField seen name = .ok field) (unread : Nat) (start : Config) (ts : List Token) :
    readMembers unread seen start (.text name :: ts) =
      match unread, ts with
      | unread + 1, .colon :: rest =>
        readElement (fun ts => readField start ts field) .closeBrace id
          (readMembers unread (field :: seen)) rest
      | _, _ => .error .malformed := by
  rw [readMembers, hfield]
  cases unread with
  | zero => rfl
  | succ unread =>
    cases ts with
    | nil => rfl
    | cons t rest =>
      cases t with
      | colon =>
        show (readField start rest field >>= _) = readElement _ _ _ _ rest
        unfold readElement
        dsimp only
        cases readField start rest field with
        | error => rfl
        | ok parsed =>
          obtain ⟨read, after⟩ := parsed
          cases after with
          | nil => rfl
          | cons next after => cases next <;> rfl
      | _ => rfl

/-- Members begin with the name of a field. -/
theorem exists_name_of_readMembers {unread : Nat} {seen : List ConfigField} {start : Config}
    {ts : List Token} {parsed : Parsed Config}
    (h : readMembers unread seen start ts = .ok parsed) :
    ∃ name field after, ts = .text name :: after ∧ newField seen name = .ok field := by
  unfold readMembers at h
  split at h
  next name after =>
    obtain ⟨field, hfield, -⟩ := exists_of_bind_eq_ok h
    exact ⟨name, field, after, rfl, hfield⟩
  next => exact absurd h (by simp)

theorem readMembers_encloses {unread : Nat} {seen : List ConfigField} {start read : Config}
    {ts rest : List Token} (h : readMembers unread seen start ts = .ok (read, rest)) :
    ∃ inner, ts = inner ++ .closeBrace :: rest ∧
      Encloses (readMembers unread seen start) inner .closeBrace read := by
  induction unread generalizing seen start ts with
  | zero =>
    obtain ⟨name, field, after, rfl, hfield⟩ := exists_name_of_readMembers h
    rw [readMembers_named hfield] at h
    exact absurd h (by simp)
  | succ unread ih =>
    obtain ⟨name, field, after, rfl, hfield⟩ := exists_name_of_readMembers h
    rw [readMembers_named hfield] at h
    split at h
    next unread' ts hunread =>
      obtain rfl := Nat.succ.inj hunread
      obtain ⟨inner, rfl, hencloses⟩ := encloses_of_readElement (readField_orderly start field)
        (.inl rfl) h fun _ _ _ hothers => ih hothers
      have hmember : ∀ ts, readMembers (unread + 1) seen start (.text name :: .colon :: ts) =
          readElement (fun ts => readField start ts field) .closeBrace id
            (readMembers unread (field :: seen)) ts :=
        fun ts => readMembers_named hfield (unread + 1) start (.colon :: ts)
      refine ⟨.text name :: .colon :: inner, rfl,
        List.forall_mem_cons.mpr ⟨rfl, List.forall_mem_cons.mpr ⟨rfl, hencloses.clean⟩⟩, .inl rfl,
        fun rest => (hmember _).trans (hencloses.goesOn rest), fun short hcut => ?_⟩
      -- Up to the colon a cut leaves no member to read; behind it, the others decide.
      rcases hcut with _ | hstump | hcut
      · rw [readMembers]
        simp
      · cases hstump
        rw [readMembers]
        simp
      rcases hcut with _ | hstump | hcut
      · exact readMembers_named hfield _ _ []
      · cases hstump
      · exact (hmember _).trans (hencloses.unclosed _ hcut)
    next => exact absurd h (by simp)

/-- Elements go on with the next field after a comma. -/
theorem readElements_eq (field : ConfigField) (fields : List ConfigField) (start : Config) :
    (fun ts => readElements start ts (field :: fields)) =
      readElement (fun ts => readField start ts field) .closeBracket id
        fun read ts => readElements read ts fields := by
  funext ts
  unfold readElement
  rw [readElements]
  dsimp only
  cases readField start ts field with
  | error => rfl
  | ok parsed =>
    obtain ⟨read, after⟩ := parsed
    cases after with
    | nil => rfl
    | cons next after => cases next <;> rfl

theorem readElements_encloses {fields : List ConfigField} {start read : Config}
    {ts rest : List Token} (h : readElements start ts fields = .ok (read, rest)) :
    ∃ inner, ts = inner ++ .closeBracket :: rest ∧
      Encloses (fun ts => readElements start ts fields) inner .closeBracket read := by
  induction fields generalizing start ts with
  | nil => exact absurd h (by simp [readElements])
  | cons field fields ih =>
    have heq := readElements_eq field fields start
    rw [heq]
    exact encloses_of_readElement (readField_orderly start field) (.inr rfl)
      ((congrFun heq ts).symm.trans h) fun _ _ _ hothers => ih hothers

theorem readConfig_encloses {ts rest : List Token} {config : Config}
    (h : readConfig ts = .ok (config, rest)) : ∃ inner closing,
      ts = inner ++ closing :: rest ∧ Encloses readConfig inner closing config := by
  have hbrackets : (∃ after, ts = .openBrace :: after) ∨ ∃ after, ts = .openBracket :: after := by
    unfold readConfig at h
    split at h
    next => exact .inl ⟨_, rfl⟩
    next => exact .inl ⟨_, rfl⟩
    next => exact .inr ⟨_, rfl⟩
    next => exact .inr ⟨_, rfl⟩
    next => exact absurd h (by simp)
  rcases hbrackets with ⟨after, rfl⟩ | ⟨after, rfl⟩
  · have hmore : ∀ ts, ts.head? ≠ some .closeBrace → readConfig (.openBrace :: ts) =
        readMembers ConfigField.all.length [] {} ts := by
      intro ts hhead
      cases ts with
      | nil => rfl
      | cons t ts => cases t <;> first | rfl | exact absurd rfl hhead
    obtain ⟨inner, rfl, hencloses⟩ := encloses_of_brackets (.inl rfl) (.inl rfl) rfl
      (by rw [readMembers]; simp) (fun _ => rfl) hmore readMembers_encloses h
    exact ⟨_, _, rfl, hencloses⟩
  · have hmore : ∀ ts, ts.head? ≠ some .closeBracket → readConfig (.openBracket :: ts) =
        readElements {} ts ConfigField.all := by
      intro ts hhead
      cases ts with
      | nil => rfl
      | cons t ts => cases t <;> first | rfl | exact absurd rfl hhead
    obtain ⟨inner, rfl, hencloses⟩ := encloses_of_brackets (.inr rfl) (.inr rfl) rfl rfl
      (fun _ => rfl) hmore readElements_encloses h
    exact ⟨_, _, rfl, hencloses⟩

/-! ## Whole texts -/

theorem readText_of_ok {text : List Char} {config : Config} {rest : List Token}
    (h : readConfig (tokens text) = .ok (config, rest)) :
    readText text = if rest = [] then .ok config else .error .malformed := by
  unfold readText
  rw [h]
  rfl

theorem parse_of_readText_error {text : String} {problem : ReadProblem}
    (h : readText text.toList = .error problem) : parse text = .error (.malformed problem) := by
  unfold parse
  rw [h]

/-- A text is accepted if its tokens are those of a valid configuration, and nothing is left. -/
theorem parse_eq_ok_iff {text : String} {config : Config} :
    parse text = .ok config ↔
      readConfig (tokens text.toList) = .ok (config, []) ∧ config.validate = .ok () := by
  unfold parse
  cases hread : readConfig (tokens text.toList) with
  | error problem =>
    have htext : readText text.toList = .error problem := by
      unfold readText
      rw [hread]
      rfl
    simp [htext]
  | ok parsed =>
    obtain ⟨read, rest⟩ := parsed
    rw [readText_of_ok hread]
    by_cases hrest : rest = []
    · subst hrest
      rw [if_pos rfl]
      dsimp only
      constructor
      · intro h
        split at h
        next => exact absurd h (by simp)
        next hvalid =>
          obtain rfl := Except.ok.inj h
          exact ⟨rfl, hvalid⟩
      · rintro ⟨heq, hvalid⟩
        obtain ⟨rfl, -⟩ := Prod.mk.inj (Except.ok.inj heq)
        rw [hvalid]
    · simp [hrest]

end Config

end InputBridge
