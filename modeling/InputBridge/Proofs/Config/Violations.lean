import InputBridge.Bus.Memory
import InputBridge.Proofs.Config.Readers
import InputBridge.Proofs.Config.Validity
import InputBridge.Session

/-!
# The first condition that is violated

A configuration can violate several of the four conditions at once, and is refused for the first
of them. `Config.Violates` says which one that is, without regard to how `validate` goes about
it, and `Config.validate_eq_error_iff` that `validate` names it. Of repeated ports it is the one
at the smallest index whose port is listed before it (`FirstRepeat`): the search for it carries
the ports that it has passed, and among those none is repeated.

There are two ports, so a valid configuration lists at most two of them, and a session for it
decodes each of them once (`Config.validate_decides`).
-/

namespace InputBridge

/-! ## Ports that are listed again -/

/-- The port at `index` is listed before it, and no port before it is. -/
structure FirstRepeat (ports : List Port) (index : Nat) (port : Port) : Prop where
  listed : ports[index]? = some port
  again : port ∈ ports.take index
  first : ∀ before < index, ∀ other, ports[before]? = some other → other ∉ ports.take before

/-- In a list without repetition nothing is listed before its place. -/
theorem not_mem_take_of_nodup {ports : List Port} (h : ports.Nodup) {index : Nat} {port : Port}
    (hlisted : ports[index]? = some port) : port ∉ ports.take index := by
  intro hagain
  obtain ⟨before, hlt, hbefore⟩ := List.mem_take_iff_getElem.mp hagain
  have hindex : index < ports.length := (List.getElem?_eq_some_iff.mp hlisted).1
  have hport : ports[index] = port := (List.getElem?_eq_some_iff.mp hlisted).2
  have hsame : before = index := (h.getElem_inj_iff).mp (hbefore.trans hport.symm)
  omega

/-- Behind ports of which none is repeated, the first that stands among them is the first to be
listed again. -/
theorem firstRepeat_append_iff {earlier rest : List Port} (hnodup : earlier.Nodup)
    {other : Port} (hin : other ∈ earlier) {port : Port} :
    (∃ index, FirstRepeat (earlier ++ other :: rest) index port) ↔ other = port := by
  have hhere : (earlier ++ other :: rest)[earlier.length]? = some other := by simp
  have hagain : other ∈ (earlier ++ other :: rest).take earlier.length := by
    rw [List.take_left]
    exact hin
  have hbefore : ∀ before < earlier.length, ∀ named,
      (earlier ++ other :: rest)[before]? = some named →
        named ∉ (earlier ++ other :: rest).take before := by
    intro before hlt named hnamed
    rw [List.getElem?_append_left hlt] at hnamed
    rw [List.take_append_of_le_length (Nat.le_of_lt hlt)]
    exact not_mem_take_of_nodup hnodup hnamed
  constructor
  · rintro ⟨index, hlisted, hrepeated, hfirst⟩
    have hindex : index = earlier.length := by
      refine Nat.le_antisymm (Nat.le_of_not_lt fun hbeyond => ?_) (Nat.le_of_not_lt fun hlt => ?_)
      · exact hfirst earlier.length hbeyond other hhere hagain
      · exact hbefore index hlt port hlisted hrepeated
    subst hindex
    exact Option.some.inj (hhere.symm.trans hlisted)
  · rintro rfl
    exact ⟨earlier.length, hhere, hagain, hbefore⟩

/-- The search finds the first port that is listed again. -/
theorem firstRepeated_eq_some_iff : ∀ {earlier ports : List Port} {port : Port},
    earlier.Nodup → (firstRepeated earlier ports = some port ↔
      ∃ index, FirstRepeat (earlier ++ ports) index port)
  | earlier, [], port, hnodup => by
    refine ⟨fun h => (nomatch h), fun ⟨index, hlisted, hagain, _⟩ => ?_⟩
    rw [List.append_nil] at hlisted hagain
    exact absurd hagain (not_mem_take_of_nodup hnodup hlisted)
  | earlier, other :: rest, port, hnodup => by
    unfold firstRepeated
    by_cases hin : other ∈ earlier
    · rw [if_pos hin, firstRepeat_append_iff hnodup hin, Option.some.injEq]
    · have hlonger : (earlier ++ [other]).Nodup :=
        hnodup.append (List.nodup_singleton other) (by simpa using hin)
      rw [if_neg hin, firstRepeated_eq_some_iff hlonger, List.append_assoc]
      rfl

/-! ## The conditions in order -/

namespace Config

/-- The first of the conditions that a configuration violates. -/
inductive Violates (config : Config) : ConfigError → Prop where
  | interval (h : ¬0 < config.pollInterval) : Violates config .zeroInterval
  | delta (hinterval : 0 < config.pollInterval) (h : ¬0 < config.maxMouseDelta) :
    Violates config .deltaNotPositive
  | port (hinterval : 0 < config.pollInterval) (hdelta : 0 < config.maxMouseDelta) {index : Nat}
    {port : Port} (h : FirstRepeat config.mousePorts index port) :
    Violates config (.repeatedPort port)
  | device (hinterval : 0 < config.pollInterval) (hdelta : 0 < config.maxMouseDelta)
    (hports : config.mousePorts.Nodup)
    (h : ¬(config.keyboard ∨ config.mouse ∨ config.lightpen)) : Violates config .nothingEnabled

theorem validate_eq_error_iff {config : Config} {problem : ConfigError} :
    config.validate = .error problem ↔ config.Violates problem := by
  have hpositive : ¬0 < config.pollInterval ↔ config.pollInterval = 0 := by
    rw [UInt64.pos_iff_ne_zero, not_not]
  have hrepeat : ∀ port, firstRepeated [] config.mousePorts = some port ↔
      ∃ index, FirstRepeat config.mousePorts index port :=
    fun _ => firstRepeated_eq_some_iff List.nodup_nil
  have hdistinct : firstRepeated [] config.mousePorts = none ↔ config.mousePorts.Nodup := by
    simp [firstRepeated_eq_none_iff]
  unfold validate
  constructor
  · intro h
    split at h
    next hinterval =>
      obtain rfl := Except.error.inj h
      exact .interval (hpositive.mpr hinterval)
    next hinterval =>
    have hinterval := not_not.mp (hpositive.not.mpr hinterval)
    split at h
    next hdelta =>
      obtain rfl := Except.error.inj h
      exact .delta hinterval (Int32.not_lt.mpr hdelta)
    next hdelta =>
    have hdelta := Int32.not_le.mp hdelta
    split at h
    next port hport =>
      obtain rfl := Except.error.inj h
      obtain ⟨index, hfirst⟩ := (hrepeat port).mp hport
      exact .port hinterval hdelta hfirst
    next hports =>
    split at h
    next => exact absurd h (by simp)
    next hdevice =>
      obtain rfl := Except.error.inj h
      exact .device hinterval hdelta (hdistinct.mp hports) (by simpa [or_assoc] using hdevice)
  · intro h
    cases h with
    | interval h => rw [if_pos (hpositive.mp h)]
    | delta hinterval h =>
      rw [if_neg (hpositive.not.mp (not_not.mpr hinterval)), if_pos (Int32.not_lt.mp h)]
    | port hinterval hdelta h =>
      rw [if_neg (hpositive.not.mp (not_not.mpr hinterval)), if_neg (Int32.not_le.mpr hdelta),
        (hrepeat _).mpr ⟨_, h⟩]
    | device hinterval hdelta hports h =>
      rw [if_neg (hpositive.not.mp (not_not.mpr hinterval)), if_neg (Int32.not_le.mpr hdelta),
        hdistinct.mpr hports]
      exact if_neg (by simpa [or_assoc] using h)

/-- There are two ports to list. -/
theorem length_mousePorts_le {config : Config} (h : config.mousePorts.Nodup) :
    config.mousePorts.length ≤ 2 := by
  have hall : config.mousePorts ⊆ Port.all := fun port _ => by cases port <;> decide
  exact (List.subperm_of_subset h hall).length_le

end Config

/-! ## The decoders of a session -/

/-- The ports that a session decodes, once for each decoder. -/
def Devices.decodedPorts (devices : Devices) : List Port :=
  (devices.mouse.map Mouse.ports).getD []

/-- With the mouse enabled, every port that a configuration lists gets a decoder. -/
theorem Devices.decodedPorts_ofConfig {config : Config} (hmouse : config.mouse = true) :
    (ofConfig config).decodedPorts = config.mousePorts := by
  unfold decodedPorts ofConfig
  cases hports : config.mousePorts with
  | nil => simp
  | cons port rest => simp [hmouse, Mouse.new]

/-- A decoder has counted nothing yet, and a port that is not listed has none. -/
theorem Devices.state?_ofConfig {config : Config} (hmouse : config.mouse = true) (port : Port) :
    (ofConfig config).mouse.bind (·.state? port) =
      if port ∈ config.mousePorts then some {} else none := by
  unfold ofConfig
  cases hports : config.mousePorts with
  | nil => simp
  | cons first rest =>
    have hnew : ∀ ports delta, (Mouse.new (.forChipset config.chipset) ports delta).state? port =
        if port ∈ ports then some {} else none := by cases port <;> exact fun _ _ => rfl
    simp only [hmouse, List.isEmpty_cons, Bool.not_false, Bool.and_self, if_true,
      Option.bind_some, hnew]

/-- **Validity is decided.** A configuration is valid if and only if its interval and its bound
are positive, no port is listed twice, and some device is enabled. Otherwise it is refused for
the first of these conditions that it violates, and for repeated ports with the one at the
smallest index whose port is listed before it. So a configuration that is read from a text lists
at most two ports and none of them twice, and if it enables the mouse, a session for it has one
decoder, with nothing counted yet, for each listed port and none for another. -/
theorem Config.validate_decides :
    (∀ config : Config,
      (config.validate = .ok () ↔
        0 < config.pollInterval ∧ 0 < config.maxMouseDelta ∧ config.mousePorts.Nodup ∧
          (config.keyboard ∨ config.mouse ∨ config.lightpen)) ∧
      ∀ problem, config.validate = .error problem ↔ config.Violates problem) ∧
    ∀ text config, Config.parse text = .ok config →
      config.mousePorts.length ≤ 2 ∧ config.mousePorts.Nodup ∧
      (config.mouse = true → ∀ {β σ : Type} (bus : β) (sink : σ),
        let devices := (Session.new bus sink config).devices
        devices.decodedPorts = config.mousePorts ∧
        ∀ port, devices.decodedPorts.count port = (if port ∈ config.mousePorts then 1 else 0) ∧
          devices.mouse.bind (·.state? port) =
            if port ∈ config.mousePorts then some {} else none) := by
  refine ⟨fun config => ⟨?_, fun problem => validate_eq_error_iff⟩, fun text config htext => ?_⟩
  · rw [validate_eq_ok_iff, UInt64.pos_iff_ne_zero]
    simp [or_assoc]
  · obtain ⟨-, hvalid⟩ := parse_eq_ok_iff.mp htext
    obtain ⟨-, -, hnodup, -⟩ := validate_eq_ok_iff.mp hvalid
    refine ⟨length_mousePorts_le hnodup, hnodup, fun hmouse β σ bus sink => ?_⟩
    have hdecoded : (Session.new bus sink config).devices.decodedPorts = config.mousePorts :=
      Devices.decodedPorts_ofConfig hmouse
    refine ⟨hdecoded, fun port => ⟨?_, Devices.state?_ofConfig hmouse port⟩⟩
    rw [hdecoded, hnodup.count]

/-- A text that lists both ports, the second one first. -/
theorem Config.validate_decides_both_ports :
    let text := "\x7b\"mouse_ports\":[1,0]\x7d"
    let config : Config := { mousePorts := [.port1, .port0] }
    Config.parse text = .ok config ∧ config.mouse = true ∧
      (Session.new ({} : MemoryBus) ({} : RecordingSink) config).devices.decodedPorts =
        [.port1, .port0] := by
  intro text config
  have htext : Config.parse text = .ok config := by decide +kernel
  exact ⟨htext, rfl, (validate_decides.2 text config htext).2.2 rfl _ _ |>.1⟩

-- Three conditions are violated, and the one that shows is about the port at index 2.
example :
    let config : Config :=
      { mousePorts := [.port0, .port1, .port1, .port0], keyboard := false, mouse := false,
        lightpen := false }
    config.validate = .error (.repeatedPort .port1) := by decide

end InputBridge
