import InputBridge.CommandLine.Execution
import InputBridge.Proofs.Config.Readers

/-!
# Options over a file

A configuration can be given in a file, with options over it. `Replaces` says field by field
what the options make of a file, without regard to how `override` does it; by
`override_replaces` and `Replaces.eq` there is one such configuration, and it is the one that
`override` gives.

Over files that are valid by themselves, a field that an option gives has no part in the
outcome (`resolve_overrides`). Over other files it has: a file is validated when it is loaded,
before the options come over it, and is refused then, even if the options replace what is
wrong with it (`resolve_invalid_file`).
-/

namespace InputBridge

namespace DeviceOptions

variable {options : DeviceOptions} {file config : Config}

/-! ## What the options make of a file -/

/-- Is the value of this field given by an option? -/
def gives (options : DeviceOptions) : ConfigField → Bool
  | .pollInterval => options.interval.isSome
  | .chipset => options.chipset.isSome
  | .mousePorts => options.mousePorts ≠ []
  | .maxMouseDelta => options.maxDelta.isSome
  | .lightpen => options.noLightpen
  | .idleSleep | .settle | .keyboard | .mouse => false

/-- A configuration has the values that the options give, and those of a file in the other
fields. -/
structure Replaces (options : DeviceOptions) (file config : Config) : Prop where
  interval : ∀ interval, options.interval = some interval → config.pollInterval = interval
  chipset : ∀ chipset, options.chipset = some chipset → config.chipset = chipset
  mousePorts : options.mousePorts ≠ [] → config.mousePorts = options.mousePorts
  maxDelta : ∀ delta, options.maxDelta = some delta → config.maxMouseDelta = delta
  lightpen : options.noLightpen = true → config.lightpen = false
  others : ∀ field, options.gives field = false → config.AgreeOn file field

theorem override_replaces (options : DeviceOptions) (file : Config) :
    options.Replaces file (options.override file) where
  interval interval h := by simp [override, h]
  chipset chipset h := by simp [override, h]
  mousePorts h := if_neg h
  maxDelta delta h := by simp [override, h]
  lightpen h := by simp [override, h]
  others field h := by
    cases field with
    | idleSleep | settle | keyboard | mouse => rfl
    | _ => simp_all [gives, override, Config.AgreeOn]

/-- The values that the options give are the same over any file. -/
theorem Replaces.agreeOn {file' config' : Config} (h : options.Replaces file config)
    (h' : options.Replaces file' config') {field : ConfigField}
    (hgives : options.gives field = true) : config.AgreeOn config' field := by
  cases field with
  | pollInterval =>
    obtain ⟨interval, hinterval⟩ := Option.isSome_iff_exists.mp hgives
    exact (h.interval interval hinterval).trans (h'.interval interval hinterval).symm
  | chipset =>
    obtain ⟨chipset, hchipset⟩ := Option.isSome_iff_exists.mp hgives
    exact (h.chipset chipset hchipset).trans (h'.chipset chipset hchipset).symm
  | mousePorts =>
    have hports := of_decide_eq_true hgives
    exact (h.mousePorts hports).trans (h'.mousePorts hports).symm
  | maxMouseDelta =>
    obtain ⟨delta, hdelta⟩ := Option.isSome_iff_exists.mp hgives
    exact (h.maxDelta delta hdelta).trans (h'.maxDelta delta hdelta).symm
  | lightpen => exact (h.lightpen hgives).trans (h'.lightpen hgives).symm
  | _ => exact absurd hgives Bool.false_ne_true

/-- Over files that differ only where an option gives the value, the options make the same
configuration. -/
theorem Replaces.eq {file' config' : Config} (h : options.Replaces file config)
    (h' : options.Replaces file' config')
    (hfiles : ∀ field, options.gives field = false → file.AgreeOn file' field) :
    config = config' := by
  refine Config.eq_of_agreeOn fun field => ?_
  cases hgives : options.gives field with
  | true => exact h.agreeOn h' hgives
  | false =>
    exact ((h.others field hgives).trans (hfiles field hgives)).trans (h'.others field hgives).symm

/-! ## Resolving -/

variable {read : String → Except FileError String} {path text : String}

/-- A file that reads as a configuration is validated by itself, and then with the options over
it. -/
theorem resolve_of_readText (hpath : options.configPath = some path) (htext : read path = .ok text)
    (hfile : Config.readText text.toList = .ok file) :
    options.resolve read =
      (file.validate >>= fun _ => (options.override file).validate >>= fun _ =>
        .ok (options.override file)) := by
  unfold resolve
  rw [hpath]
  dsimp only
  unfold Config.load
  rw [htext]
  dsimp only
  unfold Config.parse
  rw [hfile]
  dsimp only
  cases file.validate <;> rfl

/-- A file that is not valid by itself is refused, whatever the options make of it. -/
theorem resolve_invalid_file (hpath : options.configPath = some path)
    (htext : read path = .ok text) (hfile : Config.readText text.toList = .ok file)
    {problem : ConfigError} (hinvalid : file.validate = .error problem) :
    options.resolve read = .error problem := by
  rw [resolve_of_readText hpath htext hfile, hinvalid]
  rfl

/-- Over a file that is valid by itself, the options decide. -/
theorem resolve_valid_file (hpath : options.configPath = some path) (htext : read path = .ok text)
    (hfile : Config.readText text.toList = .ok file) (hvalid : file.validate = .ok ())
    (hreplaces : options.Replaces file config) :
    options.resolve read = (config.validate >>= fun _ => .ok config) := by
  rw [resolve_of_readText hpath htext hfile, hvalid,
    hreplaces.eq (override_replaces options file) fun field _ => .refl file field]
  rfl

/-- Of files that read as configurations only what no option gives counts, but for what their
own validation says: files that agree on this, and of which the validation says the same, have
the same outcome. A valid configuration that has the options in place of the values in a file
is the outcome just if the file is valid by itself. -/
theorem resolve_overrides (hpath : options.configPath = some path) (htext : read path = .ok text)
    (hfile : Config.readText text.toList = .ok file)
    {read' : String → Except FileError String} {text' : String} (htext' : read' path = .ok text')
    {file' : Config} (hfile' : Config.readText text'.toList = .ok file')
    (hfiles : ∀ field, options.gives field = false → file.AgreeOn file' field) :
    (file.validate = file'.validate → options.resolve read = options.resolve read') ∧
      ∀ config, options.Replaces file config → config.validate = .ok () →
        (options.resolve read = .ok config ↔ file.validate = .ok ()) := by
  refine ⟨fun hvalidate => ?_, fun config hconfig hvalidConfig => ⟨fun hok => ?_, fun hvalid => ?_⟩⟩
  · have hsame := (override_replaces options file).eq (override_replaces options file') hfiles
    rw [resolve_of_readText hpath htext hfile, resolve_of_readText hpath htext' hfile', hvalidate,
      hsame]
  · cases hvalid : file.validate with
    | ok => rfl
    | error problem =>
      rw [resolve_invalid_file hpath htext hfile hvalid] at hok
      exact absurd hok (by simp)
  · rw [resolve_valid_file hpath htext hfile hvalid hconfig, hvalidConfig]
    rfl

/-- An interval of 1000 over a file with another one, and over an empty object. -/
theorem resolve_overrides_interval :
    let options : DeviceOptions := { configPath := some "c.json", interval := some 1000 }
    let read : String → Except FileError String :=
      fun _ => .ok "\x7b\"poll_interval_us\": 20000\x7d"
    let read' : String → Except FileError String := fun _ => .ok "\x7b\x7d"
    options.resolve read = options.resolve read' ∧
      options.resolve read = .ok { pollInterval := 1000 } := by
  intro options read read'
  have hpath : options.configPath = some "c.json" := rfl
  have htext : read "c.json" = .ok "\x7b\"poll_interval_us\": 20000\x7d" := rfl
  have htext' : read' "c.json" = .ok "\x7b\x7d" := rfl
  have hfile : Config.readText "\x7b\"poll_interval_us\": 20000\x7d".toList =
      .ok { pollInterval := 20000 } := by decide +kernel
  have hfile' : Config.readText "\x7b\x7d".toList = .ok {} := by decide +kernel
  obtain ⟨hsame, hconfig⟩ := resolve_overrides hpath htext hfile htext' hfile'
    fun field hgives => by
      cases field <;> first | rfl | exact absurd hgives (by decide)
  have hreplaces : options.Replaces { pollInterval := 20000 } { pollInterval := 1000 } :=
    override_replaces options { pollInterval := 20000 }
  exact ⟨hsame (by decide), (hconfig _ hreplaces (by decide)).mpr (by decide)⟩

/-- An interval of 0 in the file is not valid. With an interval of 1000 over it the
configuration is valid, and it is refused all the same, but not over an empty object, although
both files differ only in the interval. -/
theorem resolve_refuses_overridden_interval :
    let options : DeviceOptions := { configPath := some "c.json", interval := some 1000 }
    let read : String → Except FileError String := fun _ => .ok "\x7b\"poll_interval_us\": 0\x7d"
    let read' : String → Except FileError String := fun _ => .ok "\x7b\x7d"
    let zero : Config := { pollInterval := 0 }
    let config : Config := { pollInterval := 1000 }
    Config.readText "\x7b\"poll_interval_us\": 0\x7d".toList = .ok zero ∧
      Config.readText "\x7b\x7d".toList = .ok {} ∧
      (∀ field, options.gives field = false → zero.AgreeOn {} field) ∧
      options.Replaces zero config ∧ config.validate = .ok () ∧
      options.resolve read = .error .zeroInterval ∧ options.resolve read' = .ok config := by
  intro options read read' zero config
  have hpath : options.configPath = some "c.json" := rfl
  have htext : read "c.json" = .ok "\x7b\"poll_interval_us\": 0\x7d" := rfl
  have htext' : read' "c.json" = .ok "\x7b\x7d" := rfl
  have hfile : Config.readText "\x7b\"poll_interval_us\": 0\x7d".toList = .ok zero := by
    decide +kernel
  have hfile' : Config.readText "\x7b\x7d".toList = .ok {} := by decide +kernel
  have hinvalid : zero.validate = .error .zeroInterval := by decide
  refine ⟨hfile, hfile', fun field hgives => ?_, override_replaces options zero, by decide, ?_, ?_⟩
  · cases field <;> first | rfl | exact absurd hgives (by decide)
  · exact resolve_invalid_file hpath htext hfile hinvalid
  · exact resolve_valid_file hpath htext' hfile' (by decide) (override_replaces options {})

end DeviceOptions

end InputBridge
