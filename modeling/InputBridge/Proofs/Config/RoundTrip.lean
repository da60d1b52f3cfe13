import InputBridge.Config.Reader
import InputBridge.Proofs.Json.Spelling
import Mathlib.Data.List.Forall2

/-!
# Configurations read back

A configuration may be written in many ways: as an object with its fields in any order, or
as an array with the first of them; in both forms a field may be left out where it has its
default (`IsObject`, `IsArray`). Whichever way is taken, and whatever blanks are put
between the tokens, a valid configuration is read back as it was (`parse_eq_ok`).

The proof goes up through the readers. Each reads its value and stops right after it;
`AgreeOn` says what a value does to the configuration that it is read into, one field and
no other.
-/

namespace InputBridge

open Json (Token tokens SpellsAll Separated)

namespace Config

/-! ## The ways to write a configuration -/

/-- Two configurations have the same value of a field. -/
def AgreeOn (c d : Config) : ConfigField → Prop
  | .pollInterval => c.pollInterval = d.pollInterval
  | .idleSleep => c.idleSleep = d.idleSleep
  | .settle => c.settle = d.settle
  | .chipset => c.chipset = d.chipset
  | .mousePorts => c.mousePorts = d.mousePorts
  | .maxMouseDelta => c.maxMouseDelta = d.maxMouseDelta
  | .keyboard => c.keyboard = d.keyboard
  | .mouse => c.mouse = d.mouse
  | .lightpen => c.lightpen = d.lightpen

/-- Lists of tokens with a comma between any two, and a token before and after them. -/
def enclosed (opening : Token) (elements : List (List Token)) (closing : Token) : List Token :=
  opening :: ([Token.comma].intercalate elements ++ [closing])

/-- The ways to give the value that a field has in a configuration. -/
inductive IsValue (config : Config) : ConfigField → List Token → Prop where
  | pollInterval : IsValue config .pollInterval [.integer config.pollInterval.toNat]
  | idleSleep : IsValue config .idleSleep [.integer config.idleSleep.toNat]
  | settle : IsValue config .settle [.integer config.settle.toNat]
  | chipset : IsValue config .chipset [.text config.chipset.name]
  | chipsetObject : IsValue config .chipset
      [.openBrace, .text config.chipset.name, .colon, .null, .closeBrace]
  | mousePorts : IsValue config .mousePorts
      (enclosed .openBracket (config.mousePorts.map fun port => [.integer port.index])
        .closeBracket)
  | maxMouseDelta : IsValue config .maxMouseDelta [.integer config.maxMouseDelta.toInt]
  | keyboard : IsValue config .keyboard [.truth config.keyboard]
  | mouse : IsValue config .mouse [.truth config.mouse]
  | lightpen : IsValue config .lightpen [.truth config.lightpen]

/-- A member of an object gives the name of a field and its value. -/
def IsMember (config : Config) (field : ConfigField) (member : List Token) : Prop :=
  ∃ value, config.IsValue field value ∧ member = .text field.name :: .colon :: value

/-- An object gives some fields, each at most once and in any order. The others have their
defaults. -/
def IsObject (config : Config) (ts : List Token) : Prop :=
  ∃ (fields : List ConfigField) (members : List (List Token)), fields.Nodup ∧
    (∀ field ∉ fields, config.AgreeOn {} field) ∧
    List.Forall₂ config.IsMember fields members ∧ ts = enclosed .openBrace members .closeBrace

/-- An array gives the first fields in order. The others have their defaults. -/
def IsArray (config : Config) (ts : List Token) : Prop :=
  ∃ (count : Nat) (values : List (List Token)),
    (∀ field ∈ ConfigField.all.drop count, config.AgreeOn {} field) ∧
    List.Forall₂ config.IsValue (ConfigField.all.take count) values ∧
    ts = enclosed .openBracket values .closeBracket

theorem eq_of_agreeOn {c d : Config} (h : ∀ field, c.AgreeOn d field) : c = d := by
  cases c
  cases d
  congr 1
  · exact h .pollInterval
  · exact h .idleSleep
  · exact h .settle
  · exact h .chipset
  · exact h .mousePorts
  · exact h .maxMouseDelta
  · exact h .keyboard
  · exact h .mouse
  · exact h .lightpen

theorem AgreeOn.refl (c : Config) (field : ConfigField) : c.AgreeOn c field := by
  cases field <;> rfl

theorem AgreeOn.symm {c d : Config} {field : ConfigField} (h : c.AgreeOn d field) :
    d.AgreeOn c field := by
  cases field <;> exact Eq.symm h

theorem AgreeOn.trans {c d e : Config} {field : ConfigField} (h : c.AgreeOn d field)
    (h' : d.AgreeOn e field) : c.AgreeOn e field := by
  cases field <;> exact Eq.trans h h'

/-! ## Lists of elements -/

/-- Elements with a comma between any two: the first one, and the others behind a comma. -/
theorem intercalate_comma (first : List Token) (others : List (List Token)) :
    [Token.comma].intercalate (first :: others) =
      first ++ others.flatMap (Token.comma :: ·) := by
  induction others generalizing first with
  | nil => simp
  | cons second others ih =>
    rw [List.intercalate_cons_cons, ih, List.append_assoc]
    rfl

/-- Commas and brackets keep the integers of different elements apart. -/
theorem separated_enclosed {opening closing : Token} {elements : List (List Token)}
    (hopening : opening.isInteger = false) (hclosing : closing.isInteger = false)
    (h : ∀ element ∈ elements, Separated element) :
    Separated (enclosed opening elements closing) := by
  have hclose : Separated [closing] := List.isChain_singleton _
  refine Separated.cons hopening ?_
  cases elements with
  | nil => exact hclose
  | cons first others =>
    obtain ⟨hfirst, hothers⟩ := List.forall_mem_cons.mp h
    rw [intercalate_comma, List.append_assoc]
    have htail : ∀ others : List (List Token), (∀ element ∈ others, Separated element) →
        Separated (others.flatMap (Token.comma :: ·) ++ [closing]) ∧
          ∀ t ∈ (others.flatMap (Token.comma :: ·) ++ [closing]).head?, t.isInteger = false := by
      intro others
      induction others with
      | nil => exact fun _ => ⟨hclose, fun t ht => Option.some.inj ht ▸ hclosing⟩
      | cons next others ih =>
        intro h
        obtain ⟨hnext, hothers⟩ := List.forall_mem_cons.mp h
        obtain ⟨hseparated, hhead⟩ := ih hothers
        rw [List.flatMap_cons, List.append_assoc]
        exact ⟨.cons rfl (hnext.append hseparated hhead), fun t ht => Option.some.inj ht ▸ rfl⟩
    obtain ⟨hseparated, hhead⟩ := htail others hothers
    exact hfirst.append hseparated hhead

theorem IsValue.separated {config : Config} {field : ConfigField} {value : List Token}
    (h : config.IsValue field value) : Separated value := by
  cases h with
  | chipsetObject => simp [Separated, Token.isInteger]
  | mousePorts =>
    refine separated_enclosed rfl rfl fun element hin => ?_
    obtain ⟨port, _, rfl⟩ := List.mem_map.mp hin
    exact List.isChain_singleton _
  | _ => exact List.isChain_singleton _

theorem IsMember.separated {config : Config} {field : ConfigField} {member : List Token}
    (h : config.IsMember field member) : Separated member := by
  obtain ⟨value, hvalue, rfl⟩ := h
  exact .cons rfl (.cons rfl hvalue.separated)

theorem forall_mem_of_forall₂ {α β : Type} {R : α → β → Prop} {P : β → Prop}
    (hP : ∀ a b, R a b → P b) {as : List α} {bs : List β} (h : List.Forall₂ R as bs) :
    ∀ b ∈ bs, P b := by
  induction h with
  | nil => simp
  | cons hab _ ih => exact List.forall_mem_cons.mpr ⟨hP _ _ hab, ih⟩

/-! ## Values -/

theorem readInteger_of_mem {low high value : Int} (h : low ≤ value ∧ value ≤ high)
    (rest : List Token) : readInteger low high (.integer value :: rest) = .ok (value, rest) :=
  if_pos h

/-- A reader goes on with what was read. -/
theorem bind_of_eq_ok {α β : Type} {read : Except ReadProblem (Parsed α)} {value : α}
    {rest : List Token} (h : read = .ok (value, rest)) (next : Parsed α → Except ReadProblem β) :
    (read >>= next) = next (value, rest) := by
  rw [h]
  rfl

theorem readMicros_toNat (micros : UInt64) (rest : List Token) :
    readMicros (.integer micros.toNat :: rest) = .ok (micros, rest) := by
  have hrange : (0 : Int) ≤ micros.toNat ∧ (micros.toNat : Int) ≤ UInt64.size - 1 := by
    have hsmall : micros.toNat < UInt64.size := micros.toNat_lt
    constructor <;> omega
  have hread := bind_of_eq_ok (readInteger_of_mem hrange rest) fun parsed =>
    .ok (UInt64.ofNat parsed.1.toNat, parsed.2)
  rwa [Int.toNat_natCast, UInt64.ofNat_toNat] at hread

theorem readDelta_toInt (delta : Int32) (rest : List Token) :
    readDelta (.integer delta.toInt :: rest) = .ok (delta, rest) := by
  have hrange : Int32.minValue.toInt ≤ delta.toInt ∧ delta.toInt ≤ Int32.maxValue.toInt :=
    ⟨Int32.minValue_le_toInt delta, Int32.toInt_le delta⟩
  have hread := bind_of_eq_ok (readInteger_of_mem hrange rest) fun parsed =>
    .ok (Int32.ofInt parsed.1, parsed.2)
  rwa [Int32.ofInt_toInt] at hread

theorem readPort_index (port : Port) (rest : List Token) :
    readPort (.integer port.index :: rest) = .ok (port, rest) := by
  cases port <;> rfl

theorem readPortsFrom_indices (rest : List Token) : ∀ (port : Port) (ports : List Port),
    readPortsFrom (.integer port.index ::
        (ports.flatMap fun port => [.comma, .integer port.index]) ++ .closeBracket :: rest) =
      .ok (port :: ports, rest)
  | port, [] => by
    show readPortsFrom (.integer port.index :: .closeBracket :: rest) = _
    rw [readPortsFrom, readPort_index]
    rfl
  | port, next :: ports => by
    show readPortsFrom (.integer port.index :: .comma :: (.integer next.index ::
      (ports.flatMap fun port => [.comma, .integer port.index]) ++ .closeBracket :: rest)) = _
    rw [readPortsFrom, readPort_index]
    exact bind_of_eq_ok (readPortsFrom_indices rest next ports) fun parsed =>
      .ok (port :: parsed.1, parsed.2)

theorem readPorts_indices (ports : List Port) (rest : List Token) :
    readPorts (enclosed .openBracket (ports.map fun port => [.integer port.index]) .closeBracket ++
      rest) = .ok (ports, rest) := by
  cases ports with
  | nil => rfl
  | cons port ports =>
    have htokens : enclosed .openBracket ((port :: ports).map fun port => [.integer port.index])
          .closeBracket ++ rest =
        .openBracket :: (.integer port.index ::
          (ports.flatMap fun port => [.comma, .integer port.index]) ++ .closeBracket :: rest) := by
      unfold enclosed
      rw [List.map_cons, intercalate_comma, List.flatMap_map]
      simp
    rw [htokens]
    exact readPortsFrom_indices rest port ports

theorem chipsetNamed_name (chipset : Chipset) : chipsetNamed chipset.name = .ok chipset := by
  cases chipset <;> decide

theorem readChipset_text (chipset : Chipset) (rest : List Token) :
    readChipset (.text chipset.name :: rest) = .ok (chipset, rest) := by
  simp only [readChipset, chipsetNamed_name]
  rfl

theorem readChipset_object (chipset : Chipset) (rest : List Token) :
    readChipset (.openBrace :: .text chipset.name :: .colon :: .null :: .closeBrace :: rest) =
      .ok (chipset, rest) := by
  simp only [readChipset, chipsetNamed_name]
  rfl

/-- `start` with the value that `config` has in one field. -/
def copy (start config : Config) : ConfigField → Config
  | .pollInterval => { start with pollInterval := config.pollInterval }
  | .idleSleep => { start with idleSleep := config.idleSleep }
  | .settle => { start with settle := config.settle }
  | .chipset => { start with chipset := config.chipset }
  | .mousePorts => { start with mousePorts := config.mousePorts }
  | .maxMouseDelta => { start with maxMouseDelta := config.maxMouseDelta }
  | .keyboard => { start with keyboard := config.keyboard }
  | .mouse => { start with mouse := config.mouse }
  | .lightpen => { start with lightpen := config.lightpen }

theorem copy_agreeOn (start config : Config) (field : ConfigField) :
    (start.copy config field).AgreeOn config field := by
  cases field <;> rfl

theorem copy_agreeOn_of_ne (start config : Config) {field other : ConfigField}
    (h : other ≠ field) : (start.copy config field).AgreeOn start other := by
  cases field <;> cases other <;> first | rfl | exact absurd rfl h

/-- The value of a field is read into this field, and the reader stops after it. -/
theorem readField_value {config : Config} {field : ConfigField} {value : List Token}
    (h : config.IsValue field value) (start : Config) (rest : List Token) :
    readField start (value ++ rest) field = .ok (start.copy config field, rest) := by
  cases h with
  | pollInterval => exact bind_of_eq_ok (readMicros_toNat config.pollInterval rest) _
  | idleSleep => exact bind_of_eq_ok (readMicros_toNat config.idleSleep rest) _
  | settle => exact bind_of_eq_ok (readMicros_toNat config.settle rest) _
  | chipset => exact bind_of_eq_ok (readChipset_text config.chipset rest) _
  | chipsetObject => exact bind_of_eq_ok (readChipset_object config.chipset rest) _
  | mousePorts => exact bind_of_eq_ok (readPorts_indices config.mousePorts rest) _
  | maxMouseDelta => exact bind_of_eq_ok (readDelta_toInt config.maxMouseDelta rest) _
  | keyboard => rfl
  | mouse => rfl
  | lightpen => rfl

/-! ## Objects and arrays -/

theorem newField_name {seen : List ConfigField} {field : ConfigField} (h : field ∉ seen) :
    newField seen field.name = .ok field := by
  have hnamed : ConfigField.named? field.name = some field := by cases field <;> decide
  unfold newField
  rw [hnamed]
  exact if_neg h

/-- `read` has the values of `config` in the fields that were read, and those of `start` in
the others. -/
def ReadInto (start config read : Config) (fields : List ConfigField) : Prop :=
  (∀ field ∈ fields, read.AgreeOn config field) ∧ ∀ field ∉ fields, read.AgreeOn start field

theorem ReadInto.single (start config : Config) (field : ConfigField) :
    ReadInto start config (start.copy config field) [field] := by
  refine ⟨fun other hin => ?_, fun other hnot => ?_⟩
  · obtain rfl := List.mem_singleton.mp hin
    exact copy_agreeOn start config other
  · exact copy_agreeOn_of_ne start config fun heq => hnot (List.mem_singleton.mpr heq)

theorem ReadInto.cons {start config read : Config} {field : ConfigField}
    {fields : List ConfigField} (hnew : field ∉ fields)
    (h : ReadInto (start.copy config field) config read fields) :
    ReadInto start config read (field :: fields) := by
  refine ⟨List.forall_mem_cons.mpr ⟨?_, h.1⟩, fun other hnot => ?_⟩
  · exact (h.2 field hnew).trans (copy_agreeOn start config field)
  · obtain ⟨hne, hnot⟩ := List.ne_and_not_mem_of_not_mem_cons hnot
    exact (h.2 other hnot).trans (copy_agreeOn_of_ne start config hne)

/-- With the other fields at their defaults, what was read is the configuration. -/
theorem ReadInto.eq {config read : Config} {fields : List ConfigField}
    (h : ReadInto {} config read fields) (hrest : ∀ field ∉ fields, config.AgreeOn {} field) :
    read = config := by
  refine eq_of_agreeOn fun field => ?_
  by_cases hin : field ∈ fields
  · exact h.1 field hin
  · exact (h.2 field hin).trans (hrest field hin).symm

/-- The members of an object, from the first name to the closing brace. -/
theorem readMembers_members {config : Config} (rest : List Token) {fields : List ConfigField}
    {members : List (List Token)} (h : List.Forall₂ config.IsMember fields members)
    {field : ConfigField} {value : List Token} (hvalue : config.IsValue field value)
    (hnodup : (field :: fields).Nodup) {seen : List ConfigField}
    (hnew : ∀ other ∈ field :: fields, other ∉ seen) (start : Config) {unread : Nat}
    (hunread : fields.length < unread) :
    ∃ read, readMembers unread seen start (.text field.name :: .colon :: (value ++
        (members.flatMap (.comma :: ·) ++ .closeBrace :: rest))) = .ok (read, rest) ∧
      ReadInto start config read (field :: fields) := by
  induction h generalizing field value seen start unread with
  | nil =>
    obtain ⟨unread, rfl⟩ := Nat.exists_eq_succ_of_ne_zero (Nat.ne_zero_of_lt hunread)
    rw [readMembers, newField_name (hnew field (List.mem_cons_self ..))]
    refine ⟨start.copy config field, ?_, .single start config field⟩
    exact bind_of_eq_ok (readField_value hvalue start (.closeBrace :: rest)) _
  | @cons next _ fields members hmember _ ih =>
    obtain ⟨nextValue, hnextValue, rfl⟩ := hmember
    obtain ⟨hfield, hnodup⟩ := List.nodup_cons.mp hnodup
    -- The field that is read now is a seen one for the members after it.
    have hnew' : ∀ other ∈ next :: fields, other ∉ field :: seen := fun other hin =>
      List.not_mem_cons_of_ne_of_not_mem (fun heq => hfield (heq ▸ hin))
        (hnew other (List.mem_cons_of_mem _ hin))
    obtain ⟨unread, rfl⟩ := Nat.exists_eq_succ_of_ne_zero (Nat.ne_zero_of_lt hunread)
    obtain ⟨read, hread, hinto⟩ := ih hnextValue hnodup hnew' (start.copy config field)
      (Nat.lt_of_succ_lt_succ hunread)
    refine ⟨read, ?_, hinto.cons hfield⟩
    rw [readMembers, newField_name (hnew field (List.mem_cons_self ..)), List.flatMap_cons,
      List.append_assoc]
    exact (bind_of_eq_ok (readField_value hvalue start _) _).trans hread

/-- The elements of an array, from the first value to the closing bracket. -/
theorem readElements_values {config : Config} (unread : List ConfigField) (rest : List Token)
    {fields : List ConfigField} {values : List (List Token)}
    (h : List.Forall₂ config.IsValue fields values) {field : ConfigField} {value : List Token}
    (hvalue : config.IsValue field value) (hnodup : (field :: fields).Nodup) (start : Config) :
    ∃ read, readElements start (value ++
        (values.flatMap (.comma :: ·) ++ .closeBracket :: rest)) (field :: fields ++ unread) =
          .ok (read, rest) ∧
      ReadInto start config read (field :: fields) := by
  induction h generalizing field value start with
  | nil =>
    refine ⟨start.copy config field, ?_, .single start config field⟩
    exact bind_of_eq_ok (readField_value hvalue start (.closeBracket :: rest)) _
  | cons hnextValue _ ih =>
    obtain ⟨hfield, hnodup⟩ := List.nodup_cons.mp hnodup
    obtain ⟨read, hread, hinto⟩ := ih hnextValue hnodup (start.copy config field)
    refine ⟨read, ?_, hinto.cons hfield⟩
    rw [List.flatMap_cons, List.append_assoc]
    exact (bind_of_eq_ok (readField_value hvalue start _) _).trans hread

/-! ## Whole texts -/

theorem mem_all_fields (field : ConfigField) : field ∈ ConfigField.all := by
  cases field <;> decide

theorem all_fields_nodup : ConfigField.all.Nodup := by decide

theorem readConfig_of_isObject {config : Config} {ts : List Token} (h : config.IsObject ts) :
    readConfig ts = .ok (config, []) := by
  obtain ⟨fields, members, hnodup, hrest, hmembers, rfl⟩ := h
  cases hmembers with
  | nil =>
    have hdefault : ({} : Config) = config := eq_of_agreeOn fun field =>
      (hrest field List.not_mem_nil).symm
    rw [← hdefault]
    rfl
  | @cons field _ fields members hmember hmembers =>
    obtain ⟨value, hvalue, rfl⟩ := hmember
    have hcount : (field :: fields).length ≤ ConfigField.all.length :=
      (List.subperm_of_subset hnodup fun field _ => mem_all_fields field).length_le
    obtain ⟨read, hread, hinto⟩ := readMembers_members [] hmembers hvalue hnodup
      (fun _ _ => List.not_mem_nil) {} hcount
    rw [hinto.eq hrest] at hread
    unfold enclosed
    rw [intercalate_comma, List.append_assoc]
    exact hread

theorem readConfig_of_isArray {config : Config} {ts : List Token} (h : config.IsArray ts) :
    readConfig ts = .ok (config, []) := by
  obtain ⟨count, values, hdropped, hvalues, rfl⟩ := h
  have hall := List.take_append_drop count ConfigField.all
  have hnodup : (ConfigField.all.take count).Nodup :=
    all_fields_nodup.sublist (List.take_sublist count ConfigField.all)
  have hrest : ∀ field ∉ ConfigField.all.take count, config.AgreeOn {} field := by
    intro field hnot
    have hin := mem_all_fields field
    rw [← hall] at hin
    exact hdropped field ((List.mem_append.mp hin).resolve_left hnot)
  generalize ConfigField.all.take count = fields at hvalues hall hnodup hrest
  cases hvalues with
  | nil =>
    have hdefault : ({} : Config) = config := eq_of_agreeOn fun field =>
      (hrest field List.not_mem_nil).symm
    rw [← hdefault]
    rfl
  | @cons field value fields values hvalue hvalues =>
    obtain ⟨read, hread, hinto⟩ := readElements_values (ConfigField.all.drop count) []
      hvalues hvalue hnodup {}
    rw [hinto.eq hrest, hall] at hread
    have hfirst : ∀ rest, readConfig (.openBracket :: (value ++ rest)) =
        readElements {} (value ++ rest) ConfigField.all := by
      intro rest
      cases hvalue <;> rfl
    unfold enclosed
    rw [intercalate_comma, List.append_assoc, hfirst]
    exact hread

theorem separated_of_isObject {config : Config} {ts : List Token} (h : config.IsObject ts) :
    Separated ts := by
  obtain ⟨_, members, _, _, hmembers, rfl⟩ := h
  exact separated_enclosed rfl rfl
    (forall_mem_of_forall₂ (fun _ _ hmember => hmember.separated) hmembers)

theorem separated_of_isArray {config : Config} {ts : List Token} (h : config.IsArray ts) :
    Separated ts := by
  obtain ⟨_, values, _, hvalues, rfl⟩ := h
  exact separated_enclosed rfl rfl
    (forall_mem_of_forall₂ (fun _ _ hvalue => hvalue.separated) hvalues)

/-- Every way to write a valid configuration is read as this configuration: an object that
gives at least the fields that differ from the defaults, in any order, or an array that
ends after the last of them, with any blanks between the tokens. -/
theorem parse_eq_ok {config : Config} (hvalid : config.validate = .ok ()) {ts : List Token}
    (hwritten : config.IsObject ts ∨ config.IsArray ts) {text : String}
    (hspelled : SpellsAll text.toList ts) : parse text = .ok config := by
  have hread : readConfig ts = .ok (config, []) :=
    hwritten.elim readConfig_of_isObject readConfig_of_isArray
  have htokens : tokens text.toList = ts :=
    Json.tokens_of_spellsAll hspelled (hwritten.elim separated_of_isObject separated_of_isArray)
  have htext : readText text.toList = .ok config := by
    unfold readText
    rw [htokens]
    exact bind_of_eq_ok hread _
  unfold parse
  rw [htext]
  dsimp only
  rw [hvalid]

/-- The longest interval and four fields in no particular order, with a blank and a line end. -/
theorem parse_shuffled :
    let config : Config :=
      { pollInterval := 18446744073709551615, chipset := .aga, mousePorts := [.port1, .port0],
        lightpen := false }
    config.validate = .ok () ∧
      parse ("\x7b\"lightpen\":false,\"chipset\":\x7b\"aga\":null\x7d,\n\"mouse_ports\":[1,0]," ++
        "\"poll_interval_us\": 18446744073709551615\x7d") = .ok config := by
  intro config
  have hvalid : config.validate = .ok () := by decide
  have hdigits : Json.Spells "18446744073709551615".toList (.integer config.pollInterval.toNat) :=
    .natural (n := 18446744073709551615) (by decide)
  have hobject : config.IsObject _ :=
    ⟨[.lightpen, .chipset, .mousePorts, .pollInterval], _, by decide, by
      intro field hnot
      cases field <;> first | rfl | exact absurd (by decide) hnot,
      .cons ⟨_, .lightpen, rfl⟩ <| .cons ⟨_, .chipsetObject, rfl⟩ <|
        .cons ⟨_, .mousePorts, rfl⟩ <| .cons ⟨_, .pollInterval, rfl⟩ .nil, rfl⟩
  refine ⟨hvalid, parse_eq_ok hvalid (.inl hobject) ?_⟩
  have hspelled : SpellsAll _
      [.openBrace, .text "lightpen", .colon, .truth false, .comma,
        .text "chipset", .colon, .openBrace, .text "aga", .colon, .null, .closeBrace, .comma,
        .text "mouse_ports", .colon, .openBracket, .integer 1, .comma, .integer 0, .closeBracket,
        .comma, .text "poll_interval_us", .colon, .integer config.pollInterval.toNat,
        .closeBrace] :=
    .next .openBrace <| .next (Json.spells_text rfl) <| .next .colon <|
    .next (.truth false) <| .next .comma <| .next (Json.spells_text rfl) <|
    .next .colon <| .next .openBrace <| .next (Json.spells_text rfl) <| .next .colon <|
    .next .null <| .next .closeBrace <| .next .comma <|
    @SpellsAll.cons ['\n'] _ _ _ _ (by simp [Json.isBlank]) (Json.spells_text rfl) <|
    .next .colon <| .next .openBracket <| .next (.natural (n := 1) (by decide)) <| .next .comma <|
    .next (.natural (n := 0) (by decide)) <| .next .closeBracket <| .next .comma <|
    .next (Json.spells_text rfl) <| .next .colon <|
    @SpellsAll.cons [' '] _ _ _ _ (by simp [Json.isBlank]) hdigits <| .next .closeBrace .done
  exact hspelled

end Config

end InputBridge
