import InputBridge.Proofs.Config.Readers

/-!
# Unknown and repeated names

The reader of an object judges a name as soon as it has read it. `parse_name_refused` says
that nothing can get in the way of this: neither what comes before the name, as long as it
consists of members, nor what follows it, be it JSON or not. It is the name itself that
counts, and not how it is written.
-/

namespace InputBridge

open Json (Token tokens SpellsAll Separated WritesString)

namespace Config

theorem newField_unknown {seen : List ConfigField} {name : String}
    (h : ∀ field : ConfigField, field.name ≠ name) :
    newField seen name = .error (.unknownField name) := by
  have hnone : ConfigField.named? name = none :=
    List.find?_eq_none.mpr fun field _ hname => h field (of_decide_eq_true hname)
  unfold newField
  rw [hnone]

theorem newField_repeated {seen : List ConfigField} {field : ConfigField} (h : field ∈ seen) :
    newField seen field.name = .error (.repeatedField field.name) := by
  have hnamed : ConfigField.named? field.name = some field := by cases field <;> decide
  unfold newField
  rw [hnamed]
  exact if_pos h

/-- A refused name ends the reading, whatever follows it. -/
theorem readMembers_refused {seen : List ConfigField} {name : String} {problem : ReadProblem}
    (h : newField seen name = .error problem) (unread : Nat) (start : Config) (rest : List Token) :
    readMembers unread seen start (.text name :: rest) = .error problem := by
  rw [readMembers, h]
  rfl

/-- Members with a comma after each of them are read, and their fields are seen ones for what
follows them. -/
theorem readMembers_skip {config : Config} {fields : List ConfigField}
    {members : List (List Token)} (h : List.Forall₂ config.IsMember fields members)
    (hnodup : fields.Nodup) {seen : List ConfigField} (hnew : ∀ field ∈ fields, field ∉ seen)
    (unread : Nat) (start : Config) (rest : List Token) :
    ∃ read, readMembers (unread + fields.length) seen start
        (members.flatMap (· ++ [.comma]) ++ rest) =
      readMembers unread (fields.reverse ++ seen) read rest := by
  induction h generalizing seen start with
  | nil => exact ⟨start, rfl⟩
  | @cons field _ fields members hmember _ ih =>
    obtain ⟨value, hvalue, rfl⟩ := hmember
    obtain ⟨hfield, hnodup⟩ := List.nodup_cons.mp hnodup
    have hnew' : ∀ other ∈ fields, other ∉ field :: seen := fun other hin =>
      List.not_mem_cons_of_ne_of_not_mem (fun heq => hfield (heq ▸ hin))
        (hnew other (List.mem_cons_of_mem _ hin))
    obtain ⟨read, hread⟩ := ih hnodup hnew' (start.copy config field)
    refine ⟨read, ?_⟩
    rw [List.flatMap_cons, List.reverse_cons, List.append_assoc, List.append_assoc fields.reverse]
    have hnamed := readMembers_named (newField_name (hnew field (List.mem_cons_self ..)))
      (unread + fields.length + 1) start
      (.colon :: (value ++ .comma :: (members.flatMap (· ++ [.comma]) ++ rest)))
    dsimp only at hnamed
    rw [readElement_of_ok (readField_value hvalue start _)] at hnamed
    simpa [Nat.add_assoc] using hnamed.trans hread

/-! ## Beginnings of objects -/

/-- The tokens of an object up to where another name may stand: some members, with a comma
after each of them. -/
def beginning (members : List (List Token)) : List Token :=
  .openBrace :: members.flatMap (· ++ [.comma])

/-- A text begins an object if it gives some fields, each at most once and in any order. Their
values need not be valid. -/
def BeginsObject (start : List Char) (fields : List ConfigField) : Prop :=
  ∃ (config : Config) (members : List (List Token)), fields.Nodup ∧
    List.Forall₂ config.IsMember fields members ∧ SpellsAll start (beginning members)

/-- Commas keep the integers of different members apart. -/
theorem separated_beginning {config : Config} {fields : List ConfigField}
    {members : List (List Token)} (h : List.Forall₂ config.IsMember fields members) :
    Separated (beginning members) := by
  refine .cons rfl ?_
  induction h with
  | nil => exact List.isChain_nil
  | cons hmember _ ih =>
    rw [List.flatMap_cons, List.append_assoc]
    exact hmember.separated.append (.cons rfl ih) fun t ht => Option.some.inj ht ▸ rfl

theorem getLast?_beginning (members : List (List Token)) :
    ∀ t ∈ (beginning members).getLast?, t.isInteger = false := by
  intro t ht
  rcases List.eq_nil_or_concat' members with rfl | ⟨others, last, rfl⟩
  · obtain rfl := Option.some.inj ht
    rfl
  · have hconcat : beginning (others ++ [last]) = beginning others ++ last ++ [.comma] := by
      simp [beginning]
    rw [hconcat, List.getLast?_concat] at ht
    obtain rfl := Option.some.inj ht
    rfl

theorem readConfig_beginning {config : Config} {fields : List ConfigField}
    {members : List (List Token)} (h : List.Forall₂ config.IsMember fields members) (name : String)
    (rest : List Token) :
    readConfig (beginning members ++ .text name :: rest) =
      readMembers ConfigField.all.length [] {}
        (members.flatMap (· ++ [.comma]) ++ .text name :: rest) := by
  cases h with
  | nil => rfl
  | cons hmember =>
    obtain ⟨value, -, rfl⟩ := hmember
    rfl

/-- In an object that has been read so far, a name that is refused decides. -/
theorem parse_of_newField {start : List Char} {fields : List ConfigField}
    (hstart : BeginsObject start fields) {name : String} {body : List Char}
    (hname : WritesString body name.toList) {problem : ReadProblem}
    (h : newField fields.reverse name = .error problem) {text : String} {rest : List Char}
    (htext : text.toList = start ++ '"' :: (body ++ '"' :: rest)) :
    parse text = .error (.malformed problem) := by
  obtain ⟨config, members, hnodup, hmembers, hspelled⟩ := hstart
  have htokens := Json.tokens_of_spellsAll hspelled (separated_beginning hmembers)
  have hshows := Json.showsAll_tokens start (htokens ▸ hspelled.isClean)
  rw [htokens] at hshows
  have hquoted : tokens ('"' :: (body ++ '"' :: rest)) = .text name :: tokens rest := by
    refine Json.tokens_token (by decide) ?_
    simp only [Json.scanToken, Json.scanString_written hname, String.ofList_toList]
  have hcount : fields.length ≤ ConfigField.all.length :=
    (List.subperm_of_subset hnodup fun field _ => mem_all_fields field).length_le
  obtain ⟨read, hread⟩ := readMembers_skip hmembers hnodup (fun _ _ => List.not_mem_nil)
    (ConfigField.all.length - fields.length) {} (.text name :: tokens rest)
  rw [Nat.sub_add_cancel hcount, List.append_nil, readMembers_refused h] at hread
  refine parse_of_readText_error ?_
  unfold readText
  rw [htext, Json.tokens_append hshows (getLast?_beginning members), hquoted,
    readConfig_beginning hmembers, hread]
  rfl

/-- After some members of an object, a name that no field has is refused, and so is the name of
a field that has been given: as soon as the name is read, however it is written, whatever
follows it, and before the values are validated. -/
theorem parse_name_refused {start : List Char} {fields : List ConfigField}
    (hstart : BeginsObject start fields) {name : String} {body : List Char}
    (hname : WritesString body name.toList) {text : String} (rest : List Char)
    (htext : text.toList = start ++ '"' :: (body ++ '"' :: rest)) :
    ((∀ field : ConfigField, field.name ≠ name) →
      parse text = .error (.malformed (.unknownField name))) ∧
    ((∃ field ∈ fields, field.name = name) →
      parse text = .error (.malformed (.repeatedField name))) := by
  refine ⟨fun hunknown => parse_of_newField hstart hname (newField_unknown hunknown) htext, ?_⟩
  rintro ⟨field, hin, rfl⟩
  exact parse_of_newField hstart hname (newField_repeated (List.mem_reverse.mpr hin)) htext

/-- An interval that is not valid, and then its name once more, with an escape and nothing after
it, or a name that no field has, without a colon. -/
theorem parse_name_refused_escaped :
    BeginsObject "\x7b\"poll_interval_us\":0, ".toList [.pollInterval] ∧
      parse "\x7b\"poll_interval_us\":0, \"poll\\u005finterval_us\"" =
        .error (.malformed (.repeatedField "poll_interval_us")) ∧
      parse "\x7b\"poll_interval_us\":0, \"colou\\u0072\" 1]" =
        .error (.malformed (.unknownField "colour")) := by
  have hstart : BeginsObject "\x7b\"poll_interval_us\":0, ".toList [.pollInterval] := by
    have hspelled : SpellsAll _ (beginning [[.text "poll_interval_us", .colon, .integer 0]]) :=
      .next .openBrace <| .next (Json.spells_text rfl) <| .next .colon <|
      .next (.natural (n := 0) (by decide)) <| .next .comma <|
      @SpellsAll.nil [' '] (by simp [Json.isBlank])
    exact ⟨{ pollInterval := 0 }, _, by decide, .cons ⟨_, .pollInterval, rfl⟩ .nil, hspelled⟩
  have hrepeated : WritesString "poll\\u005finterval_us".toList "poll_interval_us".toList :=
    Json.writesString_iff.mpr (by decide +kernel)
  have hunknown : WritesString "colou\\u0072".toList "colour".toList :=
    Json.writesString_iff.mpr (by decide +kernel)
  refine ⟨hstart, ?_, ?_⟩
  · exact (parse_name_refused hstart hrepeated [] (by decide)).2
      ⟨.pollInterval, by decide, rfl⟩
  · exact (parse_name_refused hstart hunknown " 1]".toList (by decide)).1
      fun field => by cases field <;> decide

end Config

end InputBridge
