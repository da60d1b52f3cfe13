import InputBridge.Proofs.Config.Readers

/-!
# Configurations that are cut or continued

A configuration is always in brackets. `parse_cut_or_continued` says what this means for its
text: cut before the last bracket it is malformed, and behind it there may be blanks and
nothing else. That a cut text is not read as a smaller configuration, and is not refused for
another reason, is due to how its tokens are cut (`Json.tokens_cut`) and to how the reader
goes through them (`readConfig_encloses`).
-/

namespace InputBridge

open Json (tokens Token)

namespace Config

/-- An accepted text is malformed wherever it is cut before its last bracket. Continued by
blanks it gives the same configuration, and continued by anything else it is malformed, too. -/
theorem parse_cut_or_continued {text : String} {config : Config} (h : parse text = .ok config) :
    (∃ body closing blanks, text.toList = body ++ closing :: blanks ∧
      (closing = '\x7d' ∨ closing = ']') ∧ (∀ c ∈ blanks, Json.isBlank c = true) ∧
      ∀ cut : String, cut.toList <+: body → parse cut = .error (.malformed .malformed)) ∧
    ∀ more : String, parse (text ++ more) =
      if more.toList.all Json.isBlank = true then .ok config
      else .error (.malformed .malformed) := by
  obtain ⟨hread, hvalid⟩ := parse_eq_ok_iff.mp h
  obtain ⟨inner, closing, htokens, hencloses⟩ := readConfig_encloses hread
  have hshows := Json.showsAll_tokens text.toList (htokens ▸ hencloses.takes.clean)
  rw [htokens] at hshows
  refine ⟨?_, fun more => ?_⟩
  · obtain ⟨body, c, tail, blanks, htext, hbody, hlast, hblanks⟩ := hshows.split_last
    obtain ⟨hc, rfl⟩ := hlast.closing hencloses.closes
    refine ⟨body, c, blanks, htext, hc, hblanks, fun cut hcut => ?_⟩
    refine parse_of_readText_error ?_
    unfold readText
    rw [hencloses.unclosed _ (Json.tokens_cut hbody hcut)]
    rfl
  · have hlast : ∀ t ∈ (inner ++ [closing]).getLast?, t.isInteger = false := by
      intro t ht
      rw [List.getLast?_concat] at ht
      obtain rfl := Option.some.inj ht
      rcases hencloses.closes with rfl | rfl <;> rfl
    have hmore := Json.tokens_append hshows hlast more.toList
    have hread' : readConfig (tokens (text ++ more).toList) = .ok (config, tokens more.toList) := by
      rw [String.toList_append, hmore, List.append_assoc]
      exact hencloses.goesOn (tokens more.toList)
    have hnone : tokens more.toList = [] ↔ more.toList.all Json.isBlank = true :=
      Json.tokens_eq_nil_iff.trans List.all_eq_true.symm
    split
    next hblanks =>
      rw [hnone.mpr hblanks] at hread'
      exact parse_eq_ok_iff.mpr ⟨hread', hvalid⟩
    next hblanks =>
      refine parse_of_readText_error ?_
      rw [readText_of_ok hread', if_neg (hnone.not.mpr hblanks)]

/-- Two fields in an array, cut within the second number, and continued by a line end and by
another bracket. -/
theorem parse_cut_number :
    parse "[5,60]" = .ok { pollInterval := 5, idleSleep := 60 } ∧
      parse "[5,6" = .error (.malformed .malformed) ∧
      parse ("[5,60]" ++ "\n") = .ok { pollInterval := 5, idleSleep := 60 } ∧
      parse ("[5,60]" ++ "]") = .error (.malformed .malformed) := by
  have htext : parse "[5,60]" = .ok { pollInterval := 5, idleSleep := 60 } := by decide +kernel
  obtain ⟨⟨body, closing, blanks, hbody, -, hblanks, hcut⟩, hmore⟩ := parse_cut_or_continued htext
  refine ⟨htext, hcut _ ?_, (hmore "\n").trans (if_pos (by decide)),
    (hmore "]").trans (if_neg (by decide))⟩
  -- The text ends with its last bracket, and the rest of it is the body.
  have hnone : blanks = [] := by
    rcases List.eq_nil_or_concat' blanks with rfl | ⟨others, b, rfl⟩
    · rfl
    · have hlast := congrArg List.getLast? hbody
      rw [← List.cons_append, ← List.append_assoc, List.getLast?_concat] at hlast
      have hend : "[5,60]".toList.getLast? = some ']' := by decide
      obtain rfl := Option.some.inj (hend.symm.trans hlast)
      exact absurd (hblanks ']' (by simp)) (by decide)
  rw [hnone] at hbody
  have hdropped := congrArg List.dropLast hbody
  rw [List.dropLast_concat] at hdropped
  rw [← hdropped]
  decide

end Config

end InputBridge
