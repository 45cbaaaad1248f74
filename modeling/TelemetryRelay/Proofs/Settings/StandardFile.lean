import Mathlib.Data.String.Basic
import TelemetryRelay.Settings.Loading

/-!
# The standard file

A text in which a mark does not occur is the only part between such marks.  So
the standard file is looked for under its own name first, and the ending of
this name says that it is in TOML.  If it is not there, no file is used.
-/

namespace TelemetryRelay

/-! ## Texts without a mark -/

/-- Looking for a mark that does not come leads to the end of the text. -/
theorem splitOnAux_of_not_mem {mark : Char} {passed rest : List Char} (absent : mark ∉ rest) :
    String.splitOnAux (String.ofList (passed ++ rest)) (String.ofList [mark]) 0
        ⟨String.utf8Len passed⟩ 0 [] = [String.ofList (passed ++ rest)] := by
  induction rest generalizing passed with
  | nil =>
      have ends : String.Pos.Raw.atEnd (String.ofList (passed ++ [])) ⟨String.utf8Len passed⟩ =
          true := by
        simp [-String.ofList_append]
      have whole := String.extract_of_valid [] passed []
      rw [List.nil_append, String.utf8Len_nil, Nat.zero_add] at whole
      rw [String.splitOnAux, if_pos ends, List.append_nil]
      rw [List.append_nil] at whole
      exact congrArg (fun part => [part]) whole
  | cons char rest inductionHypothesis =>
      rw [List.mem_cons, not_or] at absent
      have later := @inductionHypothesis (passed ++ [char]) absent.2
      have ends : ¬String.Pos.Raw.atEnd (String.ofList (passed ++ char :: rest))
          ⟨String.utf8Len passed⟩ = true := by
        have positive := char.utf8Size_pos
        simp [-String.ofList_append]
        omega
      have here : String.Pos.Raw.get (String.ofList (passed ++ char :: rest))
          ⟨String.utf8Len passed⟩ = char := String.get_of_valid passed (char :: rest)
      have first : String.Pos.Raw.get (String.ofList [mark]) 0 = mark :=
        String.get_of_valid [] [mark]
      have next := String.next_of_valid passed char rest
      have apart : ¬(char == mark) = true := by
        rw [beq_iff_eq]
        exact Ne.symm absent.1
      have same : (⟨String.utf8Len passed⟩ : String.Pos.Raw).unoffsetBy 0 =
          ⟨String.utf8Len passed⟩ := rfl
      rw [String.utf8Len_append, List.append_assoc] at later
      rw [String.splitOnAux, if_neg ends, here, first, if_neg apart, same, next]
      simpa using later

theorem splitOn_of_not_mem {text : String} (absent : '/' ∉ text.toList) :
    text.splitOn "/" = [text] := by
  have whole := @splitOnAux_of_not_mem '/' [] text.toList absent
  rw [List.nil_append, String.ofList_toList] at whole
  exact whole

/-! ## Its name and its format -/

namespace Settings

/-- The standard file is looked for under its own name first. -/
theorem candidates_standardFileName :
    exists others, candidates standardFileName = standardFileName :: others := by
  have whole : standardFileName.splitOn "/" = [standardFileName] :=
    splitOn_of_not_mem (by decide)
  have plain : plainPath standardFileName = standardFileName := by
    rw [plainPath, whole]
    decide +kernel
  have file : leadsToDirectory standardFileName = false := by
    rw [leadsToDirectory, whole]
    decide
  refine ⟨(Format.all.flatMap Format.endings).map fun ending =>
    s!"{standardFileName}.{ending}", ?_⟩
  rw [candidates, plain, file]
  rfl

theorem findFile_standardFileName {files : Files} {content : List UInt8}
    (held : files standardFileName = some content) :
    findFile files standardFileName = .ok (standardFileName, content) := by
  obtain ⟨others, first⟩ := candidates_standardFileName
  rw [findFile, first, List.findSome?_cons, held]
  rfl

/-- Without a request and without the standard file no file is used. -/
theorem fileLayer_missing {files : Files}
    (missing : forall name, name ∈ candidates standardFileName -> files name = none) :
    fileLayer files none = .ok [] := by
  have notFound : (candidates standardFileName).findSome?
      (fun name => (files name).map fun content => (name, content)) = none := by
    rw [List.findSome?_eq_none_iff]
    intro name candidate
    rw [missing name candidate]
    rfl
  rw [fileLayer, Option.getD_none, findFile, notFound]
  rfl

theorem ofName_standardFileName : Format.ofName? standardFileName = some .toml := by
  have whole : standardFileName.splitOn "/" = [standardFileName] :=
    splitOn_of_not_mem (by decide)
  rw [Format.ofName?, Format.endingOf?, whole]
  decide

end Settings
end TelemetryRelay
