import Mathlib.Tactic.SplitIfs
import CnwanOperator.Option

/-! # CLI-then-file precedence of one field

`validateAndMergeOperatorSettings` and `mergeEtcdSettings` resolve each of
their string and list fields with the same closure: the CLI value if it is
set, else the file's if there is a file and it is set, else the empty value.
Read through `Option.getD`, an absent file and a file whose field is empty
give the same result. -/

namespace CnwanOperator.Command

/-- The closure for a string field. -/
def cliOrFileString (fromCli : String) (fromFile : Option String) : String :=
  if fromCli ≠ "" then fromCli
  else match fromFile with
    | some file => if file ≠ "" then file else ""
    | none => ""

/-- The closure for a list field, testing `len(...) > 0`. -/
def cliOrFileList (fromCli : List String) (fromFile : Option (List String)) : List String :=
  if 0 < fromCli.length then fromCli
  else match fromFile with
    | some file => if 0 < file.length then file else []
    | none => []

theorem cliOrFileString_eq (fromCli : String) (fromFile : Option String) :
    cliOrFileString fromCli fromFile = if fromCli ≠ "" then fromCli else fromFile.getD "" := by
  unfold cliOrFileString
  split_ifs <;> cases fromFile <;> simp_all

theorem cliOrFileList_eq (fromCli : List String) (fromFile : Option (List String)) :
    cliOrFileList fromCli fromFile = if fromCli ≠ [] then fromCli else fromFile.getD [] := by
  unfold cliOrFileList
  split_ifs <;> cases fromFile <;> simp_all [List.length_pos]

theorem cliOrFileString_congr {fromCli : String} {first second : Option String}
    (settled : fromCli ≠ "" ∨ first.getD "" = second.getD "") :
    cliOrFileString fromCli first = cliOrFileString fromCli second := by
  rw [cliOrFileString_eq, cliOrFileString_eq]
  rcases settled with given | same
  · simp [given]
  · rw [same]

theorem cliOrFileList_congr {fromCli : List String} {first second : Option (List String)}
    (settled : fromCli ≠ [] ∨ first.getD [] = second.getD []) :
    cliOrFileList fromCli first = cliOrFileList fromCli second := by
  rw [cliOrFileList_eq, cliOrFileList_eq]
  rcases settled with given | same
  · simp [given]
  · rw [same]

end CnwanOperator.Command
