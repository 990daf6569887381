import CnwanOperator.Command.Precedence
import CnwanOperator.Go.Errors
import Mathlib.Tactic.SplitIfs

/-! # `validateAndMergeOperatorSettings`

The operator settings merge of the root command. Labels are not merged yet
(the source leaves them for a later version) and `WatchAllNamespaces` is
taken from the CLI record, into which the caller has already copied the
file's value when the flag was not given. -/

namespace CnwanOperator.Command

def validateAndMergeOperatorSettings (fromCli : Operator) (fromFile : Option Operator) :
    Except Error Operator :=
  let serviceAnnotations := cliOrFileList fromCli.serviceFilters.annotations
    (fromFile.map (·.serviceFilters.annotations))
  if serviceAnnotations.length = 0 then .error (.other "no annotations provided")
  else
    let networkName := cliOrFileString fromCli.cloudMetadata.network
      (fromFile.map (·.cloudMetadata.network))
    let subnetworkName := cliOrFileString fromCli.cloudMetadata.subNetwork
      (fromFile.map (·.cloudMetadata.subNetwork))
    .ok {
      watchAllNamespaces := fromCli.watchAllNamespaces
      serviceFilters := { annotations := serviceAnnotations, labels := [] }
      cloudMetadata := { network := networkName, subNetwork := subnetworkName } }

theorem validateAndMergeOperatorSettings_ok {fromCli settings : Operator}
    {fromFile : Option Operator}
    (merged : validateAndMergeOperatorSettings fromCli fromFile = .ok settings) :
    settings.serviceFilters.annotations = cliOrFileList fromCli.serviceFilters.annotations
        (fromFile.map (·.serviceFilters.annotations)) ∧
      settings.cloudMetadata.network = cliOrFileString fromCli.cloudMetadata.network
        (fromFile.map (·.cloudMetadata.network)) ∧
      settings.cloudMetadata.subNetwork = cliOrFileString fromCli.cloudMetadata.subNetwork
        (fromFile.map (·.cloudMetadata.subNetwork)) ∧
      settings.watchAllNamespaces = fromCli.watchAllNamespaces ∧
      settings.serviceFilters.labels = [] := by
  unfold validateAndMergeOperatorSettings at merged
  dsimp only at merged
  split_ifs at merged
  cases merged
  exact ⟨rfl, rfl, rfl, rfl, rfl⟩

/-- Each field of two successful merges with one CLI record agrees when the
CLI sets it or the two files agree on it, an absent file counting as one
whose fields are all empty. -/
theorem validateAndMergeOperatorSettings_per_field {fromCli one two : Operator}
    {first second : Option Operator}
    (firstMerged : validateAndMergeOperatorSettings fromCli first = .ok one)
    (secondMerged : validateAndMergeOperatorSettings fromCli second = .ok two) :
    (fromCli.serviceFilters.annotations ≠ [] ∨
        (first.map (·.serviceFilters.annotations)).getD [] =
          (second.map (·.serviceFilters.annotations)).getD [] →
        one.serviceFilters.annotations = two.serviceFilters.annotations) ∧
      (fromCli.cloudMetadata.network ≠ "" ∨
        (first.map (·.cloudMetadata.network)).getD "" =
          (second.map (·.cloudMetadata.network)).getD "" →
        one.cloudMetadata.network = two.cloudMetadata.network) ∧
      (fromCli.cloudMetadata.subNetwork ≠ "" ∨
        (first.map (·.cloudMetadata.subNetwork)).getD "" =
          (second.map (·.cloudMetadata.subNetwork)).getD "" →
        one.cloudMetadata.subNetwork = two.cloudMetadata.subNetwork) := by
  obtain ⟨oneAnnotations, oneNetwork, oneSubNetwork, -⟩ :=
    validateAndMergeOperatorSettings_ok firstMerged
  obtain ⟨twoAnnotations, twoNetwork, twoSubNetwork, -⟩ :=
    validateAndMergeOperatorSettings_ok secondMerged
  rw [oneAnnotations, twoAnnotations, oneNetwork, twoNetwork, oneSubNetwork, twoSubNetwork]
  exact ⟨cliOrFileList_congr, cliOrFileString_congr, cliOrFileString_congr⟩

/-- Two files that set one network and different subnetworks, merged with a
CLI record that sets neither: the two merges agree on the network. -/
theorem validateAndMergeOperatorSettings_per_field_network :
    validateAndMergeOperatorSettings ⟨false, ⟨[], ["cnwan.io/*"]⟩, ⟨"", ""⟩⟩
        (some ⟨true, ⟨[], []⟩, ⟨"vpc", "sub-a"⟩⟩) =
      .ok ⟨false, ⟨[], ["cnwan.io/*"]⟩, ⟨"vpc", "sub-a"⟩⟩ ∧
    validateAndMergeOperatorSettings ⟨false, ⟨[], ["cnwan.io/*"]⟩, ⟨"", ""⟩⟩
        (some ⟨false, ⟨[], []⟩, ⟨"vpc", "sub-b"⟩⟩) =
      .ok ⟨false, ⟨[], ["cnwan.io/*"]⟩, ⟨"vpc", "sub-b"⟩⟩ ∧
    (⟨false, ⟨[], ["cnwan.io/*"]⟩, ⟨"vpc", "sub-a"⟩⟩ : Operator).cloudMetadata.network =
      (⟨false, ⟨[], ["cnwan.io/*"]⟩, ⟨"vpc", "sub-b"⟩⟩ : Operator).cloudMetadata.network :=
  (fun first => (fun second =>
    ⟨first, second, (validateAndMergeOperatorSettings_per_field first second).2.1 (.inr rfl)⟩) rfl)
    rfl

end CnwanOperator.Command
