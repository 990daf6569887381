import CnwanOperator.Command.Precedence
import CnwanOperator.Go.Errors
import CnwanOperator.Go.Strings

/-! # `validateAndMergeServiceDirectorySettings`

The Service Directory settings merge: each field is the CLI value if set,
else the file's whenever there is a file, else what the GCP metadata server
says. Unlike the other two merges it tests only whether a file was loaded,
not whether the file sets the field. -/

namespace CnwanOperator.Command

/-- `gcpMetadataRetriever`: what the metadata server answers to `ProjectID()`
and `Zone()` during one merge, which asks each at most once. -/
structure GcpMetadataRetriever where
  projectID : Except Error String
  zone : Except Error String

namespace validateAndMergeServiceDirectorySettings

/-- The `projectID` closure. -/
def projectIDOf (fromCli : ServiceDirectory) (fromFile : Option ServiceDirectory)
    (metadataRetriever : GcpMetadataRetriever) : Except Error String :=
  if fromCli.projectID ≠ "" then .ok fromCli.projectID
  else match fromFile with
    | some file => .ok file.projectID
    | none => metadataRetriever.projectID

/-- The region of a zone: the zone cut at its last dash. -/
def regionOfZone (zone : String) : Except Error String :=
  let i := Strings.lastIndex zone '-'
  if i = -1 then .error (.other ("unexpected zone found: " ++ zone))
  else .ok ⟨zone.data.take i.toNat⟩

/-- The `defaultRegion` closure. -/
def defaultRegionOf (fromCli : ServiceDirectory) (fromFile : Option ServiceDirectory)
    (metadataRetriever : GcpMetadataRetriever) : Except Error String :=
  if fromCli.defaultRegion ≠ "" then .ok fromCli.defaultRegion
  else match fromFile with
    | some file => .ok file.defaultRegion
    | none => metadataRetriever.zone >>= regionOfZone

end validateAndMergeServiceDirectorySettings

open validateAndMergeServiceDirectorySettings in
def validateAndMergeServiceDirectorySettings (fromCli : ServiceDirectory)
    (fromFile : Option ServiceDirectory) (metadataRetriever : GcpMetadataRetriever) :
    Except Error ServiceDirectory := do
  let projectID ← projectIDOf fromCli fromFile metadataRetriever
  let defaultRegion ← defaultRegionOf fromCli fromFile metadataRetriever
  return { projectID := projectID, defaultRegion := defaultRegion }

namespace validateAndMergeServiceDirectorySettings

theorem regionOfZone_spec (zone : String) :
    (∀ error, regionOfZone zone = .error error → '-' ∉ zone.data) ∧
      ∀ region, regionOfZone zone = .ok region →
        ∃ rest, zone = region ++ "-" ++ rest ∧ '-' ∉ rest.data := by
  unfold regionOfZone Strings.lastIndex
  cases found : Strings.lastIndexOf '-' zone.data with
  | none => simpa using Strings.lastIndexOf_eq_none.mp found
  | some index =>
      obtain ⟨rest, split, notMember⟩ := Strings.lastIndexOf_eq_some found
      refine ⟨by simp, fun region merged => ⟨⟨rest⟩, ?_, notMember⟩⟩
      have notMinusOne : (index : Int) ≠ -1 := by omega
      simp only [notMinusOne, if_false, Except.ok.injEq, Int.toNat_ofNat] at merged
      subst merged
      exact String.ext (by simpa using split)

example : regionOfZone "us-east1-c" = .ok "us-east1" ∧
    regionOfZone "nodash" = .error (.other "unexpected zone found: nodash") := ⟨rfl, rfl⟩

theorem projectIDOf_ok {fromCli : ServiceDirectory} {metadataRetriever : GcpMetadataRetriever}
    (resolves : fromCli.projectID ≠ "" ∨ ∃ projectID, metadataRetriever.projectID = .ok projectID) :
    ∃ projectID, projectIDOf fromCli none metadataRetriever = .ok projectID := by
  by_cases given : fromCli.projectID ≠ ""
  · exact ⟨_, if_pos given⟩
  · obtain ⟨projectID, fetched⟩ := resolves.resolve_left given
    exact ⟨projectID, by rw [projectIDOf, if_neg given, fetched]⟩

end validateAndMergeServiceDirectorySettings

open validateAndMergeServiceDirectorySettings

/-- With no region on the CLI, no file and a project ID that resolves, the
merge fails exactly when `Zone()` fails or the zone has no dash; otherwise the
region is the zone cut at its last dash. -/
theorem validateAndMergeServiceDirectorySettings_region (fromCli : ServiceDirectory)
    (metadataRetriever : GcpMetadataRetriever) (noRegion : fromCli.defaultRegion = "")
    (resolves : fromCli.projectID ≠ "" ∨ ∃ projectID, metadataRetriever.projectID = .ok projectID) :
    let merged := validateAndMergeServiceDirectorySettings fromCli none metadataRetriever
    ((∃ error, merged = .error error) ↔
        (∃ error, metadataRetriever.zone = .error error) ∨
          ∃ zone, metadataRetriever.zone = .ok zone ∧ '-' ∉ zone.data) ∧
      ∀ settings, merged = .ok settings →
        ∃ zone rest, metadataRetriever.zone = .ok zone ∧
          zone = settings.defaultRegion ++ "-" ++ rest ∧ '-' ∉ rest.data := by
  obtain ⟨projectID, project⟩ := projectIDOf_ok resolves
  have region : defaultRegionOf fromCli none metadataRetriever =
      metadataRetriever.zone >>= regionOfZone := by
    simp [defaultRegionOf, noRegion]
  simp only [validateAndMergeServiceDirectorySettings, project, region]
  cases metadataRetriever.zone with
  | error error => simp [bind, Except.bind]
  | ok zone =>
      obtain ⟨failsWithoutDash, cutAtLastDash⟩ := regionOfZone_spec zone
      cases cut : regionOfZone zone with
      | error error => simp [bind, Except.bind, cut, failsWithoutDash error cut]
      | ok regionName =>
          obtain ⟨rest, split, noDash⟩ := cutAtLastDash regionName cut
          have hasDash : '-' ∈ zone.data := by simp [split]
          refine ⟨by simp [bind, Except.bind, cut, hasDash, pure, Except.pure],
            fun settings merged => ?_⟩
          simp only [bind, Except.bind, cut, pure, Except.pure, Except.ok.injEq] at merged
          exact ⟨zone, rest, rfl, by rw [← merged, split], noDash⟩

theorem validateAndMergeServiceDirectorySettings_region_usEast1 :
    let fromCli : ServiceDirectory := ⟨"project", ""⟩
    let metadataRetriever : GcpMetadataRetriever := ⟨.ok "project", .ok "us-east1-c"⟩
    let merged := validateAndMergeServiceDirectorySettings fromCli none metadataRetriever
    (fromCli.defaultRegion = "" ∧
        (fromCli.projectID ≠ "" ∨ ∃ projectID, metadataRetriever.projectID = .ok projectID)) ∧
      ((∃ error, merged = .error error) ↔
        (∃ error, metadataRetriever.zone = .error error) ∨
          ∃ zone, metadataRetriever.zone = .ok zone ∧ '-' ∉ zone.data) ∧
      ∀ settings, merged = .ok settings →
        ∃ zone rest, metadataRetriever.zone = .ok zone ∧
          zone = settings.defaultRegion ++ "-" ++ rest ∧ '-' ∉ rest.data :=
  ⟨⟨rfl, .inr ⟨_, rfl⟩⟩,
    validateAndMergeServiceDirectorySettings_region _ _ rfl (.inr ⟨_, rfl⟩)⟩

/-- A loaded file decides both fields even where it leaves them empty, while
without a file they come from the metadata server. -/
theorem validateAndMergeServiceDirectorySettings_loaded_file (fromCli file : ServiceDirectory)
    (metadataRetriever : GcpMetadataRetriever) (noProject : fromCli.projectID = "")
    (noRegion : fromCli.defaultRegion = "") :
    validateAndMergeServiceDirectorySettings fromCli (some file) metadataRetriever = .ok file ∧
      validateAndMergeServiceDirectorySettings fromCli none metadataRetriever =
        (do
          let projectID ← metadataRetriever.projectID
          let defaultRegion ← metadataRetriever.zone >>= regionOfZone
          return { projectID := projectID, defaultRegion := defaultRegion }) := by
  simp [validateAndMergeServiceDirectorySettings, projectIDOf, defaultRegionOf, noProject,
    noRegion]

/-- A file that sets neither field, against no file at all. -/
theorem validateAndMergeServiceDirectorySettings_empty_file :
    let metadataRetriever : GcpMetadataRetriever := ⟨.ok "my-project", .ok "us-east1-c"⟩
    validateAndMergeServiceDirectorySettings ⟨"", ""⟩ (some ⟨"", ""⟩) metadataRetriever =
        .ok ⟨"", ""⟩ ∧
      validateAndMergeServiceDirectorySettings ⟨"", ""⟩ none metadataRetriever =
        .ok ⟨"my-project", "us-east1"⟩ := by
  obtain ⟨withFile, withoutFile⟩ := validateAndMergeServiceDirectorySettings_loaded_file
    ⟨"", ""⟩ ⟨"", ""⟩ ⟨.ok "my-project", .ok "us-east1-c"⟩ rfl rfl
  exact ⟨withFile, withoutFile.trans rfl⟩

end CnwanOperator.Command
