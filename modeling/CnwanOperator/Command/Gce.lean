import CnwanOperator.Command.ServiceDirectory

/-! # The GCE lookups of package `command`

`&gcpMetadata{}` answers `ProjectID()` and `Zone()` from the GCE metadata
server, and refuses both off GCE. `getNetworkNamesFromGCE` asks it for the
project and the zone, asks the metadata server for the instance's
`cluster-name` attribute, and reads that cluster's network and subnetwork
from the GKE API, with the service account as credentials when there is one.
The metadata server and the GKE API are what the process talks to, so their
answers are the fields of `GceMetadata` and the result of `newService`. -/

namespace CnwanOperator.Command

/-- What the GCE metadata server answers: `gcpmetadata.OnGCE()`,
`ProjectID()`, `Zone()` and `InstanceAttributeValue(attr)`. -/
structure GceMetadata where
  onGCE : Bool
  projectID : Except Error String
  zone : Except Error String
  instanceAttributeValue : String → Except Error String

/-- `gcpMetadata`, the `gcpMetadataRetriever` both commands use. -/
def gcpMetadata (metadata : GceMetadata) : GcpMetadataRetriever where
  projectID :=
    if metadata.onGCE then metadata.projectID
    else .error (.other "cannot retrieve project id: not running in GCP")
  zone :=
    if metadata.onGCE then metadata.zone
    else .error (.other "cannot retrieve region: not running in GCP")

/-- A GKE cluster as `Clusters.Get(projectID, zone, clusterName).Do()`
returns it. -/
structure Cluster where
  network : String
  subnetwork : String

/-- The GKE client `gccontainer.NewService` returns:
`Projects.Zones.Clusters.Get(projectID, zone, clusterName).Do()`. -/
structure ContainerService where
  getCluster : (projectID zone clusterName : String) → Except Error Cluster

/-- `getNetworkNamesFromGCE(sa, dataRetriever)`. `newService` is
`gccontainer.NewService(ctx, opts...)`, given the credentials JSON when the
options carry one, which they do when `len(sa) > 0`. -/
def getNetworkNamesFromGCE (metadata : GceMetadata)
    (newService : Option String → Except Error ContainerService) (sa : String)
    (dataRetriever : GcpMetadataRetriever) : Except Error (String × String) := do
  let projectID ← dataRetriever.projectID
  let zone ← dataRetriever.zone
  let clusterName ← metadata.instanceAttributeValue "cluster-name"
  let cli ← newService (if sa ≠ "" then some sa else none)
  let cluster ← cli.getCluster projectID zone clusterName
  return (cluster.network, cluster.subnetwork)

theorem getNetworkNamesFromGCE_eq_ok (metadata : GceMetadata)
    (newService : Option String → Except Error ContainerService) (sa : String)
    (dataRetriever : GcpMetadataRetriever) (names : String × String) :
    getNetworkNamesFromGCE metadata newService sa dataRetriever = .ok names ↔
      ∃ projectID zone clusterName cli cluster, dataRetriever.projectID = .ok projectID ∧
        dataRetriever.zone = .ok zone ∧
        metadata.instanceAttributeValue "cluster-name" = .ok clusterName ∧
        newService (if sa ≠ "" then some sa else none) = .ok cli ∧
        cli.getCluster projectID zone clusterName = .ok cluster ∧
        names = (cluster.network, cluster.subnetwork) := by
  simp only [getNetworkNamesFromGCE, bind_eq_ok, pure_eq_ok]
  constructor
  · rintro ⟨projectID, project, zone, zoned, clusterName, named, cli, built, cluster, found, rfl⟩
    exact ⟨projectID, zone, clusterName, cli, cluster, project, zoned, named, built, found, rfl⟩
  · rintro ⟨projectID, zone, clusterName, cli, cluster, project, zoned, named, built, found, rfl⟩
    exact ⟨projectID, project, zone, zoned, clusterName, named, cli, built, cluster, found, rfl⟩

theorem getNetworkNamesFromGCE_of_offGCE {metadata : GceMetadata} (offGCE : metadata.onGCE = false)
    (newService : Option String → Except Error ContainerService) (sa : String) :
    getNetworkNamesFromGCE metadata newService sa (gcpMetadata metadata) =
      .error (.other "cannot retrieve project id: not running in GCP") := by
  simp [getNetworkNamesFromGCE, gcpMetadata, offGCE, bind, Except.bind]

open validateAndMergeServiceDirectorySettings in
theorem validateAndMergeServiceDirectorySettings_offGCE {metadata : GceMetadata}
    (offGCE : metadata.onGCE = false) {fromCli sdOpts : ServiceDirectory}
    (merged : validateAndMergeServiceDirectorySettings fromCli none (gcpMetadata metadata) =
      .ok sdOpts) :
    fromCli.projectID ≠ "" ∧ fromCli.defaultRegion ≠ "" ∧ sdOpts = fromCli := by
  simp only [validateAndMergeServiceDirectorySettings, bind_eq_ok, pure_eq_ok] at merged
  obtain ⟨projectID, project, defaultRegion, region, rfl⟩ := merged
  have projectGiven : fromCli.projectID ≠ "" := fun absent => by
    simp [projectIDOf, absent, gcpMetadata, offGCE] at project
  have regionGiven : fromCli.defaultRegion ≠ "" := fun absent => by
    simp [defaultRegionOf, absent, gcpMetadata, offGCE, bind, Except.bind] at region
  rw [projectIDOf, if_pos projectGiven, Except.ok.injEq] at project
  rw [defaultRegionOf, if_pos regionGiven, Except.ok.injEq] at region
  exact ⟨projectGiven, regionGiven, by rw [← project, ← region]⟩

end CnwanOperator.Command
