import CnwanOperator.Command.ServiceDirectory
import CnwanOperator.Command.RootCommand

/-! # The `service-directory` command

`PreRunE` of `newServiceDirectoryCommand` runs after the root's
`PersistentPreRunE`, in the same process: it reads the namespace the root
resolved and, through `cmd.Flags()`, the root's service account flags. Its own
`--service-account-path` and `--credentials-secret` are bound to variables
that it overwrites before reading them, so they never take effect and the
flags record leaves them out. -/

namespace CnwanOperator.Command

/-- The command line of `service-directory`: the value of each of its own
flags that was given, but for the two service account flags, which nothing
reads. -/
structure ServiceDirectoryFlags where
  settingsPath : Option String
  settingsConfigmap : Option String
  projectID : Option String
  defaultRegion : Option String

/-- What the command reads besides its flags, in the root command's process. -/
structure ServiceDirectoryContext extends RootContext where
  /-- `yaml.Unmarshal` into an `option.ServiceDirectory`. -/
  unmarshalServiceDirectory : String → Except Error ServiceDirectory
  /-- The answers of `&gcpMetadata{}`. -/
  metadataRetriever : GcpMetadataRetriever
  defaultServiceDirectoryConfigMapName : String

namespace newServiceDirectoryCommand

variable (ctx : ServiceDirectoryContext) (rootFlags : RootFlags) (ns : String)
  (flags : ServiceDirectoryFlags)

/-- `sdOpts` after flag parsing. -/
def parseFlags : ServiceDirectory where
  projectID := flags.projectID.getD ""
  defaultRegion := flags.defaultRegion.getD ""

/-- `PreRunE` in namespace `ns`: the settings it leaves in `sdOpts`. The
service account it loads is only checked for an error. -/
def preRunE : Except Error ServiceDirectory := do
  let fromFile ← decodeExistingSettings ctx.env ctx.order (flags.settingsPath.getD "")
    (flags.settingsConfigmap.getD "") ctx.defaultServiceDirectoryConfigMapName ns
    ctx.unmarshalServiceDirectory
  let sdOpts ← validateAndMergeServiceDirectorySettings (parseFlags flags) fromFile
    ctx.metadataRetriever
  let _ ← getGCPServiceAccount ctx.env ctx.order ctx.defaultGCPServiceAccountSecretName
    (rootFlags.gcpServiceAccountPath.getD "") (rootFlags.gcpServiceAccountSecret.getD "") ns
  return sdOpts

theorem preRunE_eq_ok (sdOpts : ServiceDirectory) :
    preRunE ctx rootFlags ns flags = .ok sdOpts ↔
      ∃ fromFile, decodeExistingSettings ctx.env ctx.order (flags.settingsPath.getD "")
          (flags.settingsConfigmap.getD "") ctx.defaultServiceDirectoryConfigMapName ns
          ctx.unmarshalServiceDirectory = .ok fromFile ∧
        validateAndMergeServiceDirectorySettings (parseFlags flags) fromFile
          ctx.metadataRetriever = .ok sdOpts ∧
        ∃ serviceAccount, getGCPServiceAccount ctx.env ctx.order
          ctx.defaultGCPServiceAccountSecretName (rootFlags.gcpServiceAccountPath.getD "")
          (rootFlags.gcpServiceAccountSecret.getD "") ns = .ok serviceAccount := by
  simp only [preRunE, bind_eq_ok, pure_eq_ok]
  constructor
  · rintro ⟨fromFile, loaded, merged, mergeOk, serviceAccount, account, rfl⟩
    exact ⟨fromFile, loaded, mergeOk, serviceAccount, account⟩
  · rintro ⟨fromFile, loaded, mergeOk, serviceAccount, account⟩
    exact ⟨fromFile, loaded, sdOpts, mergeOk, serviceAccount, account, rfl⟩

end newServiceDirectoryCommand

end CnwanOperator.Command
