import CnwanOperator.Command.Root
import CnwanOperator.Command.Utils

/-! # The root command

`PersistentPreRunE` of `NewRootCommand` resolves the operator settings that
every subcommand starts from: the namespace, the settings file, the merge
with the flags, and the networks named `auto`, which it asks GCE for. The
kubeconfig lookup, the YAML decoder, `getNetworkNamesFromGCE` and the default
names declared outside the sources come with the `RootContext`. Verbosity and
logging are not modelled. -/

namespace CnwanOperator.Command

/-- The persistent flags of the root command: the value of each one that was
given. -/
structure RootFlags where
  operatorSettingsPath : Option String
  operatorSettingsConfigmap : Option String
  watchAllNamespaces : Option Bool
  serviceAnnotations : Option (List String)
  networkName : Option String
  subnetworkName : Option String
  ns : Option String
  gcpServiceAccountPath : Option String
  gcpServiceAccountSecret : Option String

/-- What the root command reads besides its flags. -/
structure RootContext where
  env : Environment
  order : RangeOrder (Σ _ : String, String)
  /-- `kubeconfig.Namespace()`. -/
  kubeconfigNamespace : Except Error String
  /-- `yaml.Unmarshal` into an `option.Operator`. -/
  unmarshal : String → Except Error Operator
  /-- `getNetworkNamesFromGCE(sa, &gcpMetadata{})` for a service account. -/
  getNetworkNamesFromGCE : String → Except Error (String × String)
  defaultOperatorConfigMapName : String
  defaultGCPServiceAccountSecretName : String

namespace NewRootCommand

variable (ctx : RootContext) (flags : RootFlags)

/-- `opSettings` after flag parsing, each flag at its default when not given. -/
def parseFlags : Operator where
  watchAllNamespaces := flags.watchAllNamespaces.getD false
  serviceFilters := { labels := [], annotations := flags.serviceAnnotations.getD [] }
  cloudMetadata :=
    { network := flags.networkName.getD "", subNetwork := flags.subnetworkName.getD "" }

/-- The namespace: the flag, else the kubeconfig's, else `cnwan-operator-system`. -/
def resolveNamespace : String :=
  let given := flags.ns.getD ""
  if given = "" then
    match ctx.kubeconfigNamespace with
    | .ok ns => ns
    | .error _ => "cnwan-operator-system"
  else given

/-- The settings file, decoded; `none` when no settings were found. -/
def loadFromFile (ns : String) : Except Error (Option Operator) :=
  decodeExistingSettings ctx.env ctx.order (flags.operatorSettingsPath.getD "")
    (flags.operatorSettingsConfigmap.getD "") ctx.defaultOperatorConfigMapName ns ctx.unmarshal

/-- The file's `WatchAllNamespaces` replaces the flag's unless the flag was
changed on the command line. -/
def withFileWatch (opSettings : Operator) : Option Operator → Operator
  | some file =>
      if flags.watchAllNamespaces.isSome then opSettings
      else { opSettings with watchAllNamespaces := file.watchAllNamespaces }
  | none => opSettings

/-- The networks named `auto`, looked up on GCE when either one is. -/
def resolveAutoNetworks (ns : String) (opSettings : Operator) : Except Error Operator :=
  if opSettings.cloudMetadata.network ≠ "auto" ∧ opSettings.cloudMetadata.subNetwork ≠ "auto" then
    .ok opSettings
  else do
    let serviceAccount ← getGCPServiceAccount ctx.env ctx.order
      ctx.defaultGCPServiceAccountSecretName (flags.gcpServiceAccountPath.getD "")
      (flags.gcpServiceAccountSecret.getD "") ns
    let (networkName, subNetworkName) ← ctx.getNetworkNamesFromGCE serviceAccount
    return { opSettings with
      cloudMetadata :=
        { network := if opSettings.cloudMetadata.network = "auto" then networkName
            else opSettings.cloudMetadata.network
          subNetwork := if opSettings.cloudMetadata.subNetwork = "auto" then subNetworkName
            else opSettings.cloudMetadata.subNetwork } }

/-- `PersistentPreRunE` from the namespace block on (lines 79 to 151 of
`root.go`): the settings and namespace the subcommands start from. The
verbosity block before it is `selectLogLevel`, and `rootPreRun` runs the two in
order. -/
def persistentPreRunE : Except Error (Operator × String) := do
  let ns := resolveNamespace ctx flags
  let fromFile ← loadFromFile ctx flags ns
  let merged ← validateAndMergeOperatorSettings (withFileWatch flags (parseFlags flags) fromFile)
    fromFile
  let settled ← resolveAutoNetworks ctx flags ns merged
  return (settled, ns)

/-! ## One step at a time -/

@[simp] theorem withFileWatch_serviceFilters (opSettings : Operator) (fromFile : Option Operator) :
    (withFileWatch flags opSettings fromFile).serviceFilters = opSettings.serviceFilters := by
  cases fromFile <;> simp [withFileWatch, apply_ite]

@[simp] theorem withFileWatch_cloudMetadata (opSettings : Operator) (fromFile : Option Operator) :
    (withFileWatch flags opSettings fromFile).cloudMetadata = opSettings.cloudMetadata := by
  cases fromFile <;> simp [withFileWatch, apply_ite]

/-- `WatchAllNamespaces` is the flag's when it was given, else the file's, else
`false`. -/
@[simp] theorem withFileWatch_watchAllNamespaces (fromFile : Option Operator) :
    (withFileWatch flags (parseFlags flags) fromFile).watchAllNamespaces =
      flags.watchAllNamespaces.getD ((fromFile.map (·.watchAllNamespaces)).getD false) := by
  cases fromFile <;> cases given : flags.watchAllNamespaces <;>
    simp [withFileWatch, parseFlags, given]

end NewRootCommand

end CnwanOperator.Command
