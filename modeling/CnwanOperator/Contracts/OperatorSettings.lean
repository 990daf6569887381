import CnwanOperator.Command.Execute
import CnwanOperator.Command.Gce

/-! # The operator settings the root command resolves

Every field of the operator settings is resolved on its own, by one
precedence: the explicit CLI value, else the settings file's, else, for a
network named `auto`, the name the cloud platform reports, else the default.
Here that precedence is stated without the closures of the code, and the
root's pre-run is shown to follow it: it hands on settings exactly when the
verbosity is in `0..2`, the settings load, an annotation filter is set and, if
a network is `auto`, the lookup succeeds, and the settings are then the ones
the precedence gives. -/

namespace CnwanOperator.Contracts

open Command NewRootCommand

/-- The explicit value of a string field, else the file's. -/
def explicitElse (cli file : String) : String := if cli ≠ "" then cli else file

/-- A network name, where `auto` stands for the one the cloud platform reports. -/
def autoDetected (chosen fromCloud : String) : String :=
  if chosen = "auto" then fromCloud else chosen

/-- The settings before the cloud platform is asked: each field from its flag
when given, else from the file, else at its default. -/
def mergedSettings (flags : RootFlags) (fromFile : Option Operator) : Operator where
  watchAllNamespaces :=
    flags.watchAllNamespaces.getD ((fromFile.map (·.watchAllNamespaces)).getD false)
  serviceFilters :=
    { labels := []
      annotations :=
        if flags.serviceAnnotations.getD [] ≠ [] then flags.serviceAnnotations.getD []
        else (fromFile.map (·.serviceFilters.annotations)).getD [] }
  cloudMetadata :=
    { network := explicitElse (flags.networkName.getD "")
        ((fromFile.map (·.cloudMetadata.network)).getD "")
      subNetwork := explicitElse (flags.subnetworkName.getD "")
        ((fromFile.map (·.cloudMetadata.subNetwork)).getD "") }

/-- A network of the merged settings is left to the cloud platform. -/
def NeedsCloud (merged : Operator) : Prop :=
  merged.cloudMetadata.network = "auto" ∨ merged.cloudMetadata.subNetwork = "auto"

instance (merged : Operator) : Decidable (NeedsCloud merged) := instDecidableOr

/-- The merged settings with each network named `auto` replaced by the cloud's. -/
def detected (merged : Operator) (fromCloud : String × String) : Operator :=
  { merged with
    cloudMetadata :=
      { network := autoDetected merged.cloudMetadata.network fromCloud.1
        subNetwork := autoDetected merged.cloudMetadata.subNetwork fromCloud.2 } }

theorem detected_of_not_needsCloud {merged : Operator} (fromCloud : String × String)
    (settled : ¬NeedsCloud merged) : detected merged fromCloud = merged := by
  obtain ⟨network, subNetwork⟩ := not_or.mp settled
  simp [detected, autoDetected, network, subNetwork]

/-! ## The steps of `PersistentPreRunE` against the precedence -/

section

variable (ctx : RootContext) (flags : RootFlags)

theorem validateAndMergeOperatorSettings_withFileWatch (fromFile : Option Operator) :
    validateAndMergeOperatorSettings (withFileWatch flags (parseFlags flags) fromFile) fromFile =
      if (mergedSettings flags fromFile).serviceFilters.annotations = [] then
        .error (.other "no annotations provided")
      else .ok (mergedSettings flags fromFile) := by
  unfold validateAndMergeOperatorSettings
  simp only [cliOrFileList_eq, cliOrFileString_eq, withFileWatch_serviceFilters,
    withFileWatch_cloudMetadata, withFileWatch_watchAllNamespaces, List.length_eq_zero]
  rfl

theorem resolveAutoNetworks_eq_ok (ns : String) (merged settled : Operator) :
    resolveAutoNetworks ctx flags ns merged = .ok settled ↔
      ∃ fromCloud, (NeedsCloud merged → ∃ serviceAccount,
          getGCPServiceAccount ctx.env ctx.order ctx.defaultGCPServiceAccountSecretName
            (flags.gcpServiceAccountPath.getD "") (flags.gcpServiceAccountSecret.getD "") ns =
              .ok serviceAccount ∧
          ctx.getNetworkNamesFromGCE serviceAccount = .ok fromCloud) ∧
        settled = detected merged fromCloud := by
  unfold resolveAutoNetworks
  by_cases needed : NeedsCloud merged
  · rw [if_neg fun settledAlready => needed.elim settledAlready.1 settledAlready.2]
    simp only [bind_eq_ok, needed, true_implies]
    constructor
    · rintro ⟨serviceAccount, account, ⟨networkName, subNetworkName⟩, names, result⟩
      exact ⟨(networkName, subNetworkName), ⟨serviceAccount, account, names⟩,
        (pure_eq_ok.mp result).symm⟩
    · rintro ⟨⟨networkName, subNetworkName⟩, ⟨serviceAccount, account, names⟩, rfl⟩
      exact ⟨serviceAccount, account, _, names, pure_eq_ok.mpr rfl⟩
  · rw [if_pos (not_or.mp needed)]
    simp only [Except.ok.injEq, needed, false_implies, true_and,
      detected_of_not_needsCloud _ needed, exists_const, eq_comm]

end

/-- `PersistentPreRunE` follows the precedence: it succeeds exactly when the
settings load, some annotation filter is set, and, if a network is `auto`, the
service account and the GCE lookup succeed; the settings it then returns are
the merged ones with the `auto` networks detected. -/
theorem persistentPreRunE_eq_ok (ctx : RootContext) (flags : RootFlags) (settings : Operator)
    (ns : String) :
    persistentPreRunE ctx flags = .ok (settings, ns) ↔
      ns = resolveNamespace ctx flags ∧
      ∃ fromFile, loadFromFile ctx flags ns = .ok fromFile ∧
        (mergedSettings flags fromFile).serviceFilters.annotations ≠ [] ∧
        ∃ fromCloud, (NeedsCloud (mergedSettings flags fromFile) → ∃ serviceAccount,
            getGCPServiceAccount ctx.env ctx.order ctx.defaultGCPServiceAccountSecretName
              (flags.gcpServiceAccountPath.getD "") (flags.gcpServiceAccountSecret.getD "") ns =
                .ok serviceAccount ∧
            ctx.getNetworkNamesFromGCE serviceAccount = .ok fromCloud) ∧
          settings = detected (mergedSettings flags fromFile) fromCloud := by
  simp only [persistentPreRunE, bind_eq_ok, pure_eq_ok, Prod.mk.injEq,
    validateAndMergeOperatorSettings_withFileWatch, resolveAutoNetworks_eq_ok]
  constructor
  · rintro ⟨fromFile, loaded, merged, mergeOk, settled, ⟨fromCloud, lookup, rfl⟩, rfl, rfl⟩
    split_ifs at mergeOk with noAnnotations
    cases mergeOk
    exact ⟨rfl, fromFile, loaded, noAnnotations, fromCloud, lookup, rfl⟩
  · rintro ⟨rfl, fromFile, loaded, annotations, fromCloud, lookup, rfl⟩
    exact ⟨fromFile, loaded, _, if_neg annotations, _, ⟨fromCloud, lookup, rfl⟩, rfl, rfl⟩

/-- The root's pre-run, its verbosity block included, follows the precedence:
it hands on settings exactly when the verbosity is in `0..2`, the settings
load, some annotation filter is set and, if a network is `auto`, the service
account and the GCE lookup succeed. The settings are then the merged ones with
the `auto` networks detected, in the namespace of the flag or the kubeconfig. -/
theorem rootPreRun_done_iff_precedence (ctx : RootContext) (verbosity : Option Int)
    (flags : RootFlags) (settings : Operator) (ns : String) :
    rootPreRun ctx verbosity flags = .done (settings, ns) ↔
      (0 ≤ verbosity.getD 1 ∧ verbosity.getD 1 ≤ 2) ∧ ns = resolveNamespace ctx flags ∧
      ∃ fromFile, loadFromFile ctx flags ns = .ok fromFile ∧
        (mergedSettings flags fromFile).serviceFilters.annotations ≠ [] ∧
        ∃ fromCloud, (NeedsCloud (mergedSettings flags fromFile) → ∃ serviceAccount,
            getGCPServiceAccount ctx.env ctx.order ctx.defaultGCPServiceAccountSecretName
              (flags.gcpServiceAccountPath.getD "") (flags.gcpServiceAccountSecret.getD "") ns =
                .ok serviceAccount ∧
            ctx.getNetworkNamesFromGCE serviceAccount = .ok fromCloud) ∧
          settings = detected (mergedSettings flags fromFile) fromCloud :=
  rootPreRun_eq_done.trans (and_congr_right fun _ => persistentPreRunE_eq_ok ctx flags settings ns)

example :
    rootPreRun
      { env := { inK8s := false, clientSet := .error (.other "not in a cluster"),
                 readFile := fun _ => .ok "settings" }
        order := RangeOrder.stored _
        kubeconfigNamespace := .error (.other "no kubeconfig")
        unmarshal := fun _ => .ok ⟨true, ⟨[], ["cnwan.io/*"]⟩, ⟨"auto", "sub"⟩⟩
        getNetworkNamesFromGCE := fun _ => .ok ("vpc", "vpc-sub")
        defaultOperatorConfigMapName := "cnwan-operator-settings"
        defaultGCPServiceAccountSecretName := "sa-secret" }
      (some 2)
      { operatorSettingsPath := some "settings.yaml", operatorSettingsConfigmap := none,
        watchAllNamespaces := none, serviceAnnotations := none, networkName := none,
        subnetworkName := none, ns := none, gcpServiceAccountPath := none,
        gcpServiceAccountSecret := none } =
      .done (⟨true, ⟨[], ["cnwan.io/*"]⟩, ⟨"vpc", "sub"⟩⟩, "cnwan-operator-system") := by
  rfl

/-- Off GCE, with the root's lookup the real one through `&gcpMetadata{}`, a
`PersistentPreRunE` that succeeds never leaves a network named `auto`: any
`auto` network makes it fail, since the project ID is refused. -/
theorem persistentPreRunE_offGCE {ctx : RootContext} {metadata : GceMetadata}
    {newService : Option String → Except Error ContainerService}
    (lookup : ∀ sa, ctx.getNetworkNamesFromGCE sa =
      getNetworkNamesFromGCE metadata newService sa (gcpMetadata metadata))
    (offGCE : metadata.onGCE = false) (flags : RootFlags) (settings : Operator) (ns : String)
    (resolved : persistentPreRunE ctx flags = .ok (settings, ns)) : ¬NeedsCloud settings := by
  simp only [persistentPreRunE, bind_eq_ok, pure_eq_ok, Prod.mk.injEq] at resolved
  obtain ⟨fromFile, -, merged, -, settled, resolvedNetworks, rfl, -⟩ := resolved
  obtain ⟨fromCloud, asked, rfl⟩ :=
    (resolveAutoNetworks_eq_ok ctx flags _ merged settled).mp resolvedNetworks
  by_cases needed : NeedsCloud merged
  · obtain ⟨serviceAccount, -, names⟩ := asked needed
    rw [lookup, getNetworkNamesFromGCE_of_offGCE offGCE] at names
    cases names
  · rwa [detected_of_not_needsCloud _ needed]

/-- Off GCE, a settings file whose networks are not `auto`: the run succeeds
without asking GCE, and the networks stay as the file gives them. -/
theorem persistentPreRunE_offGCE_settingsFile :
    persistentPreRunE
        { env := { inK8s := false, clientSet := .error (.other "not in a cluster"),
                   readFile := fun _ => .ok "settings" }
          order := RangeOrder.stored _
          kubeconfigNamespace := .ok "operators"
          unmarshal := fun _ => .ok ⟨false, ⟨[], ["cnwan.io/*"]⟩, ⟨"vpc", ""⟩⟩
          getNetworkNamesFromGCE := fun sa =>
            getNetworkNamesFromGCE ⟨false, .error (.other "off GCE"), .error (.other "off GCE"),
                fun _ => .error (.other "off GCE")⟩ (fun _ => .error (.other "no client")) sa
              (gcpMetadata ⟨false, .error (.other "off GCE"), .error (.other "off GCE"),
                fun _ => .error (.other "off GCE")⟩)
          defaultOperatorConfigMapName := "cnwan-operator-settings"
          defaultGCPServiceAccountSecretName := "sa-secret" }
        { operatorSettingsPath := some "settings.yaml", operatorSettingsConfigmap := none,
          watchAllNamespaces := none, serviceAnnotations := none, networkName := none,
          subnetworkName := none, ns := none, gcpServiceAccountPath := none,
          gcpServiceAccountSecret := none } =
      .ok (⟨false, ⟨[], ["cnwan.io/*"]⟩, ⟨"vpc", ""⟩⟩, "operators") ∧
    ¬NeedsCloud ⟨false, ⟨[], ["cnwan.io/*"]⟩, ⟨"vpc", ""⟩⟩ :=
  (fun run => ⟨run, @persistentPreRunE_offGCE _ _ (fun _ => .error (.other "no client"))
    (fun _ => rfl) rfl _ _ _ run⟩) rfl

end CnwanOperator.Contracts
