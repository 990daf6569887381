import CnwanOperator.Command.Execute
import CnwanOperator.Command.Gce
import CnwanOperator.Contracts.EtcdPrefix

/-! # Whole runs of the program

What `cobra` hands a subcommand's `RunE`, over every command line, settings
file, cluster, GCE answer and terminal input. Each theorem follows a run
through the root's `PersistentPreRunE` and the subcommand's `PreRunE` and
puts together what the modules below prove of each step. -/

namespace CnwanOperator.Contracts

open Command

/-- A run of `cnwan-operator etcd` that reaches `RunE` had a verbosity in
`0..2` and resolved the operator settings in the namespace of the flag or the
kubeconfig. It hands `RunE` a prefix that begins and ends with '/' and
endpoints that are non-empty and distinct. Without `--password` it never read
the terminal. -/
theorem executeEtcd_done {ctx : EtcdContext} {verbosity : Option Int} {rootFlags : RootFlags}
    {flags : EtcdFlags} {passReader rest : PasswordReader} {settled : EtcdVariables}
    (run : executeEtcd ctx verbosity rootFlags flags passReader = some (.done settled, rest)) :
    (0 ≤ verbosity.getD 1 ∧ verbosity.getD 1 ≤ 2) ∧
      (∃ settings, NewRootCommand.persistentPreRunE ctx.toRootContext rootFlags =
        .ok (settings, NewRootCommand.resolveNamespace ctx.toRootContext rootFlags)) ∧
      SlashDelimited settled.etcdOpts.Prefix ∧
      settled.etcdOpts.endpoints ≠ [] ∧ settled.etcdOpts.endpoints.Nodup ∧
      (flags.password = false → rest = passReader) := by
  obtain ⟨settings, ns, root, preRun⟩ := executeEtcd_eq_done.mp run
  obtain ⟨verbosityOk, resolved⟩ := rootPreRun_eq_done.mp root
  obtain ⟨fromFile, merged⟩ := newEtcdCommand.preRunE_ok preRun
  refine ⟨verbosityOk, ⟨settings, persistentPreRunE_namespace resolved ▸ resolved⟩, ?_,
    merged ▸ mergeEtcdSettings_endpoints_ne_nil _ _ _,
    merged ▸ mergeEtcdSettings_endpoints_nodup _ _ _, fun noInput => ?_⟩
  · rw [merged, mergeEtcdSettings_Prefix]
    exact (normalizePrefix_shape _).1
  · obtain ⟨outcome, untouched⟩ := newEtcdCommand.preRunE_passReader
      (.inl (show (newEtcdCommand.parseFlags flags).inputPassword = false from noInput)) passReader
    rw [untouched] at preRun
    exact (Prod.mk.inj (Option.some.inj preRun)).2.symm

/-- With no settings anywhere, `cnwan-operator etcd --verbosity 1` and a root
settings file that sets an annotation filter reaches `RunE` with the compiled
default prefix and `localhost:2379`. -/
theorem executeEtcd_done_defaults :
    ∃ settled, executeEtcd
        { env := { inK8s := false, clientSet := .error (.other "not in a cluster"),
                   readFile := fun _ => .ok "settings" }
          order := RangeOrder.stored _
          kubeconfigNamespace := .ok "operators"
          unmarshal := fun _ => .ok ⟨false, ⟨[], ["cnwan.io/*"]⟩, ⟨"", ""⟩⟩
          getNetworkNamesFromGCE := fun _ => .error (.other "off GCE")
          defaultOperatorConfigMapName := "cnwan-operator-settings"
          defaultGCPServiceAccountSecretName := "sa-secret"
          mergeOrder := RangeOrder.stored _
          defaultEtcdConfigMapName := "etcd-settings"
          defaultEtcdCredentialsSecretName := "etcd-credentials"
          unmarshalEtcd := fun _ => .ok ⟨"", []⟩ }
        (some 1)
        { operatorSettingsPath := some "settings.yaml", operatorSettingsConfigmap := none,
          watchAllNamespaces := none, serviceAnnotations := none, networkName := none,
          subnetworkName := none, ns := none, gcpServiceAccountPath := none,
          gcpServiceAccountSecret := none }
        ⟨none, none, none, none, none, none, false⟩ [] = some (.done settled, []) ∧
      settled.etcdOpts = ⟨defaultEtcdPrefix, ["localhost:2379"]⟩ ∧
      SlashDelimited settled.etcdOpts.Prefix ∧ settled.etcdOpts.endpoints.Nodup :=
  (fun run => ⟨_, run, rfl, (executeEtcd_done run).2.2.1, (executeEtcd_done run).2.2.2.2.1⟩) rfl

/-- Inside Kubernetes a run of `cnwan-operator etcd` never reads the terminal:
every run ends, with the password reader as it was. With `--password` it
never reaches `RunE`: past the root's pre-run it fails with `please use
Kubernetes Secrets to define credentials`. -/
theorem executeEtcd_inK8s {ctx : EtcdContext} (inCluster : ctx.env.inK8s = true)
    (verbosity : Option Int) (rootFlags : RootFlags) (flags : EtcdFlags)
    (passReader : PasswordReader) :
    ∃ outcome, executeEtcd ctx verbosity rootFlags flags passReader = some (outcome, passReader) ∧
      (flags.password = true →
        (∀ settled, outcome ≠ .done settled) ∧
        ∀ resolved, rootPreRun ctx.toRootContext verbosity rootFlags = .done resolved →
          outcome = .failed (.other "please use Kubernetes Secrets to define credentials")) := by
  unfold executeEtcd
  cases rootPreRun ctx.toRootContext verbosity rootFlags with
  | panicked | failed _ => exact ⟨_, rfl, fun _ => ⟨nofun, fun _ => nofun⟩⟩
  | done resolved =>
      obtain ⟨settings, ns⟩ := resolved
      obtain ⟨outcome, untouched⟩ := @newEtcdCommand.preRunE_passReader ctx.env ctx.order
        ctx.mergeOrder ctx.defaultEtcdConfigMapName ctx.defaultEtcdCredentialsSecretName
        ctx.unmarshalEtcd ns (newEtcdCommand.parseFlags flags) (.inr inCluster) passReader
      refine ⟨_, by dsimp only; rw [untouched]; rfl, fun input => ?_⟩
      rw [newEtcdCommand.preRunE_of_inK8s_input inCluster _ _ _ _ _ _ input] at untouched
      cases Option.some.inj untouched
      exact ⟨nofun, fun _ _ => rfl⟩

/-- Inside Kubernetes, `--password` with any root flags and any terminal
input: the run ends with the reader untouched and never reaches `RunE`. -/
theorem executeEtcd_inK8s_password :
    (∃ outcome, executeEtcd
        { env := { inK8s := true, clientSet := .error (.other "forbidden"),
                   readFile := fun _ => .ok "settings" }
          order := RangeOrder.stored _
          kubeconfigNamespace := .ok "operators"
          unmarshal := fun _ => .ok ⟨false, ⟨[], ["cnwan.io/*"]⟩, ⟨"", ""⟩⟩
          getNetworkNamesFromGCE := fun _ => .error (.other "off GCE")
          defaultOperatorConfigMapName := "cnwan-operator-settings"
          defaultGCPServiceAccountSecretName := "sa-secret"
          mergeOrder := RangeOrder.stored _
          defaultEtcdConfigMapName := "etcd-settings"
          defaultEtcdCredentialsSecretName := "etcd-credentials"
          unmarshalEtcd := fun _ => .ok ⟨"", []⟩ }
        (some 1)
        { operatorSettingsPath := some "settings.yaml", operatorSettingsConfigmap := none,
          watchAllNamespaces := none, serviceAnnotations := none, networkName := none,
          subnetworkName := none, ns := none, gcpServiceAccountPath := none,
          gcpServiceAccountSecret := none }
        ⟨none, none, none, none, none, none, true⟩ [.ok "secret"] =
          some (outcome, [.ok "secret"]) ∧ ∀ settled, outcome ≠ .done settled) :=
  (fun ⟨outcome, run, input⟩ => ⟨outcome, run, (input rfl).1⟩)
    (executeEtcd_inK8s rfl (some 1) _ ⟨none, none, none, none, none, none, true⟩ [.ok "secret"])

/-- Off GCE, with the command's retriever the real `&gcpMetadata{}`, a run of
`cnwan-operator service-directory` that reaches `RunE` without a settings file
was given both `--project-id` and `--default-region`, and `RunE` prints them
as given: the metadata server is never where either comes from. -/
theorem executeServiceDirectory_offGCE {ctx : ServiceDirectoryContext} {metadata : GceMetadata}
    (retriever : ctx.metadataRetriever = gcpMetadata metadata) (offGCE : metadata.onGCE = false)
    {verbosity : Option Int} {rootFlags : RootFlags} {flags : ServiceDirectoryFlags}
    {sdOpts : ServiceDirectory}
    (run : executeServiceDirectory ctx verbosity rootFlags flags = .done sdOpts)
    (noFile : decodeExistingSettings ctx.env ctx.order (flags.settingsPath.getD "")
      (flags.settingsConfigmap.getD "") ctx.defaultServiceDirectoryConfigMapName
      (NewRootCommand.resolveNamespace ctx.toRootContext rootFlags)
      ctx.unmarshalServiceDirectory = .ok none) :
    flags.projectID.getD "" ≠ "" ∧ flags.defaultRegion.getD "" ≠ "" ∧
      sdOpts = ⟨flags.projectID.getD "", flags.defaultRegion.getD ""⟩ := by
  obtain ⟨settings, ns, root, preRun⟩ := executeServiceDirectory_eq_done.mp run
  obtain ⟨-, resolved⟩ := rootPreRun_eq_done.mp root
  rw [persistentPreRunE_namespace resolved] at preRun
  obtain ⟨fromFile, loaded, merged, -⟩ := (newServiceDirectoryCommand.preRunE_eq_ok _ _ _ _ _).mp preRun
  rw [noFile, Except.ok.injEq] at loaded
  rw [← loaded, retriever] at merged
  exact validateAndMergeServiceDirectorySettings_offGCE offGCE merged

/-- Off GCE and outside Kubernetes, `service-directory --project-id my-project
--default-region us-east1` with no settings file reaches `RunE` with the two
values as given. -/
theorem executeServiceDirectory_offGCE_flags :
    ∃ sdOpts, executeServiceDirectory
        { env := { inK8s := false, clientSet := .error (.other "not in a cluster"),
                   readFile := fun _ => .ok "settings" }
          order := RangeOrder.stored _
          kubeconfigNamespace := .ok "operators"
          unmarshal := fun _ => .ok ⟨false, ⟨[], ["cnwan.io/*"]⟩, ⟨"", ""⟩⟩
          getNetworkNamesFromGCE := fun _ => .error (.other "off GCE")
          defaultOperatorConfigMapName := "cnwan-operator-settings"
          defaultGCPServiceAccountSecretName := "sa-secret"
          unmarshalServiceDirectory := fun _ => .ok ⟨"", ""⟩
          metadataRetriever := gcpMetadata ⟨false, .error (.other "off GCE"),
            .error (.other "off GCE"), fun _ => .error (.other "off GCE")⟩
          defaultServiceDirectoryConfigMapName := "sd-settings" }
        (some 1)
        { operatorSettingsPath := some "settings.yaml", operatorSettingsConfigmap := none,
          watchAllNamespaces := none, serviceAnnotations := none, networkName := none,
          subnetworkName := none, ns := none, gcpServiceAccountPath := none,
          gcpServiceAccountSecret := none }
        ⟨none, none, some "my-project", some "us-east1"⟩ = .done sdOpts ∧
      sdOpts = ⟨"my-project", "us-east1"⟩ :=
  (fun run => ⟨_, run, (executeServiceDirectory_offGCE rfl rfl run rfl).2.2⟩) rfl

end CnwanOperator.Contracts
