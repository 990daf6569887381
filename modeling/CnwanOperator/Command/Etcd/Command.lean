import CnwanOperator.Command.Etcd.Merge
import CnwanOperator.Command.Etcd.Credentials

/-! # The `etcd` command

`newEtcdCommand` binds its flags to local variables and, before running,
resolves credentials, loads the settings file and merges it with the flags.
The ConfigMap and secret names it defaults to are declared outside the
sources and are parameters here, as is the YAML decoder. -/

namespace CnwanOperator.Command

/-- The command line of `etcd`: the value of each flag that was given. -/
structure EtcdFlags where
  settingsPath : Option String
  settingsConfigmap : Option String
  credentialsSecret : Option String
  Prefix : Option String
  endpoints : Option (List String)
  username : Option String
  password : Bool

/-- The variables of `newEtcdCommand` that its closures share. -/
structure EtcdVariables where
  etcdOpts : Etcd
  settingsPath : String
  settingsCfgMap : String
  credentialsSecret : String
  inputPassword : Bool
  username : String
  password : String

namespace newEtcdCommand

/-- The variables after flag parsing: each flag's value, or the default it is
registered with. `--prefix` is registered with `defaultEtcdPrefix`. -/
def parseFlags (flags : EtcdFlags) : EtcdVariables where
  etcdOpts := { Prefix := flags.Prefix.getD defaultEtcdPrefix, endpoints := flags.endpoints.getD [] }
  settingsPath := flags.settingsPath.getD ""
  settingsCfgMap := flags.settingsConfigmap.getD ""
  credentialsSecret := flags.credentialsSecret.getD ""
  inputPassword := flags.password
  username := flags.username.getD ""
  password := ""

/-- Loading and decoding the settings: an empty payload leaves `fromFile`
at its zero value. -/
def loadFromFile (env : Environment) (order : RangeOrder (Σ _ : String, String))
    (defaultEtcdConfigMapName : String) (unmarshal : String → Except Error Etcd)
    (vars : EtcdVariables) (ns : String) : Except Error Etcd := do
  let dataBytes ← loadExistingSettings env order vars.settingsPath vars.settingsCfgMap
    defaultEtcdConfigMapName ns
  if 0 < dataBytes.length then
    (unmarshal dataBytes).mapError (.wrapped "error while trying to decode settings file: ")
  else pure Etcd.zero

/-- `PreRunE`: the variables it leaves behind, and what is left of the
password reader. -/
def preRunE (env : Environment) (order : RangeOrder (Σ _ : String, String))
    (mergeOrder : RangeOrder String)
    (defaultEtcdConfigMapName defaultEtcdCredentialsSecretName : String)
    (unmarshal : String → Except Error Etcd) (ns : String) (vars : EtcdVariables)
    (passReader : PasswordReader) : Option (Except Error EtcdVariables × PasswordReader) :=
  match getEtcdUsernameAndPassword env defaultEtcdCredentialsSecretName vars.inputPassword
      vars.username vars.credentialsSecret ns passReader with
  | none => none
  | some (.error err, rest) => some (.error err, rest)
  | some (.ok (username, password), rest) =>
      some ((loadFromFile env order defaultEtcdConfigMapName unmarshal vars ns).map fun fromFile =>
        { vars with
          username := username
          password := password
          etcdOpts := mergeEtcdSettings mergeOrder vars.etcdOpts (some fromFile) }, rest)

theorem preRunE_ok {env : Environment} {order : RangeOrder (Σ _ : String, String)}
    {mergeOrder : RangeOrder String}
    {defaultEtcdConfigMapName defaultEtcdCredentialsSecretName : String}
    {unmarshal : String → Except Error Etcd} {ns : String} {vars settled : EtcdVariables}
    {passReader rest : PasswordReader}
    (run : preRunE env order mergeOrder defaultEtcdConfigMapName defaultEtcdCredentialsSecretName
      unmarshal ns vars passReader = some (.ok settled, rest)) :
    ∃ fromFile, settled.etcdOpts = mergeEtcdSettings mergeOrder vars.etcdOpts (some fromFile) := by
  unfold preRunE at run
  split at run
  · cases run
  · cases run
  · simp only [Option.some.injEq, Prod.mk.injEq] at run
    obtain ⟨loaded, -⟩ := run
    cases fromFile : loadFromFile env order defaultEtcdConfigMapName unmarshal vars ns with
    | error err => simp [fromFile, Except.map] at loaded
    | ok file =>
        simp only [fromFile, Except.map, Except.ok.injEq] at loaded
        exact ⟨file, by rw [← loaded]⟩

theorem preRunE_passReader {env : Environment} {order : RangeOrder (Σ _ : String, String)}
    {mergeOrder : RangeOrder String}
    {defaultEtcdConfigMapName defaultEtcdCredentialsSecretName : String}
    {unmarshal : String → Except Error Etcd} {ns : String} {vars : EtcdVariables}
    (noPrompt : vars.inputPassword = false ∨ env.inK8s = true) (passReader : PasswordReader) :
    ∃ outcome, preRunE env order mergeOrder defaultEtcdConfigMapName
      defaultEtcdCredentialsSecretName unmarshal ns vars passReader = some (outcome, passReader) := by
  obtain ⟨credentials, resolved⟩ : ∃ credentials, getEtcdUsernameAndPassword env
      defaultEtcdCredentialsSecretName vars.inputPassword vars.username vars.credentialsSecret ns
      passReader = some (credentials, passReader) := by
    cases input : vars.inputPassword
    · exact ⟨_, rfl⟩
    · have inCluster : env.inK8s = true := noPrompt.resolve_left (by simp [input])
      exact ⟨.error (.other "please use Kubernetes Secrets to define credentials"),
        by simp [getEtcdUsernameAndPassword, inCluster]⟩
  unfold preRunE
  rw [resolved]
  rcases credentials with _ | ⟨_, _⟩ <;> exact ⟨_, rfl⟩

theorem preRunE_of_inK8s_input {env : Environment} (inCluster : env.inK8s = true)
    (order : RangeOrder (Σ _ : String, String)) (mergeOrder : RangeOrder String)
    (defaultEtcdConfigMapName defaultEtcdCredentialsSecretName : String)
    (unmarshal : String → Except Error Etcd) (ns : String) {vars : EtcdVariables}
    (input : vars.inputPassword = true) (passReader : PasswordReader) :
    preRunE env order mergeOrder defaultEtcdConfigMapName defaultEtcdCredentialsSecretName
        unmarshal ns vars passReader =
      some (.error (.other "please use Kubernetes Secrets to define credentials"), passReader) := by
  simp [preRunE, getEtcdUsernameAndPassword, inCluster, input]

end newEtcdCommand

open newEtcdCommand

/-- When `--prefix` is not given, the prefix `PreRunE` resolves is the
compiled default, whatever prefix the settings file holds: the flag's default
fills the CLI record, which the merge then prefers to the file. -/
theorem preRunE_prefix_of_not_given (env : Environment) (order : RangeOrder (Σ _ : String, String))
    (mergeOrder : RangeOrder String)
    (defaultEtcdConfigMapName defaultEtcdCredentialsSecretName : String)
    (unmarshal : String → Except Error Etcd) (ns : String) (flags : EtcdFlags)
    (passReader : PasswordReader) (notGiven : flags.Prefix = none)
    (settled : EtcdVariables) (rest : PasswordReader)
    (run : preRunE env order mergeOrder defaultEtcdConfigMapName defaultEtcdCredentialsSecretName
      unmarshal ns (parseFlags flags) passReader = some (.ok settled, rest)) :
    settled.etcdOpts.Prefix = defaultEtcdPrefix := by
  obtain ⟨fromFile, merged⟩ := preRunE_ok run
  have flagDefault : (parseFlags flags).etcdOpts.Prefix = defaultEtcdPrefix := by
    simp [parseFlags, notGiven]
  rw [merged, mergeEtcdSettings_Prefix,
    mergeEtcdSettings.chosenPrefix_of_ne_empty (by rw [flagDefault]; decide), flagDefault]
  decide

/-- A settings file with prefix `test` and no `--prefix` flag: the run
resolves `/service-registry/`, where the file's prefix normalises to `/test/`. -/
theorem preRunE_ignores_file_prefix :
    let env : Environment := ⟨false, .error (.other "no cluster"),
      fun path => if path = "etcd.yaml" then .ok "prefix: test" else .error (.other path)⟩
    let flags : EtcdFlags := ⟨some "etcd.yaml", none, none, none, none, none, false⟩
    let run := preRunE env (RangeOrder.stored _) (RangeOrder.stored _) "etcd-settings"
      "etcd-credentials" (fun _ => .ok ⟨"test", []⟩) "default" (parseFlags flags) []
    flags.Prefix = none ∧
      ∃ settled, run = some (.ok settled, []) ∧ settled.etcdOpts.Prefix = defaultEtcdPrefix ∧
        mergeEtcdSettings.normalizePrefix "test" = "/test/" := by
  intro env flags run
  exact ⟨rfl, _, rfl, preRunE_prefix_of_not_given env (RangeOrder.stored _) (RangeOrder.stored _)
    "etcd-settings" "etcd-credentials" (fun _ => .ok ⟨"test", []⟩) "default" flags [] rfl _ [] rfl,
    rfl⟩

end CnwanOperator.Command
