import CnwanOperator.Go.Errors
import CnwanOperator.Go.Map

/-! # The cluster and host as package `command` sees them

`runningInK8s()` caches its probe for the rest of the process and
`getKubernetesClientSet()` caches the client it builds, so within one run each
has one answer, which `Environment` records together with the files the
process can read. Settings and secret payloads (`[]byte`) are strings. -/

namespace CnwanOperator.Command

/-- A Kubernetes `Secret`: its `Data` map. -/
structure Secret where
  data : AList (fun _ : String => String)

/-- A Kubernetes `ConfigMap`: its `Data` map. -/
structure ConfigMap where
  data : AList (fun _ : String => String)

/-- The calls made on the clientset: `Secrets(namespace).Get(ctx, name)` and
`ConfigMaps(namespace).Get(ctx, name)`. -/
structure ClientSet where
  getSecret : (ns name : String) → Except Error Secret
  getConfigMap : (ns name : String) → Except Error ConfigMap

structure Environment where
  /-- `runningInK8s()`. -/
  inK8s : Bool
  /-- `getKubernetesClientSet()`. -/
  clientSet : Except Error ClientSet
  /-- `ioutil.ReadFile(path)`. -/
  readFile : String → Except Error String

/-- `getKubernetesClientSet()` followed by the `Get` of a secret. -/
def Environment.getSecret (env : Environment) (ns name : String) :
    Except Error Secret :=
  env.clientSet >>= fun kcli => kcli.getSecret ns name

/-- The first entry a `range` loop over `data` visits, as a loop that breaks
or returns on its first turn reads it. -/
def firstData (order : RangeOrder (Σ _ : String, String))
    (data : AList (fun _ : String => String)) : Option String :=
  (order.visit data.entries).head?.map (·.2)

/-- `loadSettingsFromConfigMap(namespace, name)`: the first data of the
ConfigMap, for ConfigMaps deployed with `--from-file`. -/
def loadSettingsFromConfigMap (env : Environment) (order : RangeOrder (Σ _ : String, String))
    (ns name : String) : Except Error String :=
  match env.clientSet with
  | .error err => .error (.wrapped "error while getting Kubernetes clientset: " err)
  | .ok cli =>
      match cli.getConfigMap ns name with
      | .error err =>
          .error (.wrapped ("error while getting ConfigMap \"" ++ name ++ "." ++ ns ++
            "\": ") err)
      | .ok confMap => .ok ((firstData order confMap.data).getD "")

/-- `loadExistingSettings(filepath, cfgMap, defaultCfgMap, namespace)`: an
explicit path, else a named ConfigMap, else (inside Kubernetes only) the
default ConfigMap if it loads; no settings at all is not an error. -/
def loadExistingSettings (env : Environment) (order : RangeOrder (Σ _ : String, String))
    (filepath cfgMap defaultCfgMap ns : String) : Except Error String :=
  if filepath ≠ "" then env.readFile filepath
  else if cfgMap ≠ "" then loadSettingsFromConfigMap env order ns cfgMap
  else if env.inK8s then
    match loadSettingsFromConfigMap env order ns defaultCfgMap with
    | .ok settings => .ok settings
    | .error _ => .ok ""
  else .ok ""

/-- The block the root and `service-directory` commands share: the existing
settings, decoded when there are any, and nil when there are none. -/
def decodeExistingSettings {α : Type} (env : Environment)
    (order : RangeOrder (Σ _ : String, String)) (filepath cfgMap defaultCfgMap ns : String)
    (unmarshal : String → Except Error α) : Except Error (Option α) := do
  let dataBytes ← loadExistingSettings env order filepath cfgMap defaultCfgMap ns
  if 0 < dataBytes.length then
    some <$> (unmarshal dataBytes).mapError
      (.wrapped "error while trying to decode settings file: ")
  else pure none

theorem decodeExistingSettings_eq_ok {α : Type} (env : Environment)
    (order : RangeOrder (Σ _ : String, String)) (filepath cfgMap defaultCfgMap ns : String)
    (unmarshal : String → Except Error α) (fromFile : Option α) :
    decodeExistingSettings env order filepath cfgMap defaultCfgMap ns unmarshal = .ok fromFile ↔
      ∃ dataBytes, loadExistingSettings env order filepath cfgMap defaultCfgMap ns =
          .ok dataBytes ∧
        if dataBytes = "" then fromFile = none
        else ∃ file, unmarshal dataBytes = .ok file ∧ fromFile = some file := by
  simp only [decodeExistingSettings, bind_eq_ok]
  refine exists_congr fun dataBytes => and_congr_right fun _ => ?_
  by_cases empty : dataBytes = ""
  · subst empty
    rw [if_neg (by decide), if_pos rfl]
    exact pure_eq_ok.trans eq_comm
  · have nonEmpty : 0 < dataBytes.length := by
      obtain ⟨chars⟩ := dataBytes
      exact List.length_pos.mpr fun nil => empty (by rw [nil])
    rw [if_pos nonEmpty, if_neg empty]
    cases unmarshal dataBytes with
    | error err => simp [Except.mapError]
    | ok file => exact ⟨fun decoded => ⟨file, rfl, (Except.ok.inj decoded).symm⟩,
        fun ⟨_, decoded, chosen⟩ => by rw [chosen, Except.ok.inj decoded]; rfl⟩

/-- `loadGoogleServiceAccountSecret(namespace, name)`: the first data of the
secret. -/
def loadGoogleServiceAccountSecret (env : Environment)
    (order : RangeOrder (Σ _ : String, String)) (ns name : String) :
    Except Error String := do
  let secret ← env.getSecret ns name
  match firstData order secret.data with
  | some d => .ok d
  | none => .error (.other ("secret " ++ ns ++ "/" ++ name ++ " has no data"))

/-- `getGCPServiceAccount(fromPath, fromSecret, namespace)`: a path, else a
named secret, else (inside Kubernetes only) the default secret if it loads;
`""` stands for the nil account that falls back to API scopes. -/
def getGCPServiceAccount (env : Environment) (order : RangeOrder (Σ _ : String, String))
    (defaultGCPServiceAccountSecretName fromPath fromSecret ns : String) :
    Except Error String :=
  if fromPath ≠ "" then env.readFile fromPath
  else if fromSecret ≠ "" then loadGoogleServiceAccountSecret env order ns fromSecret
  else if env.inK8s then
    match loadGoogleServiceAccountSecret env order ns defaultGCPServiceAccountSecretName with
    | .ok sa => .ok sa
    | .error _ => .ok ""
  else .ok ""

/-! ## The first data of a map -/

theorem firstData_eq_none_iff (order : RangeOrder (Σ _ : String, String))
    (data : AList (fun _ : String => String)) : firstData order data = none ↔ data.entries = [] := by
  rw [firstData, Option.map_eq_none', List.head?_eq_none_iff]
  exact ⟨fun visited => by_contra fun present => order.visit_ne_nil present visited,
    fun empty => by rw [empty]; exact (order.perm []).eq_nil⟩

theorem lookup_of_firstData {order : RangeOrder (Σ _ : String, String)}
    {data : AList (fun _ : String => String)} {value : String}
    (first : firstData order data = some value) : ∃ key, data.lookup key = some value := by
  obtain ⟨entry, head, rfl⟩ := Option.map_eq_some'.mp first
  exact ⟨entry.1, AList.mem_lookup_iff.mpr ((order.mem_visit).mp (List.mem_of_mem_head? head))⟩

theorem firstData_first (data : AList (fun _ : String => String)) {key value : String}
    (held : data.lookup key = some value) :
    firstData (RangeOrder.first ⟨key, value⟩) data = some value := by
  have member : (⟨key, value⟩ : Σ _ : String, String) ∈ data.entries :=
    AList.mem_lookup_iff.mp held
  simp [firstData, RangeOrder.first, member]

end CnwanOperator.Command
