import CnwanOperator.Go.Strings
import CnwanOperator.Go.Map
import CnwanOperator.Command.Precedence

/-! # `mergeEtcdSettings`

The etcd settings merge of package `command`: the prefix is the CLI value,
else the file's, normalised to `/segment/` form; the endpoints are the CLI
list, else the file's, else `localhost:2379`, deduplicated through a Go map
and read back in that map's `range` order. -/

namespace CnwanOperator.Command

/-- `defaultEtcdPrefix` of package `command`. Its declaration is not among the
sources; `TestMergeEtcdSettings` pins `mergeEtcdSettings` on an empty prefix to
`fmt.Sprintf("/%s/", option.DefaultEtcdPrefix)`, which is this string. -/
def defaultEtcdPrefix : String := "/service-registry/"

namespace mergeEtcdSettings

/-- The `prefix` closure: the CLI prefix if set, else the file's. -/
def chosenPrefix (fromCli : Etcd) (fromFile : Option Etcd) : String :=
  cliOrFileString fromCli.Prefix (fromFile.map (·.Prefix))

/-- The `switch prefix` that follows the closure. -/
def normalizePrefix (raw : String) : String :=
  if raw = "" then defaultEtcdPrefix
  else if raw = "/" then "/"
  else "/" ++ Strings.trim raw "/" ++ "/"

/-- The first half of the `endpoints` closure: the CLI list if non-empty,
else the file's, with `localhost:2379` when both are empty. -/
def chosenEndpoints (fromCli : Etcd) (fromFile : Option Etcd) : List String :=
  let eps :=
    if 0 < fromCli.endpoints.length then fromCli.endpoints
    else match fromFile with
      | some file => file.endpoints
      | none => []
  if eps.length = 0 then ["localhost:2379"] else eps

/-- `endpSet`: each endpoint inserted into a `map[string]bool` unless present. -/
def endpointSet (eps : List String) : AList (fun _ : String => Bool) :=
  eps.foldl (fun endpSet ep => if ep ∈ endpSet then endpSet else endpSet.insert ep true) ∅

end mergeEtcdSettings

open mergeEtcdSettings in
/-- `mergeEtcdSettings(fromCli, fromFile)`. The final loop appends the keys of
`endpSet` in the order `order` visits them. -/
def mergeEtcdSettings (order : RangeOrder String) (fromCli : Etcd)
    (fromFile : Option Etcd) : Etcd where
  Prefix := normalizePrefix (chosenPrefix fromCli fromFile)
  endpoints := order.visit (endpointSet (chosenEndpoints fromCli fromFile)).keys

namespace mergeEtcdSettings

/-! ## The prefix -/

@[simp] theorem normalizePrefix_empty : normalizePrefix "" = defaultEtcdPrefix := rfl

@[simp] theorem normalizePrefix_slash : normalizePrefix "/" = "/" := rfl

theorem normalizePrefix_of_ne {raw : String} (empty : raw ≠ "") (slash : raw ≠ "/") :
    normalizePrefix raw = "/" ++ Strings.trim raw "/" ++ "/" := by
  simp [normalizePrefix, empty, slash]

private theorem wrapped_ne_empty (kept : String) : "/" ++ kept ++ "/" ≠ "" := by
  simp [String.ext_iff]

private theorem wrapped_ne_slash (kept : String) : "/" ++ kept ++ "/" ≠ "/" := by
  simp [String.ext_iff]

theorem normalizePrefix_ne_empty (raw : String) : normalizePrefix raw ≠ "" := by
  by_cases empty : raw = ""
  · subst empty; decide
  by_cases slash : raw = "/"
  · subst slash; decide
  rw [normalizePrefix_of_ne empty slash]
  exact wrapped_ne_empty _

theorem normalizePrefix_normalizePrefix (raw : String) :
    normalizePrefix (normalizePrefix raw) = normalizePrefix raw := by
  by_cases empty : raw = ""
  · subst empty; decide
  by_cases slash : raw = "/"
  · subst slash; rfl
  rw [normalizePrefix_of_ne empty slash,
    normalizePrefix_of_ne (wrapped_ne_empty _) (wrapped_ne_slash _), Strings.trim_slash_trim]

@[simp] theorem chosenPrefix_of_ne_empty {fromCli : Etcd} (given : fromCli.Prefix ≠ "")
    (fromFile : Option Etcd) : chosenPrefix fromCli fromFile = fromCli.Prefix := by
  simp [chosenPrefix, cliOrFileString, given]

/-! ## The endpoints -/

theorem chosenEndpoints_ne_nil (fromCli : Etcd) (fromFile : Option Etcd) :
    chosenEndpoints fromCli fromFile ≠ [] := by
  intro empty
  simp only [chosenEndpoints] at empty
  split_ifs at empty <;> simp_all

@[simp] theorem chosenEndpoints_of_ne_nil {fromCli : Etcd} (given : fromCli.endpoints ≠ [])
    (fromFile : Option Etcd) : chosenEndpoints fromCli fromFile = fromCli.endpoints := by
  simp [chosenEndpoints, given, List.length_pos.mpr given]

private theorem mem_foldl_insert (eps : List String) (endpSet : AList (fun _ : String => Bool))
    (ep : String) :
    ep ∈ eps.foldl (fun endpSet ep => if ep ∈ endpSet then endpSet else endpSet.insert ep true)
      endpSet ↔ ep ∈ endpSet ∨ ep ∈ eps := by
  induction eps generalizing endpSet with
  | nil => simp
  | cons head tail induction =>
      rw [List.foldl_cons, induction]
      split_ifs with present
      · by_cases equal : ep = head
        · subst equal; simp [present]
        · simp [equal]
      · simp [AList.mem_insert, or_assoc, or_left_comm]

@[simp] theorem mem_endpointSet (eps : List String) (ep : String) :
    ep ∈ endpointSet eps ↔ ep ∈ eps := by
  simp [endpointSet, mem_foldl_insert]

end mergeEtcdSettings

open mergeEtcdSettings

@[simp] theorem mergeEtcdSettings_Prefix (order : RangeOrder String) (fromCli : Etcd)
    (fromFile : Option Etcd) :
    (mergeEtcdSettings order fromCli fromFile).Prefix =
      normalizePrefix (chosenPrefix fromCli fromFile) := rfl

@[simp] theorem mem_mergeEtcdSettings_endpoints (order : RangeOrder String) (fromCli : Etcd)
    (fromFile : Option Etcd) (ep : String) :
    ep ∈ (mergeEtcdSettings order fromCli fromFile).endpoints ↔
      ep ∈ chosenEndpoints fromCli fromFile := by
  simp [mergeEtcdSettings, ← AList.mem_keys]

theorem mergeEtcdSettings_endpoints_nodup (order : RangeOrder String) (fromCli : Etcd)
    (fromFile : Option Etcd) : (mergeEtcdSettings order fromCli fromFile).endpoints.Nodup :=
  order.nodup_visit (AList.keys_nodup _)

theorem mergeEtcdSettings_endpoints_ne_nil (order : RangeOrder String) (fromCli : Etcd)
    (fromFile : Option Etcd) : (mergeEtcdSettings order fromCli fromFile).endpoints ≠ [] := by
  obtain ⟨ep, member⟩ := List.exists_mem_of_ne_nil _ (chosenEndpoints_ne_nil fromCli fromFile)
  exact List.ne_nil_of_mem ((mem_mergeEtcdSettings_endpoints order fromCli fromFile ep).mpr member)

/-- Whatever order the Go map is read back in, the endpoints are never empty,
never repeat, and are as a set the CLI list if non-empty, else the file's if
non-empty, else `localhost:2379`. -/
theorem mergeEtcdSettings_endpoints (order : RangeOrder String) (fromCli : Etcd)
    (fromFile : Option Etcd) :
    let eps := (mergeEtcdSettings order fromCli fromFile).endpoints
    eps ≠ [] ∧ eps.Nodup ∧ ∀ ep, ep ∈ eps ↔
      if fromCli.endpoints ≠ [] then ep ∈ fromCli.endpoints
      else match fromFile with
        | some file =>
            if file.endpoints ≠ [] then ep ∈ file.endpoints else ep = "localhost:2379"
        | none => ep = "localhost:2379" := by
  refine ⟨mergeEtcdSettings_endpoints_ne_nil order fromCli fromFile,
    mergeEtcdSettings_endpoints_nodup order fromCli fromFile, fun ep => ?_⟩
  rw [mem_mergeEtcdSettings_endpoints]
  by_cases cli : fromCli.endpoints = []
  · cases fromFile with
    | none => simp [chosenEndpoints, cli]
    | some file =>
        by_cases fileEmpty : file.endpoints = [] <;> simp [chosenEndpoints, cli, fileEmpty]
  · simp [cli]

example : (mergeEtcdSettings (RangeOrder.stored _)
    ⟨"//test-prefix/another///", ["test:2379", "test:2379", "test-1:2379"]⟩ none) =
      ⟨"/test-prefix/another/", ["test-1:2379", "test:2379"]⟩ := by decide

/-- Resolving a resolved snapshot again, against any file, gives back its
prefix and its set of endpoints: no file can override a resolved snapshot. -/
theorem mergeEtcdSettings_mergeEtcdSettings (order order' : RangeOrder String)
    (fromCli : Etcd) (fromFile fromFile' : Option Etcd) :
    let resolved := mergeEtcdSettings order fromCli fromFile
    let again := mergeEtcdSettings order' resolved fromFile'
    again.Prefix = resolved.Prefix ∧ ∀ ep, ep ∈ again.endpoints ↔ ep ∈ resolved.endpoints := by
  refine ⟨?_, fun ep => ?_⟩
  · rw [mergeEtcdSettings_Prefix, chosenPrefix_of_ne_empty (normalizePrefix_ne_empty _),
      mergeEtcdSettings_Prefix, normalizePrefix_normalizePrefix]
  · rw [mem_mergeEtcdSettings_endpoints,
      chosenEndpoints_of_ne_nil (mergeEtcdSettings_endpoints_ne_nil order fromCli fromFile)]

end CnwanOperator.Command
