import CnwanOperator.Command.Etcd.Merge

/-! # `EtcdCli.Settings`

The etcd values of package `option` as the CLI gives them, and the method that
resolves them against the file's. The first call generates the settings and
stores them in `generatedSettings`; every later call returns that value,
whatever file it is given. The endpoints are the CLI list when it is more than
the lone default `localhost:2379`, else the file's list, else the default. The
list is returned as it is: it is not deduplicated, and an empty file list is
not replaced by the default, as both are in `mergeEtcdSettings` of package
`command`. -/

namespace CnwanOperator

/-- `option.EtcdCli`, with the fields `Settings` reads and writes; it never
reads `Username` or `Password`. -/
structure EtcdCli where
  Prefix : String
  endpoints : List String
  generatedSettings : Option Etcd
  deriving DecidableEq, Repr

namespace EtcdCli

namespace settings

/-- The `prefix` closure: the CLI prefix if `len(e.Prefix) > 0`, else the
file's as it is, else empty. -/
def chosenPrefix (e : EtcdCli) (fromFile : Option Etcd) : String :=
  if e.Prefix ≠ "" then e.Prefix
  else match fromFile with
    | some file => file.Prefix
    | none => ""

/-- The test of the `endpoints` closure: more than one CLI endpoint, or one
that is not `localhost:2379`. -/
def cliEndpointsGiven (endpoints : List String) : Prop :=
  1 < endpoints.length ∨ (endpoints.length = 1 ∧ endpoints[0]? ≠ some "localhost:2379")

instance : DecidablePred cliEndpointsGiven := fun endpoints =>
  inferInstanceAs (Decidable (1 < endpoints.length ∨ _))

/-- The `endpoints` closure: the CLI list if given, else the file's as it is,
else `localhost:2379`. -/
def chosenEndpoints (e : EtcdCli) (fromFile : Option Etcd) : List String :=
  if cliEndpointsGiven e.endpoints then e.endpoints
  else match fromFile with
    | some file => file.endpoints
    | none => ["localhost:2379"]

end settings

open settings in
/-- `(*EtcdCli).Settings(fromFile)`: the settings returned, and the receiver
as the call leaves it. Its `error` result is always nil and is left out. -/
def settings (e : EtcdCli) (fromFile : Option Etcd) : Etcd × EtcdCli :=
  match e.generatedSettings with
  | some generated => (generated, e)
  | none =>
      let generated : Etcd := ⟨chosenPrefix e fromFile, chosenEndpoints e fromFile⟩
      (generated, { e with generatedSettings := some generated })

/-- `Settings(f1)`, `Settings(f2)`, … on one receiver: what each call returns. -/
def settingsCalls (e : EtcdCli) : List (Option Etcd) → List Etcd
  | [] => []
  | fromFile :: rest => (e.settings fromFile).1 :: settingsCalls (e.settings fromFile).2 rest

open settings

/-! ## One call -/

@[simp] theorem settings_of_generated {e : EtcdCli} {generated : Etcd}
    (stored : e.generatedSettings = some generated) (fromFile : Option Etcd) :
    e.settings fromFile = (generated, e) := by
  simp [settings, stored]

theorem settings_fst (e : EtcdCli) (fromFile : Option Etcd) :
    (e.settings fromFile).1 =
      e.generatedSettings.getD ⟨chosenPrefix e fromFile, chosenEndpoints e fromFile⟩ := by
  cases stored : e.generatedSettings <;> simp [settings, stored]

theorem settings_generatedSettings (e : EtcdCli) (fromFile : Option Etcd) :
    (e.settings fromFile).2.generatedSettings = some (e.settings fromFile).1 := by
  cases stored : e.generatedSettings <;> simp [settings, stored]

/-! ## A sequence of calls -/

theorem settingsCalls_of_generated {e : EtcdCli} {generated : Etcd}
    (stored : e.generatedSettings = some generated) :
    ∀ calls, settingsCalls e calls = List.replicate calls.length generated
  | [] => rfl
  | fromFile :: rest => by
      rw [settingsCalls, settings_of_generated stored, settingsCalls_of_generated stored rest]
      rfl

/-- Every call of a sequence returns what the first call returned, whatever
files the later calls are given. -/
theorem settingsCalls_cons (e : EtcdCli) (first : Option Etcd) (rest : List (Option Etcd)) :
    settingsCalls e (first :: rest) = List.replicate (rest.length + 1) (e.settings first).1 := by
  rw [settingsCalls, settingsCalls_of_generated (settings_generatedSettings e first)]
  rfl

/-! ## The chosen values -/

theorem ne_nil_of_cliEndpointsGiven {endpoints : List String}
    (given : cliEndpointsGiven endpoints) : endpoints ≠ [] := by
  rintro rfl
  simp [cliEndpointsGiven] at given

theorem eq_nil_of_not_cliEndpointsGiven {endpoints : List String}
    (notGiven : ¬cliEndpointsGiven endpoints) (notDefault : endpoints ≠ ["localhost:2379"]) :
    endpoints = [] := by
  match endpoints, notGiven, notDefault with
  | [], _, _ => rfl
  | [_], notGiven, notDefault => simp_all [cliEndpointsGiven]
  | _ :: _ :: _, notGiven, _ => simp [cliEndpointsGiven] at notGiven

/-- Away from the two inputs it treats on its own, a lone CLI `localhost:2379`
and a file with no endpoints, the `endpoints` closure picks the endpoints
`mergeEtcdSettings` picks, up to the repeats and the order that the merge's
`endpSet` removes. -/
theorem mem_chosenEndpoints_iff_mergeEtcdSettings (e : EtcdCli) (fromFile : Option Etcd)
    (notDefault : e.endpoints ≠ ["localhost:2379"])
    (fileEndpoints : fromFile.map (·.endpoints) ≠ some []) (order : RangeOrder String)
    (ep : String) :
    ep ∈ chosenEndpoints e fromFile ↔
      ep ∈ (Command.mergeEtcdSettings order ⟨e.Prefix, e.endpoints⟩ fromFile).endpoints := by
  rw [Command.mem_mergeEtcdSettings_endpoints]
  by_cases given : cliEndpointsGiven e.endpoints
  · rw [Command.mergeEtcdSettings.chosenEndpoints_of_ne_nil (ne_nil_of_cliEndpointsGiven given)]
    simp [chosenEndpoints, given]
  · have empty := eq_nil_of_not_cliEndpointsGiven given notDefault
    simp only [chosenEndpoints, if_neg given]
    cases fromFile with
    | none => simp [Command.mergeEtcdSettings.chosenEndpoints, empty]
    | some file =>
        have present : file.endpoints ≠ [] := fun none => fileEndpoints (by simp [none])
        simp [Command.mergeEtcdSettings.chosenEndpoints, empty, present]

/-- A CLI list with a repeat and no file: both closures pick its endpoint. -/
theorem mem_chosenEndpoints_repeated :
    ["etcd:2379", "etcd:2379"] ≠ ["localhost:2379"] ∧
      (none : Option Etcd).map (·.endpoints) ≠ some [] ∧
      ("etcd:2379" ∈ chosenEndpoints ⟨"", ["etcd:2379", "etcd:2379"], none⟩ none ↔
        "etcd:2379" ∈ (Command.mergeEtcdSettings (RangeOrder.stored _)
          ⟨"", ["etcd:2379", "etcd:2379"]⟩ none).endpoints) :=
  ⟨by decide, by decide, mem_chosenEndpoints_iff_mergeEtcdSettings ⟨"", ["etcd:2379", "etcd:2379"], none⟩
    none (by decide) (by decide) _ _⟩

/-- Two receivers the type admits, each called in sequence. With no CLI
endpoints and a file that has none, every call returns an empty list, also
once a later file has endpoints; a CLI list with a repeat comes back with the
repeat on every call. -/
theorem settingsCalls_empty_or_repeated :
    settingsCalls ⟨"", [], none⟩ [some ⟨"", []⟩, none, some ⟨"", ["etcd:2379"]⟩] =
        List.replicate 3 ⟨"", []⟩ ∧
      settingsCalls ⟨"", ["etcd:2379", "etcd:2379"], none⟩ [none, none] =
        List.replicate 2 ⟨"", ["etcd:2379", "etcd:2379"]⟩ := by
  decide

end EtcdCli

end CnwanOperator
