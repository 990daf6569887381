import CnwanOperator.Command.Etcd.Command
import CnwanOperator.Command.ServiceDirectoryCommand

/-! # Running the program

`cobra` runs `cnwan-operator etcd …` and `cnwan-operator service-directory …`
by calling the root's `PersistentPreRunE`, then the subcommand's `PreRunE`,
then its `RunE`, and stops at the first error; without a subcommand it runs
the root's own `RunE`, which always fails.

`PersistentPreRunE` opens with the verbosity block: it indexes `logLevels` by
the verbosity, after a guard meant to reset an invalid verbosity to `1`. The
guard is `verbosity < 0 && verbosity > len(logLevels)`, which no verbosity
satisfies, so every verbosity outside `0..2` reaches the index and panics,
before any setting or password is read.

The root's `namespace` variable is the one its `--namespace` flag is bound to.
`PersistentPreRunE` overwrites it with the namespace it resolves, and the
subcommands read that value back through `cmd.Flags().GetString("namespace")`. -/

namespace CnwanOperator.Command

/-- The `zerolog` levels the verbosity selects from. -/
inductive LogLevel
  | debug
  | info
  | error
  deriving DecidableEq, Repr

/-- `logLevels` of `PersistentPreRunE`. -/
def logLevels : List LogLevel := [.debug, .info, .error]

/-- The verbosity block of `PersistentPreRunE`: the level it sets, `none` where
`logLevels[verbosity]` is out of range and panics. -/
def selectLogLevel (verbosity : Int) : Option LogLevel :=
  let verbosity := if verbosity < 0 ∧ verbosity > logLevels.length then 1 else verbosity
  if verbosity < 0 then none else logLevels[verbosity.toNat]?

/-- How a run of the program ends: a Go panic, the error a `RunE` or a
`PreRunE` returned, or what the command leaves behind when all succeed. -/
inductive Outcome (α : Type)
  | panicked
  | failed (err : Error)
  | done (result : α)

/-- The `Outcome` of a function that returns an `error`. -/
def Outcome.ofExcept {α : Type} : Except Error α → Outcome α
  | .error err => .failed err
  | .ok result => .done result

/-- The root's `PersistentPreRunE` as `cobra` runs it before every command:
the settings it resolves and the namespace it leaves in `--namespace`. The
verbosity is the flag's value, `1` when it is not given. -/
def rootPreRun (ctx : RootContext) (verbosity : Option Int) (flags : RootFlags) :
    Outcome (Operator × String) :=
  match selectLogLevel (verbosity.getD 1) with
  | none => .panicked
  | some _ => .ofExcept (NewRootCommand.persistentPreRunE ctx flags)

/-- `cnwan-operator` without a subcommand: its `RunE` prints the settings and
returns `please provide a service registry`. -/
def executeRoot (ctx : RootContext) (verbosity : Option Int) (flags : RootFlags) :
    Outcome Unit :=
  match rootPreRun ctx verbosity flags with
  | .panicked => .panicked
  | .failed err => .failed err
  | .done _ => .failed (.other "please provide a service registry")

/-- `cnwan-operator service-directory`: its `PreRunE` in the namespace the root
resolved; its `RunE` prints `sdOpts` and succeeds. -/
def executeServiceDirectory (ctx : ServiceDirectoryContext) (verbosity : Option Int)
    (rootFlags : RootFlags) (flags : ServiceDirectoryFlags) : Outcome ServiceDirectory :=
  match rootPreRun ctx.toRootContext verbosity rootFlags with
  | .panicked => .panicked
  | .failed err => .failed err
  | .done (_, ns) => .ofExcept (newServiceDirectoryCommand.preRunE ctx rootFlags ns flags)

/-- What the `etcd` command reads besides its flags, in the root command's
process. -/
structure EtcdContext extends RootContext where
  /-- The order the merge's `range` over `endpSet` visits it in. -/
  mergeOrder : RangeOrder String
  defaultEtcdConfigMapName : String
  defaultEtcdCredentialsSecretName : String
  /-- `yaml.Unmarshal` into an `option.Etcd`. -/
  unmarshalEtcd : String → Except Error Etcd

/-- `cnwan-operator etcd`: its `PreRunE` in the namespace the root resolved,
with what is left of the password reader; its `RunE` prints the settings and
succeeds. `none` when the reader's answers run out while it still prompts. -/
def executeEtcd (ctx : EtcdContext) (verbosity : Option Int) (rootFlags : RootFlags)
    (flags : EtcdFlags) (passReader : PasswordReader) :
    Option (Outcome EtcdVariables × PasswordReader) :=
  match rootPreRun ctx.toRootContext verbosity rootFlags with
  | .panicked => some (.panicked, passReader)
  | .failed err => some (.failed err, passReader)
  | .done (_, ns) =>
      (newEtcdCommand.preRunE ctx.env ctx.order ctx.mergeOrder ctx.defaultEtcdConfigMapName
          ctx.defaultEtcdCredentialsSecretName ctx.unmarshalEtcd ns
          (newEtcdCommand.parseFlags flags) passReader).map
        fun (outcome, rest) => (.ofExcept outcome, rest)

@[simp] theorem Outcome.ofExcept_error {α : Type} (err : Error) :
    (Outcome.ofExcept (.error err) : Outcome α) = .failed err := rfl

@[simp] theorem Outcome.ofExcept_ok {α : Type} (result : α) :
    Outcome.ofExcept (.ok result : Except Error α) = .done result := rfl

@[simp] theorem Outcome.ofExcept_ne_panicked {α : Type} (result : Except Error α) :
    Outcome.ofExcept result ≠ .panicked := by
  cases result <;> nofun

/-! ## The verbosity block -/

theorem selectLogLevel_eq (verbosity : Int) :
    selectLogLevel verbosity =
      if verbosity = 0 then some .debug else if verbosity = 1 then some .info
      else if verbosity = 2 then some .error else none := by
  have neverReset : ¬(verbosity < 0 ∧ verbosity > (logLevels.length : Int)) := by
    rw [show logLevels.length = 3 from rfl]
    omega
  simp only [selectLogLevel, if_neg neverReset]
  obtain ⟨n, rfl | rfl⟩ := Int.eq_nat_or_neg verbosity
  · rw [if_neg (by omega), Int.toNat_ofNat]
    rcases n with _ | _ | _ | n
    · rfl
    · rfl
    · rfl
    · simp only [logLevels, List.getElem?_cons_succ, List.getElem?_nil]
      rw [if_neg (by omega), if_neg (by omega), if_neg (by omega)]
  · rcases n with _ | n
    · rfl
    · rw [if_pos (by omega), if_neg (by omega), if_neg (by omega), if_neg (by omega)]

theorem selectLogLevel_eq_none_iff (verbosity : Int) :
    selectLogLevel verbosity = none ↔ verbosity < 0 ∨ 2 < verbosity := by
  rw [selectLogLevel_eq]
  split_ifs <;> simp <;> omega

/-! ## Whole runs -/

/-- The root's pre-run panics exactly outside `0..2`, and is otherwise
`PersistentPreRunE` with the verbosity block taking no part. -/
theorem rootPreRun_eq (ctx : RootContext) (verbosity : Option Int) (flags : RootFlags) :
    rootPreRun ctx verbosity flags =
      if verbosity.getD 1 < 0 ∨ 2 < verbosity.getD 1 then .panicked
      else .ofExcept (NewRootCommand.persistentPreRunE ctx flags) := by
  unfold rootPreRun
  split_ifs with outside
  · rw [(selectLogLevel_eq_none_iff _).mpr outside]
  · obtain ⟨level, selected⟩ :=
      Option.ne_none_iff_exists'.mp (mt (selectLogLevel_eq_none_iff _).mp outside)
    rw [selected]

theorem rootPreRun_eq_panicked (ctx : RootContext) (verbosity : Option Int) (flags : RootFlags) :
    rootPreRun ctx verbosity flags = .panicked ↔ verbosity.getD 1 < 0 ∨ 2 < verbosity.getD 1 := by
  rw [rootPreRun_eq]
  split_ifs with outside
  · exact iff_of_true rfl outside
  · exact iff_of_false (Outcome.ofExcept_ne_panicked _) outside

theorem persistentPreRunE_namespace {ctx : RootContext} {flags : RootFlags}
    {settings : Operator} {ns : String}
    (resolved : NewRootCommand.persistentPreRunE ctx flags = .ok (settings, ns)) :
    ns = NewRootCommand.resolveNamespace ctx flags := by
  simp only [NewRootCommand.persistentPreRunE, bind_eq_ok, pure_eq_ok] at resolved
  obtain ⟨_, _, _, _, _, _, returned⟩ := resolved
  exact (Prod.mk.inj returned).2.symm

@[simp] theorem Outcome.ofExcept_eq_done {α : Type} {result : Except Error α} {value : α} :
    Outcome.ofExcept result = .done value ↔ result = .ok value := by
  cases result <;> simp

theorem rootPreRun_eq_done {ctx : RootContext} {verbosity : Option Int} {flags : RootFlags}
    {resolved : Operator × String} :
    rootPreRun ctx verbosity flags = .done resolved ↔
      (0 ≤ verbosity.getD 1 ∧ verbosity.getD 1 ≤ 2) ∧
        NewRootCommand.persistentPreRunE ctx flags = .ok resolved := by
  rw [rootPreRun_eq]
  split_ifs with outside
  · exact iff_of_false nofun fun ⟨⟨low, high⟩, _⟩ => by omega
  · rw [Outcome.ofExcept_eq_done]
    exact ⟨fun preRun => ⟨by omega, preRun⟩, And.right⟩

theorem executeEtcd_eq_done {ctx : EtcdContext} {verbosity : Option Int} {rootFlags : RootFlags}
    {flags : EtcdFlags} {passReader rest : PasswordReader} {settled : EtcdVariables} :
    executeEtcd ctx verbosity rootFlags flags passReader = some (.done settled, rest) ↔
      ∃ settings ns, rootPreRun ctx.toRootContext verbosity rootFlags = .done (settings, ns) ∧
        newEtcdCommand.preRunE ctx.env ctx.order ctx.mergeOrder ctx.defaultEtcdConfigMapName
          ctx.defaultEtcdCredentialsSecretName ctx.unmarshalEtcd ns
          (newEtcdCommand.parseFlags flags) passReader = some (.ok settled, rest) := by
  unfold executeEtcd
  rcases rootPreRun ctx.toRootContext verbosity rootFlags with _ | _ | ⟨_, _⟩ <;>
    simp [Option.map_eq_some', and_assoc]

theorem executeServiceDirectory_eq_done {ctx : ServiceDirectoryContext} {verbosity : Option Int}
    {rootFlags : RootFlags} {flags : ServiceDirectoryFlags} {sdOpts : ServiceDirectory} :
    executeServiceDirectory ctx verbosity rootFlags flags = .done sdOpts ↔
      ∃ settings ns, rootPreRun ctx.toRootContext verbosity rootFlags = .done (settings, ns) ∧
        newServiceDirectoryCommand.preRunE ctx rootFlags ns flags = .ok sdOpts := by
  unfold executeServiceDirectory
  rcases rootPreRun ctx.toRootContext verbosity rootFlags with _ | _ | ⟨_, _⟩ <;> simp [and_assoc]

/-- A verbosity outside `0..2`, the flag defaulting to `1`, makes every
command panic, and only such a verbosity does: the root alone, `etcd` with its
password reader untouched, and `service-directory`. -/
theorem verbosity_panics (verbosity : Option Int) :
    (∀ ctx flags, executeRoot ctx verbosity flags = .panicked ↔
      verbosity.getD 1 < 0 ∨ 2 < verbosity.getD 1) ∧
    (∀ ctx rootFlags flags, executeServiceDirectory ctx verbosity rootFlags flags = .panicked ↔
      verbosity.getD 1 < 0 ∨ 2 < verbosity.getD 1) ∧
    (∀ ctx rootFlags flags passReader,
      executeEtcd ctx verbosity rootFlags flags passReader = some (.panicked, passReader) ↔
        verbosity.getD 1 < 0 ∨ 2 < verbosity.getD 1) := by
  refine ⟨fun ctx flags => ?_, fun ctx rootFlags flags => ?_,
    fun ctx rootFlags flags passReader => ?_⟩
  · refine Iff.trans ?_ (rootPreRun_eq_panicked ctx verbosity flags)
    unfold executeRoot
    rcases rootPreRun ctx verbosity flags with _ | _ | ⟨_, _⟩ <;> simp
  · refine Iff.trans ?_ (rootPreRun_eq_panicked ctx.toRootContext verbosity rootFlags)
    unfold executeServiceDirectory
    rcases rootPreRun ctx.toRootContext verbosity rootFlags with _ | _ | ⟨_, _⟩ <;> simp
  · refine Iff.trans ?_ (rootPreRun_eq_panicked ctx.toRootContext verbosity rootFlags)
    unfold executeEtcd
    rcases rootPreRun ctx.toRootContext verbosity rootFlags with _ | _ | ⟨_, _⟩ <;>
      simp [Option.map_eq_some']

end CnwanOperator.Command
