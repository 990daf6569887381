import CnwanOperator.Command.Utils

/-! # The package caches of `command`

`runningInK8s()` probes `rest.InClusterConfig()` once and keeps the answer in
the package variable `inK8s`. `getKubernetesClientSet()` builds a clientset
and keeps it in `k8scli`, but only when the build succeeds: a failed build is
tried again on the next call. Here each call carries what the world answers
on that call, and a run is any interleaving of calls of the two.

`Environment` gives each of the two one answer for a whole run. For
`runningInK8s` that is exact: every call returns the first probe's answer.
For the clientset it is exact once a build has succeeded, and before that as
long as the world answers every build alike. -/

namespace CnwanOperator.Command

/-- The package variables `inK8s` and `k8scli`, `nil` until set. -/
structure Caches where
  inK8s : Option Bool
  k8scli : Option ClientSet

/-- The caches when the process starts. -/
def Caches.empty : Caches := ⟨none, none⟩

/-- `runningInK8s()`, where `inCluster` says whether `rest.InClusterConfig()`
succeeds on this call. -/
def runningInK8s (inCluster : Bool) (caches : Caches) : Bool × Caches :=
  match caches.inK8s with
  | some answer => (answer, caches)
  | none => (inCluster, { caches with inK8s := some inCluster })

/-- `getKubernetesClientSet()`, where `getConfig` and `newForConfig` are what
`ctrl.GetConfig()` and `kubernetes.NewForConfig` return on this call. -/
def getKubernetesClientSet {Config : Type} (getConfig : Except Error Config)
    (newForConfig : Config → Except Error ClientSet) (caches : Caches) :
    Except Error ClientSet × Caches :=
  match caches.k8scli with
  | some k8scli => (.ok k8scli, caches)
  | none =>
      match getConfig with
      | .error err => (.error err, caches)
      | .ok k8sconf =>
          match newForConfig k8sconf with
          | .error err => (.error err, caches)
          | .ok k8scli => (.ok k8scli, { caches with k8scli := some k8scli })

/-- A call of one of the two functions, with the world's answers on that call. -/
inductive CacheCall (Config : Type)
  | runningInK8s (inCluster : Bool)
  | getKubernetesClientSet (getConfig : Except Error Config)
      (newForConfig : Config → Except Error ClientSet)

/-- What a call returns. -/
inductive CacheReply
  | inK8s (answer : Bool)
  | clientSet (result : Except Error ClientSet)

namespace CacheCall

variable {Config : Type}

def step (caches : Caches) : CacheCall Config → CacheReply × Caches
  | .runningInK8s inCluster =>
      let (answer, caches) := Command.runningInK8s inCluster caches
      (.inK8s answer, caches)
  | .getKubernetesClientSet getConfig newForConfig =>
      let (result, caches) := Command.getKubernetesClientSet getConfig newForConfig caches
      (.clientSet result, caches)

/-- A run of calls: what each returns, and the caches it leaves. -/
def run (caches : Caches) : List (CacheCall Config) → List CacheReply × Caches
  | [] => ([], caches)
  | call :: calls =>
      let (reply, next) := step caches call
      let (replies, final) := run next calls
      (reply :: replies, final)

/-! ## What the caches hold -/

/-- What a build of the clientset gives on the call it is tried on. -/
def built (getConfig : Except Error Config) (newForConfig : Config → Except Error ClientSet) :
    Except Error ClientSet :=
  getConfig >>= newForConfig

/-- The answer of the first probe among `calls`. -/
def firstProbe : List (CacheCall Config) → Option Bool
  | [] => none
  | .runningInK8s inCluster :: _ => some inCluster
  | .getKubernetesClientSet _ _ :: calls => firstProbe calls

/-- The client of the first build among `calls` that succeeded. -/
def firstBuilt : List (CacheCall Config) → Option ClientSet
  | [] => none
  | .runningInK8s _ :: calls => firstBuilt calls
  | .getKubernetesClientSet getConfig newForConfig :: calls =>
      match built getConfig newForConfig with
      | .ok k8scli => some k8scli
      | .error _ => firstBuilt calls

/-- The caches after the calls `before`, from the start of the process. -/
def summary (before : List (CacheCall Config)) : Caches :=
  ⟨firstProbe before, firstBuilt before⟩

/-- What a call returns after the calls `before`: the first probe's answer,
and the first client built, else what this call's own build gives. -/
def expectedReply (before : List (CacheCall Config)) : CacheCall Config → CacheReply
  | .runningInK8s inCluster => .inK8s ((firstProbe before).getD inCluster)
  | .getKubernetesClientSet getConfig newForConfig =>
      .clientSet (match firstBuilt before with
        | some k8scli => .ok k8scli
        | none => built getConfig newForConfig)

/-- The replies `expectedReply` gives each of `calls`, after `before`. -/
def expectedReplies (before : List (CacheCall Config)) :
    List (CacheCall Config) → List CacheReply
  | [] => []
  | call :: calls => expectedReply before call :: expectedReplies (before ++ [call]) calls

@[simp] theorem summary_nil : summary ([] : List (CacheCall Config)) = Caches.empty := rfl

theorem firstProbe_append (before after : List (CacheCall Config)) :
    firstProbe (before ++ after) = (firstProbe before).orElse fun _ => firstProbe after := by
  induction before with
  | nil => rfl
  | cons first before induction =>
      cases first with
      | runningInK8s inCluster => rfl
      | getKubernetesClientSet getConfig newForConfig => exact induction

theorem firstBuilt_append (before after : List (CacheCall Config)) :
    firstBuilt (before ++ after) = (firstBuilt before).orElse fun _ => firstBuilt after := by
  induction before with
  | nil => rfl
  | cons first before induction =>
      cases first with
      | runningInK8s inCluster => exact induction
      | getKubernetesClientSet getConfig newForConfig =>
          simp only [List.cons_append, firstBuilt]
          cases built getConfig newForConfig with
          | ok k8scli => rfl
          | error err => exact induction

theorem runningInK8s_mem_of_firstProbe {calls : List (CacheCall Config)} {answer : Bool}
    (probed : firstProbe calls = some answer) : .runningInK8s answer ∈ calls := by
  induction calls with
  | nil => cases probed
  | cons call calls induction =>
      cases call with
      | runningInK8s inCluster =>
          cases probed
          exact List.mem_cons_self _ _
      | getKubernetesClientSet getConfig newForConfig =>
          exact List.mem_cons_of_mem _ (induction probed)

theorem exists_built_of_firstBuilt {calls : List (CacheCall Config)} {k8scli : ClientSet}
    (stored : firstBuilt calls = some k8scli) :
    ∃ getConfig newForConfig, .getKubernetesClientSet getConfig newForConfig ∈ calls ∧
      built getConfig newForConfig = .ok k8scli := by
  induction calls with
  | nil => cases stored
  | cons call calls induction =>
      cases call with
      | runningInK8s inCluster =>
          obtain ⟨getConfig, newForConfig, member, result⟩ := induction stored
          exact ⟨getConfig, newForConfig, List.mem_cons_of_mem _ member, result⟩
      | getKubernetesClientSet getConfig newForConfig =>
          simp only [firstBuilt] at stored
          cases result : built getConfig newForConfig with
          | ok client =>
              rw [result] at stored
              cases stored
              exact ⟨getConfig, newForConfig, List.mem_cons_self _ _, result⟩
          | error err =>
              rw [result] at stored
              obtain ⟨getConfig', newForConfig', member, result'⟩ := induction stored
              exact ⟨getConfig', newForConfig', List.mem_cons_of_mem _ member, result'⟩

/-- One call from the caches its predecessors left returns the expected reply
and leaves the caches of the run extended by it. -/
theorem step_summary (before : List (CacheCall Config)) (call : CacheCall Config) :
    step (summary before) call = (expectedReply before call, summary (before ++ [call])) := by
  cases call with
  | runningInK8s inCluster =>
      cases probed : firstProbe before <;>
        simp [summary, step, Command.runningInK8s, expectedReply, firstProbe_append,
          firstBuilt_append, probed, firstProbe, firstBuilt]
  | getKubernetesClientSet getConfig newForConfig =>
      cases stored : firstBuilt before with
      | some k8scli =>
          simp [summary, step, Command.getKubernetesClientSet, expectedReply, firstProbe_append,
            firstBuilt_append, stored, firstProbe]
      | none =>
          simp only [summary, step, Command.getKubernetesClientSet, expectedReply,
            firstProbe_append, firstBuilt_append, stored, firstProbe, firstBuilt, built]
          cases getConfig with
          | error err => simp [bind, Except.bind]
          | ok k8sconf => cases result : newForConfig k8sconf <;> simp [bind, Except.bind, result]

/-- A run from the caches `before` left gets the expected replies. -/
theorem run_summary (before calls : List (CacheCall Config)) :
    run (summary before) calls = (expectedReplies before calls, summary (before ++ calls)) := by
  induction calls generalizing before with
  | nil => simp [run, expectedReplies]
  | cons call calls induction =>
      simp only [run, step_summary, induction, expectedReplies, List.append_assoc,
        List.singleton_append]

theorem getElem?_expectedReplies (before : List (CacheCall Config)) :
    ∀ (calls : List (CacheCall Config)) (i : Nat),
      (expectedReplies before calls)[i]? = calls[i]?.map (expectedReply (before ++ calls.take i))
  | [], _ => rfl
  | call :: calls, 0 => by simp [expectedReplies]
  | call :: calls, i + 1 => by
      simp only [expectedReplies, List.getElem?_cons_succ, List.take_succ_cons,
        getElem?_expectedReplies (before ++ [call]) calls i, List.append_assoc,
        List.singleton_append]

theorem firstProbe_of_mem_expectedReplies {answer : Bool} :
    ∀ (before calls : List (CacheCall Config)), .inK8s answer ∈ expectedReplies before calls →
      firstProbe (before ++ calls) = some answer
  | _, [], member => absurd member (List.not_mem_nil _)
  | before, call :: calls, member => by
      rcases List.mem_cons.mp member with replied | later
      · cases call with
        | runningInK8s inCluster =>
            cases replied
            rw [firstProbe_append]
            cases firstProbe before <;> rfl
        | getKubernetesClientSet getConfig newForConfig => cases replied
      · simpa only [List.append_assoc, List.singleton_append] using
          firstProbe_of_mem_expectedReplies (before ++ [call]) calls later

/-- In every interleaving of calls from the start of the process, every
`runningInK8s()` call returns the answer of the run's first probe, and the
`getKubernetesClientSet()` call at each position returns the first client
built before it, else what its own build gives, a failure included. -/
theorem run_replies (calls : List (CacheCall Config)) :
    (∀ answer, CacheReply.inK8s answer ∈ (run Caches.empty calls).1 →
      firstProbe calls = some answer) ∧
    ∀ (i : Nat) (getConfig : Except Error Config) (newForConfig : Config → Except Error ClientSet),
      calls[i]? = some (.getKubernetesClientSet getConfig newForConfig) →
      (run Caches.empty calls).1[i]? = some (.clientSet (match firstBuilt (calls.take i) with
        | some k8scli => .ok k8scli
        | none => built getConfig newForConfig)) := by
  rw [← summary_nil, run_summary]
  refine ⟨fun answer member => ?_, fun i getConfig newForConfig found => ?_⟩
  · simpa using firstProbe_of_mem_expectedReplies [] calls member
  · rw [getElem?_expectedReplies, found]
    rfl

/-- Whether the world answers a call as `env` does: the probe as `inK8s`, the
build as `clientSet`. -/
def AnsweredBy (env : Environment) : CacheCall Config → Prop
  | .runningInK8s inCluster => inCluster = env.inK8s
  | .getKubernetesClientSet getConfig newForConfig => built getConfig newForConfig = env.clientSet

/-- What `Environment` returns for a call. -/
def environmentReply (env : Environment) : CacheCall Config → CacheReply
  | .runningInK8s _ => .inK8s env.inK8s
  | .getKubernetesClientSet _ _ => .clientSet env.clientSet

theorem expectedReply_of_answers {env : Environment} {before : List (CacheCall Config)}
    (stable : ∀ call ∈ before, AnsweredBy env call) {call : CacheCall Config}
    (answered : AnsweredBy env call) : expectedReply before call = environmentReply env call := by
  cases call with
  | runningInK8s inCluster =>
      cases probed : firstProbe before with
      | none => simp [expectedReply, probed, answered.symm, environmentReply]
      | some answer =>
          have same : answer = env.inK8s := stable _ (runningInK8s_mem_of_firstProbe probed)
          simp [expectedReply, probed, same, environmentReply]
  | getKubernetesClientSet getConfig newForConfig =>
      cases stored : firstBuilt before with
      | none => simp only [expectedReply, stored, environmentReply, answered.symm]
      | some k8scli =>
          obtain ⟨getConfig', newForConfig', member, result⟩ := exists_built_of_firstBuilt stored
          have same : env.clientSet = .ok k8scli := (stable _ member).symm.trans result
          simp only [expectedReply, stored, environmentReply, same]

theorem expectedReplies_of_answers {env : Environment} :
    ∀ (before calls : List (CacheCall Config)), (∀ call ∈ before ++ calls, AnsweredBy env call) →
      expectedReplies before calls = calls.map (environmentReply env)
  | _, [], _ => rfl
  | before, call :: calls, stable => by
      rw [expectedReplies, List.map_cons,
        expectedReply_of_answers (fun c member => stable c (List.mem_append_left _ member))
          (stable call (by simp)),
        expectedReplies_of_answers (before ++ [call]) calls (by simpa using stable)]

/-- `Environment`'s one answer for each cache is what a whole run returns, in
any interleaving, as long as the world answers every probe and every build of
the run as `env` does. -/
theorem run_eq_environment {env : Environment} {calls : List (CacheCall Config)}
    (stable : ∀ call ∈ calls, AnsweredBy env call) :
    (run Caches.empty calls).1 = calls.map (environmentReply env) := by
  rw [← summary_nil, run_summary, expectedReplies_of_answers [] calls (by simpa using stable)]

/-- Off the cluster and without a kubeconfig, a probe and a failed build each
answer as an offline `Environment` does, and the run returns what it says. -/
theorem run_eq_environment_offline :
    (∀ call ∈ ([.runningInK8s false,
        .getKubernetesClientSet (.error (.other "no kubeconfig")) fun _ => .error (.other "unused")] :
          List (CacheCall Unit)),
      AnsweredBy ⟨false, .error (.other "no kubeconfig"), fun _ => .error (.other "no file")⟩ call) ∧
    (run Caches.empty ([.runningInK8s false,
        .getKubernetesClientSet (.error (.other "no kubeconfig")) fun _ => .error (.other "unused")] :
          List (CacheCall Unit))).1 =
      [.inK8s false, .clientSet (.error (.other "no kubeconfig"))] := by
  refine (fun stable => ⟨stable, run_eq_environment stable⟩) ?_
  exact List.forall_mem_cons.mpr ⟨rfl, List.forall_mem_singleton.mpr rfl⟩

end CacheCall

end CnwanOperator.Command
