import CnwanOperator.Command.Utils
import Mathlib.Tactic.SplitIfs

/-! # etcd credentials

`getEtcdUsernameAndPassword` resolves the etcd username and password: from
an interactive prompt, from the CLI username, from a named secret, or (inside
Kubernetes) from the default secret when it is there. The password reader is
the list of what its successive calls return; the functions hand back what
is left of it, so that a run shows how many times the reader was called. -/

namespace CnwanOperator.Command

/-- What successive calls of `passwordReader.readPassword()` return. -/
abbrev PasswordReader := List (Except Error String)

/-- `loadEtcdUsernameAndPasswordFromSecret(namespace, name)`. A missing
password is allowed and reads as empty. -/
def loadEtcdUsernameAndPasswordFromSecret (env : Environment) (ns name : String) :
    Except Error (String × String) := do
  let secret ← env.getSecret ns name
  match secret.data.lookup "username" with
  | none => .error (.other ("secret " ++ ns ++ "/" ++ name ++ " doesn\x27t have a username"))
  | some username => .ok (username, (secret.data.lookup "password").getD "")

/-- The `for password == ""` loop: call the reader until it fails or returns
a non-empty password. `none` when the given outcomes run out first. -/
def readPasswordLoop : PasswordReader → Option (Except Error String × PasswordReader)
  | [] => none
  | .error err :: rest => some (.error err, rest)
  | .ok pass :: rest => if pass = "" then readPasswordLoop rest else some (.ok pass, rest)

namespace getEtcdUsernameAndPassword

/-- Everything after the `inputPassword` block. -/
def lookup (env : Environment) (defaultEtcdCredentialsSecretName : String)
    (username password credSecret ns : String) : Except Error (String × String) :=
  if username ≠ "" then .ok (username, password)
  else if credSecret ≠ "" then loadEtcdUsernameAndPasswordFromSecret env ns credSecret
  else if env.inK8s then
    match loadEtcdUsernameAndPasswordFromSecret env ns defaultEtcdCredentialsSecretName with
    | .ok credentials => .ok credentials
    | .error _ => .ok ("", "")
  else .ok ("", "")

end getEtcdUsernameAndPassword

open getEtcdUsernameAndPassword in
/-- `getEtcdUsernameAndPassword(inputPassword, username, credSecret, namespace,
passReader)`, with the reader left over. -/
def getEtcdUsernameAndPassword (env : Environment) (defaultEtcdCredentialsSecretName : String)
    (inputPassword : Bool) (username credSecret ns : String) (passReader : PasswordReader) :
    Option (Except Error (String × String) × PasswordReader) :=
  if inputPassword then
    if env.inK8s then
      some (.error (.other "please use Kubernetes Secrets to define credentials"), passReader)
    else
      let username := if username = "" then "root" else username
      match readPasswordLoop passReader with
      | none => none
      | some (.error err, rest) => some (.error err, rest)
      | some (.ok password, rest) =>
          some (lookup env defaultEtcdCredentialsSecretName username password credSecret ns, rest)
  else some (lookup env defaultEtcdCredentialsSecretName username "" credSecret ns, passReader)

/-! ## The prompt loop -/

theorem readPasswordLoop_append (skipped : PasswordReader) {outcome : Except Error String}
    (rest : PasswordReader) (empty : ∀ answer ∈ skipped, answer = .ok "")
    (decisive : outcome ≠ .ok "") :
    readPasswordLoop (skipped ++ outcome :: rest) = some (outcome, rest) := by
  induction skipped with
  | nil =>
      cases outcome with
      | error err => rfl
      | ok pass =>
          have notEmpty : pass ≠ "" := fun equal => decisive (equal ▸ rfl)
          simp [readPasswordLoop, notEmpty]
  | cons answer skipped induction =>
      obtain rfl := empty answer (List.mem_cons_self _ _)
      simpa [readPasswordLoop] using induction fun answer member =>
        empty answer (List.mem_cons_of_mem _ member)

theorem readPasswordLoop_of_empty :
    ∀ {passReader : PasswordReader}, (∀ answer ∈ passReader, answer = .ok "") →
      readPasswordLoop passReader = none
  | [], _ => rfl
  | answer :: rest, empty => by
      obtain rfl := empty answer (List.mem_cons_self _ _)
      simpa [readPasswordLoop] using readPasswordLoop_of_empty fun answer member =>
        empty answer (List.mem_cons_of_mem _ member)

theorem readPasswordLoop_ne_empty :
    ∀ {passReader rest : PasswordReader} {password : String},
      readPasswordLoop passReader = some (.ok password, rest) → password ≠ ""
  | [], _, _, stopped => by simp [readPasswordLoop] at stopped
  | .error _ :: _, _, _, stopped => by simp [readPasswordLoop] at stopped
  | .ok pass :: rest, _, _, stopped => by
      by_cases empty : pass = ""
      · rw [readPasswordLoop, if_pos empty] at stopped
        exact readPasswordLoop_ne_empty stopped
      · rw [readPasswordLoop, if_neg empty] at stopped
        cases stopped
        exact empty

/-! ## Reading a secret -/

/-- `outcome` holds the username and password of the secret `fetched`, an
absent password reading as empty, and is an error exactly when the secret
could not be fetched or has no username. -/
def ReadsSecret (fetched : Except Error Secret) (outcome : Except Error (String × String)) :
    Prop :=
  ((∃ error, outcome = .error error) ↔
      (∃ error, fetched = .error error) ∨ ∃ secret, fetched = .ok secret ∧ "username" ∉ secret.data) ∧
    ∀ username password, outcome = .ok (username, password) ↔
      ∃ secret, fetched = .ok secret ∧ secret.data.lookup "username" = some username ∧
        password = (secret.data.lookup "password").getD ""

theorem readsSecret_loadEtcdUsernameAndPasswordFromSecret (env : Environment) (ns name : String) :
    ReadsSecret (env.getSecret ns name) (loadEtcdUsernameAndPasswordFromSecret env ns name) := by
  unfold loadEtcdUsernameAndPasswordFromSecret
  cases env.getSecret ns name with
  | error err => simp [ReadsSecret, bind, Except.bind]
  | ok secret =>
      cases found : secret.data.lookup "username" with
      | none => simp [ReadsSecret, bind, Except.bind, found, AList.lookup_eq_none.mp found]
      | some username =>
          have present : "username" ∈ secret.data := AList.lookup_isSome.mp (by simp [found])
          simp [ReadsSecret, bind, Except.bind, found, present, eq_comm]

/-! ## The cases of `getEtcdUsernameAndPassword` -/

namespace getEtcdUsernameAndPassword

variable (env : Environment) (defaultEtcdCredentialsSecretName : String)

theorem lookup_of_username {username : String} (given : username ≠ "")
    (password credSecret ns : String) :
    lookup env defaultEtcdCredentialsSecretName username password credSecret ns =
      .ok (username, password) := if_pos given

theorem lookup_of_secret (password : String) {credSecret : String} (given : credSecret ≠ "")
    (ns : String) :
    lookup env defaultEtcdCredentialsSecretName "" password credSecret ns =
      loadEtcdUsernameAndPasswordFromSecret env ns credSecret := by
  simp [lookup, given]

theorem lookup_of_default (password ns : String) (inCluster : env.inK8s = true) :
    lookup env defaultEtcdCredentialsSecretName "" password "" ns =
      .ok (match loadEtcdUsernameAndPasswordFromSecret env ns defaultEtcdCredentialsSecretName with
        | .ok credentials => credentials
        | .error _ => ("", "")) := by
  simp only [lookup, ne_eq, not_true_eq_false, if_false, inCluster, if_true]
  split <;> simp_all

theorem lookup_of_anonymous (password ns : String) (outside : env.inK8s = false) :
    lookup env defaultEtcdCredentialsSecretName "" password "" ns = .ok ("", "") := by
  simp [lookup, outside]

theorem prompt (username credSecret ns : String) (passReader : PasswordReader)
    (outside : env.inK8s = false) :
    getEtcdUsernameAndPassword env defaultEtcdCredentialsSecretName true username credSecret ns
        passReader =
      (readPasswordLoop passReader).map fun (read, rest) =>
        (read.map ((if username = "" then "root" else username), ·), rest) := by
  have named : (if username = "" then "root" else username) ≠ "" := by split_ifs <;> simp_all
  simp only [getEtcdUsernameAndPassword, if_true, outside, Bool.false_eq_true, if_false]
  rcases readPasswordLoop passReader with _ | ⟨_ | password, rest⟩
  · rfl
  · rfl
  · simp [lookup_of_username env defaultEtcdCredentialsSecretName named]
    rfl

theorem of_not_input (username credSecret ns : String) (passReader : PasswordReader) :
    getEtcdUsernameAndPassword env defaultEtcdCredentialsSecretName false username credSecret ns
        passReader =
      some (lookup env defaultEtcdCredentialsSecretName username "" credSecret ns, passReader) :=
  rfl

end getEtcdUsernameAndPassword

open getEtcdUsernameAndPassword

/-- Credential resolution takes the first case that applies: an interactive
request inside Kubernetes fails at once; an interactive request elsewhere
takes the first non-empty password or the first failure of the reader; a CLI
username goes with an empty password; a named secret gives its credentials;
inside Kubernetes the default secret gives them when it loads; otherwise the
credentials are empty. Only the interactive case outside Kubernetes calls the
reader. -/
theorem getEtcdUsernameAndPassword_spec (env : Environment)
    (defaultEtcdCredentialsSecretName : String) (inputPassword : Bool)
    (username credSecret ns : String) (passReader : PasswordReader) :
    let run := getEtcdUsernameAndPassword env defaultEtcdCredentialsSecretName inputPassword
      username credSecret ns passReader
    let user := if username = "" then "root" else username
    (inputPassword ∧ env.inK8s →
      run = some (.error (.other "please use Kubernetes Secrets to define credentials"),
        passReader)) ∧
    (inputPassword ∧ ¬env.inK8s →
      (∀ skipped outcome rest, passReader = skipped ++ outcome :: rest →
        (∀ answer ∈ skipped, answer = .ok "") → outcome ≠ .ok "" →
          run = some (outcome.map (user, ·), rest)) ∧
      ((∀ answer ∈ passReader, answer = .ok "") → run = none) ∧
      ∀ name password rest, run = some (.ok (name, password), rest) → password ≠ "") ∧
    (¬inputPassword ∧ username ≠ "" → run = some (.ok (username, ""), passReader)) ∧
    (¬inputPassword ∧ username = "" ∧ credSecret ≠ "" →
      ∃ outcome, run = some (outcome, passReader) ∧
        ReadsSecret (env.getSecret ns credSecret) outcome) ∧
    (¬inputPassword ∧ username = "" ∧ credSecret = "" ∧ env.inK8s →
      ∃ loaded, ReadsSecret (env.getSecret ns defaultEtcdCredentialsSecretName) loaded ∧
        run = some (.ok (match loaded with
          | .ok credentials => credentials
          | .error _ => ("", "")), passReader)) ∧
    (¬inputPassword ∧ username = "" ∧ credSecret = "" ∧ ¬env.inK8s →
      run = some (.ok ("", ""), passReader)) := by
  cases inputPassword with
  | true =>
      refine ⟨fun ⟨_, inCluster⟩ => by simp [getEtcdUsernameAndPassword, inCluster],
        fun ⟨_, outside⟩ => ?_, fun given => absurd rfl given.1,
        fun given => absurd rfl given.1, fun given => absurd rfl given.1,
        fun given => absurd rfl given.1⟩
      rw [prompt env defaultEtcdCredentialsSecretName _ _ _ _ (by simpa using outside)]
      refine ⟨fun skipped outcome rest split empty decisive => ?_, fun empty => ?_,
        fun name password rest stopped => ?_⟩
      · rw [split, readPasswordLoop_append skipped rest empty decisive]
        rfl
      · rw [readPasswordLoop_of_empty empty]
        rfl
      · obtain ⟨⟨_ | read, left⟩, looped, equal⟩ := Option.map_eq_some'.mp stopped
        · cases equal
        · simp only [Except.map, Prod.mk.injEq, Except.ok.injEq] at equal
          obtain ⟨⟨-, rfl⟩, -⟩ := equal
          exact readPasswordLoop_ne_empty looped
  | false =>
      simp only [of_not_input]
      refine ⟨fun given => absurd given.1 Bool.false_ne_true,
        fun given => absurd given.1 Bool.false_ne_true, ?named, ?secret, ?defaultSecret, ?anonymous⟩
      case named =>
        rintro ⟨-, given⟩
        rw [lookup_of_username env defaultEtcdCredentialsSecretName given]
      case secret =>
        rintro ⟨-, rfl, given⟩
        exact ⟨_, by rw [lookup_of_secret env defaultEtcdCredentialsSecretName _ given],
          readsSecret_loadEtcdUsernameAndPasswordFromSecret env ns credSecret⟩
      case defaultSecret =>
        rintro ⟨-, rfl, rfl, inCluster⟩
        exact ⟨_, readsSecret_loadEtcdUsernameAndPasswordFromSecret env ns _,
          by rw [lookup_of_default env defaultEtcdCredentialsSecretName _ _ inCluster]⟩
      case anonymous =>
        rintro ⟨-, rfl, rfl, outside⟩
        rw [lookup_of_anonymous env defaultEtcdCredentialsSecretName _ _ (by simpa using outside)]

end CnwanOperator.Command
