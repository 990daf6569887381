import CnwanOperator.Go.Errors
import CnwanOperator.Go.Strings
import Mathlib.Data.List.AList
import Mathlib.Data.List.Forall2

/-! # The Service Directory adapter

The five service methods of `servDir`. Each checks the names it is given,
makes one call to the Service Directory client and classifies the error the
client returns. `checkNames`, `getResourcePath` and the client itself are
declared outside the sources, so `ServDir` carries them as fields; the
per-call timeout is the client's concern and shows only in the errors it
returns. -/

namespace CnwanOperator.ServRegistry

structure Service where
  name : String
  nsName : String
  metadata : AList (fun _ : String => String)

/-- `sdpb.Service` as the adapter reads and writes it; `none` annotations is
a nil map. -/
structure SdService where
  name : String
  annotations : Option (AList (fun _ : String => String))

/-- `servDirPath`; an unset part is empty. -/
structure ServDirPath where
  ns : String
  service : String

/-- One run of the iterator `ListServices` returns: the services `Next()`
yields, then the error that ends the run. -/
structure ServiceIterator where
  services : List SdService
  terminal : Error

/-- The client calls the adapter makes, by request. -/
structure Client where
  getService : (name : String) → Except Error SdService
  listServices : (parent : String) → Option ServiceIterator
  createService : (parent serviceId : String) → SdService → Except Error SdService
  updateService : SdService → (updateMask : List String) → Except Error SdService
  deleteService : (name : String) → Except Error Unit

/-- `servDir`: `checkNames(&nsName, &servName, nil)` with `none` for a nil
service name, and `getResourcePath`. -/
structure ServDir where
  client : Client
  checkNames : (nsName : String) → (servName : Option String) → Except Error Unit
  getResourcePath : ServDirPath → String

/-- How `GetServ`, `CreateServ`, `UpdateServ` and `DeleteServ` classify a
client error: `context.DeadlineExceeded` is a timeout, a status error with
`code` becomes `mapped`, and anything else is returned as it is. -/
def classifyError (code : Code) (mapped : Error) (err : Error) : Error :=
  if err = .deadlineExceeded then .errTimeOutExpired
  else if err.code = code then mapped
  else err

@[simp] theorem classifyError_deadlineExceeded (code : Code) (mapped : Error) :
    classifyError code mapped .deadlineExceeded = .errTimeOutExpired := rfl

theorem classifyError_of_code {code : Code} {err : Error} (mapped : Error)
    (notSentinel : err ≠ .deadlineExceeded) (coded : err.code = code) :
    classifyError code mapped err = mapped := by
  simp [classifyError, notSentinel, coded]

theorem classifyError_of_ne {code : Code} {err : Error} (mapped : Error)
    (notSentinel : err ≠ .deadlineExceeded) (otherCode : err.code ≠ code) :
    classifyError code mapped err = err := by
  simp [classifyError, notSentinel, otherCode]

theorem classifyError_status_deadlineExceeded {code : Code} (notDeadline : code ≠ .deadlineExceeded)
    (mapped : Error) (message : String) :
    classifyError code mapped (.status .deadlineExceeded message) =
      .status .deadlineExceeded message :=
  classifyError_of_ne mapped (by simp) (by simpa using Ne.symm notDeadline)

namespace ServDir

variable (s : ServDir)

def getServ (nsName servName : String) : Except Error Service := do
  s.checkNames nsName (some servName)
  let servPath := s.getResourcePath ⟨nsName, servName⟩
  match s.client.getService servPath with
  | .ok sdServ => .ok ⟨servName, nsName, sdServ.annotations.getD ∅⟩
  | .error err => .error (classifyError .notFound .errNotFound err)

/-- The service the `ListServ` loop builds from one it was sent: the last
segment of the resource name, the namespace asked for, and the annotations. -/
def listedService (nsName : String) (nextServ : SdService) : Service :=
  ⟨(Strings.split nextServ.name '/').getLastD "", nsName, nextServ.annotations.getD ∅⟩

/-- The `for` loop of `ListServ` over the rest of an iterator run, with the
services accumulated so far. -/
def listLoop (nsName : String) : List SdService → Error → List Service →
    List Service × Option Error
  | nextServ :: rest, terminal, servList =>
      listLoop nsName rest terminal (servList ++ [listedService nsName nextServ])
  | [], terminal, servList =>
      if terminal = .deadlineExceeded then ([], some .errTimeOutExpired)
      else if terminal ≠ .iteratorDone then ([], some terminal)
      else (servList, none)

/-- `ListServ(nsName)`, returning its named results `(servList, err)`. -/
def listServ (nsName : String) : List Service × Option Error :=
  match s.checkNames nsName none with
  | .error err => ([], some err)
  | .ok () =>
      match s.client.listServices (s.getResourcePath ⟨nsName, ""⟩) with
      | none => ([], none)
      | some iter => listLoop nsName iter.services iter.terminal []

/-- `CreateServ(serv)`; on success the service it was given. -/
def createServ (serv : Option Service) : Except Error Service := do
  let some serv := serv | .error .errServNotProvided
  s.checkNames serv.nsName (some serv.name)
  let servToCreate : SdService := ⟨serv.name, some serv.metadata⟩
  match s.client.createService (s.getResourcePath ⟨serv.nsName, ""⟩) serv.name servToCreate with
  | .ok _ => .ok serv
  | .error err => .error (classifyError .alreadyExists .errAlreadyExists err)

/-- `UpdateServ(serv)`: replaces the metadata only. -/
def updateServ (serv : Option Service) : Except Error Service := do
  let some serv := serv | .error .errServNotProvided
  s.checkNames serv.nsName (some serv.name)
  let servToUpd : SdService :=
    ⟨s.getResourcePath ⟨serv.nsName, serv.name⟩, some serv.metadata⟩
  match s.client.updateService servToUpd ["metadata"] with
  | .ok _ => .ok serv
  | .error err => .error (classifyError .notFound .errNotFound err)

def deleteServ (nsName servName : String) : Except Error Unit := do
  s.checkNames nsName (some servName)
  match s.client.deleteService (s.getResourcePath ⟨nsName, servName⟩) with
  | .ok () => .ok ()
  | .error err => .error (classifyError .notFound .errNotFound err)

/-! ## Listing -/

theorem listLoop_eq (nsName : String) (terminal : Error) :
    ∀ (services : List SdService) (servList : List Service),
      listLoop nsName services terminal servList =
        if terminal = .deadlineExceeded then ([], some .errTimeOutExpired)
        else if terminal ≠ .iteratorDone then ([], some terminal)
        else (servList ++ services.map (listedService nsName), none)
  | [], servList => by simp [listLoop]
  | nextServ :: rest, servList => by
      rw [listLoop, listLoop_eq nsName terminal rest]
      simp

theorem listedService_spec (nsName : String) (si : SdService) :
    (Strings.split si.name '/').getLast? = some (listedService nsName si).name ∧
      (listedService nsName si).nsName = nsName ∧
      (listedService nsName si).metadata = si.annotations.getD ∅ := by
  refine ⟨?_, rfl, rfl⟩
  rw [listedService, List.getLast?_eq_getLast _ (Strings.split_ne_nil _ _),
    List.getLastD_eq_getLast?, List.getLast?_eq_getLast _ (Strings.split_ne_nil _ _)]
  rfl

/-- For a namespace `checkNames` accepts, `ListServ` returns every service of
an iterator run that ends in `iterator.Done`, in the iterator's order, and
for a run that ends in any other error a nil list with an error; a nil
iterator gives an empty list and no error. -/
theorem listServ_spec (nsName : String) (accepted : s.checkNames nsName none = .ok ()) :
    (s.client.listServices (s.getResourcePath ⟨nsName, ""⟩) = none →
        s.listServ nsName = ([], none)) ∧
      ∀ iter, s.client.listServices (s.getResourcePath ⟨nsName, ""⟩) = some iter →
        (iter.terminal = .iteratorDone → (s.listServ nsName).2 = none ∧
          List.Forall₂ (fun si serv => (Strings.split si.name '/').getLast? = some serv.name ∧
            serv.nsName = nsName ∧ serv.metadata = si.annotations.getD ∅)
            iter.services (s.listServ nsName).1) ∧
        (iter.terminal ≠ .iteratorDone →
          (s.listServ nsName).1 = [] ∧ ∃ err, (s.listServ nsName).2 = some err) := by
  refine ⟨fun noIterator => by simp [listServ, accepted, noIterator], fun iter run => ?_⟩
  simp only [listServ, accepted, run, listLoop_eq, List.nil_append]
  refine ⟨fun done => ?_, fun notDone => ?_⟩
  · simp only [done, reduceCtorEq, if_false, ne_eq, not_true_eq_false, List.forall₂_map_right_iff,
      true_and]
    exact List.forall₂_same.mpr fun si _ => listedService_spec nsName si
  · split_ifs <;> simp

/-- A run of two services ending in `iterator.Done`. -/
theorem listServ_two_services :
    let s : ServDir := ⟨⟨fun _ => .error .errNotFound,
      fun _ => some ⟨[⟨"projects/p/locations/r/namespaces/ns/services/a", none⟩,
        ⟨"projects/p/locations/r/namespaces/ns/services/b", none⟩], .iteratorDone⟩,
      fun _ _ _ => .error .errNotFound, fun _ _ => .error .errNotFound,
      fun _ => .error .errNotFound⟩, fun _ _ => .ok (), fun path => path.ns⟩
    s.checkNames "ns" none = .ok () ∧
      (s.client.listServices (s.getResourcePath ⟨"ns", ""⟩) = none →
        s.listServ "ns" = ([], none)) ∧
      ∀ iter, s.client.listServices (s.getResourcePath ⟨"ns", ""⟩) = some iter →
        (iter.terminal = .iteratorDone → (s.listServ "ns").2 = none ∧
          List.Forall₂ (fun si serv => (Strings.split si.name '/').getLast? = some serv.name ∧
            serv.nsName = "ns" ∧ serv.metadata = si.annotations.getD ∅)
            iter.services (s.listServ "ns").1) ∧
        (iter.terminal ≠ .iteratorDone →
          (s.listServ "ns").1 = [] ∧ ∃ err, (s.listServ "ns").2 = some err) := by
  intro s
  exact ⟨rfl, listServ_spec s "ns" rfl⟩

/-! ## Single-service calls -/

section Accepted

variable {nsName servName : String} (accepted : s.checkNames nsName (some servName) = .ok ())
variable {serv : Service} (servAccepted : s.checkNames serv.nsName (some serv.name) = .ok ())

include accepted in
theorem getServ_error {err : Error}
    (failed : s.client.getService (s.getResourcePath ⟨nsName, servName⟩) = .error err) :
    s.getServ nsName servName = .error (classifyError .notFound .errNotFound err) := by
  simp [getServ, accepted, failed, bind, Except.bind]

include accepted in
theorem deleteServ_error {err : Error}
    (failed : s.client.deleteService (s.getResourcePath ⟨nsName, servName⟩) = .error err) :
    s.deleteServ nsName servName = .error (classifyError .notFound .errNotFound err) := by
  simp [deleteServ, accepted, failed, bind, Except.bind]

include servAccepted in
theorem createServ_error {err : Error}
    (failed : s.client.createService (s.getResourcePath ⟨serv.nsName, ""⟩) serv.name
      ⟨serv.name, some serv.metadata⟩ = .error err) :
    s.createServ (some serv) = .error (classifyError .alreadyExists .errAlreadyExists err) := by
  simp [createServ, servAccepted, failed, bind, Except.bind]

include servAccepted in
theorem updateServ_error {err : Error}
    (failed : s.client.updateService ⟨s.getResourcePath ⟨serv.nsName, serv.name⟩,
      some serv.metadata⟩ ["metadata"] = .error err) :
    s.updateServ (some serv) = .error (classifyError .notFound .errNotFound err) := by
  simp [updateServ, servAccepted, failed, bind, Except.bind]

end Accepted

/-- A timeout the client reports as a gRPC status with code `DeadlineExceeded`,
which is how the gRPC client reports an expired call, is not recognised as a
timeout: every method returns it unchanged instead of `ErrTimeOutExpired`. -/
theorem status_deadlineExceeded_unclassified (nsName servName : String) (serv : Service)
    (message : String) (accepted : s.checkNames nsName (some servName) = .ok ())
    (servAccepted : s.checkNames serv.nsName (some serv.name) = .ok ())
    (nsAccepted : s.checkNames nsName none = .ok ()) :
    let expired := Error.status .deadlineExceeded message
    (s.client.getService (s.getResourcePath ⟨nsName, servName⟩) = .error expired →
      s.getServ nsName servName = .error expired) ∧
    (s.client.createService (s.getResourcePath ⟨serv.nsName, ""⟩) serv.name
        ⟨serv.name, some serv.metadata⟩ = .error expired →
      s.createServ (some serv) = .error expired) ∧
    (s.client.updateService ⟨s.getResourcePath ⟨serv.nsName, serv.name⟩, some serv.metadata⟩
        ["metadata"] = .error expired →
      s.updateServ (some serv) = .error expired) ∧
    (s.client.deleteService (s.getResourcePath ⟨nsName, servName⟩) = .error expired →
      s.deleteServ nsName servName = .error expired) ∧
    (∀ services, s.client.listServices (s.getResourcePath ⟨nsName, ""⟩) =
        some ⟨services, expired⟩ → s.listServ nsName = ([], some expired)) := by
  refine ⟨fun failed => ?_, fun failed => ?_, fun failed => ?_, fun failed => ?_,
    fun services run => ?_⟩
  · rw [getServ_error s accepted failed, classifyError_status_deadlineExceeded (by decide)]
  · rw [createServ_error s servAccepted failed, classifyError_status_deadlineExceeded (by decide)]
  · rw [updateServ_error s servAccepted failed, classifyError_status_deadlineExceeded (by decide)]
  · rw [deleteServ_error s accepted failed, classifyError_status_deadlineExceeded (by decide)]
  · simp [listServ, nsAccepted, run, listLoop_eq]

end ServDir

/-- Every call of a client that reports expired calls as a status error. -/
theorem status_deadlineExceeded_returned :
    let expired := Error.status .deadlineExceeded "context deadline exceeded"
    let s : ServDir := ⟨⟨fun _ => .error expired, fun _ => some ⟨[], expired⟩,
      fun _ _ _ => .error expired, fun _ _ => .error expired, fun _ => .error expired⟩,
      fun _ _ => .ok (), fun path => path.ns ++ "/" ++ path.service⟩
    let serv : Service := ⟨"svc", "ns", ∅⟩
    s.getServ "ns" "svc" = .error expired ∧ s.createServ (some serv) = .error expired ∧
      s.updateServ (some serv) = .error expired ∧ s.deleteServ "ns" "svc" = .error expired ∧
      s.listServ "ns" = ([], some expired) := by
  intro expired s serv
  obtain ⟨get, create, update, delete, list⟩ := ServDir.status_deadlineExceeded_unclassified s
    "ns" "svc" serv "context deadline exceeded" rfl rfl rfl
  exact ⟨get rfl, create rfl, update rfl, delete rfl, list [] rfl⟩

end CnwanOperator.ServRegistry
