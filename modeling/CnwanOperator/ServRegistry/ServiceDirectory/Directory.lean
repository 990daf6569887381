import CnwanOperator.ServRegistry.ServiceDirectory.Service

/-! # The adapter against a Service Directory server

The client the adapter calls talks to Service Directory, which is not among
the sources. To say what a sequence of registry calls does, the server is a
store of services by resource name here, answering as the v1 API the
adapter's requests are built from (`sdpb`) describes. A v1 `Service` has a
resource name and `annotations`. A service is created under a namespace the
server holds, with the id it is given; creating under a namespace the server
does not hold, listing one, and asking for a service it does not hold all fail
with `NotFound`. None of the five methods creates or deletes a namespace, so
the namespaces are part of the `Server` record, not of the changing state.

An `UpdateService` request names the fields it replaces by their paths in its
update mask. The adapter's mask is `["metadata"]`, and no field of a v1
`Service` has that path. The API's field mask rules ask the server to refuse
such a request with `InvalidArgument`; a server that leaves the path out is
the other reading, and `UnknownPaths` chooses between the two.

`step` makes one call of the registry interface through the adapter, against
the server in its current state, and gives the reply together with the
server's state after the request the adapter sent. -/

namespace CnwanOperator.ServRegistry

/-- The server's services: the annotations of each, by resource name. -/
abbrev Directory := AList (fun _ : String => Option (AList (fun _ : String => String)))

/-- How the server treats an update mask path that names no field it can
update. -/
inductive UnknownPaths
  | rejected
  | ignored
  deriving DecidableEq, Repr

/-- What the server holds besides its services: the resource names of its
namespaces, and how it treats an unknown update mask path. -/
structure Server where
  namespaces : List String
  unknownPaths : UnknownPaths

/-- The update mask paths of the fields of a v1 `Service` that `UpdateService`
replaces. -/
def updatablePaths : List String := ["annotations"]

namespace Directory

variable (d : Directory) (server : Server)

def getService (name : String) : Except Error SdService :=
  match d.lookup name with
  | some annotations => .ok ⟨name, annotations⟩
  | none => .error (.status .notFound name)

/-- `CreateService`: the new service is named by its parent and its id. -/
def createService (parent serviceId : String) (service : SdService) :
    Except Error SdService × Directory :=
  let name := parent ++ "/services/" ++ serviceId
  if parent ∉ server.namespaces then (.error (.status .notFound parent), d)
  else if name ∈ d then (.error (.status .alreadyExists name), d)
  else (.ok ⟨name, service.annotations⟩, d.insert name service.annotations)

/-- `UpdateService`: the mask is checked first, then the annotations are
replaced when the mask names them. -/
def updateService (service : SdService) (updateMask : List String) :
    Except Error SdService × Directory :=
  match server.unknownPaths, updateMask.find? (· ∉ updatablePaths) with
  | .rejected, some path => (.error (.status .invalidArgument path), d)
  | _, _ =>
      match d.lookup service.name with
      | none => (.error (.status .notFound service.name), d)
      | some current =>
          let annotations := if "annotations" ∈ updateMask then service.annotations else current
          (.ok ⟨service.name, annotations⟩, d.insert service.name annotations)

def deleteService (name : String) : Except Error Unit × Directory :=
  if name ∈ d then (.ok (), d.erase name) else (.error (.status .notFound name), d)

/-- `ListServices`: one run over the services under `parent`, which ends in
`NotFound` when the server holds no such namespace. -/
def listServices (parent : String) : Option ServiceIterator :=
  if parent ∈ server.namespaces then
    some ⟨(d.entries.filter fun entry => (parent ++ "/services/").data.isPrefixOf entry.1.data).map
      fun entry => ⟨entry.1, entry.2⟩, .iteratorDone⟩
  else some ⟨[], .status .notFound parent⟩

/-- The client the adapter holds, against the server in state `d`. -/
def client : Client where
  getService := d.getService
  listServices := d.listServices server
  createService parent serviceId service := (d.createService server parent serviceId service).1
  updateService service updateMask := (d.updateService server service updateMask).1
  deleteService name := (d.deleteService name).1

end Directory

/-- A call of the registry interface. -/
inductive Call where
  | getServ (nsName servName : String)
  | listServ (nsName : String)
  | createServ (serv : Option Service)
  | updateServ (serv : Option Service)
  | deleteServ (nsName servName : String)

/-- The service a call names. -/
def Call.identity : Call → Option (String × String)
  | .getServ nsName servName => some (nsName, servName)
  | .listServ _ => none
  | .createServ serv => serv.map fun serv => (serv.nsName, serv.name)
  | .updateServ serv => serv.map fun serv => (serv.nsName, serv.name)
  | .deleteServ nsName servName => some (nsName, servName)

/-- What a call returns. -/
inductive Reply where
  | service (result : Except Error Service)
  | listed (result : List Service × Option Error)
  | deleted (result : Except Error Unit)

namespace Directory

variable (checkNames : String → Option String → Except Error Unit)
  (getResourcePath : ServDirPath → String) (server : Server)

/-- The adapter, talking to the server in state `d`. -/
def servDir (d : Directory) : ServDir :=
  ⟨d.client server, checkNames, getResourcePath⟩

/-- One call through the adapter: its reply, and the server's state after
the request the adapter sent once the service and its names were accepted. -/
def step (d : Directory) : Call → Reply × Directory
  | .getServ nsName servName =>
      (.service ((servDir checkNames getResourcePath server d).getServ nsName servName), d)
  | .listServ nsName =>
      (.listed ((servDir checkNames getResourcePath server d).listServ nsName), d)
  | .createServ serv =>
      (.service ((servDir checkNames getResourcePath server d).createServ serv),
        match serv with
        | none => d
        | some serv =>
            match checkNames serv.nsName (some serv.name) with
            | .error _ => d
            | .ok () => (d.createService server (getResourcePath ⟨serv.nsName, ""⟩) serv.name
                ⟨serv.name, some serv.metadata⟩).2)
  | .updateServ serv =>
      (.service ((servDir checkNames getResourcePath server d).updateServ serv),
        match serv with
        | none => d
        | some serv =>
            match checkNames serv.nsName (some serv.name) with
            | .error _ => d
            | .ok () => (d.updateService server
                ⟨getResourcePath ⟨serv.nsName, serv.name⟩, some serv.metadata⟩ ["metadata"]).2)
  | .deleteServ nsName servName =>
      (.deleted ((servDir checkNames getResourcePath server d).deleteServ nsName servName),
        match checkNames nsName (some servName) with
        | .error _ => d
        | .ok () => (d.deleteService (getResourcePath ⟨nsName, servName⟩)).2)

/-- A sequence of calls, each against the state the one before left. -/
def run (d : Directory) : List Call → List Reply × Directory
  | [] => ([], d)
  | call :: calls =>
      let (reply, next) := step checkNames getResourcePath server d call
      let (replies, final) := run next calls
      (reply :: replies, final)

/-! ## What one call does

One lemma per call, for a missing service, for names `checkNames` rejects,
and for accepted names, so that nothing later unfolds the adapter. -/

@[simp] theorem classifyError_status_self (code : Code) (mapped : Error) (name : String) :
    classifyError code mapped (.status code name) = mapped := by
  simp [classifyError]

section Steps

variable {checkNames : String → Option String → Except Error Unit}
  {getResourcePath : ServDirPath → String} {server : Server} (d : Directory)

@[simp] theorem step_createServ_none :
    step checkNames getResourcePath server d (.createServ none) =
      (.service (.error .errServNotProvided), d) := rfl

@[simp] theorem step_updateServ_none :
    step checkNames getResourcePath server d (.updateServ none) =
      (.service (.error .errServNotProvided), d) := rfl

theorem step_getServ_rejected {nsName servName : String} {err : Error}
    (rejected : checkNames nsName (some servName) = .error err) :
    step checkNames getResourcePath server d (.getServ nsName servName) =
      (.service (.error err), d) := by
  simp [step, servDir, ServDir.getServ, rejected, bind, Except.bind]

theorem step_createServ_rejected {serv : Service} {err : Error}
    (rejected : checkNames serv.nsName (some serv.name) = .error err) :
    step checkNames getResourcePath server d (.createServ (some serv)) =
      (.service (.error err), d) := by
  simp [step, servDir, ServDir.createServ, rejected, bind, Except.bind]

theorem step_updateServ_rejected {serv : Service} {err : Error}
    (rejected : checkNames serv.nsName (some serv.name) = .error err) :
    step checkNames getResourcePath server d (.updateServ (some serv)) =
      (.service (.error err), d) := by
  simp [step, servDir, ServDir.updateServ, rejected, bind, Except.bind]

theorem step_deleteServ_rejected {nsName servName : String} {err : Error}
    (rejected : checkNames nsName (some servName) = .error err) :
    step checkNames getResourcePath server d (.deleteServ nsName servName) =
      (.deleted (.error err), d) := by
  simp [step, servDir, ServDir.deleteServ, rejected, bind, Except.bind]

theorem step_listServ_rejected {nsName : String} {err : Error}
    (rejected : checkNames nsName none = .error err) :
    step checkNames getResourcePath server d (.listServ nsName) =
      (.listed ([], some err), d) := by
  simp [step, servDir, ServDir.listServ, rejected]

theorem step_listServ {nsName : String} (accepted : checkNames nsName none = .ok ())
    (held : getResourcePath ⟨nsName, ""⟩ ∈ server.namespaces) :
    step checkNames getResourcePath server d (.listServ nsName) =
      (.listed ((d.entries.filter fun entry =>
          (getResourcePath ⟨nsName, ""⟩ ++ "/services/").data.isPrefixOf entry.1.data).map
        fun entry => ServDir.listedService nsName ⟨entry.1, entry.2⟩, none), d) := by
  simp [step, servDir, ServDir.listServ, accepted, client, listServices, held,
    ServDir.listLoop_eq, Function.comp_def]

theorem step_listServ_missing {nsName : String} (accepted : checkNames nsName none = .ok ())
    (missing : getResourcePath ⟨nsName, ""⟩ ∉ server.namespaces) :
    step checkNames getResourcePath server d (.listServ nsName) =
      (.listed ([], some (.status .notFound (getResourcePath ⟨nsName, ""⟩))), d) := by
  simp [step, servDir, ServDir.listServ, accepted, client, listServices, missing,
    ServDir.listLoop_eq]

theorem step_getServ {nsName servName : String}
    (accepted : checkNames nsName (some servName) = .ok ()) :
    step checkNames getResourcePath server d (.getServ nsName servName) =
      (.service (match d.lookup (getResourcePath ⟨nsName, servName⟩) with
        | some annotations => .ok ⟨servName, nsName, annotations.getD ∅⟩
        | none => .error .errNotFound), d) := by
  cases found : d.lookup (getResourcePath ⟨nsName, servName⟩) <;>
    simp [step, servDir, ServDir.getServ, accepted, client, getService, found, bind, Except.bind]

theorem step_createServ {serv : Service}
    (accepted : checkNames serv.nsName (some serv.name) = .ok ()) :
    step checkNames getResourcePath server d (.createServ (some serv)) =
      if getResourcePath ⟨serv.nsName, ""⟩ ∈ server.namespaces then
        if getResourcePath ⟨serv.nsName, ""⟩ ++ "/services/" ++ serv.name ∈ d then
          (.service (.error .errAlreadyExists), d)
        else (.service (.ok serv), d.insert (getResourcePath ⟨serv.nsName, ""⟩ ++ "/services/" ++
          serv.name) (some serv.metadata))
      else (.service (.error (.status .notFound (getResourcePath ⟨serv.nsName, ""⟩))), d) := by
  simp only [step, servDir, ServDir.createServ, accepted, client, createService, bind,
    Except.bind]
  split_ifs <;> simp [classifyError]

theorem step_updateServ {serv : Service}
    (accepted : checkNames serv.nsName (some serv.name) = .ok ()) :
    step checkNames getResourcePath server d (.updateServ (some serv)) =
      match server.unknownPaths with
      | .rejected => (.service (.error (.status .invalidArgument "metadata")), d)
      | .ignored =>
          match d.lookup (getResourcePath ⟨serv.nsName, serv.name⟩) with
          | none => (.service (.error .errNotFound), d)
          | some current =>
              (.service (.ok serv), d.insert (getResourcePath ⟨serv.nsName, serv.name⟩) current) := by
  obtain ⟨namespaces, _ | _⟩ := server <;>
  cases found : d.lookup (getResourcePath ⟨serv.nsName, serv.name⟩) <;>
    simp [step, servDir, ServDir.updateServ, accepted, client, updateService, found, bind,
      Except.bind, updatablePaths, classifyError]

theorem step_deleteServ {nsName servName : String}
    (accepted : checkNames nsName (some servName) = .ok ()) :
    step checkNames getResourcePath server d (.deleteServ nsName servName) =
      if getResourcePath ⟨nsName, servName⟩ ∈ d then
        (.deleted (.ok ()), d.erase (getResourcePath ⟨nsName, servName⟩))
      else (.deleted (.error .errNotFound), d) := by
  simp only [step, servDir, ServDir.deleteServ, accepted, client, deleteService, bind,
    Except.bind]
  split_ifs <;> simp

theorem getServ_of_lookup_eq {d' : Directory} (same : ∀ name, d'.lookup name = d.lookup name)
    (nsName servName : String) :
    (step checkNames getResourcePath server d' (.getServ nsName servName)).1 =
      (step checkNames getResourcePath server d (.getServ nsName servName)).1 := by
  simp only [step, servDir, ServDir.getServ, client, getService, same]

theorem lookup_step_updateServ (serv : Option Service) (name : String) :
    (step checkNames getResourcePath server d (.updateServ serv)).2.lookup name = d.lookup name := by
  obtain _ | serv := serv
  · rfl
  cases accepted : checkNames serv.nsName (some serv.name) with
  | error err => rw [step_updateServ_rejected d accepted]
  | ok u =>
      rw [step_updateServ d accepted]
      cases server.unknownPaths with
      | rejected => rfl
      | ignored =>
          cases found : d.lookup (getResourcePath ⟨serv.nsName, serv.name⟩) with
          | none => rfl
          | some current =>
              by_cases same : name = getResourcePath ⟨serv.nsName, serv.name⟩
              · rw [same, AList.lookup_insert, found]
              · exact AList.lookup_insert_ne same

theorem getServ_step_updateServ (serv : Option Service) (nsName servName : String) :
    (step checkNames getResourcePath server (step checkNames getResourcePath server d
        (.updateServ serv)).2 (.getServ nsName servName)).1 =
      (step checkNames getResourcePath server d (.getServ nsName servName)).1 :=
  getServ_of_lookup_eq d (lookup_step_updateServ d serv) nsName servName

end Steps

end Directory

end CnwanOperator.ServRegistry
