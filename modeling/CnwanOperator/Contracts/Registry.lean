import CnwanOperator.ServRegistry.ServiceDirectory.Directory

/-! # The registry contract

Both adapters implement one interface, `GetServ`, `ListServ`, `CreateServ`,
`UpdateServ` and `DeleteServ`, on services named by namespace and name, with
one error vocabulary. `Registry` says what that interface is for: a store of
metadata by identity, within namespaces that exist apart from it. A created
service reads back as created, an updated one with its new metadata, a
deleted one is not found, and a second create of one identity is refused. A
listing holds the namespace's services, creating in or listing a namespace
the registry does not hold fails, and a call never touches a service it does
not name.

The Service Directory adapter, talking to a v1 server, refines `Registry` on
every call but `UpdateServ`. From any server state the adapter can reach,
those calls get the replies the registry gives, listings in the server's own
order. `UpdateServ` leaves the server as it was, so the contract's update is
the one call the adapter does not keep. The refinement needs laws of
`checkNames` and `getResourcePath`, which are declared outside the sources. A
service's resource name is its namespace's followed by `/services/` and its
name, from which its name is read back as the last segment. No two accepted
identities share a resource name. `Addressing` carries the laws, and
`Addressing.projectRegion`, the `projects/.../namespaces/.../services/...`
scheme, has them. -/

namespace CnwanOperator.Contracts

open ServRegistry

/-- The registry: the metadata of each service, by namespace and name. -/
abbrev Registry := AList (fun _ : String × String => AList (fun _ : String => String))

namespace Registry

/-- The namespaces a registry holds, which no service call creates or deletes,
and the error it reports for one it does not hold. -/
structure Namespaces where
  held : String → Bool
  missing : String → Error

variable (checkNames : String → Option String → Except Error Unit) (namespaces : Namespaces)

/-- One call, as the contract describes it. Names the adapter rejects are
rejected with its error, and a nil service is `ErrServNotProvided`. -/
def step (r : Registry) : Call → Reply × Registry
  | .getServ nsName servName =>
      match checkNames nsName (some servName) with
      | .error err => (.service (.error err), r)
      | .ok () =>
          (.service (match r.lookup (nsName, servName) with
            | some metadata => .ok ⟨servName, nsName, metadata⟩
            | none => .error .errNotFound), r)
  | .listServ nsName =>
      match checkNames nsName none with
      | .error err => (.listed ([], some err), r)
      | .ok () =>
          if namespaces.held nsName then
            (.listed ((r.entries.filter fun entry => entry.1.1 = nsName).map
              fun entry => ⟨entry.1.2, entry.1.1, entry.2⟩, none), r)
          else (.listed ([], some (namespaces.missing nsName)), r)
  | .createServ none => (.service (.error .errServNotProvided), r)
  | .createServ (some serv) =>
      match checkNames serv.nsName (some serv.name) with
      | .error err => (.service (.error err), r)
      | .ok () =>
          if namespaces.held serv.nsName then
            if (serv.nsName, serv.name) ∈ r then (.service (.error .errAlreadyExists), r)
            else (.service (.ok serv), r.insert (serv.nsName, serv.name) serv.metadata)
          else (.service (.error (namespaces.missing serv.nsName)), r)
  | .updateServ none => (.service (.error .errServNotProvided), r)
  | .updateServ (some serv) =>
      match checkNames serv.nsName (some serv.name) with
      | .error err => (.service (.error err), r)
      | .ok () =>
          if (serv.nsName, serv.name) ∈ r then
            (.service (.ok serv), r.insert (serv.nsName, serv.name) serv.metadata)
          else (.service (.error .errNotFound), r)
  | .deleteServ nsName servName =>
      match checkNames nsName (some servName) with
      | .error err => (.deleted (.error err), r)
      | .ok () =>
          if (nsName, servName) ∈ r then (.deleted (.ok ()), r.erase (nsName, servName))
          else (.deleted (.error .errNotFound), r)

/-! ## The contract -/

variable {checkNames} {namespaces} {r : Registry}

theorem step_createServ_of_ok {serv : Service}
    (created : (step checkNames namespaces r (.createServ (some serv))).1 = .service (.ok serv)) :
    checkNames serv.nsName (some serv.name) = .ok () ∧ namespaces.held serv.nsName = true ∧
      (step checkNames namespaces r (.createServ (some serv))).2 =
        r.insert (serv.nsName, serv.name) serv.metadata := by
  cases accepted : checkNames serv.nsName (some serv.name) with
  | error err => simp [step, accepted] at created
  | ok u =>
      cases held : namespaces.held serv.nsName
      · simp [step, accepted, held] at created
      by_cases present : (serv.nsName, serv.name) ∈ r
      · simp [step, accepted, held, present] at created
      · simp [step, accepted, held, present]

theorem getServ_after_createServ {serv : Service}
    (created : (step checkNames namespaces r (.createServ (some serv))).1 = .service (.ok serv)) :
    (step checkNames namespaces (step checkNames namespaces r (.createServ (some serv))).2
      (.getServ serv.nsName serv.name)).1 = .service (.ok serv) := by
  obtain ⟨accepted, -, stored⟩ := step_createServ_of_ok created
  rw [stored]
  simp [step, accepted]

theorem getServ_after_deleteServ {nsName servName : String}
    (accepted : checkNames nsName (some servName) = .ok ()) :
    (step checkNames namespaces (step checkNames namespaces r (.deleteServ nsName servName)).2
      (.getServ nsName servName)).1 = .service (.error .errNotFound) := by
  by_cases present : (nsName, servName) ∈ r
  · simp [step, accepted, present]
  · simp [step, accepted, present, AList.lookup_eq_none.mpr present]

theorem createServ_after_createServ {serv serv' : Service}
    (created : (step checkNames namespaces r (.createServ (some serv))).1 = .service (.ok serv))
    (sameNamespace : serv'.nsName = serv.nsName) (sameName : serv'.name = serv.name) :
    (step checkNames namespaces (step checkNames namespaces r (.createServ (some serv))).2
      (.createServ (some serv'))).1 = .service (.error .errAlreadyExists) := by
  obtain ⟨accepted, held, stored⟩ := step_createServ_of_ok created
  rw [stored]
  simp [step, accepted, held, sameNamespace, sameName]

theorem lookup_step_of_ne (call : Call) {identity : String × String}
    (other : call.identity ≠ some identity) :
    (step checkNames namespaces r call).2.lookup identity = r.lookup identity := by
  have different : ∀ {named}, call.identity = some named → identity ≠ named :=
    fun named same => other (by rw [named, same])
  cases call with
  | getServ nsName servName => simp only [step]; split <;> rfl
  | listServ nsName => simp only [step]; split <;> (try split_ifs) <;> rfl
  | createServ serv =>
      obtain _ | serv := serv
      · rfl
      · simp only [step]
        split
        · rfl
        · split_ifs
          · rfl
          · exact AList.lookup_insert_ne (different rfl)
          · rfl
  | updateServ serv =>
      obtain _ | serv := serv
      · rfl
      · simp only [step]
        split
        · rfl
        · split_ifs
          · exact AList.lookup_insert_ne (different rfl)
          · rfl
  | deleteServ nsName servName =>
      simp only [step]
      split
      · rfl
      · split_ifs
        · exact AList.lookup_erase_ne (different rfl)
        · rfl

theorem getServ_step_of_ne (call : Call) {nsName servName : String}
    (other : call.identity ≠ some (nsName, servName)) :
    (step checkNames namespaces (step checkNames namespaces r call).2
        (.getServ nsName servName)).1 =
      (step checkNames namespaces r (.getServ nsName servName)).1 := by
  have same : (step checkNames namespaces r call).2.lookup (nsName, servName) =
      r.lookup (nsName, servName) :=
    lookup_step_of_ne call other
  generalize (step checkNames namespaces r call).2 = next at same
  simp only [step]
  split <;> simp [same]

theorem mem_listing (nsName : String) (serv : Service) :
    serv ∈ (r.entries.filter fun entry => entry.1.1 = nsName).map
        (fun entry => (⟨entry.1.2, entry.1.1, entry.2⟩ : Service)) ↔
      serv.nsName = nsName ∧ r.lookup (serv.nsName, serv.name) = some serv.metadata := by
  simp only [List.mem_map, List.mem_filter, decide_eq_true_eq]
  constructor
  · rintro ⟨⟨⟨nsName', servName⟩, metadata⟩, ⟨stored, rfl⟩, rfl⟩
    exact ⟨rfl, AList.mem_lookup_iff.mpr stored⟩
  · rintro ⟨rfl, found⟩
    exact ⟨⟨(serv.nsName, serv.name), serv.metadata⟩, ⟨AList.mem_lookup_iff.mp found, rfl⟩, rfl⟩

theorem nodup_listing (nsName : String) :
    ((r.entries.filter fun entry => entry.1.1 = nsName).map
      (fun entry => (⟨entry.1.2, entry.1.1, entry.2⟩ : Service))).Nodup := by
  refine (r.nodupKeys.nodup.filter _).map_on fun entry member entry' member' same => ?_
  simp only [Service.mk.injEq] at same
  exact r.nodupKeys.eq_of_fst_eq (List.mem_of_mem_filter member)
    (List.mem_of_mem_filter member') (Prod.ext same.2.1 same.1)

theorem mem_listServ {nsName : String} (accepted : checkNames nsName none = .ok ())
    (held : namespaces.held nsName = true) :
    ∃ services, (step checkNames namespaces r (.listServ nsName)).1 = .listed (services, none) ∧
      ∀ serv : Service, serv ∈ services ↔
        serv.nsName = nsName ∧ r.lookup (serv.nsName, serv.name) = some serv.metadata :=
  ⟨_, by simp only [step, accepted, held, if_true], mem_listing nsName⟩

theorem getServ_eq_ok_iff (serv : Service) :
    (step checkNames namespaces r (.getServ serv.nsName serv.name)).1 = .service (.ok serv) ↔
      checkNames serv.nsName (some serv.name) = .ok () ∧
        r.lookup (serv.nsName, serv.name) = some serv.metadata := by
  obtain ⟨servName, nsName, metadata⟩ := serv
  cases accepted : checkNames nsName (some servName) with
  | error err => simp [step, accepted]
  | ok u => cases found : r.lookup (nsName, servName) <;> simp [step, accepted, found]

end Registry

/-- Two replies agree: they are equal, except that a listing may come in
another order. -/
def Agrees : Reply → Reply → Prop
  | .service result, .service result' => result = result'
  | .listed result, .listed result' => result.1.Perm result'.1 ∧ result.2 = result'.2
  | .deleted result, .deleted result' => result = result'
  | _, _ => False

@[simp] theorem agrees_service {result result' : Except Error Service} :
    Agrees (.service result) (.service result') ↔ result = result' := Iff.rfl

@[simp] theorem agrees_deleted {result result' : Except Error Unit} :
    Agrees (.deleted result) (.deleted result') ↔ result = result' := Iff.rfl

@[simp] theorem agrees_listed {result result' : List Service × Option Error} :
    Agrees (.listed result) (.listed result') ↔ result.1.Perm result'.1 ∧ result.2 = result'.2 :=
  Iff.rfl

theorem Agrees.eq_service_iff {reply reply' : Reply} {result : Except Error Service}
    (agree : Agrees reply reply') : reply = .service result ↔ reply' = .service result := by
  cases reply <;> cases reply' <;> simp only [Agrees] at agree <;> simp [agree]

theorem agrees_listed_right {result : List Service × Option Error} :
    ∀ {reply : Reply}, Agrees reply (.listed result) →
      ∃ services, reply = .listed (services, result.2) ∧ services.Perm result.1
  | .listed (services, err), ⟨perm, same⟩ => ⟨services, by rw [← same], perm⟩

/-! ## Addressing -/

/-- `checkNames` and `getResourcePath`, with the laws the refinement needs of
them. -/
structure Addressing where
  checkNames : String → Option String → Except Error Unit
  getResourcePath : ServDirPath → String
  /-- A service's resource name is its namespace's, `/services/` and its name. -/
  servicePath : ∀ {nsName servName}, checkNames nsName (some servName) = .ok () →
    getResourcePath ⟨nsName, servName⟩ = getResourcePath ⟨nsName, ""⟩ ++ "/services/" ++ servName
  /-- No two accepted identities share a resource name. -/
  injective : ∀ {nsName servName nsName' servName'},
    checkNames nsName (some servName) = .ok () → checkNames nsName' (some servName') = .ok () →
    getResourcePath ⟨nsName, servName⟩ = getResourcePath ⟨nsName', servName'⟩ →
    nsName = nsName' ∧ servName = servName'
  /-- Under a namespace's resource name and `/services/` lie its own services
  only. -/
  underNamespace : ∀ {nsName servName nsName'}, checkNames nsName (some servName) = .ok () →
    checkNames nsName' none = .ok () →
    ((getResourcePath ⟨nsName', ""⟩ ++ "/services/").data <+:
      (getResourcePath ⟨nsName, servName⟩).data ↔ nsName' = nsName)
  /-- A service's name is the last segment of its resource name. -/
  lastSegment : ∀ {nsName servName}, checkNames nsName (some servName) = .ok () →
    (Strings.split (getResourcePath ⟨nsName, servName⟩) '/').getLastD "" = servName

/-- A name the `projects/.../services/...` scheme accepts: non-empty, with no
slash. -/
def ValidName (name : String) : Prop := name ≠ "" ∧ '/' ∉ name.data

instance (name : String) : Decidable (ValidName name) := instDecidableAnd

/-- `checkNames` of the scheme: every name given is valid. -/
def projectRegionCheckNames (nsName : String) : Option String → Except Error Unit
  | none => if ValidName nsName then .ok () else .error .errInvalidName
  | some servName =>
      if ValidName nsName ∧ ValidName servName then .ok () else .error .errInvalidName

/-- The resource name of a namespace. -/
def namespacePath (projectID region nsName : String) : String :=
  "projects/" ++ projectID ++ "/locations/" ++ region ++ "/namespaces/" ++ nsName

/-- `getResourcePath` of the scheme: the namespace's resource name, followed by
`/services/` and the service's name when one is given. -/
def projectRegionPath (projectID region : String) (path : ServDirPath) : String :=
  if path.service = "" then namespacePath projectID region path.ns
  else namespacePath projectID region path.ns ++ "/services/" ++ path.service

theorem validName_of_projectRegionCheckNames {nsName servName : String}
    (accepted : projectRegionCheckNames nsName (some servName) = .ok ()) :
    ValidName nsName ∧ ValidName servName := by
  simp only [projectRegionCheckNames] at accepted
  split_ifs at accepted with valid
  exact valid

theorem validName_of_projectRegionCheckNames_none {nsName : String}
    (accepted : projectRegionCheckNames nsName none = .ok ()) : ValidName nsName := by
  simp only [projectRegionCheckNames] at accepted
  split_ifs at accepted with valid
  exact valid

@[simp] theorem projectRegionPath_namespace (projectID region nsName : String) :
    projectRegionPath projectID region ⟨nsName, ""⟩ = namespacePath projectID region nsName :=
  if_pos rfl

theorem projectRegionPath_service (projectID region : String) {nsName servName : String}
    (named : servName ≠ "") :
    projectRegionPath projectID region ⟨nsName, servName⟩ =
      namespacePath projectID region nsName ++ "/services/" ++ servName :=
  if_neg named

private theorem servicePath_data (projectID region nsName servName : String) :
    (namespacePath projectID region nsName ++ "/services/" ++ servName).data =
      ("projects/" ++ projectID ++ "/locations/" ++ region ++ "/namespaces/").data ++
        (nsName.data ++ '/' :: ("services/".data ++ servName.data)) := by
  simp only [namespacePath, String.data_append, List.append_assoc]
  rfl

theorem projectRegionPath_injective {projectID region nsName servName nsName' servName' : String}
    (valid : ValidName nsName) (valid' : ValidName nsName')
    (shared : namespacePath projectID region nsName ++ "/services/" ++ servName =
      namespacePath projectID region nsName' ++ "/services/" ++ servName') :
    nsName = nsName' ∧ servName = servName' := by
  have onChars := congrArg String.data shared
  rw [servicePath_data, servicePath_data] at onChars
  obtain ⟨sameNamespace, rest⟩ :=
    Strings.append_cons_cancel_of_not_mem valid.2 valid'.2 (List.append_cancel_left onChars)
  exact ⟨String.ext sameNamespace, String.ext (List.append_cancel_left rest)⟩

theorem projectRegionPath_prefix {projectID region nsName nsName' servName : String}
    (valid : ValidName nsName) (valid' : ValidName nsName') :
    (namespacePath projectID region nsName' ++ "/services/").data <+:
        (namespacePath projectID region nsName ++ "/services/" ++ servName).data ↔
      nsName' = nsName := by
  constructor
  · rintro ⟨rest, joined⟩
    have whole : (namespacePath projectID region nsName' ++ "/services/" ++ ⟨rest⟩).data =
        (namespacePath projectID region nsName ++ "/services/" ++ servName).data :=
      (String.data_append _ _).trans joined
    rw [servicePath_data, servicePath_data] at whole
    exact String.ext
      (Strings.append_cons_cancel_of_not_mem valid'.2 valid.2 (List.append_cancel_left whole)).1
  · rintro rfl
    exact ⟨servName.data, (String.data_append _ _).symm⟩

theorem projectRegionPath_getLastD {projectID region nsName servName : String}
    (valid : ValidName servName) :
    (Strings.split (namespacePath projectID region nsName ++ "/services/" ++ servName)
      '/').getLastD "" = servName := by
  have slash : namespacePath projectID region nsName ++ "/services/" =
      namespacePath projectID region nsName ++ "/services" ++ ⟨['/']⟩ := by
    rw [String.append_assoc]
    rfl
  rw [slash]
  exact Strings.split_append_getLastD _ _ valid.2

/-- The `projects/{project}/locations/{region}/namespaces/{namespace}` and
`.../services/{service}` scheme has the laws. -/
def Addressing.projectRegion (projectID region : String) : Addressing where
  checkNames := projectRegionCheckNames
  getResourcePath := projectRegionPath projectID region
  servicePath accepted := by
    rw [projectRegionPath_service _ _ (validName_of_projectRegionCheckNames accepted).2.1,
      projectRegionPath_namespace]
  injective accepted accepted' shared := by
    obtain ⟨valid, named⟩ := validName_of_projectRegionCheckNames accepted
    obtain ⟨valid', named'⟩ := validName_of_projectRegionCheckNames accepted'
    rw [projectRegionPath_service _ _ named.1, projectRegionPath_service _ _ named'.1] at shared
    exact projectRegionPath_injective valid valid' shared
  underNamespace accepted accepted' := by
    obtain ⟨valid, named⟩ := validName_of_projectRegionCheckNames accepted
    rw [projectRegionPath_namespace, projectRegionPath_service _ _ named.1]
    exact projectRegionPath_prefix valid (validName_of_projectRegionCheckNames_none accepted')
  lastSegment accepted := by
    obtain ⟨-, named⟩ := validName_of_projectRegionCheckNames accepted
    rw [projectRegionPath_service _ _ named.1]
    exact projectRegionPath_getLastD named

namespace Addressing

variable (a : Addressing) (server : Server)

/-- The adapter against the server, for this addressing. -/
def step : Directory → Call → Reply × Directory :=
  Directory.step a.checkNames a.getResourcePath server

/-- The server states that calls through the adapter reach from a server with
no services. -/
def Reachable (d : Directory) : Prop :=
  ∃ calls, (Directory.run a.checkNames a.getResourcePath server ∅ calls).2 = d

/-- The namespaces of the registry the server stands for: those whose resource
names the server holds, a missing one reported as the server's `NotFound`. -/
def heldNamespaces : Registry.Namespaces where
  held nsName := decide (a.getResourcePath ⟨nsName, ""⟩ ∈ server.namespaces)
  missing nsName := .status .notFound (a.getResourcePath ⟨nsName, ""⟩)

/-- The server holds what the registry holds, under the accepted identities'
resource names and nowhere else. -/
structure Abstracts (d : Directory) (r : Registry) : Prop where
  /-- At each accepted identity's resource name, the server holds the metadata
  the registry holds for it. -/
  lookup : ∀ nsName servName, a.checkNames nsName (some servName) = .ok () →
    (d.lookup (a.getResourcePath ⟨nsName, servName⟩)).map (·.getD ∅) = r.lookup (nsName, servName)
  /-- The server holds only accepted identities' resource names. -/
  serverKeys : ∀ name ∈ d, ∃ nsName servName, a.checkNames nsName (some servName) = .ok () ∧
    name = a.getResourcePath ⟨nsName, servName⟩
  /-- The registry holds only accepted identities. -/
  registryKeys : ∀ identity ∈ r, a.checkNames identity.1 (some identity.2) = .ok ()

variable {a} {server : Server} {d : Directory} {r : Registry}

theorem abstracts_empty : a.Abstracts ∅ ∅ :=
  ⟨fun _ _ _ => rfl, fun _ absent => absurd absent (AList.not_mem_empty _),
    fun _ absent => absurd absent (AList.not_mem_empty _)⟩

theorem Abstracts.mem_iff (abstracts : a.Abstracts d r) {nsName servName : String}
    (accepted : a.checkNames nsName (some servName) = .ok ()) :
    a.getResourcePath ⟨nsName, servName⟩ ∈ d ↔ (nsName, servName) ∈ r := by
  rw [← AList.lookup_isSome, ← AList.lookup_isSome, ← abstracts.lookup nsName servName accepted]
  simp

theorem Abstracts.insert (abstracts : a.Abstracts d r) {nsName servName : String}
    (accepted : a.checkNames nsName (some servName) = .ok ())
    (metadata : AList (fun _ : String => String)) :
    a.Abstracts (d.insert (a.getResourcePath ⟨nsName, servName⟩) (some metadata))
      (r.insert (nsName, servName) metadata) := by
  refine ⟨fun nsName' servName' accepted' => ?_, fun name member => ?_,
    fun identity member => ?_⟩
  · by_cases same : (nsName', servName') = (nsName, servName)
    · obtain ⟨rfl, rfl⟩ := Prod.mk.inj same
      simp
    · have apart : a.getResourcePath ⟨nsName', servName'⟩ ≠
          a.getResourcePath ⟨nsName, servName⟩ :=
        fun shared => same (Prod.ext_iff.mpr (a.injective accepted' accepted shared))
      rw [AList.lookup_insert_ne apart, AList.lookup_insert_ne same]
      exact abstracts.lookup nsName' servName' accepted'
  · rcases (AList.mem_insert _).mp member with rfl | held
    · exact ⟨nsName, servName, accepted, rfl⟩
    · exact abstracts.serverKeys name held
  · rcases (AList.mem_insert _).mp member with rfl | held
    · exact accepted
    · exact abstracts.registryKeys identity held

theorem Abstracts.erase (abstracts : a.Abstracts d r) {nsName servName : String}
    (accepted : a.checkNames nsName (some servName) = .ok ()) :
    a.Abstracts (d.erase (a.getResourcePath ⟨nsName, servName⟩)) (r.erase (nsName, servName)) := by
  refine ⟨fun nsName' servName' accepted' => ?_,
    fun name member => abstracts.serverKeys name (AList.mem_erase.mp member).2,
    fun identity member => abstracts.registryKeys identity (AList.mem_erase.mp member).2⟩
  by_cases same : (nsName', servName') = (nsName, servName)
  · obtain ⟨rfl, rfl⟩ := Prod.mk.inj same
    simp
  · have apart : a.getResourcePath ⟨nsName', servName'⟩ ≠ a.getResourcePath ⟨nsName, servName⟩ :=
      fun shared => same (Prod.ext_iff.mpr (a.injective accepted' accepted shared))
    rw [AList.lookup_erase_ne apart, AList.lookup_erase_ne same]
    exact abstracts.lookup nsName' servName' accepted'

theorem Abstracts.listed_key (abstracts : a.Abstracts d r) {nsName : String}
    (accepted : a.checkNames nsName none = .ok ())
    {entry : Σ _ : String, Option (AList fun _ : String => String)}
    (member : entry ∈ d.entries.filter fun entry =>
      (a.getResourcePath ⟨nsName, ""⟩ ++ "/services/").data.isPrefixOf entry.1.data) :
    ∃ servName, a.checkNames nsName (some servName) = .ok () ∧
      entry.1 = a.getResourcePath ⟨nsName, servName⟩ := by
  obtain ⟨stored, under⟩ := List.mem_filter.mp member
  obtain ⟨nsName', servName, accepted', named⟩ :=
    abstracts.serverKeys entry.1 (AList.mem_keys.mp (List.mem_keys_of_mem stored))
  rw [named, List.isPrefixOf_iff_prefix] at under
  obtain rfl := (a.underNamespace accepted' accepted).mp under
  exact ⟨servName, accepted', named⟩

theorem Abstracts.mem_listed (abstracts : a.Abstracts d r) {nsName : String}
    (accepted : a.checkNames nsName none = .ok ()) (serv : Service) :
    serv ∈ (d.entries.filter fun entry =>
        (a.getResourcePath ⟨nsName, ""⟩ ++ "/services/").data.isPrefixOf entry.1.data).map
      (fun entry => ServDir.listedService nsName ⟨entry.1, entry.2⟩) ↔
      serv.nsName = nsName ∧ r.lookup (serv.nsName, serv.name) = some serv.metadata := by
  rw [List.mem_map]
  constructor
  · rintro ⟨entry, member, rfl⟩
    obtain ⟨servName, accepted', atKey⟩ := abstracts.listed_key accepted member
    have named : (ServDir.listedService nsName ⟨entry.1, entry.2⟩).name = servName := by
      simp only [ServDir.listedService, atKey]
      exact a.lastSegment accepted'
    refine ⟨rfl, ?_⟩
    rw [named]
    show r.lookup (nsName, servName) = some (entry.2.getD ∅)
    rw [← abstracts.lookup _ _ accepted', ← atKey,
      Option.mem_def.mp (AList.mem_lookup_iff.mpr (List.mem_of_mem_filter member))]
    rfl
  · rintro ⟨rfl, held⟩
    have accepted' := abstracts.registryKeys _ (AList.lookup_isSome.mp (by rw [held]; rfl))
    rw [← abstracts.lookup _ _ accepted'] at held
    obtain ⟨annotations, stored, normalised⟩ := Option.map_eq_some'.mp held
    refine ⟨⟨_, annotations⟩, List.mem_filter.mpr ⟨AList.mem_lookup_iff.mp stored,
      List.isPrefixOf_iff_prefix.mpr ((a.underNamespace accepted' accepted).mpr rfl)⟩, ?_⟩
    simp only [ServDir.listedService, a.lastSegment accepted', normalised]

theorem Abstracts.listed_perm (abstracts : a.Abstracts d r) {nsName : String}
    (accepted : a.checkNames nsName none = .ok ()) :
    ((d.entries.filter fun entry =>
        (a.getResourcePath ⟨nsName, ""⟩ ++ "/services/").data.isPrefixOf entry.1.data).map
      fun entry => ServDir.listedService nsName ⟨entry.1, entry.2⟩).Perm
    ((r.entries.filter fun entry => entry.1.1 = nsName).map
      fun entry => ⟨entry.1.2, entry.1.1, entry.2⟩) := by
  refine (List.perm_ext_iff_of_nodup ((d.nodupKeys.nodup.filter _).map_on ?_)
    (Registry.nodup_listing nsName)).mpr fun serv => ?_
  · intro entry member entry' member' same
    obtain ⟨servName, accepted', atKey⟩ := abstracts.listed_key accepted member
    obtain ⟨servName', accepted'', atKey'⟩ := abstracts.listed_key accepted member'
    have names := congrArg Service.name same
    simp only [ServDir.listedService, atKey, atKey', a.lastSegment accepted',
      a.lastSegment accepted''] at names
    exact d.nodupKeys.eq_of_fst_eq (List.mem_of_mem_filter member)
      (List.mem_of_mem_filter member') (by rw [atKey, atKey', names])
  · rw [abstracts.mem_listed accepted, Registry.mem_listing]

theorem Abstracts.of_lookup_eq {d' : Directory} (abstracts : a.Abstracts d r)
    (same : ∀ name, d'.lookup name = d.lookup name) : a.Abstracts d' r :=
  ⟨fun nsName servName accepted => (same _).symm ▸ abstracts.lookup nsName servName accepted,
    fun name member => abstracts.serverKeys name
      (AList.lookup_isSome.mp ((same name) ▸ AList.lookup_isSome.mpr member)),
    abstracts.registryKeys⟩

/-! ## Refinement -/

variable (server) in
/-- One call other than `UpdateServ` through the adapter gets the reply the
registry gives, a listing perhaps in another order, and the server still holds
what the registry holds. -/
theorem step_refines (abstracts : a.Abstracts d r) (call : Call)
    (notUpdate : ∀ serv, call ≠ .updateServ serv) :
    Agrees (a.step server d call).1 (Registry.step a.checkNames (a.heldNamespaces server) r call).1 ∧
      a.Abstracts (a.step server d call).2
        (Registry.step a.checkNames (a.heldNamespaces server) r call).2 := by
  cases call with
  | getServ nsName servName =>
      cases accepted : a.checkNames nsName (some servName) with
      | error err =>
          simp [step, Directory.step_getServ_rejected _ accepted, Registry.step, accepted,
            abstracts]
      | ok u =>
          simp only [step, Directory.step_getServ _ accepted, Registry.step, accepted,
            ← abstracts.lookup nsName servName accepted]
          refine ⟨?_, abstracts⟩
          cases d.lookup (a.getResourcePath ⟨nsName, servName⟩) <;> rfl
  | listServ nsName =>
      cases accepted : a.checkNames nsName none with
      | error err =>
          simp [step, Directory.step_listServ_rejected _ accepted, Registry.step, accepted,
            abstracts]
      | ok u =>
          by_cases held : a.getResourcePath ⟨nsName, ""⟩ ∈ server.namespaces
          · simp only [step, Directory.step_listServ _ accepted held, Registry.step, accepted,
              heldNamespaces, decide_eq_true_eq, held, if_true, agrees_listed, and_true]
            exact ⟨abstracts.listed_perm accepted, abstracts⟩
          · simp only [step, Directory.step_listServ_missing _ accepted held, Registry.step,
              accepted, heldNamespaces, decide_eq_true_eq, held, if_false]
            exact ⟨⟨List.Perm.nil, rfl⟩, abstracts⟩
  | createServ serv =>
      obtain _ | serv := serv
      · exact ⟨rfl, abstracts⟩
      cases accepted : a.checkNames serv.nsName (some serv.name) with
      | error err =>
          simp [step, Directory.step_createServ_rejected _ accepted, Registry.step, accepted,
            abstracts]
      | ok u =>
          simp only [step, Directory.step_createServ _ accepted, ← a.servicePath accepted,
            Registry.step, accepted, heldNamespaces, decide_eq_true_eq,
            abstracts.mem_iff accepted]
          split_ifs
          · exact ⟨rfl, abstracts⟩
          · exact ⟨rfl, abstracts.insert accepted serv.metadata⟩
          · exact ⟨rfl, abstracts⟩
  | updateServ serv => exact absurd rfl (notUpdate serv)
  | deleteServ nsName servName =>
      cases accepted : a.checkNames nsName (some servName) with
      | error err =>
          simp [step, Directory.step_deleteServ_rejected _ accepted, Registry.step, accepted,
            abstracts]
      | ok u =>
          simp only [step, Directory.step_deleteServ _ accepted, Registry.step, accepted,
            abstracts.mem_iff accepted]
          split_ifs
          · exact ⟨rfl, abstracts.erase accepted⟩
          · exact ⟨rfl, abstracts⟩

theorem step_updateServ_abstracts (abstracts : a.Abstracts d r) (serv : Option Service) :
    a.Abstracts (a.step server d (.updateServ serv)).2 r :=
  abstracts.of_lookup_eq (Directory.lookup_step_updateServ d serv)

variable (server) in
theorem step_abstracts (abstracts : a.Abstracts d r) (call : Call) :
    ∃ r', a.Abstracts (a.step server d call).2 r' := by
  by_cases update : ∃ serv, call = .updateServ serv
  · obtain ⟨serv, rfl⟩ := update
    exact ⟨r, step_updateServ_abstracts abstracts serv⟩
  · exact ⟨_, (step_refines server abstracts call (not_exists.mp update)).2⟩

theorem run_abstracts (calls : List Call) :
    ∀ {d : Directory} {r : Registry}, a.Abstracts d r →
      ∃ r', a.Abstracts (Directory.run a.checkNames a.getResourcePath server d calls).2 r' := by
  induction calls with
  | nil => exact fun abstracts => ⟨_, abstracts⟩
  | cons call calls induction =>
      intro d r abstracts
      obtain ⟨next, stepped⟩ := step_abstracts server abstracts call
      exact induction stepped

/-- Every reachable server state holds some registry. -/
theorem Reachable.abstracts (reachable : a.Reachable server d) : ∃ r, a.Abstracts d r := by
  obtain ⟨calls, rfl⟩ := reachable
  exact run_abstracts calls abstracts_empty

variable (server) in
private theorem replies_refine (abstracts : a.Abstracts d r) (first : Call)
    (notUpdate : ∀ serv, first ≠ .updateServ serv) (second : Call)
    (secondNotUpdate : ∀ serv, second ≠ .updateServ serv) :
    Agrees (a.step server d first).1
        (Registry.step a.checkNames (a.heldNamespaces server) r first).1 ∧
      Agrees (a.step server (a.step server d first).2 second).1
        (Registry.step a.checkNames (a.heldNamespaces server)
          (Registry.step a.checkNames (a.heldNamespaces server) r first).2 second).1 :=
  ⟨(step_refines server abstracts first notUpdate).1,
    (step_refines server (step_refines server abstracts first notUpdate).2 second
      secondNotUpdate).1⟩

end Addressing

end CnwanOperator.Contracts
