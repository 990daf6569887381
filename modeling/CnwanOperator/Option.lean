/-! # Settings records of package `option`

The records a settings merge reads and returns. A Go pointer to a record that
may be nil (`fromFile`) is an `Option` of the record where it is used. Fields
keep Go's names in lower camel case, except `Prefix`, whose lower-case spelling
is a Lean keyword. -/

namespace CnwanOperator

/-- `option.Etcd`. -/
structure Etcd where
  Prefix : String
  endpoints : List String
  deriving DecidableEq, Repr

/-- `option.ServiceDirectory`. -/
structure ServiceDirectory where
  projectID : String
  defaultRegion : String
  deriving DecidableEq, Repr

/-- `option.ServiceFilters`. -/
structure ServiceFilters where
  labels : List String
  annotations : List String
  deriving DecidableEq, Repr

/-- `option.CloudMetadata`. -/
structure CloudMetadata where
  network : String
  subNetwork : String
  deriving DecidableEq, Repr

/-- `option.Operator`. -/
structure Operator where
  watchAllNamespaces : Bool
  serviceFilters : ServiceFilters
  cloudMetadata : CloudMetadata
  deriving DecidableEq, Repr

/-- The zero value of `option.Etcd`, which `yaml.Unmarshal` leaves in place
when the settings bytes are empty. -/
def Etcd.zero : Etcd := ⟨"", []⟩

end CnwanOperator
