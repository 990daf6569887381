/-! # Error values

The Go `error` values the modelled code creates, compares against or passes
on. Sentinels compare by identity in Go, so each is a constructor of its own;
a gRPC status error carries its code; every other error (from `fmt.Errorf`,
a file read or a Kubernetes call) is identified by its message. -/

namespace CnwanOperator

inductive Code where
  | ok | canceled | unknown | invalidArgument | deadlineExceeded | notFound
  | alreadyExists | permissionDenied | resourceExhausted | failedPrecondition
  | aborted | outOfRange | unimplemented | internal | unavailable | dataLoss
  | unauthenticated
  deriving DecidableEq, Repr

inductive Error where
  /-- `sr.ErrNotFound` of package `servregistry`. -/
  | errNotFound
  /-- `sr.ErrAlreadyExists`. -/
  | errAlreadyExists
  /-- `sr.ErrTimeOutExpired`. -/
  | errTimeOutExpired
  /-- `sr.ErrServNotProvided`. -/
  | errServNotProvided
  /-- `sr.ErrInvalidName`. -/
  | errInvalidName
  /-- `context.DeadlineExceeded`. -/
  | deadlineExceeded
  /-- `iterator.Done`, which ends every run of a list iterator. -/
  | iteratorDone
  /-- An error built by `status.Error(code, message)`, as a gRPC client returns. -/
  | status (code : Code) (message : String)
  /-- `fmt.Errorf(format, ..., err)`: a new error whose text starts with
  `context` and ends with the text of `cause`. -/
  | wrapped (context : String) (cause : Error)
  | other (message : String)
  deriving DecidableEq, Repr

namespace Error

/-- `status.Code(err)` for a non-nil `err`: the code of a status error, and
`Unknown` for any error that carries no status. -/
def code : Error → Code
  | .status code _ => code
  | _ => .unknown

@[simp] theorem code_status (code : Code) (message : String) :
    (status code message).code = code := rfl

end Error

/-- `v, err := f(); if err != nil { return err }`: a chain of calls succeeds
exactly when every call in it does. -/
@[simp] theorem bind_eq_ok {α β : Type} {x : Except Error α} {f : α → Except Error β} {b : β} :
    x >>= f = .ok b ↔ ∃ a, x = .ok a ∧ f a = .ok b := by
  cases x <;> simp [bind, Except.bind]

@[simp] theorem pure_eq_ok {α : Type} {a b : α} : (pure a : Except Error α) = .ok b ↔ a = b := by
  simp [pure, Except.pure]

end CnwanOperator
