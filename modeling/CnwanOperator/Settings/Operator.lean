import CnwanOperator.Go.Strings
import CnwanOperator.Go.Errors

/-! # Package `settings`

The older operator settings of package `settings`, which nothing under the
sources calls yet. `ValidateOperatorSettings` lowers the default namespace
action and accepts it only as `enabled` or `disabled`, storing the constant
back through its pointer argument; the rest of the record is left for a later
version (`// TODO: others...`). Since it writes back what it accepted, a
second validation of the same record changes nothing. -/

namespace CnwanOperator.Settings

def enabledNamespaceAction : String := "enabled"

def disabledNamespaceAction : String := "disabled"

/-- `settings.Operator`, with the one field `ValidateOperatorSettings` reads
and writes. -/
structure Operator where
  defaultNamespaceAction : String
  deriving DecidableEq, Repr

/-- `ValidateOperatorSettings(opSets)`: the record as the call leaves it, and
the error it returns. `unicodeToLower` is the table `strings.ToLower` maps
non-ASCII strings by. -/
def validateOperatorSettings (unicodeToLower : Char → Char) (opSets : Operator) :
    Operator × Except Error Unit :=
  let defNsAction := Strings.toLower unicodeToLower opSets.defaultNamespaceAction
  if defNsAction = enabledNamespaceAction then
    ({ opSets with defaultNamespaceAction := enabledNamespaceAction }, .ok ())
  else if defNsAction = disabledNamespaceAction then
    ({ opSets with defaultNamespaceAction := disabledNamespaceAction }, .ok ())
  else (opSets, .error (.other "unrecognized"))

private theorem validateOperatorSettings_of_stored (unicodeToLower : Char → Char)
    {action : String}
    (stored : action = enabledNamespaceAction ∨ action = disabledNamespaceAction) :
    validateOperatorSettings unicodeToLower ⟨action⟩ = (⟨action⟩, .ok ()) := by
  rcases stored with rfl | rfl <;> rfl

example : validateOperatorSettings id ⟨"Disabled"⟩ = (⟨"disabled"⟩, .ok ()) ∧
    validateOperatorSettings id ⟨"on"⟩ = (⟨"on"⟩, .error (.other "unrecognized")) :=
  ⟨rfl, rfl⟩

end CnwanOperator.Settings
