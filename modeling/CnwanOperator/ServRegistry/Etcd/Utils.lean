import CnwanOperator.Go.Strings

/-! # Prefix parsing of the etcd backend -/

namespace CnwanOperator.ServRegistry.Etcd

/-- `parsePrefix(prefix)`. The value for a nil pointer, `defaultPrefix`, is
declared outside the sources and is a parameter here. -/
def parsePrefix (defaultPrefix : String) : Option String → String
  | none => defaultPrefix
  | some raw =>
      if raw.length = 0 ∨ raw = "/" then "/"
      else "/" ++ Strings.trim raw "/" ++ "/"

theorem parsePrefix_of_ne {defaultPrefix raw : String} (empty : raw ≠ "") (slash : raw ≠ "/") :
    parsePrefix defaultPrefix (some raw) = "/" ++ Strings.trim raw "/" ++ "/" := by
  have nonEmpty : raw.length ≠ 0 := fun zero =>
    empty (String.ext (List.eq_nil_of_length_eq_zero zero))
  simp [parsePrefix, nonEmpty, slash]

theorem parsePrefix_of_eq {defaultPrefix raw : String} (special : raw = "" ∨ raw = "/") :
    parsePrefix defaultPrefix (some raw) = "/" := by
  rcases special with rfl | rfl <;> rfl

end CnwanOperator.ServRegistry.Etcd
