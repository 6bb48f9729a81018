/-
Variables of a script.  Two variables are the same when their names are; whether the
name is an acceptable one was decided when the variable was made.
-/
import TaskScript.AscendingSet

namespace TaskScript

structure Variable where
  name : String
  isValid : Bool
  deriving DecidableEq, Repr

instance : Ord Variable where
  compare x y := compare x.name y.name

instance : Std.TransOrd Variable := inferInstanceAs (Std.TransCmp (compareOn Variable.name))

@[simp] theorem Variable.compare_eq_eq_iff {x y : Variable} :
    compare x y = .eq ↔ x.name = y.name :=
  show compare x.name y.name = .eq ↔ _ from Std.LawfulEqOrd.compare_eq_iff_eq

/-- Variables of different names. -/
abbrev VariableSet := AscendingSet Variable

namespace VariableSet

def names (set : VariableSet) : List String := set.items.map Variable.name

end VariableSet

end TaskScript
