set_option autoImplicit false

/-!
# Configuration: environments

The variables of a process, in the order in which they were set.  A variable that is
set stays set, and its value never changes here: `setDefault` gives a value only to a
variable that has none.
-/

namespace TezosNode

/-- Names and values of variables. -/
abbrev Environment : Type := List (String × String)

namespace Environment

/-- The value of a variable. -/
def get? (env : Environment) (name : String) : Option String :=
  (env.find? fun v => v.1 == name).map (·.2)

/-- Why a variable cannot be set. -/
inductive Fault where
  /-- a name or a value with a zero character -/
  | embeddedZero
  /-- a name with an equals sign -/
  | illegalName
  deriving DecidableEq, Repr, Inhabited

/-- The wording of a fault. -/
def Fault.message : Fault → String
  | .embeddedZero => "embedded null byte"
  | .illegalName => "illegal environment variable name"

/-- Gives a value to a variable that has none. -/
def setDefault (env : Environment) (name value : String) : Except Fault Environment :=
  if (env.get? name).isSome then .ok env
  else if name.toList.contains '\x00' || value.toList.contains '\x00' then .error .embeddedZero
  else if name.toList.contains '=' then .error .illegalName
  else .ok (env ++ [(name, value)])

/-- Gives values to variables, one after another, as far as that goes; a variable
without value is passed over. -/
def setDefaults (env : Environment) :
    List (String × Option String) → Environment × Except Fault Unit
  | [] => (env, .ok ())
  | (_, none) :: rest => setDefaults env rest
  | (name, some value) :: rest =>
    match env.setDefault name value with
    | .ok env => setDefaults env rest
    | .error fault => (env, .error fault)

end Environment

end TezosNode
