import TezosNode.Json.Literal

set_option autoImplicit false

/-!
# Schema: rules for values

A schema is a list of rules in a fixed order.  `violations` collects everything in
a value that breaks a rule, in the order of the rules, and `validate` reports them
ordered by their places; `accepts` answers only whether there is any.  A violation is worded
when it is found, and most wordings show the value: `check` and `isValid` are `validate` and
`accepts` for values that may be too long or too deep to be shown.

A rule about a kind of value says nothing of values of other kinds; only the rule
that names the kind does.
-/

namespace TezosNode

/-! ## Rules -/

/-- The kinds of value that a rule can name. -/
inductive Kind where
  | object
  | array
  | string
  | integer
  deriving DecidableEq, Repr, Inhabited

/-- The name of a kind. -/
def Kind.name : Kind → String
  | .object => "object"
  | .array => "array"
  | .string => "string"
  | .integer => "integer"

/-- Whether a value is of a kind.  A double without fraction is an integer. -/
def Kind.holds : Kind → Json → Bool
  | .object, .object _ => true
  | .array, .array _ => true
  | .string, .string _ => true
  | .integer, .integer _ => true
  | .integer, .double x => x.isIntegral
  | _, _ => false

/-- A rule for a value. -/
inductive Rule where
  /-- the value is of a kind -/
  | kind (k : Kind)
  /-- an object has all these fields -/
  | required (names : List String)
  /-- a value of this kind has a character, an element or a field -/
  | nonEmpty (k : Kind)
  /-- the fields of an object keep their own rules -/
  | fields (rules : List (String × List Rule))
  /-- every element of an array keeps these rules -/
  | items (rules : List Rule)
  deriving Repr, Inhabited

/-- A named list of rules. -/
structure Schema where
  name : String
  rules : List Rule
  deriving Repr, Inhabited

/-! ## Places -/

/-- A step from a value to one of its parts. -/
inductive PathStep where
  | index (n : Nat)
  | field (name : String)
  deriving DecidableEq, Repr, Inhabited

/-- The order of steps: indices by number, names by code points. -/
def PathStep.lt : PathStep → PathStep → Bool
  | .index m, .index n => m < n
  | .field a, .field b => a < b
  | .index _, .field _ => true
  | .field _, .index _ => false

/-- The place of a part: the steps that lead to it. -/
abbrev Path : Type := List PathStep

/-- The order of places: step by step, and a place before the places inside it. -/
def Path.le : Path → Path → Bool
  | [], _ => true
  | _ :: _, [] => false
  | a :: p, b :: q => a.lt b || (!b.lt a && Path.le p q)

/-- A step as text. -/
def PathStep.text : PathStep → String
  | .index n => toString n
  | .field name => name

/-- A place as text. -/
def Path.text (p : Path) : String :=
  let joined := "/".intercalate (p.map PathStep.text)
  if joined = "" then "<root>" else joined

/-! ## Violations -/

/-- How a value breaks a rule. -/
inductive Breach where
  | wrongKind (value : Json) (k : Kind)
  | missing (name : String)
  | empty (value : Json)
  deriving Repr, Inhabited

/-- The wording of a breach.  Where it shows a value, `Breach.obstacle?` says whether it can. -/
def Breach.message : Breach → String
  | .wrongKind value k => value.shown ++ " is not of type '" ++ k.name ++ "'"
  | .missing name => Text.Quoted.quote name ++ " is a required property"
  | .empty value => value.shown ++ " should be non-empty"

/-- Why a breach cannot be worded. -/
def Breach.obstacle? : Breach → Option Json.Obstacle
  | .wrongKind value _ => value.obstacle? Json.maxDepth
  | .missing _ => none
  | .empty value => value.obstacle? Json.maxDepth

/-- A breach and its place. -/
structure Violation where
  path : Path
  breach : Breach
  deriving Repr, Inhabited

/-- The wording of a violation. -/
def Violation.message (v : Violation) : String := v.path.text ++ ": " ++ v.breach.message

/-- Whether a value is of a kind and has no part. -/
def isEmptyOf : Kind → Json → Bool
  | .string, .string s => s == ""
  | .array, .array items => items.isEmpty
  | .object, .object fields => fields.isEmpty
  | _, _ => false

namespace Rule

/-- The names among `names` that an object lacks. -/
def missing (names : List String) : Json → List String
  | .object members => names.filter fun n => (Json.field? members n).isNone
  | _ => []

mutual

/-- The breaches of one rule by the value at a place. -/
def violations (path : Path) : Rule → Json → List Violation
  | .kind k, v => if k.holds v then [] else [⟨path, .wrongKind v k⟩]
  | .required names, v => (missing names v).map fun n => ⟨path, .missing n⟩
  | .nonEmpty k, v => if isEmptyOf k v then [⟨path, .empty v⟩] else []
  | .fields rules, v =>
    match v with
    | .object members => fieldViolations path members rules
    | _ => []
  | .items rules, v =>
    match v with
    | .array elements =>
      (elements.zipIdx.map fun p => allViolations (path ++ [.index p.2]) rules p.1).flatten
    | _ => []

/-- The breaches of a list of rules, rule by rule. -/
def allViolations (path : Path) : List Rule → Json → List Violation
  | [], _ => []
  | r :: rest, v => violations path r v ++ allViolations path rest v

/-- The breaches of the rules of an object's fields, in the order of the rules. -/
def fieldViolations (path : Path) (members : List (String × Json)) :
    List (String × List Rule) → List Violation
  | [] => []
  | (n, rules) :: rest =>
    (match Json.field? members n with
      | some v => allViolations (path ++ [.field n]) rules v
      | none => []) ++ fieldViolations path members rest

end

mutual

/-- Whether a value keeps a rule. -/
def accepts : Rule → Json → Bool
  | .kind k, v => k.holds v
  | .required names, v => (missing names v).isEmpty
  | .nonEmpty k, v => !isEmptyOf k v
  | .fields rules, v =>
    match v with
    | .object members => fieldsAccept members rules
    | _ => true
  | .items rules, v =>
    match v with
    | .array elements => elements.all fun w => allAccept rules w
    | _ => true

/-- Whether a value keeps every rule of a list. -/
def allAccept : List Rule → Json → Bool
  | [], _ => true
  | r :: rest, v => accepts r v && allAccept rest v

/-- Whether the fields of an object keep their rules. -/
def fieldsAccept (members : List (String × Json)) : List (String × List Rule) → Bool
  | [] => true
  | (n, rules) :: rest =>
    (match Json.field? members n with
      | some v => allAccept rules v
      | none => true) && fieldsAccept members rest

end

end Rule

/-! ## Validation -/

namespace Schema

/-- Everything in a value that breaks a schema, in the order of the rules. -/
def violations (s : Schema) (v : Json) : List Violation := Rule.allViolations [] s.rules v

/-- Whether a value keeps a schema. -/
def accepts (s : Schema) (v : Json) : Bool := Rule.allAccept s.rules v

/-- The violations of a value that does not keep a schema, ordered by their places;
those of one place stay in the order of the rules. -/
structure Rejection where
  schema : String
  violations : List Violation
  deriving Repr, Inhabited

/-- The wording of each violation. -/
def Rejection.errors (r : Rejection) : List String := r.violations.map Violation.message

/-- The wording of a rejection. -/
def Rejection.message (r : Rejection) : String :=
  "Schema validation failed for " ++ r.schema ++ ": " ++ "; ".intercalate r.errors

/-- Checks a value against a schema. -/
def validate (s : Schema) (v : Json) : Except Rejection Unit :=
  match (s.violations v).mergeSort fun a b => a.path.le b.path with
  | [] => .ok ()
  | found => .error ⟨s.name, found⟩

/-! ## Values of any size -/

/-- Why a check does not end well. -/
inductive CheckFault where
  | rejected (rejection : Rejection)
  /-- a violation that cannot be worded -/
  | obstructed (obstacle : Json.Obstacle)
  deriving Repr, Inhabited

/-- Checks any value against a schema: all violations are worded, in the order of the rules. -/
def check (s : Schema) (v : Json) : Except CheckFault Unit :=
  match (s.violations v).findSome? fun w => w.breach.obstacle? with
  | some obstacle => .error (.obstructed obstacle)
  | none => (s.validate v).mapError .rejected

/-- Whether any value keeps a schema: the first violation is worded, if there is one. -/
def isValid (s : Schema) (v : Json) : Except Json.Obstacle Bool :=
  match (s.violations v).head?.bind fun w => w.breach.obstacle? with
  | some obstacle => .error obstacle
  | none => .ok (s.accepts v)

end Schema

end TezosNode
