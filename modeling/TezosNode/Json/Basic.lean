import TezosNode.Number.Numeral

set_option autoImplicit false

/-!
# JSON: values

The values that a document holds.  Integers of any size and doubles are kept
apart, because a document tells them apart.  The fields of an object keep the
order in which their names first appeared, and a repeated name keeps its last
value.
-/

namespace TezosNode

/-- A JSON value. -/
inductive Json where
  | null
  | bool (b : Bool)
  | integer (n : Int)
  | double (x : Binary64)
  | string (s : String)
  | array (items : List Json)
  | object (fields : List (String × Json))
  deriving Repr, Inhabited

namespace Json

/-! ## Fields -/

/-- Fields with one of them set: in the place of its name, or at the end. -/
def setField (fields : List (String × Json)) (name : String) (value : Json) :
    List (String × Json) :=
  match fields with
  | [] => [(name, value)]
  | (n, v) :: rest =>
    if n = name then (n, value) :: rest else (n, v) :: setField rest name value

/-- The fields that a sequence of members gives. -/
def fieldsOf (members : List (String × Json)) : List (String × Json) :=
  members.foldl (fun fields m => setField fields m.1 m.2) []

/-- The value of a field. -/
def field? (fields : List (String × Json)) (name : String) : Option Json :=
  (fields.find? fun f => f.1 == name).map (·.2)

/-- The value of a field of an object; other values have no fields. -/
def get? (value : Json) (name : String) : Option Json :=
  match value with
  | .object fields => field? fields name
  | _ => none

/-- Fields with the members of others set one after another. -/
def updateFields (fields changes : List (String × Json)) : List (String × Json) :=
  changes.foldl (fun fields m => setField fields m.1 m.2) fields

/-! ## Kinds -/

/-- Whether a value counts as true: all but null, false, zero and the empty string,
array and object do. -/
def isTruthy : Json → Bool
  | .null => false
  | .bool b => b
  | .integer n => n != 0
  | .double x => x.isTruthy
  | .string s => s != ""
  | .array items => !items.isEmpty
  | .object fields => !fields.isEmpty

/-! ## Laws of fields -/

theorem field?_setField_self (fields : List (String × Json)) (name : String) (value : Json) :
    field? (setField fields name value) name = some value := by
  induction fields with
  | nil => simp [setField, field?]
  | cons f rest ih =>
    by_cases h : f.1 = name
    · simp [setField, field?, h]
    · have hf : (f.1 == name) = false := by simpa using h
      simpa [setField, h, field?, List.find?_cons, hf] using ih

theorem field?_setField_of_ne (fields : List (String × Json)) {name other : String}
    (value : Json) (h : other ≠ name) :
    field? (setField fields name value) other = field? fields other := by
  induction fields with
  | nil => simp [setField, field?, Ne.symm h]
  | cons f rest ih =>
    obtain ⟨n, v⟩ := f
    by_cases hn : n = name
    · subst hn
      have ho : (n == other) = false := by simpa using Ne.symm h
      simp [setField, field?, ho]
    · by_cases ho : n = other
      · subst ho
        simp [setField, hn, field?]
      · have hf : (n == other) = false := by simpa using ho
        simpa [setField, hn, field?, List.find?_cons, hf] using ih

end Json

end TezosNode
