import TezosNode.Json.Parser

set_option autoImplicit false

/-!
# JSON: steps of reading

What one step of the reader does, in both directions.  `ValueStep`, `ElementsStep` and
`MembersStep` list the ways in which a text is read as a value, as the rest of an array and as
the rest of an object; the lemmas on single ways say when each of them is taken.
-/

namespace TezosNode.Json

variable {fuel : Nat} {text after rest : List Char} {v : Json}

/-! ## Values -/

/-- The ways in which a value is read with fuel for one step more. -/
inductive ValueStep (fuel : Nat) (text rest : List Char) : Json → Prop
  | string {body : List Char} {s : String} (htext : text = '"' :: body)
      (hread : stringFrom text [] 0 body = .ok (s, rest)) : ValueStep fuel text rest (.string s)
  | emptyObject {body : List Char} (htext : text = '\x7b' :: body)
      (hclosed : skipBlanks body = '\x7d' :: rest) : ValueStep fuel text rest (.object [])
  | object {body : List Char} {v : Json} (htext : text = '\x7b' :: body)
      (hmembers : members fuel [] (skipBlanks body) = .ok (v, rest)) : ValueStep fuel text rest v
  | emptyArray {body : List Char} (htext : text = '[' :: body)
      (hclosed : skipBlanks body = ']' :: rest) : ValueStep fuel text rest (.array [])
  | array {body : List Char} {v : Json} (htext : text = '[' :: body)
      (helements : elements fuel [] (skipBlanks body) = .ok (v, rest)) : ValueStep fuel text rest v
  | scalar {v : Json} (hscalar : scalar text = .ok (v, rest)) : ValueStep fuel text rest v

theorem valueStep_of_value (hread : value (fuel + 1) text = .ok (v, rest)) :
    ValueStep fuel text rest v := by
  unfold value at hread
  split at hread
  case h_1 body =>
    split at hread
    case h_1 => cases hread
    case h_2 s _ hstring =>
      obtain ⟨rfl, rfl⟩ := Prod.mk.inj (Except.ok.inj hread)
      exact .string rfl hstring
  case h_2 body =>
    split at hread
    case h_1 hclosed =>
      obtain ⟨rfl, rfl⟩ := Prod.mk.inj (Except.ok.inj hread)
      exact .emptyObject rfl hclosed
    case h_2 => exact .object rfl hread
  case h_3 body =>
    split at hread
    case h_1 hclosed =>
      obtain ⟨rfl, rfl⟩ := Prod.mk.inj (Except.ok.inj hread)
      exact .emptyArray rfl hclosed
    case h_2 => exact .array rfl hread
  case h_4 => exact .scalar hread

/-- What does not close an array at once is its elements. -/
theorem value_array (hopen : skipBlanks rest = text) (hsome : ∀ more, text ≠ ']' :: more) :
    value (fuel + 1) ('[' :: rest) = elements fuel [] text := by
  rw [value, hopen]
  split
  case h_1 => exact absurd rfl (hsome _)
  case h_2 => rfl

/-- What does not close an object at once is its members. -/
theorem value_object (hopen : skipBlanks rest = text) (hsome : ∀ more, text ≠ '\x7d' :: more) :
    value (fuel + 1) ('\x7b' :: rest) = members fuel [] text := by
  rw [value, hopen]
  split
  case h_1 => exact absurd rfl (hsome _)
  case h_2 => rfl

/-! ## Elements -/

/-- The ways in which the rest of an array is read with fuel for one step more. -/
inductive ElementsStep (fuel : Nat) (read : List Json) (text rest : List Char) : Json → Prop
  | last {w : Json} {after : List Char} (hvalue : value fuel text = .ok (w, after))
      (hclosed : skipBlanks after = ']' :: rest) :
      ElementsStep fuel read text rest (.array (w :: read).reverse)
  | next {w v : Json} {after more : List Char} (hvalue : value fuel text = .ok (w, after))
      (hcomma : skipBlanks after = ',' :: more)
      (helements : elements fuel (w :: read) (skipBlanks more) = .ok (v, rest)) :
      ElementsStep fuel read text rest v

variable {read : List Json}

theorem elementsStep_of_elements (hread : elements (fuel + 1) read text = .ok (v, rest)) :
    ElementsStep fuel read text rest v := by
  unfold elements at hread
  split at hread
  case h_1 => cases hread
  case h_2 w after hvalue =>
    split at hread
    case h_1 hclosed =>
      obtain ⟨rfl, rfl⟩ := Prod.mk.inj (Except.ok.inj hread)
      exact .last hvalue hclosed
    case h_2 hcomma => exact .next hvalue hcomma hread
    case h_3 => cases hread

theorem elements_last (read : List Json) (hvalue : value fuel text = .ok (v, after))
    (hclosed : skipBlanks after = ']' :: rest) :
    elements (fuel + 1) read text = .ok (.array (v :: read).reverse, rest) := by
  simp only [elements, hvalue, hclosed]

theorem elements_next (read : List Json) (hvalue : value fuel text = .ok (v, after))
    (hcomma : skipBlanks after = ',' :: rest) :
    elements (fuel + 1) read text = elements fuel (v :: read) (skipBlanks rest) := by
  simp only [elements, hvalue, hcomma]

/-! ## Members -/

/-- The ways in which the rest of an object is read with fuel for one step more. -/
inductive MembersStep (fuel : Nat) (read : List (String × Json)) (text rest : List Char) :
    Json → Prop
  | last {n : String} {w : Json} {body after : List Char} (hname : name text = .ok (n, body))
      (hvalue : value fuel body = .ok (w, after)) (hclosed : skipBlanks after = '\x7d' :: rest) :
      MembersStep fuel read text rest (.object (fieldsOf ((n, w) :: read).reverse))
  | next {n : String} {w v : Json} {body after more : List Char}
      (hname : name text = .ok (n, body)) (hvalue : value fuel body = .ok (w, after))
      (hcomma : skipBlanks after = ',' :: more)
      (hmembers : members fuel ((n, w) :: read) (skipBlanks more) = .ok (v, rest)) :
      MembersStep fuel read text rest v

theorem membersStep_of_members {read : List (String × Json)}
    (hread : members (fuel + 1) read text = .ok (v, rest)) : MembersStep fuel read text rest v := by
  unfold members at hread
  split at hread
  case h_1 => cases hread
  case h_2 n body hname =>
    split at hread
    case h_1 => cases hread
    case h_2 w after hvalue =>
      split at hread
      case h_1 hclosed =>
        obtain ⟨rfl, rfl⟩ := Prod.mk.inj (Except.ok.inj hread)
        exact .last hname hvalue hclosed
      case h_2 hcomma => exact .next hname hvalue hcomma hread
      case h_3 => cases hread

theorem members_last (read : List (String × Json)) {n : String} {body : List Char}
    (hname : name text = .ok (n, body)) (hvalue : value fuel body = .ok (v, after))
    (hclosed : skipBlanks after = '\x7d' :: rest) :
    members (fuel + 1) read text = .ok (.object (fieldsOf ((n, v) :: read).reverse), rest) := by
  simp only [members, hname, hvalue, hclosed]

theorem members_next (read : List (String × Json)) {n : String} {body : List Char}
    (hname : name text = .ok (n, body)) (hvalue : value fuel body = .ok (v, after))
    (hcomma : skipBlanks after = ',' :: rest) :
    members (fuel + 1) read text = members fuel ((n, v) :: read) (skipBlanks rest) := by
  simp only [members, hname, hvalue, hcomma]

end TezosNode.Json
