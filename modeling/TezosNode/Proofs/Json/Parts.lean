import TezosNode.Proofs.Json.Layout

set_option autoImplicit false

/-!
# JSON: parts of values

The parts of a value are the elements of an array and the values of fields.  `Everywhere` says
that a value and all parts within it have a property, and is the induction on the parts of values
as well.

A value that has been read is readable everywhere: no object has a name twice, since a repeated
name keeps its place and takes the later value, and no integer has more digits than are read.
-/

namespace TezosNode.Json

/-! ## Parts -/

/-- Whether a value is an element of an array or the value of a field. -/
inductive IsPart : Json → Json → Prop
  | element {v : Json} {items : List Json} (hmem : v ∈ items) : IsPart v (.array items)
  | field {name : String} {v : Json} {fields : List (String × Json)} (hmem : (name, v) ∈ fields) :
      IsPart v (.object fields)

/-- Whether a value and all that is within it have a property. -/
inductive Everywhere (p : Json → Prop) : Json → Prop
  | intro {v : Json} (here : p v) (within : ∀ w, IsPart w v → Everywhere p w) : Everywhere p v

section Parts

variable {p q : Json → Prop}

theorem Everywhere.here {v : Json} (h : v.Everywhere p) : p v := by
  cases h with
  | intro here within => exact here

theorem Everywhere.within {v w : Json} (h : v.Everywhere p) (hpart : IsPart w v) :
    w.Everywhere p := by
  cases h with
  | intro here within => exact within w hpart

theorem everywhere_array {items : List Json} (here : p (.array items))
    (hitems : ∀ v ∈ items, v.Everywhere p) : (array items).Everywhere p := by
  refine .intro here fun w hpart => ?_
  cases hpart with
  | element hmem => exact hitems w hmem

theorem everywhere_object {fields : List (String × Json)} (here : p (.object fields))
    (hfields : ∀ f ∈ fields, f.2.Everywhere p) : (object fields).Everywhere p := by
  refine .intro here fun w hpart => ?_
  cases hpart with
  | field hmem => exact hfields _ hmem

/-- A property that a word, a number or a string has, it has everywhere. -/
theorem everywhere_scalar {v : Json} (here : p v) (harray : ∀ items, v ≠ .array items)
    (hobject : ∀ fields, v ≠ .object fields) : v.Everywhere p := by
  refine .intro here fun w hpart => ?_
  cases hpart with
  | element => exact absurd rfl (harray _)
  | field => exact absurd rfl (hobject _)

theorem Everywhere.and {v : Json} (hp : v.Everywhere p) (hq : v.Everywhere q) :
    v.Everywhere fun w => p w ∧ q w := by
  induction hp with
  | intro here within ih => exact .intro ⟨here, hq.here⟩ fun w hpart => ih w hpart (hq.within hpart)

theorem Everywhere.imp {v : Json} (h : v.Everywhere p) (himp : ∀ w, p w → q w) :
    v.Everywhere q := by
  induction h with
  | intro here within ih => exact .intro (himp _ here) ih

mutual

/-- What all values have, a value has everywhere. -/
theorem everywhere_of_forall (hall : ∀ v, p v) : ∀ v : Json, v.Everywhere p
  | .array items => everywhere_array (hall _) (everywhere_items_of_forall hall items)
  | .object fields => everywhere_object (hall _) (everywhere_fields_of_forall hall fields)
  | .null => everywhere_scalar (hall _) nofun nofun
  | .bool _ => everywhere_scalar (hall _) nofun nofun
  | .integer _ => everywhere_scalar (hall _) nofun nofun
  | .double _ => everywhere_scalar (hall _) nofun nofun
  | .string _ => everywhere_scalar (hall _) nofun nofun

theorem everywhere_items_of_forall (hall : ∀ v, p v) :
    ∀ items : List Json, ∀ v ∈ items, v.Everywhere p
  | [], _, hmem => nomatch hmem
  | v :: rest, w, hmem => by
    rcases List.mem_cons.1 hmem with hfirst | hrest
    · exact hfirst ▸ everywhere_of_forall hall v
    · exact everywhere_items_of_forall hall rest w hrest

theorem everywhere_fields_of_forall (hall : ∀ v, p v) :
    ∀ fields : List (String × Json), ∀ f ∈ fields, f.2.Everywhere p
  | [], _, hmem => nomatch hmem
  | (n, v) :: rest, f, hmem => by
    rcases List.mem_cons.1 hmem with hfirst | hrest
    · exact hfirst ▸ everywhere_of_forall hall v
    · exact everywhere_fields_of_forall hall rest f hrest

end

end Parts

/-! ## Fields -/

section Fields

variable {fields changes : List (String × Json)}

/-- A field that is set is in the place of its name, or the last one. -/
theorem names_setField (fields : List (String × Json)) (name : String) (value : Json) :
    (setField fields name value).map Prod.fst =
      if name ∈ fields.map Prod.fst then fields.map Prod.fst
      else fields.map Prod.fst ++ [name] := by
  induction fields with
  | nil => rfl
  | cons f rest ih =>
    by_cases hname : f.1 = name
    · simp [setField, hname]
    · rw [setField, if_neg hname, List.map_cons, ih, List.map_cons]
      by_cases hrest : name ∈ rest.map Prod.fst
      · rw [if_pos hrest, if_pos (List.mem_cons_of_mem _ hrest)]
      · rw [if_neg hrest, if_neg]
        · rfl
        · rw [List.mem_cons, not_or]
          exact ⟨Ne.symm hname, hrest⟩

theorem mem_of_mem_setField {name : String} {value : Json} {f : String × Json}
    (hmem : f ∈ setField fields name value) : f ∈ fields ∨ f = (name, value) := by
  induction fields with
  | nil => exact .inr (List.mem_singleton.1 hmem)
  | cons g rest ih =>
    by_cases hname : g.1 = name
    · rw [setField, if_pos hname] at hmem
      rcases List.mem_cons.1 hmem with rfl | hrest
      · exact .inr (by rw [hname])
      · exact .inl (List.mem_cons_of_mem g hrest)
    · rw [setField, if_neg hname] at hmem
      rcases List.mem_cons.1 hmem with rfl | hrest
      · exact .inl List.mem_cons_self
      · exact (ih hrest).imp_left (List.mem_cons_of_mem g)

/-- Setting fields makes no name come twice. -/
theorem nodup_updateFields (hfields : (fields.map Prod.fst).Nodup) :
    ((updateFields fields changes).map Prod.fst).Nodup := by
  induction changes generalizing fields with
  | nil => exact hfields
  | cons m rest ih =>
    refine ih ?_
    rw [names_setField]
    split
    case isTrue => exact hfields
    case isFalse hnew =>
      refine List.nodup_append.2 ⟨hfields, List.pairwise_singleton _ _, ?_⟩
      rintro name hmem _ hlast rfl
      obtain rfl := List.mem_singleton.1 hlast
      exact hnew hmem

theorem mem_of_mem_updateFields {f : String × Json} (hmem : f ∈ updateFields fields changes) :
    f ∈ fields ∨ f ∈ changes := by
  induction changes generalizing fields with
  | nil => exact .inl hmem
  | cons m rest ih =>
    rcases ih hmem with hset | hrest
    · rcases mem_of_mem_setField hset with hfield | rfl
      · exact .inl hfield
      · exact .inr List.mem_cons_self
    · exact .inr (List.mem_cons_of_mem m hrest)

/-- A field with a new name becomes the last one. -/
theorem setField_of_not_mem {name : String} (hnew : name ∉ fields.map Prod.fst) (value : Json) :
    setField fields name value = fields ++ [(name, value)] := by
  induction fields with
  | nil => rfl
  | cons f rest ih =>
    rw [List.map_cons, List.mem_cons, not_or] at hnew
    rw [setField, if_neg (Ne.symm hnew.1), ih hnew.2]
    rfl

/-- Fields with names of their own are added as they are. -/
theorem updateFields_of_nodup (hnames : ((fields ++ changes).map Prod.fst).Nodup) :
    updateFields fields changes = fields ++ changes := by
  induction changes generalizing fields with
  | nil => exact (List.append_nil fields).symm
  | cons m rest ih =>
    have hnew : m.1 ∉ fields.map Prod.fst := by
      intro hmem
      rw [List.map_append, List.nodup_append] at hnames
      exact hnames.2.2 _ hmem _ List.mem_cons_self rfl
    rw [List.append_cons] at hnames ⊢
    rw [← ih hnames, ← setField_of_not_mem hnew]
    rfl

/-- Members with names of their own are the fields that they make. -/
theorem fieldsOf_of_nodup (hnames : (fields.map Prod.fst).Nodup) : fieldsOf fields = fields :=
  @updateFields_of_nodup [] fields hnames

theorem nodup_fieldsOf (members : List (String × Json)) :
    ((fieldsOf members).map Prod.fst).Nodup :=
  @nodup_updateFields [] members List.nodup_nil

theorem mem_of_mem_fieldsOf {members : List (String × Json)} {f : String × Json}
    (hmem : f ∈ fieldsOf members) : f ∈ members :=
  (mem_of_mem_updateFields hmem).resolve_left List.not_mem_nil

end Fields

/-! ## What is read -/

/-- Whether a value can be read, apart from its parts: it is no integer with too many digits, and
no object with a name that comes twice. -/
def IsReadable : Json → Prop
  | .integer n => Numeral.size n ≤ Numeral.maxDigits
  | .object fields => (fields.map Prod.fst).Nodup
  | _ => True

theorem isReadable_of_number {text rest : List Char} {v : Json}
    (hread : number text = .ok (v, rest)) : v.Everywhere IsReadable := by
  have hshort := hasShortInteger_of_number hread
  rcases of_number hread with ⟨negative, digits, -, -, rfl⟩ | ⟨_, _, _, rfl⟩
  · exact everywhere_scalar (Numeral.length_toDigits_le (by decide) (hshort _ rfl)) nofun nofun
  · exact everywhere_scalar trivial nofun nofun

theorem isReadable_of_scalar {text rest : List Char} {v : Json}
    (hread : scalar text = .ok (v, rest)) : v.Everywhere IsReadable := by
  rcases of_scalar hread with rfl | ⟨b, rfl⟩ | rfl | ⟨negative, rfl⟩ | hnumber
  · exact everywhere_scalar trivial nofun nofun
  · exact everywhere_scalar trivial nofun nofun
  · exact everywhere_scalar trivial nofun nofun
  · exact everywhere_scalar trivial nofun nofun
  · exact isReadable_of_number hnumber

/-- What is read is readable everywhere, if what has been read before is. -/
theorem isReadable_of_fuel (fuel : Nat) :
    (∀ {text rest : List Char} {v : Json}, value fuel text = .ok (v, rest) →
      v.Everywhere IsReadable) ∧
    (∀ {read : List Json} {text rest : List Char} {v : Json},
      (∀ w ∈ read, w.Everywhere IsReadable) → elements fuel read text = .ok (v, rest) →
        v.Everywhere IsReadable) ∧
    (∀ {read : List (String × Json)} {text rest : List Char} {v : Json},
      (∀ m ∈ read, m.2.Everywhere IsReadable) → members fuel read text = .ok (v, rest) →
        v.Everywhere IsReadable) := by
  induction fuel with
  | zero => exact ⟨nofun, nofun, nofun⟩
  | succ fuel ih =>
    obtain ⟨ihValue, ihElements, ihMembers⟩ := ih
    refine ⟨?_, ?_, ?_⟩
    · intro text rest v hread
      cases valueStep_of_value hread with
      | string => exact everywhere_scalar trivial nofun nofun
      | emptyObject => exact everywhere_object List.nodup_nil (List.forall_mem_nil _)
      | object _ hmembers => exact ihMembers (List.forall_mem_nil _) hmembers
      | emptyArray => exact everywhere_array trivial (List.forall_mem_nil _)
      | array _ helements => exact ihElements (List.forall_mem_nil _) helements
      | scalar hscalar => exact isReadable_of_scalar hscalar
    · intro read text rest v hbefore hread
      cases elementsStep_of_elements hread with
      | last hvalue =>
        have hall := List.forall_mem_cons.2 ⟨ihValue hvalue, hbefore⟩
        exact everywhere_array trivial fun u hmem => hall u (List.mem_reverse.1 hmem)
      | next hvalue _ hmore =>
        exact ihElements (List.forall_mem_cons.2 ⟨ihValue hvalue, hbefore⟩) hmore
    · intro read text rest v hbefore hread
      cases membersStep_of_members hread with
      | @last n w _ _ _ hvalue =>
        have hall : ∀ m ∈ (n, w) :: read, m.2.Everywhere IsReadable :=
          List.forall_mem_cons.2 ⟨ihValue hvalue, hbefore⟩
        refine everywhere_object (nodup_fieldsOf _) fun f hmem => hall f ?_
        exact List.mem_reverse.1 (mem_of_mem_fieldsOf hmem)
      | next _ hvalue _ hmore =>
        exact ihMembers (List.forall_mem_cons.2 ⟨ihValue hvalue, hbefore⟩) hmore

/-- The value of a document is readable everywhere. -/
theorem isReadable_of_decode {body : Bytes} {v : Json} (hdecode : decode body = .ok v) :
    v.Everywhere IsReadable := by
  obtain ⟨fuel, _, _, hvalue⟩ := exists_value_of_decode hdecode
  exact (isReadable_of_fuel fuel).1 hvalue

end TezosNode.Json
