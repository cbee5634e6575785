import TezosNode.Block
import TezosNode.Constants

set_option autoImplicit false

/-!
# Schema: validation

A value keeps a schema just when nothing in it breaks a rule of the schema, so that the
two ways to check a value agree: `validate` refuses exactly what `accepts` does not
accept.  A document that has been read is therefore known by its schema alone.
-/

namespace TezosNode

/-! ## Rules -/

namespace Rule

mutual

/-- A value keeps a rule just when it has no breaches of it, at any place. -/
theorem violations_eq_nil_iff (path : Path) :
    ∀ (r : Rule) (v : Json), violations path r v = [] ↔ accepts r v = true
  | .kind k, v => by
    cases hholds : k.holds v with
    | true => simp [violations, accepts, hholds]
    | false => simp [violations, accepts, hholds]
  | .required names, v => by
    simp [violations, accepts, List.isEmpty_iff]
  | .nonEmpty k, v => by
    cases hempty : isEmptyOf k v with
    | true => simp [violations, accepts, hempty]
    | false => simp [violations, accepts, hempty]
  | .fields rules, v => by
    cases v with
    | object members =>
      simp only [violations, accepts]
      exact fieldViolations_eq_nil_iff path members rules
    | _ => simp [violations, accepts]
  | .items rules, v => by
    cases v with
    | array elements =>
      simp only [violations, accepts, List.flatten_eq_nil_iff, List.mem_map, List.all_eq_true]
      constructor
      · intro hnone w hmem
        obtain ⟨n, hn, rfl⟩ := List.mem_iff_getElem.1 hmem
        refine (allViolations_eq_nil_iff (path ++ [.index n]) rules elements[n]).1 ?_
        exact hnone _ ⟨(elements[n], n), List.mk_mem_zipIdx_iff_getElem?.2 (by simp [hn]), rfl⟩
      · rintro hall _ ⟨⟨w, n⟩, hmem, rfl⟩
        refine (allViolations_eq_nil_iff (path ++ [.index n]) rules w).2 (hall w ?_)
        exact List.fst_mem_of_mem_zipIdx hmem
    | _ => simp [violations, accepts]

theorem allViolations_eq_nil_iff (path : Path) :
    ∀ (rules : List Rule) (v : Json), allViolations path rules v = [] ↔ allAccept rules v = true
  | [], v => by simp [allViolations, allAccept]
  | r :: rest, v => by
    rw [allViolations, allAccept, List.append_eq_nil_iff, Bool.and_eq_true,
      violations_eq_nil_iff path r v, allViolations_eq_nil_iff path rest v]

theorem fieldViolations_eq_nil_iff (path : Path) (members : List (String × Json)) :
    ∀ rules : List (String × List Rule),
      fieldViolations path members rules = [] ↔ fieldsAccept members rules = true
  | [] => by simp [fieldViolations, fieldsAccept]
  | (n, rules) :: rest => by
    rw [fieldViolations, fieldsAccept, List.append_eq_nil_iff, Bool.and_eq_true,
      fieldViolations_eq_nil_iff path members rest]
    cases Json.field? members n with
    | none => simp
    | some v => simp only [allViolations_eq_nil_iff (path ++ [.field n]) rules v]

end

/-! ### What rules ask for -/

theorem allAccept_nil (v : Json) : allAccept [] v = true := by rw [allAccept]

theorem allAccept_cons_iff (r : Rule) (rest : List Rule) (v : Json) :
    allAccept (r :: rest) v = true ↔ accepts r v = true ∧ allAccept rest v = true := by
  rw [allAccept, Bool.and_eq_true]

theorem accepts_object_iff (v : Json) :
    accepts (.kind .object) v = true ↔ ∃ fields, v = .object fields := by
  cases v <;> simp [accepts, Kind.holds]

theorem accepts_array_iff (v : Json) :
    accepts (.kind .array) v = true ↔ ∃ items, v = .array items := by
  cases v <;> simp [accepts, Kind.holds]

theorem accepts_string_iff (v : Json) :
    accepts (.kind .string) v = true ↔ ∃ s, v = .string s := by
  cases v <;> simp [accepts, Kind.holds]

theorem accepts_items_iff (rules : List Rule) (elements : List Json) :
    accepts (.items rules) (.array elements) = true ↔
      ∀ w ∈ elements, allAccept rules w = true := by
  rw [accepts, List.all_eq_true]

theorem accepts_fields_iff (rules : List (String × List Rule))
    (members : List (String × Json)) :
    accepts (.fields rules) (.object members) = true ↔ fieldsAccept members rules = true := by
  rw [accepts]

/-- Fields keep their rules just when each of them, if it is there, keeps its own. -/
theorem fieldsAccept_cons_iff (members : List (String × Json)) (n : String)
    (rules : List Rule) (rest : List (String × List Rule)) :
    fieldsAccept members ((n, rules) :: rest) = true ↔
      (∀ v, Json.field? members n = some v → allAccept rules v = true) ∧
        fieldsAccept members rest = true := by
  rw [fieldsAccept, Bool.and_eq_true]
  cases Json.field? members n with
  | none => simp
  | some v => simp

end Rule

/-! ## Schemas -/

namespace Schema

theorem violations_eq_nil_iff (s : Schema) (v : Json) :
    s.violations v = [] ↔ s.accepts v = true :=
  Rule.allViolations_eq_nil_iff [] s.rules v

/-- `validate` agrees to what `accepts` accepts. -/
theorem validate_eq_ok_iff (s : Schema) (v : Json) :
    s.validate v = .ok () ↔ s.accepts v = true := by
  rw [← s.violations_eq_nil_iff v]
  unfold validate
  have hperm := List.mergeSort_perm (s.violations v) fun a b => a.path.le b.path
  cases hsorted : (s.violations v).mergeSort fun a b => a.path.le b.path with
  | nil =>
    rw [hsorted] at hperm
    simp [hperm.symm.eq_nil]
  | cons first rest =>
    have hfirst : first ∈ s.violations v :=
      hperm.mem_iff.1 (hsorted ▸ List.mem_cons_self)
    simp [List.ne_nil_of_mem hfirst]

end Schema

/-! ## Documents -/

/-- The fields that the schema of blocks accepts have a string for their hash. -/
theorem Block.exists_hash_of_accepts {fields : List (String × Json)}
    (haccepts : Schema.block.accepts (.object fields) = true) :
    ∃ hash, Json.field? fields "hash" = some (.string hash) := by
  cases hfield : Json.field? fields "hash" with
  | none =>
    simp [Schema.accepts, Schema.block, Rule.allAccept, Rule.accepts, Rule.missing, hfield]
      at haccepts
  | some h =>
    cases h with
    | string hash => exact ⟨hash, rfl⟩
    | _ =>
      simp [Schema.accepts, Schema.block, Rule.allAccept, Rule.accepts, Rule.fieldsAccept,
        Kind.holds, hfield] at haccepts

/-- A block that has been read is its document, which has a string for its hash. -/
theorem Block.of_ofJson {v : Json} {b : Block} (hread : Block.ofJson v = .ok b) :
    v = b.data ∧ v.get? "hash" = some (.string b.hash) := by
  unfold Block.ofJson at hread
  cases hvalidate : Schema.block.validate v with
  | error r =>
    rw [hvalidate] at hread
    cases hread
  | ok _ =>
    have haccepts := (Schema.block.validate_eq_ok_iff v).1 hvalidate
    rw [hvalidate] at hread
    cases v with
    | object fields =>
      obtain ⟨hash, hhash⟩ := Block.exists_hash_of_accepts haccepts
      cases hread
      simp [Block.data, Json.get?, Block.hash, Block.hash?, Block.field?, hhash]
    | _ =>
      simp [Schema.accepts, Schema.block, Rule.allAccept, Rule.accepts, Kind.holds] at haccepts

/-- Constants that have been read are their document, and labelled with their block. -/
theorem Constants.of_ofJson {v : Json} {blockHash : Option String} {c : Constants}
    (hread : Constants.ofJson v blockHash = .ok c) : v = c.data ∧ c.blockHash = blockHash := by
  unfold Constants.ofJson at hread
  cases hvalidate : Schema.constants.validate v with
  | error r =>
    rw [hvalidate] at hread
    cases hread
  | ok _ =>
    have haccepts := (Schema.constants.validate_eq_ok_iff v).1 hvalidate
    rw [hvalidate] at hread
    cases v with
    | object fields =>
      cases hread
      exact ⟨rfl, rfl⟩
    | _ =>
      simp [Schema.accepts, Schema.constants, Rule.allAccept, Rule.accepts, Kind.holds]
        at haccepts

end TezosNode
