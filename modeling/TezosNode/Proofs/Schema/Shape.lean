import TezosNode.Proofs.Number.Truncation
import TezosNode.Proofs.Schema.Validation

set_option autoImplicit false

/-!
# Schema: shapes of documents

The schemas of blocks and of constants, spelled out.  A block is an object with a hash that is
not empty; of the other fields that the schema names, any may be left out, and those that are
there are of their kinds.  Constants are an object with any fields at all, but not without.

An integer is what has the value of one: a number without a fraction is an integer however it is
written.
-/

namespace TezosNode

/-! ## Integers among doubles -/

namespace Binary64

/-- A significand times a power of two is an integer just where the power is not negative or
divides the significand. -/
theorem exists_intCast_eq_iff (m : ℕ) (e : ℤ) :
    (∃ n : ℤ, (m : ℚ) * 2 ^ e = n) ↔ 0 ≤ e ∨ m % Nat.pow 2 (-e).toNat = 0 := by
  by_cases he : 0 ≤ e
  · refine iff_of_true ⟨(m * Nat.pow 2 e.toNat : ℕ), ?_⟩ (.inl he)
    rw [two_zpow_of_nonneg he, Int.cast_natCast, Nat.cast_mul]
  · have hpower : (2 : ℚ) ^ (-e) = (Nat.pow 2 (-e).toNat : ℕ) := two_zpow_of_nonneg (by omega)
    have hpositive : (2 : ℚ) ^ (-e) ≠ 0 := zpow_ne_zero _ two_ne_zero
    have hdivides : ∀ n : ℤ, (m : ℚ) * 2 ^ e = n ↔ (m : ℤ) = n * (Nat.pow 2 (-e).toNat : ℕ) := by
      intro n
      rw [← Int.cast_inj (α := ℚ), Int.cast_mul, Int.cast_natCast, Int.cast_natCast, ← hpower,
        ← div_eq_iff hpositive, div_eq_mul_inv, ← zpow_neg, neg_neg]
    rw [or_iff_right he, ← Nat.dvd_iff_mod_eq_zero, ← Int.natCast_dvd_natCast]
    constructor
    · rintro ⟨n, hn⟩
      exact ⟨n, by rw [(hdivides n).1 hn, mul_comm]⟩
    · rintro ⟨n, hn⟩
      exact ⟨n, (hdivides n).2 (by rw [hn, mul_comm])⟩

/-- The numbers that count as integers are those with the value of one. -/
theorem isIntegral_iff (x : Binary64) : x.isIntegral = true ↔ ∃ n : ℤ, x.value? = some (n : ℚ) := by
  cases x with
  | infinite negative => simp [isIntegral, value?]
  | nan => simp [isIntegral, value?]
  | finite negative m e =>
    rw [isIntegral, Bool.or_eq_true, decide_eq_true_eq, beq_iff_eq, ← exists_intCast_eq_iff]
    simp only [value?, Option.some.injEq]
    cases negative with
    | false => simp
    | true =>
      simp only [if_true]
      constructor
      · rintro ⟨n, hn⟩
        exact ⟨-n, by rw [hn, Int.cast_neg]⟩
      · rintro ⟨n, hn⟩
        exact ⟨-n, by rw [Int.cast_neg, ← hn, neg_neg]⟩

end Binary64

/-! ## Shapes -/

namespace Json

/-- Whether a value is an integer. -/
inductive IsInteger : Json → Prop
  | integer (n : Int) : IsInteger (.integer n)
  | double {x : Binary64} {n : ℤ} (hx : x.value? = some (n : ℚ)) : IsInteger (.double x)

/-- Whether fields are those of a header: the level and the time of a block, each of which may be
left out. -/
structure IsHeader (fields : List (String × Json)) : Prop where
  level : ∀ v, field? fields "level" = some v → v.IsInteger
  timestamp : ∀ v, field? fields "timestamp" = some v → ∃ s, v = .string s

/-- Whether fields are those of a block: it has a hash, and the others may be left out. -/
structure IsBlock (fields : List (String × Json)) : Prop where
  hash : ∃ s, s ≠ "" ∧ field? fields "hash" = some (.string s)
  chainId : ∀ v, field? fields "chain_id" = some v → ∃ s, v = .string s
  protocol : ∀ v, field? fields "protocol" = some v → ∃ s, v = .string s
  header : ∀ v, field? fields "header" = some v → ∃ members, v = .object members ∧ IsHeader members

end Json

/-! ## Rules -/

namespace Rule

theorem accepts_integer_iff (v : Json) : accepts (.kind .integer) v = true ↔ v.IsInteger := by
  rw [accepts]
  constructor
  · intro hholds
    cases v with
    | integer n => exact .integer n
    | double x =>
      obtain ⟨n, hn⟩ := x.isIntegral_iff.1 hholds
      exact .double hn
    | _ => cases hholds
  · intro hinteger
    cases hinteger with
    | integer n => rfl
    | double hx => exact (Binary64.isIntegral_iff _).2 ⟨_, hx⟩

theorem accepts_required_singleton_iff (name : String) (members : List (String × Json)) :
    accepts (.required [name]) (.object members) = true ↔
      (Json.field? members name).isSome = true := by
  rw [accepts]
  cases hfield : Json.field? members name with
  | none => simp [missing, hfield]
  | some v => simp [missing, hfield]

theorem accepts_nonEmpty_string_iff (s : String) :
    accepts (.nonEmpty .string) (.string s) = true ↔ s ≠ "" := by
  simp [accepts, isEmptyOf]

theorem accepts_nonEmpty_object_iff (members : List (String × Json)) :
    accepts (.nonEmpty .object) (.object members) = true ↔ members ≠ [] := by
  simp [accepts, isEmptyOf]

theorem allAccept_singleton_iff (r : Rule) (v : Json) :
    allAccept [r] v = true ↔ accepts r v = true := by
  rw [allAccept_cons_iff, and_iff_left (allAccept_nil v)]

/-- The rules of a header. -/
theorem allAccept_header_iff (v : Json) :
    allAccept [.kind .object,
        .fields [("level", [.kind .integer]), ("timestamp", [.kind .string])]] v = true ↔
      ∃ members, v = .object members ∧ Json.IsHeader members := by
  rw [allAccept_cons_iff, allAccept_singleton_iff, accepts_object_iff]
  constructor
  · rintro ⟨⟨members, rfl⟩, hfields⟩
    rw [accepts_fields_iff, fieldsAccept_cons_iff, fieldsAccept_cons_iff] at hfields
    obtain ⟨hlevel, htimestamp, -⟩ := hfields
    refine ⟨members, rfl, ⟨fun v hv => ?_, fun v hv => ?_⟩⟩
    · exact (accepts_integer_iff v).1 ((allAccept_singleton_iff _ v).1 (hlevel v hv))
    · exact (accepts_string_iff v).1 ((allAccept_singleton_iff _ v).1 (htimestamp v hv))
  · rintro ⟨members, rfl, hlevel, htimestamp⟩
    refine ⟨⟨members, rfl⟩, ?_⟩
    rw [accepts_fields_iff, fieldsAccept_cons_iff, fieldsAccept_cons_iff]
    refine ⟨fun v hv => ?_, fun v hv => ?_, by rw [fieldsAccept]⟩
    · exact (allAccept_singleton_iff _ v).2 ((accepts_integer_iff v).2 (hlevel v hv))
    · exact (allAccept_singleton_iff _ v).2 ((accepts_string_iff v).2 (htimestamp v hv))

end Rule

/-! ## Documents -/

namespace Schema

/-- The documents that the schema of blocks accepts. -/
theorem block_accepts_iff (v : Json) :
    block.accepts v = true ↔ ∃ fields, v = .object fields ∧ Json.IsBlock fields := by
  unfold accepts block
  dsimp only
  rw [Rule.allAccept_cons_iff, Rule.allAccept_cons_iff, Rule.allAccept_singleton_iff,
    Rule.accepts_object_iff]
  constructor
  · rintro ⟨⟨fields, rfl⟩, hrequired, hfields⟩
    rw [Rule.accepts_required_singleton_iff] at hrequired
    rw [Rule.accepts_fields_iff, Rule.fieldsAccept_cons_iff, Rule.fieldsAccept_cons_iff,
      Rule.fieldsAccept_cons_iff, Rule.fieldsAccept_cons_iff] at hfields
    obtain ⟨hhash, hchain, hprotocol, hheader, -⟩ := hfields
    refine ⟨fields, rfl, ?_, fun v hv => ?_, fun v hv => ?_, fun v hv => ?_⟩
    · obtain ⟨w, hw⟩ := Option.isSome_iff_exists.1 hrequired
      obtain ⟨hstring, hsome⟩ := (Rule.allAccept_cons_iff _ _ w).1 (hhash w hw)
      obtain ⟨hash, rfl⟩ := (Rule.accepts_string_iff w).1 hstring
      rw [Rule.allAccept_singleton_iff, Rule.accepts_nonEmpty_string_iff] at hsome
      exact ⟨hash, hsome, hw⟩
    · exact (Rule.accepts_string_iff v).1 ((Rule.allAccept_singleton_iff _ v).1 (hchain v hv))
    · exact (Rule.accepts_string_iff v).1 ((Rule.allAccept_singleton_iff _ v).1 (hprotocol v hv))
    · exact (Rule.allAccept_header_iff v).1 (hheader v hv)
  · rintro ⟨fields, rfl, ⟨hash, hsome, hhash⟩, hchain, hprotocol, hheader⟩
    refine ⟨⟨fields, rfl⟩, ?_, ?_⟩
    · rw [Rule.accepts_required_singleton_iff, hhash]
      rfl
    · rw [Rule.accepts_fields_iff, Rule.fieldsAccept_cons_iff, Rule.fieldsAccept_cons_iff,
        Rule.fieldsAccept_cons_iff, Rule.fieldsAccept_cons_iff]
      refine ⟨fun v hv => ?_, fun v hv => ?_, fun v hv => ?_, fun v hv => ?_, ?_⟩
      · rw [hhash] at hv
        obtain rfl := Option.some.inj hv
        rw [Rule.allAccept_cons_iff, Rule.allAccept_singleton_iff,
          Rule.accepts_nonEmpty_string_iff]
        exact ⟨(Rule.accepts_string_iff _).2 ⟨hash, rfl⟩, hsome⟩
      · exact (Rule.allAccept_singleton_iff _ v).2 ((Rule.accepts_string_iff v).2 (hchain v hv))
      · exact (Rule.allAccept_singleton_iff _ v).2 ((Rule.accepts_string_iff v).2 (hprotocol v hv))
      · exact (Rule.allAccept_header_iff v).2 (hheader v hv)
      · rw [Rule.fieldsAccept]

/-- The documents that the schema of constants accepts. -/
theorem constants_accepts_iff (v : Json) :
    constants.accepts v = true ↔ ∃ fields, v = .object fields ∧ fields ≠ [] := by
  unfold accepts constants
  dsimp only
  rw [Rule.allAccept_cons_iff, Rule.allAccept_singleton_iff, Rule.accepts_object_iff]
  constructor
  · rintro ⟨⟨fields, rfl⟩, hsome⟩
    exact ⟨fields, rfl, (Rule.accepts_nonEmpty_object_iff fields).1 hsome⟩
  · rintro ⟨fields, rfl, hsome⟩
    exact ⟨⟨fields, rfl⟩, (Rule.accepts_nonEmpty_object_iff fields).2 hsome⟩

end Schema

/-- A block is read from its document, if that has the shape of one. -/
theorem Block.ofJson_eq_ok_iff {v : Json} {b : Block} :
    Block.ofJson v = .ok b ↔ v = b.data ∧ Json.IsBlock b.fields := by
  constructor
  · intro hread
    have hdata := (Block.of_ofJson hread).1
    have hvalidate : Schema.block.validate v = .ok () := by
      unfold Block.ofJson at hread
      cases hvalidate : Schema.block.validate v with
      | ok _ => rfl
      | error r =>
        rw [hvalidate] at hread
        cases hread
    obtain ⟨fields, hfields, hblock⟩ :=
      (Schema.block_accepts_iff v).1 ((Schema.block.validate_eq_ok_iff v).1 hvalidate)
    rw [hdata] at hfields
    obtain rfl : b.fields = fields := Json.object.inj hfields
    exact ⟨hdata, hblock⟩
  · rintro ⟨rfl, hblock⟩
    have haccepts := (Schema.block_accepts_iff b.data).2 ⟨b.fields, rfl, hblock⟩
    unfold Block.ofJson
    rw [(Schema.block.validate_eq_ok_iff b.data).2 haccepts]
    rfl

/-- Constants are read from their document, if it has any fields. -/
theorem Constants.ofJson_eq_ok_iff {v : Json} {blockHash : Option String} {c : Constants} :
    Constants.ofJson v blockHash = .ok c ↔
      v = c.data ∧ c.fields ≠ [] ∧ c.blockHash = blockHash := by
  constructor
  · intro hread
    obtain ⟨hdata, hhash⟩ := Constants.of_ofJson hread
    have hvalidate : Schema.constants.validate v = .ok () := by
      unfold Constants.ofJson at hread
      cases hvalidate : Schema.constants.validate v with
      | ok _ => rfl
      | error r =>
        rw [hvalidate] at hread
        cases hread
    obtain ⟨fields, hfields, hsome⟩ :=
      (Schema.constants_accepts_iff v).1 ((Schema.constants.validate_eq_ok_iff v).1 hvalidate)
    rw [hdata] at hfields
    obtain rfl : c.fields = fields := Json.object.inj hfields
    exact ⟨hdata, hsome, hhash⟩
  · rintro ⟨rfl, hsome, rfl⟩
    have haccepts := (Schema.constants_accepts_iff c.data).2 ⟨c.fields, rfl, hsome⟩
    unfold Constants.ofJson
    rw [(Schema.constants.validate_eq_ok_iff c.data).2 haccepts]
    rfl

end TezosNode
