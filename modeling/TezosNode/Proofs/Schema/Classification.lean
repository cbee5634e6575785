import TezosNode.ErrorPayload
import TezosNode.Proofs.Json.Nesting
import TezosNode.Proofs.Schema.Validation

set_option autoImplicit false

/-!
# Schema: classification of bodies

The two ways to recognise an error payload look at a body in different orders and by
different schemas.  What each schema asks of a document is said once, in terms of the
elements of an array, and from it when each way finds records.  The two ways then differ
in two things only: the lenient one goes by the word `error` in the octets, and the strict
one wants every element complete.
-/

namespace TezosNode.ErrorPayload

/-! ## Elements -/

/-- An element that is an object in which a kind and an error, if there are any, are
texts. -/
structure IsRecord (item : Json) : Prop where
  object : ∃ fields, item = .object fields
  kind : ∀ v, item.get? "kind" = some v → ∃ s, v = .string s
  error : ∀ v, item.get? "error" = some v → ∃ s, v = .string s

/-- An element that has both a kind and an error. -/
def IsComplete (item : Json) : Prop :=
  (item.get? "kind").isSome = true ∧ (item.get? "error").isSome = true

instance (item : Json) : Decidable (IsComplete item) :=
  inferInstanceAs (Decidable (_ ∧ _))

/-- What both schemas ask of the fields of an element. -/
def fieldRules : List (String × List Rule) :=
  [("kind", [.kind .string]), ("error", [.kind .string])]

theorem fieldsAccept_iff (fields : List (String × Json)) :
    Rule.fieldsAccept fields fieldRules = true ↔ IsRecord (.object fields) := by
  rw [fieldRules, Rule.fieldsAccept_cons_iff, Rule.fieldsAccept_cons_iff]
  simp only [Rule.allAccept_cons_iff, Rule.allAccept_nil, Rule.accepts_string_iff,
    Rule.fieldsAccept, and_true]
  constructor
  · rintro ⟨hkind, herror⟩
    exact ⟨⟨fields, rfl⟩, hkind, herror⟩
  · intro hrecord
    exact ⟨hrecord.kind, hrecord.error⟩

/-- An object that has a kind and an error lacks no field that is required. -/
theorem accepts_required_iff (fields : List (String × Json)) :
    Rule.accepts (.required ["kind", "error"]) (.object fields) = true ↔
      IsComplete (.object fields) := by
  rw [Rule.accepts, List.isEmpty_iff, Rule.missing, List.filter_eq_nil_iff, IsComplete,
    Json.get?, Json.get?]
  simp only [List.mem_cons, List.not_mem_nil, or_false, forall_eq_or_imp, forall_eq,
    Option.isNone_iff_eq_none, Option.isSome_iff_ne_none]

theorem isRecord_iff (item : Json) :
    Rule.allAccept [.kind .object, .fields fieldRules] item = true ↔ IsRecord item := by
  rw [Rule.allAccept_cons_iff, Rule.accepts_object_iff]
  constructor
  · rintro ⟨⟨fields, rfl⟩, hrules⟩
    rw [Rule.allAccept_cons_iff, Rule.accepts_fields_iff, fieldsAccept_iff] at hrules
    exact hrules.1
  · intro hrecord
    obtain ⟨fields, rfl⟩ := hrecord.object
    rw [Rule.allAccept_cons_iff, Rule.accepts_fields_iff, fieldsAccept_iff]
    exact ⟨⟨fields, rfl⟩, hrecord, Rule.allAccept_nil _⟩

theorem isRecord_and_isComplete_iff (item : Json) :
    Rule.allAccept [.kind .object, .required ["kind", "error"], .fields fieldRules] item =
        true ↔
      IsRecord item ∧ IsComplete item := by
  rw [← isRecord_iff]
  simp only [Rule.allAccept_cons_iff, Rule.allAccept_nil, Rule.accepts_object_iff, and_true]
  constructor
  · rintro ⟨⟨fields, rfl⟩, hrequired, hrules⟩
    exact ⟨⟨⟨fields, rfl⟩, hrules⟩, (accepts_required_iff fields).1 hrequired⟩
  · rintro ⟨⟨⟨fields, rfl⟩, hrules⟩, hcomplete⟩
    exact ⟨⟨fields, rfl⟩, (accepts_required_iff fields).2 hcomplete, hrules⟩

/-! ## Schemas -/

/-- The lenient schema asks for an array of records. -/
theorem errorPayload_accepts_iff (v : Json) :
    Schema.errorPayload.accepts v = true ↔
      ∃ items, v = .array items ∧ ∀ item ∈ items, IsRecord item := by
  change Rule.allAccept [.kind .array, .items [.kind .object, .fields fieldRules]] v = true ↔ _
  rw [Rule.allAccept_cons_iff, Rule.accepts_array_iff]
  constructor
  · rintro ⟨⟨items, rfl⟩, hrules⟩
    rw [Rule.allAccept_cons_iff, Rule.accepts_items_iff] at hrules
    exact ⟨items, rfl, fun item hmem => (isRecord_iff item).1 (hrules.1 item hmem)⟩
  · rintro ⟨items, rfl, hitems⟩
    rw [Rule.allAccept_cons_iff, Rule.accepts_items_iff]
    exact ⟨⟨items, rfl⟩, fun item hmem => (isRecord_iff item).2 (hitems item hmem),
      Rule.allAccept_nil _⟩

/-- The strict schema asks for an array of complete records, at least one of them. -/
theorem strictErrorPayload_accepts_iff (v : Json) :
    Schema.strictErrorPayload.accepts v = true ↔
      ∃ items, v = .array items ∧ items ≠ [] ∧
        ∀ item ∈ items, IsRecord item ∧ IsComplete item := by
  change Rule.allAccept [.kind .array, .nonEmpty .array,
    .items [.kind .object, .required ["kind", "error"], .fields fieldRules]] v = true ↔ _
  have hnonEmpty (items : List Json) :
      Rule.accepts (.nonEmpty .array) (.array items) = true ↔ items ≠ [] := by
    simp [Rule.accepts, isEmptyOf]
  rw [Rule.allAccept_cons_iff, Rule.accepts_array_iff]
  constructor
  · rintro ⟨⟨items, rfl⟩, hrules⟩
    rw [Rule.allAccept_cons_iff, hnonEmpty, Rule.allAccept_cons_iff,
      Rule.accepts_items_iff] at hrules
    refine ⟨items, rfl, hrules.1, ?_⟩
    exact fun item hmem => (isRecord_and_isComplete_iff item).1 (hrules.2.1 item hmem)
  · rintro ⟨items, rfl, hne, hitems⟩
    rw [Rule.allAccept_cons_iff, hnonEmpty, Rule.allAccept_cons_iff, Rule.accepts_items_iff]
    exact ⟨⟨items, rfl⟩, hne,
      fun item hmem => (isRecord_and_isComplete_iff item).2 (hitems item hmem),
      Rule.allAccept_nil _⟩

/-! ## The word of a lenient look -/

/-- Octets have a part just when it stands in one piece among them. -/
theorem containsPart_iff (part octets : Bytes) :
    containsPart part octets = true ↔ part <:+: octets := by
  induction octets with
  | nil => rw [containsPart, List.isEmpty_iff, List.infix_nil]
  | cons b rest ih =>
    rw [containsPart, Bool.or_eq_true, ih, List.isPrefixOf_iff_prefix, List.infix_cons_iff]

/-! ## Bodies that are nested too deep -/

section

variable {strict : Bool} {body : Bytes}

/-- There is room for looking into a body that can be read or has another fault. -/
theorem tooDeep?_of_room (hroom : Json.tooDeep? body = none) (strict : Bool) :
    tooDeep? strict body = none := by
  unfold tooDeep?
  rw [hroom, ite_self]

/-- A body that is nested too deep to be looked into cannot be read. -/
theorem tooDeep?_of_tooDeep {part : Json.Part} (hdeep : tooDeep? strict body = some part) :
    Json.tooDeep? body = some part := by
  unfold tooDeep? at hdeep
  split at hdeep
  · exact hdeep
  · cases hdeep

/-- A body that is nested too deep and has the word is so in both ways. -/
theorem tooDeep?_of_mark {part : Json.Part} (hmark : mark <:+: body)
    (hdeep : Json.tooDeep? body = some part) : tooDeep? strict body = some part := by
  unfold tooDeep?
  rw [if_pos (by rw [(containsPart_iff mark body).2 hmark, Bool.or_true]), hdeep]

/-- Being read to be classified the lenient way, such a body is refused. -/
theorem classifyLenient_of_tooDeep {part : Json.Part} (hdeep : tooDeep? false body = some part) :
    classifyLenient body = .error (.json (.tooDeep part)) := by
  unfold tooDeep? at hdeep
  unfold classifyLenient
  split at hdeep
  case isTrue hmark =>
    rw [if_pos (by simpa using hmark), Json.tooDeep?_eq_some_iff.1 hdeep]
  case isFalse => cases hdeep

/-- Arrays in each other and the word after them. -/
def brackets (n : Nat) : Bytes :=
  Text.Utf8.encode (List.replicate n '[' ++ "error".toList)

theorem mark_infix_brackets (n : Nat) : mark <:+: brackets n := by
  refine ⟨Text.Utf8.encode (List.replicate n '['), [], ?_⟩
  rw [List.append_nil]
  exact List.flatMap_append.symm

/-- Both ways get too deep into arrays in each other. -/
theorem tooDeep?_brackets (strict : Bool) {n : Nat} (hdeep : Json.maxDepth < n) :
    tooDeep? strict (brackets n) = some .array :=
  tooDeep?_of_mark (mark_infix_brackets n)
    (Json.tooDeep?_eq_some_iff.2 (Json.decode_brackets_error hdeep))

end

/-! ## What each way finds -/

/-- A body whose document is an array of records, at least one, with these elements. -/
structure Carries (body : Bytes) (items : List Json) : Prop where
  decode_eq : Json.decode body = .ok (.array items)
  ne_nil : items ≠ []
  isRecord : ∀ item ∈ items, IsRecord item

/-- The strict way finds the records of a body in which every element is complete. -/
theorem classifyStrict_eq_some_iff (body : Bytes) (records : List ErrorRecord) :
    classifyStrict body = some records ↔
      ∃ items, Carries body items ∧ (∀ item ∈ items, IsComplete item) ∧
        records = items.map recordOf := by
  unfold classifyStrict
  constructor
  · intro hfound
    split at hfound
    · cases hfound
    · rename_i v hdecode
      split at hfound
      · rename_i haccepts
        obtain ⟨items, rfl, hne, hitems⟩ := (strictErrorPayload_accepts_iff v).1 haccepts
        exact ⟨items, ⟨hdecode, hne, fun item hmem => (hitems item hmem).1⟩,
          fun item hmem => (hitems item hmem).2, (Option.some.inj hfound).symm⟩
      · cases hfound
  · rintro ⟨items, hcarries, hcomplete, rfl⟩
    have haccepts : Schema.strictErrorPayload.accepts (.array items) = true :=
      (strictErrorPayload_accepts_iff _).2 ⟨items, rfl, hcarries.ne_nil,
        fun item hmem => ⟨hcarries.isRecord item hmem, hcomplete item hmem⟩⟩
    rw [hcarries.decode_eq]
    exact if_pos haccepts

/-- A body without the word is taken for no error payload in the lenient way. -/
theorem classifyLenient_of_not_mark {body : Bytes} (hmark : ¬ mark <:+: body) :
    classifyLenient body = .ok none := by
  rw [← containsPart_iff] at hmark
  exact if_neg hmark

/-- The lenient way finds the records of a body that has the word. -/
theorem classifyLenient_of_carries {body : Bytes} {items : List Json}
    (hmark : mark <:+: body) (hcarries : Carries body items) :
    classifyLenient body = .ok (some (items.map recordOf)) := by
  have hvalid : Schema.errorPayload.validate (.array items) = .ok () :=
    (Schema.validate_eq_ok_iff _ _).2
      ((errorPayload_accepts_iff _).2 ⟨items, rfl, hcarries.isRecord⟩)
  unfold classifyLenient
  rw [if_pos ((containsPart_iff mark body).2 hmark), hcarries.decode_eq]
  dsimp only
  rw [hvalid]
  cases items with
  | nil => exact absurd rfl hcarries.ne_nil
  | cons first rest => rfl

/-- Records that the lenient way finds are those of a body that carries them. -/
theorem carries_of_classifyLenient {body : Bytes} {records : List ErrorRecord}
    (hfound : classifyLenient body = .ok (some records)) :
    ∃ items, Carries body items ∧ records = items.map recordOf := by
  unfold classifyLenient at hfound
  split at hfound
  · split at hfound
    · cases hfound
    · rename_i v hdecode
      split at hfound
      · cases hfound
      · rename_i hvalid
        obtain ⟨items, rfl, hitems⟩ :=
          (errorPayload_accepts_iff v).1 ((Schema.validate_eq_ok_iff _ v).1 hvalid)
        cases items with
        | nil => cases hfound
        | cons first rest =>
          cases hfound
          exact ⟨first :: rest, ⟨hdecode, List.cons_ne_nil _ _, hitems⟩, rfl⟩
  · cases hfound

/-! ## The two ways compared -/

/-- Neither way finds an error payload without records. -/
theorem classify_ne_some_nil (strict : Bool) (body : Bytes) :
    classify strict body ≠ .ok (some []) := by
  intro hfound
  cases strict with
  | true =>
    have hstrict : classifyStrict body = some [] := Except.ok.inj hfound
    obtain ⟨items, hcarries, _, hnil⟩ := (classifyStrict_eq_some_iff body []).1 hstrict
    exact hcarries.ne_nil (List.map_eq_nil_iff.1 hnil.symm)
  | false =>
    have hlenient : classifyLenient body = .ok (some []) := hfound
    obtain ⟨items, hcarries, hnil⟩ := carries_of_classifyLenient hlenient
    exact hcarries.ne_nil (List.map_eq_nil_iff.1 hnil.symm)

/-- What the strict way finds the lenient way finds, too, if the body has the word, and
otherwise it finds nothing. -/
theorem classifyLenient_of_classifyStrict {body : Bytes} {records : List ErrorRecord}
    (hfound : classifyStrict body = some records) :
    (mark <:+: body → classifyLenient body = .ok (some records)) ∧
      (¬ mark <:+: body → classifyLenient body = .ok none) := by
  obtain ⟨items, hcarries, _, rfl⟩ := (classifyStrict_eq_some_iff body records).1 hfound
  exact ⟨fun hmark => classifyLenient_of_carries hmark hcarries, classifyLenient_of_not_mark⟩

/-- The strict and the lenient way to classify a body.  Records that the strict way finds
are those that the lenient way finds, unless the body lacks the word; the lenient way then
finds nothing, and it refuses none of these bodies.  In a body that the lenient way
refuses the strict way finds nothing.  Records that the lenient way finds are those of
the elements of an array, and if each of these has a kind and an error, the strict way
finds the same.  Neither way finds an empty list. -/
theorem strict_and_lenient (body : Bytes) :
    (∀ records, classify true body = .ok (some records) →
      (mark <:+: body → classify false body = .ok (some records)) ∧
        (¬ mark <:+: body → classify false body = .ok none)) ∧
    (∀ fault, classify false body = .error fault → classify true body = .ok none) ∧
    (∀ records, classify false body = .ok (some records) →
      ∃ items, Json.decode body = .ok (.array items) ∧ records = items.map recordOf ∧
        ((∀ item ∈ items, (item.get? "kind").isSome ∧ (item.get? "error").isSome) →
          classify true body = .ok (some records))) ∧
    ∀ strict, classify strict body ≠ .ok (some []) := by
  refine ⟨?_, ?_, ?_, fun strict => classify_ne_some_nil strict body⟩
  · intro records hfound
    exact classifyLenient_of_classifyStrict (Except.ok.inj hfound)
  · intro fault hrefused
    have hlenient : classifyLenient body = .error fault := hrefused
    cases hstrict : classifyStrict body with
    | none => exact congrArg Except.ok hstrict
    | some records =>
      obtain ⟨hwith, hwithout⟩ := classifyLenient_of_classifyStrict hstrict
      by_cases hmark : mark <:+: body
      · rw [hwith hmark] at hlenient
        cases hlenient
      · rw [hwithout hmark] at hlenient
        cases hlenient
  · intro records hfound
    obtain ⟨items, hcarries, hrecords⟩ := carries_of_classifyLenient hfound
    refine ⟨items, hcarries.decode_eq, hrecords, ?_⟩
    intro hcomplete
    exact congrArg Except.ok
      ((classifyStrict_eq_some_iff body records).2 ⟨items, hcarries, hcomplete, hrecords⟩)

/-- A complete record is found in both ways. -/
theorem strict_and_lenient_of_record :
    classify false
        (Text.Utf8.encode "[\x7b\"kind\":\"a\",\"error\":\"b\"\x7d]".toList) =
      .ok (some [⟨"a", "b"⟩]) := by
  have hstrict : classifyStrict
      (Text.Utf8.encode "[\x7b\"kind\":\"a\",\"error\":\"b\"\x7d]".toList) =
        some [⟨"a", "b"⟩] := by decide +kernel
  have hmark : mark <:+:
      Text.Utf8.encode "[\x7b\"kind\":\"a\",\"error\":\"b\"\x7d]".toList := by
    decide +kernel
  exact ((strict_and_lenient _).1 _ (congrArg Except.ok hstrict)).1 hmark

end TezosNode.ErrorPayload
