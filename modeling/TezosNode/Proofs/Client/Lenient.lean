import Mathlib.Data.List.Forall2
import TezosNode.Proofs.Client.Inquiry
import TezosNode.Proofs.Json.Layout
import TezosNode.Proofs.Schema.Classification
import TezosNode.Proofs.Text.Document

set_option autoImplicit false

/-!
# Client: the lenient way

What the lenient way finds in a body depends on two things: whether the octets have the
word `error`, and whether they are an array of records.  A body with the word reports
something or is refused.  The exit for arrays without records is never taken, because such
an array is made of blanks and brackets and no encoding puts a letter into it.  So the
octets that a call returns in the lenient way do not have the word.
-/

namespace TezosNode

namespace ErrorPayload

/-! ## Entries -/

/-- The record that an element stands for: an object gives its kind and its error, and
nothing where it has none. -/
structure IsEntry (item : Json) (record : ErrorRecord) : Prop where
  object : ∃ fields, item = .object fields
  kind : item.get? "kind" = some (.string record.kind) ∨
    item.get? "kind" = none ∧ record.kind = ""
  error : item.get? "error" = some (.string record.error) ∨
    item.get? "error" = none ∧ record.error = ""

/-- A field that is a text where there is one is given as the text of the field. -/
theorem textField_eq_iff {item : Json} {name s : String}
    (hfield : ∀ v, item.get? name = some v → ∃ s, v = .string s) :
    textField item name = s ↔
      item.get? name = some (.string s) ∨ item.get? name = none ∧ s = "" := by
  unfold textField
  cases hget : item.get? name with
  | none => simp [eq_comm]
  | some v =>
    obtain ⟨r, rfl⟩ := hfield v hget
    simp

theorem isEntry_iff {item : Json} {record : ErrorRecord} :
    IsEntry item record ↔ IsRecord item ∧ recordOf item = record := by
  constructor
  · intro hentry
    have htext : ∀ {name s}, (item.get? name = some (.string s) ∨ item.get? name = none ∧ s = "") →
        ∀ v, item.get? name = some v → ∃ s, v = .string s := by
      rintro name s (hsome | ⟨hnone, -⟩) v hv
      · rw [hsome] at hv
        exact ⟨s, (Option.some.inj hv).symm⟩
      · rw [hnone] at hv
        cases hv
    have hrecord : IsRecord item := ⟨hentry.object, htext hentry.kind, htext hentry.error⟩
    refine ⟨hrecord, ?_⟩
    rw [recordOf, (textField_eq_iff hrecord.kind).2 hentry.kind,
      (textField_eq_iff hrecord.error).2 hentry.error]
  · rintro ⟨hrecord, rfl⟩
    exact ⟨hrecord.object, (textField_eq_iff hrecord.kind).1 rfl,
      (textField_eq_iff hrecord.error).1 rfl⟩

/-- The records of elements, in order, are what each of them stands for. -/
theorem forall₂_isEntry_iff {items : List Json} {records : List ErrorRecord} :
    List.Forall₂ IsEntry items records ↔
      (∀ item ∈ items, IsRecord item) ∧ items.map recordOf = records := by
  induction items generalizing records with
  | nil => simp [eq_comm]
  | cons item items ih =>
    rw [List.forall₂_cons_left_iff]
    constructor
    · rintro ⟨record, more, hentry, hmore, rfl⟩
      obtain ⟨hrecord, rfl⟩ := isEntry_iff.1 hentry
      obtain ⟨hrecords, rfl⟩ := ih.1 hmore
      exact ⟨List.forall_mem_cons.2 ⟨hrecord, hrecords⟩, rfl⟩
    · rintro ⟨hall, rfl⟩
      obtain ⟨hrecord, hrecords⟩ := List.forall_mem_cons.1 hall
      exact ⟨_, _, isEntry_iff.2 ⟨hrecord, rfl⟩, ih.2 ⟨hrecords, rfl⟩, rfl⟩

/-! ## Arrays without records -/

/-- The characters of an empty array are of ASCII, and none of them is a letter. -/
theorem of_mem_empty_array {text : List Char} (hread : Json.parse text = .ok (.array []))
    {c : Char} (hmem : c ∈ text) : Json.isBlank c = true ∨ c = '[' ∨ c = ']' := by
  obtain ⟨before, within, after, hbefore, hwithin, hafter, rfl⟩ :=
    Json.parse_eq_empty_array_iff.1 hread
  simp only [List.mem_append, List.mem_cons] at hmem
  rcases hmem with hmem | rfl | hmem | rfl | hmem
  · exact .inl (hbefore c hmem)
  · exact .inr (.inl rfl)
  · exact .inl (hwithin c hmem)
  · exact .inr (.inr rfl)
  · exact .inl (hafter c hmem)

/-- A body whose characters all come before the letter `e` does not have the word, in any
encoding. -/
theorem not_mark_of_forall {body : Bytes} {text : List Char}
    (htext : Text.decodeDocument body = .ok text) (hbelow : ∀ c ∈ text, c.toNat < 0x65) :
    ¬ mark <:+: body := by
  intro hmark
  have hascii : Text.IsAscii text := fun c hmem => Nat.lt_trans (hbelow c hmem) (by decide)
  have hletter : (0x65 : UInt8) ∈ body := hmark.subset (by decide)
  obtain ⟨c, hmem, hc⟩ := Text.accounts_of_decodeDocument htext hascii _ hletter
    (by decide) (by decide)
  have hcode := hbelow c hmem
  rw [hc] at hcode
  exact absurd hcode (by decide)

/-- Brackets alone do not have the word. -/
theorem not_mark_of_brackets (n : Nat) :
    ¬ mark <:+: Text.Utf8.encode (List.replicate n '[') := by
  have htext : Text.decodeDocument (Text.Utf8.encode (List.replicate n '[')) =
      .ok (List.replicate n '[') := by
    refine Text.decodeDocument_encode fun c hmem => ?_
    rw [List.eq_of_mem_replicate hmem]
    decide
  refine not_mark_of_forall htext fun c hmem => ?_
  rw [List.eq_of_mem_replicate hmem]
  decide

/-- A body that is an empty array does not have the word. -/
theorem not_mark_of_empty_array {body : Bytes} (hread : Json.decode body = .ok (.array [])) :
    ¬ mark <:+: body := by
  obtain ⟨text, htext, hparse, -⟩ := Json.exists_text_of_decode hread
  refine not_mark_of_forall htext fun c hmem => ?_
  rcases of_mem_empty_array hparse hmem with hblank | rfl | rfl
  · simp only [Json.isBlank, Bool.or_eq_true, decide_eq_true_eq] at hblank
    rcases hblank with ((rfl | rfl) | rfl) | rfl <;> decide
  · decide
  · decide

/-! ## What the lenient way makes of a body -/

/-- The lenient way finds records just where a body with the word carries them. -/
theorem classifyLenient_eq_some_iff {body : Bytes} (hmark : mark <:+: body)
    {records : List ErrorRecord} :
    classifyLenient body = .ok (some records) ↔
      ∃ items, Carries body items ∧ List.Forall₂ IsEntry items records := by
  constructor
  · intro hfound
    obtain ⟨items, hcarries, rfl⟩ := carries_of_classifyLenient hfound
    exact ⟨items, hcarries, forall₂_isEntry_iff.2 ⟨hcarries.isRecord, rfl⟩⟩
  · rintro ⟨items, hcarries, hentries⟩
    obtain ⟨-, rfl⟩ := forall₂_isEntry_iff.1 hentries
    exact classifyLenient_of_carries hmark hcarries

/-- A body with the word reports something or is refused. -/
theorem classifyLenient_ne_none {body : Bytes} (hmark : mark <:+: body) :
    classifyLenient body ≠ .ok none := by
  intro hnone
  unfold classifyLenient at hnone
  rw [if_pos ((containsPart_iff mark body).2 hmark)] at hnone
  split at hnone
  · cases hnone
  case h_2 v hdecode =>
    split at hnone
    · cases hnone
    case h_2 hvalid =>
      obtain ⟨items, rfl, -⟩ :=
        (errorPayload_accepts_iff v).1 ((Schema.validate_eq_ok_iff _ v).1 hvalid)
      cases items with
      | nil => exact not_mark_of_empty_array hdecode hmark
      | cons first rest => cases hnone

/-- A body that the lenient way looks into is one that it finds something in, or nothing. -/
theorem inspect_lenient_eq_ok_iff {body : Bytes} {found : Option (List ErrorRecord)} :
    inspect false body = .ok found ↔ classifyLenient body = .ok found := by
  cases hdeep : tooDeep? false body with
  | none =>
    rw [inspect_of_room hdeep]
    change (classifyLenient body).mapError _ = _ ↔ _
    cases classifyLenient body with
    | error fault => simp [Except.mapError]
    | ok found => simp [Except.mapError]
  | some part =>
    rw [inspect_of_tooDeep hdeep, classifyLenient_of_tooDeep hdeep]
    simp

/-- A body with the word that carries no records is refused. -/
theorem classifyLenient_of_not_carries {body : Bytes} (hmark : mark <:+: body)
    (hnone : ¬∃ items, Carries body items) : ∃ fault, classifyLenient body = .error fault := by
  cases hclass : classifyLenient body with
  | error fault => exact ⟨fault, rfl⟩
  | ok found =>
    cases found with
    | none => exact absurd hclass (classifyLenient_ne_none hmark)
    | some records =>
      obtain ⟨items, hcarries, -⟩ := carries_of_classifyLenient hclass
      exact absurd ⟨items, hcarries⟩ hnone

end ErrorPayload

/-! ## Calls -/

/-- A response that succeeds in the lenient way does not have the word. -/
theorem Response.not_mark_of_isSuccess {response : Response}
    (hsuccess : response.isSuccess false = true) :
    ¬ ErrorPayload.mark <:+: response.content := by
  intro hmark
  unfold Response.isSuccess at hsuccess
  obtain ⟨-, hfound⟩ := Bool.and_eq_true_iff.1 hsuccess
  split at hfound
  case h_1 hnone =>
    exact ErrorPayload.classifyLenient_ne_none hmark
      (ErrorPayload.inspect_lenient_eq_ok_iff.1 hnone)
  case h_2 hempty =>
    exact ErrorPayload.classify_ne_some_nil false _
      (ErrorPayload.inspect_lenient_eq_ok_iff.1 hempty)
  case h_3 => cases hfound

namespace ErrorPayload

/-- What the lenient way makes of a body.  Without the word it finds nothing.  With the word it
finds records just where the body is an array of objects, not an empty one, in which kinds and
errors are texts, and then it finds the record of each element, in order; every other body that
is not nested too deep is refused, and the failure carries it.  It never finds nothing in a body
with the word, since no array without records has the word, and so a call that is lenient
returns octets without it only. -/
theorem lenient_exactly (body : Bytes) :
    (¬ mark <:+: body → inspect false body = .ok none) ∧
    (mark <:+: body →
      (∀ records, inspect false body = .ok (some records) ↔
        ∃ items, Carries body items ∧ List.Forall₂ IsEntry items records) ∧
      ((∃ items, Carries body items) →
        ∃ records, records ≠ [] ∧ inspect false body = .ok (some records)) ∧
      (Json.tooDeep? body = none → (¬∃ items, Carries body items) →
        ∃ fault, inspect false body = .error (.malformedPayload fault body)) ∧
      inspect false body ≠ .ok none ∧ Json.decode body ≠ .ok (.array [])) ∧
    ∀ (method : Method) (path : String) (content : Option Bytes) (options : List Url.Param)
      (s t : Session), s.client.config.strictErrors = false →
        (Action.call method path content options).runIn s = (.ok body, t) →
          ¬ mark <:+: body := by
  refine ⟨fun hmark => inspect_lenient_eq_ok_iff.2 (classifyLenient_of_not_mark hmark), ?_, ?_⟩
  · intro hmark
    refine ⟨fun records => inspect_lenient_eq_ok_iff.trans (classifyLenient_eq_some_iff hmark),
      ?_, ?_, fun hnone => classifyLenient_ne_none hmark (inspect_lenient_eq_ok_iff.1 hnone),
      fun hempty => not_mark_of_empty_array hempty hmark⟩
    · rintro ⟨items, hcarries⟩
      refine ⟨items.map recordOf, ?_,
        inspect_lenient_eq_ok_iff.2 (classifyLenient_of_carries hmark hcarries)⟩
      exact fun hnil => hcarries.ne_nil (List.map_eq_nil_iff.1 hnil)
    · intro hroom hnone
      obtain ⟨fault, hclass⟩ := classifyLenient_of_not_carries hmark hnone
      refine ⟨fault, ?_⟩
      have hverdict : classify false body = .error fault := hclass
      rw [inspect_of_room (tooDeep?_of_room hroom false), hverdict]
      rfl
  · intro method path content options s t hlenient hcall
    have hcall : (Inquiry.mk method path content options).call.runIn s = (.ok body, t) := hcall
    obtain ⟨response, -, rfl, hsuccess⟩ := Inquiry.isSuccess_of_call_ok hcall
    rw [hlenient] at hsuccess
    exact Response.not_mark_of_isSuccess hsuccess

/-- A record without a kind and one without an error are found in their order, and a number
with the word in it is refused. -/
theorem lenient_exactly_of_incomplete_records :
    let body := Text.Utf8.encode "[\x7b\"error\":\"b\"\x7d,\x7b\"kind\":\"a\"\x7d]".toList
    let other := Text.Utf8.encode "1 error".toList
    (mark <:+: body ∧ ∃ items, Carries body items ∧
      List.Forall₂ IsEntry items [⟨"", "b"⟩, ⟨"a", ""⟩]) ∧
    mark <:+: other ∧ ∃ fault, inspect false other = .error (.malformedPayload fault other) := by
  intro body other
  have hmark : mark <:+: body := by decide +kernel
  have hfound : (inspect false body).toOption = some (some [⟨"", "b"⟩, ⟨"a", ""⟩]) := by
    decide +kernel
  have hother : mark <:+: other := by decide +kernel
  refine ⟨⟨hmark, ((lenient_exactly body).2.1 hmark).1 _ |>.1 ?_⟩, hother, ?_⟩
  · cases hinspect : inspect false body with
    | error f =>
      rw [hinspect] at hfound
      cases hfound
    | ok found =>
      rw [hinspect] at hfound
      exact congrArg Except.ok (Option.some.inj hfound)
  · refine ((lenient_exactly other).2.1 hother).2.2.1 (by decide +kernel) ?_
    rintro ⟨items, hcarries⟩
    have hread : (Json.decode other).isOk = false := by decide +kernel
    rw [hcarries.decode_eq] at hread
    cases hread

/-- A body with the word in which arrays are opened in each other without end is neither found
to be anything nor refused. -/
theorem lenient_escapes_of_nesting :
    let body := brackets 5000
    mark <:+: body ∧ (¬∃ items, Carries body items) ∧
      inspect false body = .error (.foreign (.nesting .array)) ∧
      ¬∃ fault, inspect false body = .error (.malformedPayload fault body) := by
  intro body
  have hdeep : tooDeep? false body = some .array := tooDeep?_brackets false (by decide)
  refine ⟨mark_infix_brackets 5000, ?_, inspect_of_tooDeep hdeep, ?_⟩
  · rintro ⟨items, hcarries⟩
    have hread := tooDeep?_of_tooDeep hdeep
    rw [Json.tooDeep?_of_decode hcarries.decode_eq] at hread
    cases hread
  · rintro ⟨fault, hrefused⟩
    rw [inspect_of_tooDeep hdeep] at hrefused
    cases hrefused

end ErrorPayload

end TezosNode
