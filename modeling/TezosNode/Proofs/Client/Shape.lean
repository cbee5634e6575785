import TezosNode.Proofs.Client.Integer
import TezosNode.Proofs.Client.Lenient
import TezosNode.Proofs.Json.Escaping
import TezosNode.Proofs.Schema.Shape

set_option autoImplicit false

/-!
# Client: shapes of answers

The documents that an endpoint accepts are those of one shape: `Operation.Fits` says which, and
what the answer is.  The body of a successful reply is either such a document, and then the
endpoint returns its answer, or it is not the document asked for, and then the failure says so
and carries the body, unless the body is nested too deep to be read.  `Decodes` states this of a
reading of bodies; every endpoint has it because all of them decode first and look at the value
then.
-/

namespace TezosNode

/-! ## Readings of bodies -/

namespace Endpoint

/-- A reading of bodies that returns what fits the value of a document, and for every other body
fails because it is nested too deep or is not the document asked for. -/
structure Decodes {α : Type} (document : Document) (fits : Json → α → Prop)
    (read : Bytes → Except Failure α) : Prop where
  ok_iff (body : Bytes) (a : α) : read body = .ok a ↔ ∃ v, Json.decode body = .ok v ∧ fits v a
  error (body : Bytes) (f : Failure) : read body = .error f →
    (∃ part, Json.tooDeep? body = some part ∧ f = .foreign (.nesting part)) ∨
      ∃ mismatch, f = .undecodable document mismatch body

namespace Decodes

variable {α β : Type} {document : Document} {fits : Json → α → Prop}
  {read : Bytes → Except Failure α}

/-- A body that is no document at all is a failure already, so that only values are looked at. -/
theorem of_look {look : Json → Bytes → Except Failure α}
    (hok : ∀ v body a, look v body = .ok a ↔ fits v a)
    (herror : ∀ v body f, look v body = .error f →
      ∃ mismatch, f = .undecodable document mismatch body) :
    Decodes document fits fun body => jsonOf document body >>= fun v => look v body where
  ok_iff body a := by
    unfold jsonOf
    cases hdecode : Json.decode body with
    | error fault =>
      constructor
      · intro hread
        cases hread
      · rintro ⟨v, hv, -⟩
        cases hv
    | ok v =>
      change look v body = .ok a ↔ _
      rw [hok]
      constructor
      · intro hfits
        exact ⟨v, rfl, hfits⟩
      · rintro ⟨w, hw, hfits⟩
        rwa [Except.ok.inj hw]
  error body f hread := by
    cases hvalue : jsonOf document body with
    | error g =>
      rw [hvalue] at hread
      obtain rfl : g = f := Except.error.inj hread
      exact (of_jsonOf_error hvalue).imp_right fun ⟨fault, hfault⟩ => ⟨.json fault, hfault⟩
    | ok v =>
      rw [hvalue] at hread
      exact .inr (herror v body f hread)

/-- What the value reads as, by a reading of its own. -/
theorem of_parse {ε : Type} (parse : Json → Except ε α) (mismatch : ε → Mismatch) :
    Decodes document (fun v a => parse v = .ok a) fun body =>
      jsonOf document body >>= fun v =>
        (parse v).mapError fun fault => .undecodable document (mismatch fault) body := by
  refine of_look (fun v body a => ?_) fun v body f hlook => ?_
  · cases parse v <;> simp [Except.mapError]
  · cases hparse : parse v with
    | ok a =>
      rw [hparse] at hlook
      cases hlook
    | error fault =>
      rw [hparse] at hlook
      exact ⟨mismatch fault, (Except.error.inj hlook).symm⟩

/-- The result in another form. -/
theorem map (h : Decodes document fits read) (form : α → β) :
    Decodes document (fun v b => ∃ a, fits v a ∧ form a = b) fun body => (read body).map form where
  ok_iff body b := by
    constructor
    · intro hmapped
      cases hread : read body with
      | error f =>
        rw [hread] at hmapped
        cases hmapped
      | ok a =>
        rw [hread] at hmapped
        obtain ⟨v, hdecode, hfits⟩ := (h.ok_iff body a).1 hread
        exact ⟨v, hdecode, a, hfits, Except.ok.inj hmapped⟩
    · rintro ⟨v, hdecode, a, hfits, rfl⟩
      rw [(h.ok_iff body a).2 ⟨v, hdecode, hfits⟩]
      rfl
  error body f hmapped := by
    cases hread : read body with
    | error g =>
      rw [hread] at hmapped
      obtain rfl := Except.error.inj hmapped
      exact h.error body g hread
    | ok a =>
      rw [hread] at hmapped
      cases hmapped

/-- What fits may be said in other words. -/
theorem congr {fits' : Json → α → Prop} (h : Decodes document fits read)
    (hsame : ∀ v a, fits v a ↔ fits' v a) : Decodes document fits' read where
  ok_iff body a := by
    rw [h.ok_iff body a]
    exact exists_congr fun v => and_congr_right fun _ => hsame v a
  error := h.error

/-- A body without a document that fits is refused, if it is not nested too deep. -/
theorem error_iff (h : Decodes document fits read) {body : Bytes}
    (hroom : Json.tooDeep? body = none) :
    (∃ mismatch, read body = .error (.undecodable document mismatch body)) ↔
      ¬∃ v a, Json.decode body = .ok v ∧ fits v a := by
  constructor
  · rintro ⟨mismatch, hread⟩ ⟨v, a, hfits⟩
    rw [(h.ok_iff body a).2 ⟨v, hfits⟩] at hread
    cases hread
  · intro hnone
    cases hread : read body with
    | ok a =>
      obtain ⟨v, hfits⟩ := (h.ok_iff body a).1 hread
      exact absurd ⟨v, a, hfits⟩ hnone
    | error f =>
      rcases h.error body f hread with ⟨part, hdeep, -⟩ | ⟨mismatch, rfl⟩
      · rw [hroom] at hdeep
        cases hdeep
      · exact ⟨mismatch, rfl⟩

end Decodes

/-! ## Endpoints -/

theorem decodes_blockOf :
    Decodes .block (fun v b => v = b.data ∧ Json.IsBlock b.fields) blockOf :=
  (Decodes.of_parse Block.ofJson .schema).congr fun _ _ => Block.ofJson_eq_ok_iff

theorem decodes_constantsOf (blockHash : String) :
    Decodes .constants (fun v c => v = c.data ∧ c.fields ≠ [] ∧ c.blockHash = some blockHash)
      (constantsOf blockHash) :=
  (Decodes.of_parse (Constants.ofJson · (some blockHash)) .schema).congr
    fun _ _ => Constants.ofJson_eq_ok_iff

theorem decodes_stringOf (document : Document) :
    Decodes document (fun v s => v = .string s) (stringOf document) := by
  refine Decodes.of_look (fun v body s => ?_) fun v body f hlook => ?_
  · cases v with
    | string t =>
      rw [Json.string.injEq]
      exact ⟨Except.ok.inj, congrArg Except.ok⟩
    | _ => exact iff_of_false (fun hlook => by cases hlook) fun hv => by cases hv
  · cases v with
    | string t => cases hlook
    | _ => exact ⟨_, (Except.error.inj hlook).symm⟩

theorem decodes_statusOf :
    Decodes .bootstrapStatus
      (fun v b => ∃ w, v.get? "bootstrapped" = some w ∧ w.isTruthy = b) statusOf := by
  refine Decodes.of_look (fun v body b => ?_) fun v body f hlook => ?_
  · cases v.get? "bootstrapped" with
    | some w =>
      constructor
      · intro hlook
        exact ⟨w, rfl, Except.ok.inj hlook⟩
      · rintro ⟨_, hw, rfl⟩
        rw [Option.some.inj hw]
        rfl
    | none => exact iff_of_false (fun hlook => by cases hlook) fun ⟨_, hw, _⟩ => by cases hw
  · cases hfield : v.get? "bootstrapped" with
    | some w =>
      rw [hfield] at hlook
      cases hlook
    | none =>
      rw [hfield] at hlook
      exact ⟨_, (Except.error.inj hlook).symm⟩

end Endpoint

/-! ## Shapes -/

/-- A value with a field is an object with that field. -/
theorem Json.get?_eq_some_iff {v w : Json} {name : String} :
    v.get? name = some w ↔ ∃ fields, v = .object fields ∧ field? fields name = some w := by
  cases v with
  | object fields => simp [get?]
  | _ => simp [get?]

namespace Operation

/-- The document of an operation whose answer is of one shape. -/
def shapedDocument? : Operation → Option Document
  | .block _ => some .block
  | .constants _ => some .constants
  | .chainId => some .chainId
  | .isBootstrapped => some .bootstrapStatus
  | .injectOperation _ _ => some .operationHash
  | _ => none

/-- The documents that an operation accepts, and its answer to each.  The head is the block whose
id is `head`. -/
inductive Fits : Operation → Json → Answer → Prop
  | block {id : String} {fields : List (String × Json)} (hblock : Json.IsBlock fields) :
      Fits (.block id) (.object fields) (.block ⟨fields⟩)
  | constants {blockHash : String} {fields : List (String × Json)} (hsome : fields ≠ []) :
      Fits (.constants blockHash) (.object fields) (.constants ⟨fields, some blockHash⟩)
  | chainId (s : String) : Fits .chainId (.string s) (.text s)
  | status {fields : List (String × Json)} {w : Json}
      (hfield : Json.field? fields "bootstrapped" = some w) :
      Fits .isBootstrapped (.object fields) (.status w.isTruthy)
  | operationHash {operation chain : String} (s : String) :
      Fits (.injectOperation operation chain) (.string s) (.text s)

/-- Such an operation is one inquiry. -/
theorem exists_inquiry_of_shapedDocument {op : Operation} {document : Document}
    (hop : op.shapedDocument? = some document) : ∃ q, op.inquiry? = some q := by
  cases op with
  | block id => exact ⟨_, rfl⟩
  | constants blockHash => exact ⟨_, rfl⟩
  | chainId => exact ⟨_, rfl⟩
  | isBootstrapped => exact ⟨_, rfl⟩
  | injectOperation operation chain => exact ⟨_, rfl⟩
  | _ => cases hop

/-- Such an operation reads the documents that it accepts, and refuses every other body. -/
theorem decodes_read {op : Operation} {document : Document}
    (hop : op.shapedDocument? = some document) : Endpoint.Decodes document op.Fits op.read := by
  cases op with
  | block id =>
    obtain rfl := Option.some.inj hop
    refine (Endpoint.decodes_blockOf.map Answer.block).congr fun v a => ⟨?_, ?_⟩
    · rintro ⟨b, ⟨rfl, hblock⟩, rfl⟩
      exact .block hblock
    · intro hfits
      cases hfits with
      | block hblock => exact ⟨_, ⟨rfl, hblock⟩, rfl⟩
  | constants blockHash =>
    obtain rfl := Option.some.inj hop
    refine ((Endpoint.decodes_constantsOf blockHash).map Answer.constants).congr fun v a => ⟨?_, ?_⟩
    · rintro ⟨⟨fields, label⟩, ⟨rfl, hsome, rfl⟩, rfl⟩
      exact .constants hsome
    · intro hfits
      cases hfits with
      | constants hsome => exact ⟨_, ⟨rfl, hsome, rfl⟩, rfl⟩
  | chainId =>
    obtain rfl := Option.some.inj hop
    refine ((Endpoint.decodes_stringOf .chainId).map Answer.text).congr fun v a => ⟨?_, ?_⟩
    · rintro ⟨s, rfl, rfl⟩
      exact .chainId s
    · intro hfits
      cases hfits with
      | chainId s => exact ⟨s, rfl, rfl⟩
  | isBootstrapped =>
    obtain rfl := Option.some.inj hop
    refine (Endpoint.decodes_statusOf.map Answer.status).congr fun v a => ⟨?_, ?_⟩
    · rintro ⟨_, ⟨w, hw, rfl⟩, rfl⟩
      obtain ⟨fields, rfl, hfield⟩ := Json.get?_eq_some_iff.1 hw
      exact .status hfield
    · intro hfits
      cases hfits with
      | status hfield => exact ⟨_, ⟨_, hfield, rfl⟩, rfl⟩
  | injectOperation operation chain =>
    obtain rfl := Option.some.inj hop
    refine ((Endpoint.decodes_stringOf .operationHash).map Answer.text).congr fun v a => ⟨?_, ?_⟩
    · rintro ⟨s, rfl, rfl⟩
      exact .operationHash s
    · intro hfits
      cases hfits with
      | operationHash s => exact ⟨s, rfl, rfl⟩
  | _ => cases hop

end Operation

/-! ## Operations of a session -/

namespace Session

/-- What comes of an operation whose answer is of one shape, where the reply is a success and the
clock is one of 64 bits.  It returns an answer just where the body is a document of that shape,
and the answer is what the document holds.  For every other body that is not nested too deep to
be read, whether it is no text, no document or a document of another shape, it fails because
that body is not the document asked for. -/
theorem answer_of_shape {op : Operation} {document : Document}
    (hop : op.shapedDocument? = some document) (s : Session) (hclock : s.ClockInRange)
    {response : Response} (hreply : s.reply = .response response)
    (hsuccess : response.isSuccess s.client.config.strictErrors = true)
    (hsent : requests (s.perform op).2.trace ≠ requests s.trace) :
    (∀ answer, (s.perform op).1 = .ok answer ↔
      ∃ v, Json.decode response.content = .ok v ∧ op.Fits v answer) ∧
    (Json.tooDeep? response.content = none →
      ((∃ mismatch, (s.perform op).1 =
          .error (.undecodable document mismatch response.content)) ↔
        ¬∃ v answer, Json.decode response.content = .ok v ∧ op.Fits v answer)) := by
  obtain ⟨q, hinquiry⟩ := Operation.exists_inquiry_of_shapedDocument hop
  have hdecodes := Operation.decodes_read hop
  rw [perform_of_success hinquiry hclock hreply hsuccess hsent]
  exact ⟨hdecodes.ok_iff response.content, fun hroom => hdecodes.error_iff hroom⟩

/-- A string is returned as the id of the chain, and null is no block. -/
theorem answer_of_shape_of_replies :
    let s : Session := answering [.plain] [.success "\"NetX\""]
    let t : Session := answering [.plain] [.success "null"]
    (s.perform .chainId).1 = .ok (.text "NetX") ∧
      ∃ mismatch, (t.perform (.block "head")).1 =
        .error (.undecodable .block mismatch (Text.Utf8.encode "null".toList)) := by
  intro s t
  constructor
  · have htext : "\"NetX\"".toList = Json.stringText "NetX" := by decide +kernel
    have hdecode : Json.decode (Text.Utf8.encode "\"NetX\"".toList) = .ok (.string "NetX") := by
      rw [htext]
      exact Json.decode_stringText "NetX"
    let response : Response := ⟨200, [Text.Utf8.encode "\"NetX\"".toList], none⟩
    have hcontent : response.content = Text.Utf8.encode "\"NetX\"".toList := by decide +kernel
    have hsent : requests (s.perform .chainId).2.trace ≠ requests s.trace := by decide +kernel
    have hanswer := (@answer_of_shape .chainId .chainId rfl s (by decide) response rfl
      (by decide +kernel) hsent).1
    rw [hcontent] at hanswer
    exact (hanswer (.text "NetX")).2 ⟨_, hdecode, .chainId "NetX"⟩
  · have hdecode : Json.decode (Text.Utf8.encode "null".toList) = .ok .null :=
      (Json.decode_encode (by decide) (by decide)).trans rfl
    let response : Response := ⟨200, [Text.Utf8.encode "null".toList], none⟩
    have hcontent : response.content = Text.Utf8.encode "null".toList := by decide +kernel
    have hsent : requests (t.perform (.block "head")).2.trace ≠ requests t.trace := by
      decide +kernel
    have hrefused := (@answer_of_shape (.block "head") .block rfl t (by decide) response rfl
      (by decide +kernel) hsent).2 (by decide +kernel)
    rw [hcontent] at hrefused
    refine hrefused.2 ?_
    rintro ⟨v, answer, hv, hfits⟩
    obtain rfl := Except.ok.inj (hdecode.symm.trans hv)
    cases hfits

/-- The id of a chain that is nested too deep to be read, in a reply that is a success. -/
theorem chainId_of_tooDeep {body : Bytes} {part : Json.Part}
    (hmark : ¬ ErrorPayload.mark <:+: body) (hdeep : Json.tooDeep? body = some part) :
    let s : Session := answering [.plain] [.response ⟨200, [body], none⟩]
    (⟨200, [body], none⟩ : Response).isSuccess false = true ∧
      requests (s.perform .chainId).2.trace ≠ requests s.trace ∧
      (s.perform .chainId).1 = .error (.foreign (.nesting part)) := by
  intro s
  have hinquiry : Operation.chainId.inquiry? = some (.get Endpoint.chainIdPath) := rfl
  have hclock : s.ClockInRange := List.forall_mem_nil _
  have hcontent : (⟨200, [body], none⟩ : Response).content = body := List.flatten_singleton
  have hsuccess : (⟨200, [body], none⟩ : Response).isSuccess false = true := by
    have hnothing : ErrorPayload.inspect false body = .ok none :=
      ErrorPayload.inspect_lenient_eq_ok_iff.2 (ErrorPayload.classifyLenient_of_not_mark hmark)
    simp [Response.isSuccess, hcontent, hnothing]
  obtain ⟨r, hrequest⟩ :=
    (Inquiry.get Endpoint.chainIdPath).exists_request "http://node" (by decide +kernel)
  have hsent : requests (s.perform .chainId).2.trace ≠ requests s.trace := by
    rw [perform_of_inquiry hinquiry]
    exact Inquiry.sent_of_request hrequest rfl
  refine ⟨hsuccess, hsent, ?_⟩
  rw [perform_of_success hinquiry hclock rfl hsuccess hsent, hcontent]
  change (Endpoint.stringOf .chainId body).map Answer.text = _
  rw [Endpoint.stringOf, Endpoint.jsonOf_of_tooDeep hdeep]
  rfl

/-- Arrays that are opened in each other without end are no string, in a reply that is a success,
and yet the id of the chain does not fail as a document that cannot be decoded. -/
theorem answer_escapes_of_nesting :
    let body := Text.Utf8.encode (List.replicate 5000 '[')
    let s : Session := answering [.plain] [.response ⟨200, [body], none⟩]
    (⟨200, [body], none⟩ : Response).isSuccess false = true ∧
      requests (s.perform .chainId).2.trace ≠ requests s.trace ∧
      (s.perform .chainId).1 = .error (.foreign (.nesting .array)) ∧
      ¬∃ mismatch, (s.perform .chainId).1 = .error (.undecodable .chainId mismatch body) := by
  have hread : Json.decode (Text.Utf8.encode (List.replicate 5000 '[')) =
      .error (.tooDeep .array) := Json.decode_brackets (by decide)
  obtain ⟨hsuccess, hsent, hfail⟩ := chainId_of_tooDeep (ErrorPayload.not_mark_of_brackets 5000)
    (Json.tooDeep?_eq_some_iff.2 hread)
  refine ⟨hsuccess, hsent, hfail, ?_⟩
  rintro ⟨mismatch, hrefused⟩
  rw [hfail] at hrefused
  cases hrefused

end Session

end TezosNode
