import TezosNode.Proofs.Client.Readiness
import TezosNode.Proofs.Json.Integer

set_option autoImplicit false

/-!
# Client: integers

The balance and the counter of an address are integers.  The body of a successful reply has
an integer, or it is not the document asked for, and then the failure carries the body.
There are two exceptions: an infinite number, and a document that is nested too deep to be
read, are failures that are not the client's own.
-/

namespace TezosNode

/-! ## Integers of bodies -/

/-- The only values whose integer is infinite are the two infinite numbers. -/
theorem Json.toInteger_eq_infinite {v : Json} :
    v.toInteger = .error .infinite ↔ ∃ negative, v = .double (.infinite negative) := by
  constructor
  · intro hfault
    cases v with
    | double x =>
      cases x with
      | infinite negative => exact ⟨negative, rfl⟩
      | nan => cases hfault
      | finite negative m e => cases hfault
    | string s =>
      change (Numeral.integer s.toList).mapError (IntegerFault.notNumeral s) = _ at hfault
      cases hread : Numeral.integer s.toList with
      | error fault =>
        rw [hread] at hfault
        cases hfault
      | ok n =>
        rw [hread] at hfault
        cases hfault
    | null => cases hfault
    | bool b => cases hfault
    | integer n => cases hfault
    | array items => cases hfault
    | object fields => cases hfault
  · rintro ⟨negative, rfl⟩
    rfl

namespace Endpoint

variable {document : Document} {body : Bytes}

/-- A body whose document has an integer is that integer. -/
theorem integerOf_of_toInteger {v : Json} {n : Int} (hdecode : Json.decode body = .ok v)
    (hinteger : v.toInteger = .ok n) : integerOf document body = .ok n := by
  unfold integerOf jsonOf
  rw [hdecode]
  change v.toInteger.mapError _ = _
  rw [hinteger]
  rfl

/-- A body whose document has no integer is not the document asked for, infinite numbers
apart. -/
theorem integerOf_of_toInteger_error {v : Json} {fault : Json.IntegerFault}
    (hdecode : Json.decode body = .ok v) (hinteger : v.toInteger = .error fault)
    (hfault : fault ≠ .infinite) :
    integerOf document body = .error (.undecodable document (.noInteger fault) body) := by
  unfold integerOf jsonOf
  rw [hdecode]
  change v.toInteger.mapError _ = _
  rw [hinteger]
  cases fault with
  | infinite => exact absurd rfl hfault
  | _ => rfl

/-- A body that has another fault than being nested too deep is not the document asked for. -/
theorem integerOf_of_decode_error {fault : Json.Fault} (hroom : Json.tooDeep? body = none)
    (hdecode : Json.decode body = .error fault) :
    integerOf document body = .error (.undecodable document (.json fault) body) := by
  unfold integerOf
  rw [jsonOf_of_decode_error hroom hdecode]
  rfl

/-- An integer that has been obtained can be written. -/
theorem natAbs_lt_of_integerOf {n : Int} (hread : integerOf document body = .ok n) :
    n.natAbs < Nat.pow 10 Numeral.maxDigits := by
  obtain ⟨v, hdecode, hinteger⟩ := of_document_ok hread
  exact Json.hasShortInteger_of_decode hdecode n hinteger

/-- A body that is an infinite number is a failure that is not the client's own. -/
theorem integerOf_of_infinite {negative : Bool}
    (hdecode : Json.decode body = .ok (.double (.infinite negative))) :
    integerOf document body = .error (.foreign .infiniteInteger) := by
  unfold integerOf jsonOf
  rw [hdecode]
  rfl

/-- A body whose integer cannot be had is nested too deep, or it is not the document asked for,
or it is an infinite number. -/
theorem of_integerOf_error {f : Failure} (hread : integerOf document body = .error f) :
    (∃ part, Json.tooDeep? body = some part ∧ f = .foreign (.nesting part)) ∨
      (∃ mismatch, f = .undecodable document mismatch body) ∨
      f = .foreign .infiniteInteger ∧
        ∃ negative, Json.decode body = .ok (.double (.infinite negative)) := by
  cases hdecode : Json.decode body with
  | error fault =>
    cases hdeep : Json.tooDeep? body with
    | some part =>
      rw [Json.tooDeep?_eq_some_iff.1 hdeep] at hdecode
      unfold integerOf jsonOf at hread
      rw [Json.tooDeep?_eq_some_iff.1 hdeep] at hread
      exact .inl ⟨part, rfl, (Except.error.inj hread).symm⟩
    | none =>
      rw [integerOf_of_decode_error hdeep hdecode] at hread
      exact .inr (.inl ⟨_, (Except.error.inj hread).symm⟩)
  | ok v =>
    cases hinteger : v.toInteger with
    | ok n =>
      rw [integerOf_of_toInteger hdecode hinteger] at hread
      cases hread
    | error fault =>
      by_cases hfault : fault = .infinite
      · rw [hfault] at hinteger
        obtain ⟨negative, rfl⟩ := Json.toInteger_eq_infinite.1 hinteger
        rw [integerOf_of_infinite hdecode] at hread
        exact .inr (.inr ⟨(Except.error.inj hread).symm, negative, rfl⟩)
      · rw [integerOf_of_toInteger_error hdecode hinteger hfault] at hread
        exact .inr (.inl ⟨_, (Except.error.inj hread).symm⟩)

/-- A body is an infinite number just where looking for its integer fails so. -/
theorem integerOf_eq_infinite_iff (document : Document) (body : Bytes) :
    integerOf document body = .error (.foreign .infiniteInteger) ↔
      ∃ negative, Json.decode body = .ok (.double (.infinite negative)) := by
  constructor
  · intro hread
    rcases of_integerOf_error hread with ⟨part, -, hother⟩ | ⟨mismatch, hother⟩ | ⟨-, hinfinite⟩
    · cases hother
    · cases hother
    · exact hinfinite
  · rintro ⟨negative, hdecode⟩
    exact integerOf_of_infinite hdecode

/-- A body that is neither nested too deep nor an infinite number has an integer or is not the
document asked for. -/
theorem integerOf_cases (document : Document) (hroom : Json.tooDeep? body = none)
    (hfinite : ¬∃ negative, Json.decode body = .ok (.double (.infinite negative))) :
    (∃ n, integerOf document body = .ok n) ∨
      ∃ mismatch, integerOf document body = .error (.undecodable document mismatch body) := by
  cases hread : integerOf document body with
  | ok n => exact .inl ⟨n, rfl⟩
  | error f =>
    rcases of_integerOf_error hread with ⟨part, hdeep, -⟩ | ⟨mismatch, rfl⟩ | ⟨-, hinfinite⟩
    · rw [hroom] at hdeep
      cases hdeep
    · exact .inr ⟨mismatch, rfl⟩
    · exact absurd hinfinite hfinite

end Endpoint

/-! ## Successful replies -/

/-- A call that gets a successful reply returns its body. -/
theorem Inquiry.call_of_success {q : Inquiry} {s : Session} (hclock : s.ClockInRange)
    {response : Response} (hreply : s.reply = .response response)
    (hsuccess : response.isSuccess s.client.config.strictErrors = true)
    (hsent : Session.requests (q.call.runIn s).2.trace ≠ Session.requests s.trace) :
    (q.call.runIn s).1 = .ok response.content := by
  obtain ⟨r, hrequest, hopen⟩ := Inquiry.of_sent hsent
  have hdelivered : s.reply.Decides s.client.config.strictErrors (.ok response.content) := by
    rw [hreply]
    exact Response.decides_of_isSuccess hsuccess
  have hexpected : s.reply.isExpected = true := by
    rw [hreply]
    cases hbroken : response.broken with
    | none => simp [Reply.isExpected, hbroken]
    | some fault =>
      rw [Response.isSuccess_of_broken hbroken] at hsuccess
      cases hsuccess
  have hshallow : s.reply.isShallow s.client.config.strictErrors = true := by
    rw [hreply]
    exact Response.isShallow_of_isSuccess hsuccess
  exact (Inquiry.call_decides hrequest hopen hclock hexpected hshallow).unique hdelivered

/-- What comes of an operation that gets a successful reply is what the body of the reply
reads as. -/
theorem Session.perform_of_success {op : Operation} {q : Inquiry} (hop : op.inquiry? = some q)
    {s : Session} (hclock : s.ClockInRange) {response : Response}
    (hreply : s.reply = .response response)
    (hsuccess : response.isSuccess s.client.config.strictErrors = true)
    (hsent : requests (s.perform op).2.trace ≠ requests s.trace) :
    (s.perform op).1 = op.read response.content := by
  rw [perform_of_inquiry hop] at hsent ⊢
  rw [Inquiry.call_of_success hclock hreply hsuccess hsent]
  rfl

/-! ## Operations that ask for an integer -/

namespace Operation

/-- The document that an operation wants the integer of. -/
def integerDocument? : Operation → Option Document
  | .balance _ _ => some .balance
  | .counter _ _ => some .counter
  | _ => none

/-- Operations for an integer differ in the path and in the name of the document only. -/
theorem exists_of_integerDocument {op : Operation} {document : Document}
    (hop : op.integerDocument? = some document) :
    (∃ path, op.inquiry? = some (.get path)) ∧
      ∀ body, op.read body = (Endpoint.integerOf document body).map .integer := by
  cases op with
  | balance blockHash address =>
    obtain rfl := Option.some.inj hop
    exact ⟨⟨_, rfl⟩, fun _ => rfl⟩
  | counter blockHash address =>
    obtain rfl := Option.some.inj hop
    exact ⟨⟨_, rfl⟩, fun _ => rfl⟩
  | _ => cases hop

end Operation

namespace Session

/-- With a clock of 64 bits, an operation for an integer that gets a successful reply returns
an integer, or fails in a document that cannot be decoded and carries the body, whatever the
body is, if that is neither nested too deep to be read nor an infinite number; and the infinite
numbers are a failure of their own that is not the client's. -/
theorem integer_unless_infinite_or_deep {op : Operation} {document : Document}
    (hop : op.integerDocument? = some document) (s : Session) (hclock : s.ClockInRange)
    {response : Response} (hreply : s.reply = .response response)
    (hsuccess : response.isSuccess s.client.config.strictErrors = true)
    (hsent : requests (s.perform op).2.trace ≠ requests s.trace) :
    (Json.tooDeep? response.content = none →
      (¬∃ negative, Json.decode response.content = .ok (.double (.infinite negative))) →
      (∃ n, (s.perform op).1 = .ok (.integer n)) ∨
        ∃ mismatch, (s.perform op).1 = .error (.undecodable document mismatch response.content)) ∧
    ((s.perform op).1 = .error (.foreign .infiniteInteger) ↔
      ∃ negative, Json.decode response.content = .ok (.double (.infinite negative))) := by
  obtain ⟨⟨path, hinquiry⟩, hread⟩ := op.exists_of_integerDocument hop
  rw [perform_of_success hinquiry hclock hreply hsuccess hsent, hread]
  constructor
  · intro hroom hfinite
    rcases Endpoint.integerOf_cases document hroom hfinite with ⟨n, hinteger⟩ | ⟨mismatch, hfail⟩
    · rw [hinteger]
      exact .inl ⟨n, rfl⟩
    · rw [hfail]
      exact .inr ⟨mismatch, rfl⟩
  · rw [← Endpoint.integerOf_eq_infinite_iff document]
    -- The integer becomes an answer, and a failure stays as it is.
    cases Endpoint.integerOf document response.content with
    | ok n => simp [Except.map]
    | error f => simp [Except.map]

/-- The failure that is not the client's own in a result, if there is one. -/
def foreignIn? {α : Type} : Except Failure α → Option Foreign
  | .error (.foreign f) => some f
  | _ => none

theorem eq_error_of_foreignIn? {α : Type} {result : Except Failure α} {f : Foreign}
    (hforeign : foreignIn? result = some f) : result = .error (.foreign f) := by
  unfold foreignIn? at hforeign
  split at hforeign
  · rw [Option.some.inj hforeign]
  · cases hforeign

/-- A counter that the node sends as null is not the document asked for. -/
theorem integer_unless_infinite_or_deep_of_null :
    let s : Session := answering [.plain] [.success "null"]
    ∃ mismatch, (s.perform (.counter "head" "tz1abc")).1 =
      .error (.undecodable .counter mismatch (Text.Utf8.encode "null".toList)) := by
  intro s
  let response : Response := ⟨200, [Text.Utf8.encode "null".toList], none⟩
  have hsent : requests (s.perform (.counter "head" "tz1abc")).2.trace ≠ requests s.trace := by
    decide +kernel
  have hdocument : (Operation.counter "head" "tz1abc").integerDocument? = some .counter := rfl
  have hreply : s.reply = .response response := rfl
  have hend :=
    integer_unless_infinite_or_deep hdocument s (by decide) hreply (by decide +kernel) hsent
  have hnone : (s.perform (.counter "head" "tz1abc")).1.isOk = false := by decide +kernel
  have hown : foreignIn? (s.perform (.counter "head" "tz1abc")).1 = none := by decide +kernel
  have hfinite :
      ¬∃ negative, Json.decode response.content = .ok (.double (.infinite negative)) := by
    rw [← hend.2]
    intro hforeign
    rw [hforeign] at hown
    cases hown
  rcases hend.1 (by decide +kernel) hfinite with ⟨n, hn⟩ | ⟨mismatch, hfail⟩
  · rw [hn] at hnone
    cases hnone
  · exact ⟨mismatch, hfail⟩

/-- A balance beyond all doubles, in a successful reply, for which there is neither an integer
nor a failure that says that it cannot be decoded. -/
theorem no_integer_of_number_beyond_doubles :
    let s : Session := answering [.plain] [.success "1e400"]
    let response : Response := ⟨200, [Text.Utf8.encode "1e400".toList], none⟩
    s.reply = .response response ∧ response.isSuccess s.client.config.strictErrors = true ∧
      requests (s.perform (.balance "head" "tz1abc")).2.trace ≠ requests s.trace ∧
      (s.perform (.balance "head" "tz1abc")).1 = .error (.foreign .infiniteInteger) ∧
      ¬((∃ n, (s.perform (.balance "head" "tz1abc")).1 = .ok (.integer n)) ∨
        ∃ mismatch, (s.perform (.balance "head" "tz1abc")).1 =
          .error (.undecodable .balance mismatch response.content)) := by
  intro s response
  have hfail : (s.perform (.balance "head" "tz1abc")).1 = .error (.foreign .infiniteInteger) :=
    eq_error_of_foreignIn? (by decide +kernel)
  refine ⟨rfl, by decide +kernel, by decide +kernel, hfail, ?_⟩
  rintro (⟨n, hn⟩ | ⟨mismatch, hundecodable⟩)
  · rw [hfail] at hn
    cases hn
  · rw [hfail] at hundecodable
    cases hundecodable

end Session

end TezosNode
