import TezosNode.Proofs.Client.Integer
import TezosNode.Proofs.Client.Lenient
import TezosNode.Proofs.Number.Denotation
import TezosNode.Proofs.Number.Truncation

set_option autoImplicit false

/-!
# Client: what answers mean

The document of a balance or a counter stands for an integer if it is a number with that
value or a string that is a numeral for it, and a status is what its field says.  The
reading of documents goes further: it makes integers of booleans and of fractions, breaks
down at infinite numbers, and finds a status in a field of any kind.  `Operation.Says` is
what documents mean and `Operation.Misreads` is the list of exceptions, with what comes of
each; apart from these an answer is what the document says, and a document that says
nothing is a failure.
-/

namespace TezosNode

/-! ## Integers of documents -/

namespace Json

/-- The integer that a value stands for: its own as a number, or the one that its numeral
denotes as a string. -/
inductive StandsFor : Json → Int → Prop
  | integer (n : Int) : StandsFor (.integer n) n
  | double {x : Binary64} {n : Int} (hx : x.value? = some (n : ℚ)) : StandsFor (.double x) n
  | string {s : String} {n : Int} (hs : Numeral.Denotes s.toList n) : StandsFor (.string s) n

/-- An integer that is had of a value is the one that it stands for, unless the value is a
boolean or a fraction. -/
theorem of_toInteger {v : Json} {n : Int} (hread : v.toInteger = .ok n) :
    v.StandsFor n ∨ (∃ b, v = .bool b ∧ n = if b = true then 1 else 0) ∨
      ∃ x q, v = .double x ∧ x.value? = some q ∧ (∀ k : ℤ, q ≠ k) ∧ n = towardZero q := by
  cases v with
  | null => cases hread
  | array items => cases hread
  | object fields => cases hread
  | bool b => exact .inr (.inl ⟨b, rfl, (Except.ok.inj hread).symm⟩)
  | integer m =>
    obtain rfl := Except.ok.inj hread
    exact .inl (.integer m)
  | string s =>
    change (Numeral.integer s.toList).mapError (IntegerFault.notNumeral s) = .ok n at hread
    cases hinteger : Numeral.integer s.toList with
    | error fault =>
      rw [hinteger] at hread
      cases hread
    | ok m =>
      rw [hinteger] at hread
      obtain rfl := Except.ok.inj hread
      exact .inl (.string (Numeral.denotes_of_integer hinteger))
  | double x =>
    unfold toInteger at hread
    dsimp only at hread
    rw [Binary64.truncate?_eq] at hread
    cases hvalue : x.value? with
    | none =>
      rw [hvalue] at hread
      cases hread
    | some q =>
      rw [hvalue] at hread
      obtain rfl := Except.ok.inj hread
      by_cases hfraction : ∀ k : ℤ, q ≠ k
      · exact .inr (.inr ⟨x, q, rfl, hvalue, hfraction, rfl⟩)
      · obtain ⟨k, hk⟩ := not_forall.1 hfraction
        rw [not_not.1 hk] at hvalue ⊢
        rw [towardZero_intCast]
        exact .inl (.double hvalue)

end Json

/-! ## Answers -/

namespace Operation

/-- The document of an operation that asks for an integer or a status. -/
def scalarDocument? : Operation → Option Document
  | .balance _ _ => some .balance
  | .counter _ _ => some .counter
  | .isBootstrapped => some .bootstrapStatus
  | _ => none

/-- What a document says as an answer to an operation. -/
inductive Says : Operation → Json → Answer → Prop
  | integer {op : Operation} {document : Document} {v : Json} {n : Int}
      (hop : op.integerDocument? = some document) (hv : v.StandsFor n) :
      Says op v (.integer n)
  | status {v : Json} {b : Bool} (hv : v.get? "bootstrapped" = some (.bool b)) :
      Says .isBootstrapped v (.status b)

/-- The documents that are taken for something else than they say, and the results. -/
inductive Misreads : Operation → Json → Except Failure Answer → Prop
  /-- a boolean counts as zero or one -/
  | boolean {op : Operation} {document : Document} (b : Bool)
      (hop : op.integerDocument? = some document) :
      Misreads op (.bool b) (.ok (.integer (if b = true then 1 else 0)))
  /-- a fraction is cut off -/
  | fraction {op : Operation} {document : Document} {x : Binary64} {q : ℚ}
      (hop : op.integerDocument? = some document) (hx : x.value? = some q)
      (hfraction : ∀ k : ℤ, q ≠ k) : Misreads op (.double x) (.ok (.integer (towardZero q)))
  /-- an infinite number is a failure that is not the client's own -/
  | infinite {op : Operation} {document : Document} (negative : Bool)
      (hop : op.integerDocument? = some document) :
      Misreads op (.double (.infinite negative)) (.error (.foreign .infiniteInteger))
  /-- a field of another kind is a status, too -/
  | status {v w : Json} (hfield : v.get? "bootstrapped" = some w) (hkind : ∀ b, w ≠ .bool b) :
      Misreads .isBootstrapped v (.ok (.status w.isTruthy))

variable {op : Operation} {document : Document} {body : Bytes} {v : Json}

/-- Such an operation asks for an integer or for the status. -/
theorem cases_of_scalarDocument (hop : op.scalarDocument? = some document) :
    op.integerDocument? = some document ∨ op = .isBootstrapped ∧ document = .bootstrapStatus := by
  cases op with
  | balance blockHash address => exact .inl hop
  | counter blockHash address => exact .inl hop
  | isBootstrapped => exact .inr ⟨rfl, (Option.some.inj hop).symm⟩
  | _ => cases hop

/-- Such an operation is one inquiry. -/
theorem exists_inquiry_of_scalarDocument (hop : op.scalarDocument? = some document) :
    ∃ q, op.inquiry? = some q := by
  rcases cases_of_scalarDocument hop with hinteger | ⟨rfl, -⟩
  · obtain ⟨⟨path, hpath⟩, -⟩ := op.exists_of_integerDocument hinteger
    exact ⟨_, hpath⟩
  · exact ⟨_, rfl⟩

/-- The operation for the status makes of a document what counts as true in its field. -/
theorem read_isBootstrapped (hdecode : Json.decode body = .ok v) :
    Operation.isBootstrapped.read body = (match v.get? "bootstrapped" with
      | some w => .ok (.status w.isTruthy)
      | none => .error (.undecodable .bootstrapStatus (.noStatus v) body)) := by
  change (Endpoint.statusOf body).map Answer.status = _
  rw [Endpoint.statusOf, Endpoint.jsonOf, hdecode]
  change Except.map _ (match v.get? "bootstrapped" with
    | some w => .ok w.isTruthy
    | none => .error (Failure.undecodable .bootstrapStatus (.noStatus v) body)) = _
  cases v.get? "bootstrapped" with
  | some w => rfl
  | none => rfl

/-- A document is needed for an answer. -/
theorem exists_decode_of_read (hop : op.scalarDocument? = some document) {answer : Answer}
    (hread : op.read body = .ok answer) : ∃ v, Json.decode body = .ok v := by
  cases hdecode : Json.decode body with
  | ok v => exact ⟨v, rfl⟩
  | error fault =>
    rcases cases_of_scalarDocument hop with hinteger | ⟨rfl, -⟩
    · rw [(op.exists_of_integerDocument hinteger).2, Endpoint.integerOf, Endpoint.jsonOf,
        hdecode] at hread
      cases hread
    · change (Endpoint.statusOf body).map Answer.status = _ at hread
      rw [Endpoint.statusOf, Endpoint.jsonOf, hdecode] at hread
      cases hread

/-- What comes of a document: what it says, or it is misread, or it cannot be decoded. -/
theorem read_cases (hop : op.scalarDocument? = some document)
    (hdecode : Json.decode body = .ok v) :
    (∃ answer, op.read body = .ok answer ∧ op.Says v answer) ∨
      op.Misreads v (op.read body) ∨
      ∃ mismatch, op.read body = .error (.undecodable document mismatch body) := by
  rcases cases_of_scalarDocument hop with hinteger | ⟨rfl, rfl⟩
  · rw [(op.exists_of_integerDocument hinteger).2]
    cases hread : v.toInteger with
    | ok n =>
      rw [Endpoint.integerOf_of_toInteger hdecode hread]
      rcases Json.of_toInteger hread with hv | ⟨b, rfl, rfl⟩ | ⟨x, q, rfl, hx, hfraction, rfl⟩
      · exact .inl ⟨_, rfl, .integer hinteger hv⟩
      · exact .inr (.inl (.boolean b hinteger))
      · exact .inr (.inl (.fraction hinteger hx hfraction))
    | error fault =>
      by_cases hfault : fault = .infinite
      · subst hfault
        obtain ⟨negative, rfl⟩ := Json.toInteger_eq_infinite.1 hread
        rw [(Endpoint.integerOf_eq_infinite_iff document body).2 ⟨negative, hdecode⟩]
        exact .inr (.inl (.infinite negative hinteger))
      · rw [Endpoint.integerOf_of_toInteger_error hdecode hread hfault]
        exact .inr (.inr ⟨_, rfl⟩)
  · rw [read_isBootstrapped hdecode]
    cases hfield : v.get? "bootstrapped" with
    | none => exact .inr (.inr ⟨_, rfl⟩)
    | some w =>
      by_cases hkind : ∀ b, w ≠ .bool b
      · exact .inr (.inl (.status hfield hkind))
      · obtain ⟨b, hb⟩ := not_forall.1 hkind
        obtain rfl := not_not.1 hb
        exact .inl ⟨_, rfl, .status hfield⟩

/-- What comes of a document that is misread. -/
theorem read_of_misreads {result : Except Failure Answer} (hmisread : op.Misreads v result)
    (hdecode : Json.decode body = .ok v) : op.read body = result := by
  cases hmisread with
  | boolean b hop =>
    rw [(op.exists_of_integerDocument hop).2, Endpoint.integerOf_of_toInteger hdecode rfl]
    rfl
  | @fraction _ _ x q hop hx hfraction =>
    have hinteger : (Json.double x).toInteger = .ok (towardZero q) := by
      rw [Json.toInteger, Binary64.truncate?_eq, hx]
      rfl
    rw [(op.exists_of_integerDocument hop).2, Endpoint.integerOf_of_toInteger hdecode hinteger]
    rfl
  | @infinite _ document negative hop =>
    have hinfinite := (Endpoint.integerOf_eq_infinite_iff document body).2 ⟨negative, hdecode⟩
    rw [(op.exists_of_integerDocument hop).2, hinfinite]
    rfl
  | status hfield hkind => rw [read_isBootstrapped hdecode, hfield]

/-- A document that is misread does not say the answer that comes of it. -/
theorem Misreads.not_says {answer : Answer} (hmisread : op.Misreads v (.ok answer)) :
    ¬ op.Says v answer := by
  intro hsays
  cases hmisread with
  | boolean b hop =>
    cases hsays with
    | integer _ hv => cases hv
  | fraction hop hx hfraction =>
    cases hsays with
    | integer _ hv =>
      cases hv with
      | double hx' =>
        rw [hx] at hx'
        exact hfraction _ (Option.some.inj hx')
  | status hfield hkind =>
    cases hsays with
    | status hv =>
      rw [hfield] at hv
      exact hkind _ (Option.some.inj hv)

/-- A document that is misread as a failure says nothing, and the failure is not that it cannot
be decoded. -/
theorem Misreads.of_error {f : Failure} (hmisread : op.Misreads v (.error f)) :
    f = .foreign .infiniteInteger ∧ ¬∃ answer, op.Says v answer := by
  cases hmisread with
  | infinite negative hop =>
    refine ⟨rfl, ?_⟩
    rintro ⟨answer, hsays⟩
    cases hsays with
    | integer _ hv =>
      cases hv with
      | double hx => cases hx
    | status hv => cases hv

end Operation

/-! ## Operations of a session -/

namespace Session

/-- What comes of an operation for an integer or a status.  An answer is what the document of
the reply says, unless the document is misread.  With a clock of 64 bits and a successful reply
that has a document, a document that is misread gives the result listed for it; and it is just
where the document is not misread that every answer is what the document says and that a
document that says nothing is one that cannot be decoded. -/
theorem answer_said_unless_misread {op : Operation} {document : Document}
    (hop : op.scalarDocument? = some document) (s : Session) :
    (∀ answer, (s.perform op).1 = .ok answer →
      ∃ response v, s.reply = .response response ∧ Json.decode response.content = .ok v ∧
        (op.Says v answer ∨ op.Misreads v (.ok answer))) ∧
    ∀ (response : Response) (v : Json), s.ClockInRange → s.reply = .response response →
      response.isSuccess s.client.config.strictErrors = true →
      requests (s.perform op).2.trace ≠ requests s.trace →
      Json.decode response.content = .ok v →
      (∀ result, op.Misreads v result → (s.perform op).1 = result) ∧
      ((¬∃ result, op.Misreads v result) ↔
        (∀ answer, (s.perform op).1 = .ok answer → op.Says v answer) ∧
        ((¬∃ answer, op.Says v answer) →
          ∃ mismatch, (s.perform op).1 = .error (.undecodable document mismatch
            response.content))) := by
  obtain ⟨q, hinquiry⟩ := Operation.exists_inquiry_of_scalarDocument hop
  refine ⟨?_, ?_⟩
  · intro answer hanswer
    rw [perform_of_inquiry hinquiry] at hanswer
    have hpair : ((q.call.runIn s).1.bind op.read, (q.call.runIn s).2) =
        (.ok answer, (q.call.runIn s).2) := Prod.ext hanswer rfl
    obtain ⟨r, response, hanswered, hread⟩ := Inquiry.answered_of_read_ok hpair
    obtain ⟨v, hdecode⟩ := Operation.exists_decode_of_read hop hread
    refine ⟨response, v, hanswered.reply_eq, hdecode, ?_⟩
    have hcases := Operation.read_cases hop hdecode
    rw [hread] at hcases
    rcases hcases with ⟨other, heq, hsays⟩ | hmisread | ⟨mismatch, hfail⟩
    · obtain rfl := Except.ok.inj heq
      exact .inl hsays
    · exact .inr hmisread
    · cases hfail
  · intro response v hclock hreply hsuccess hsent hdecode
    rw [perform_of_success hinquiry hclock hreply hsuccess hsent]
    refine ⟨fun result hmisread => Operation.read_of_misreads hmisread hdecode, ?_⟩
    constructor
    · intro hnone
      rcases Operation.read_cases hop hdecode with ⟨answer, hread, hsays⟩ | hmisread |
        ⟨mismatch, hfail⟩
      · rw [hread]
        refine ⟨fun other heq => ?_, fun hsilent => absurd ⟨answer, hsays⟩ hsilent⟩
        obtain rfl := Except.ok.inj heq
        exact hsays
      · exact absurd ⟨_, hmisread⟩ hnone
      · rw [hfail]
        exact ⟨fun _ heq => (nomatch heq), fun _ => ⟨mismatch, rfl⟩⟩
    · rintro ⟨hsaid, hundecodable⟩ ⟨result, hmisread⟩
      have hread := Operation.read_of_misreads hmisread hdecode
      cases result with
      | ok answer => exact hmisread.not_says (hsaid answer hread)
      | error f =>
        obtain ⟨rfl, hsilent⟩ := hmisread.of_error
        obtain ⟨mismatch, hfail⟩ := hundecodable hsilent
        rw [hread] at hfail
        cases hfail

/-- A counter that the node sends as true is misread as one. -/
theorem answer_said_unless_misread_of_true :
    let s : Session := answering [.plain] [.success "true"]
    (s.perform (.counter "head" "tz1abc")).1 = .ok (.integer 1) := by
  intro s
  let response : Response := ⟨200, [Text.Utf8.encode "true".toList], none⟩
  have hdecode : Json.decode (Text.Utf8.encode "true".toList) = .ok (.bool true) :=
    (Json.decode_encode (by decide) (by decide)).trans rfl
  have hsent : requests (s.perform (.counter "head" "tz1abc")).2.trace ≠ requests s.trace := by
    decide +kernel
  have hdocument : (Operation.counter "head" "tz1abc").scalarDocument? = some .counter := rfl
  exact ((answer_said_unless_misread hdocument s).2 response _ (by decide) rfl (by decide +kernel)
    hsent hdecode).1 _ (.boolean true rfl)

/-- The integer in a result, if there is one. -/
def integerIn? : Except Failure Answer → Option Int
  | .ok (.integer n) => some n
  | _ => none

theorem eq_ok_of_integerIn? {result : Except Failure Answer} {n : Int}
    (hinteger : integerIn? result = some n) : result = .ok (.integer n) := by
  unfold integerIn? at hinteger
  split at hinteger
  · rw [Option.some.inj hinteger]
  · cases hinteger

/-- A balance of one and a half, in a successful reply, is returned as one, which the document
does not say. -/
theorem integer_of_fraction :
    let s : Session := answering [.plain] [.success "1.5"]
    let x : Binary64 := .finite false 6755399441055744 (-52)
    s.reply = .response ⟨200, [Text.Utf8.encode "1.5".toList], none⟩ ∧
      Json.decode (Text.Utf8.encode "1.5".toList) = .ok (.double x) ∧ x.value? = some (3 / 2) ∧
      (s.perform (.balance "head" "tz1abc")).1 = .ok (.integer 1) ∧
      ¬ (Operation.balance "head" "tz1abc").Says (.double x) (.integer 1) := by
  intro s x
  have hvalue : x.value? = some (3 / 2) := by
    simp only [x, Binary64.value?]
    norm_num
  have hread : Json.parse "1.5".toList = .ok (.double x) := by
    have hdouble : Binary64.ofDecimal false 15 (-1) = x := by decide +kernel
    rw [← hdouble]
    rfl
  refine ⟨rfl, (Json.decode_encode (by decide) (by decide)).trans hread, hvalue,
    eq_ok_of_integerIn? (by decide +kernel), ?_⟩
  rintro (⟨-, hv⟩ | -)
  cases hv with
  | double hx =>
    rw [hvalue] at hx
    have hone : (3 / 2 : ℚ) = (1 : ℤ) := Option.some.inj hx
    norm_num at hone

end Session

end TezosNode
