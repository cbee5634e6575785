import TezosNode.Proofs.Client.Trace
import TezosNode.Proofs.Log.Configuration
import TezosNode.Proofs.Log.JsonLine

set_option autoImplicit false

/-!
# Client: JSON lines of its log

Whatever a caller asks for and whatever the node sends, a client's records have flat values only:
texts, the numbers of a response and the duration of a call.  So each of them is one JSON line, in
which every value is found again.  It is enough to look at the records of an exchange and at those
of a bootstrap; the others come of these.
-/

namespace TezosNode

open Log.Record (IsCarried)

/-! ## Values of records -/

/-- Whether status and length of a response have no more digits than are read of an integer: a
status of HTTP has three digits, and the length of what fits into a memory some twenty. -/
structure Response.HasShortNumbers (r : Response) : Prop where
  status : Numeral.size r.status ≤ Numeral.maxDigits
  length : Numeral.size r.content.length ≤ Numeral.maxDigits

instance (r : Response) : Decidable r.HasShortNumbers :=
  decidable_of_iff (_ ∧ _) ⟨fun h => ⟨h.1, h.2⟩, fun h => ⟨h.status, h.length⟩⟩

theorem isCarried_string (name text : String) : IsCarried (name, .string text) :=
  .inr ⟨.string text, .inr trivial⟩

theorem isCarried_integer (name : String) {n : Int} (hfew : Numeral.size n ≤ Numeral.maxDigits) :
    IsCarried (name, .integer n) :=
  .inr ⟨.integer hfew, .inr trivial⟩

theorem isCarried_of_string {f : String × Json} (h : ∃ text, f.2 = .string text) :
    IsCarried f := by
  obtain ⟨name, v⟩ := f
  obtain ⟨text, rfl⟩ := h
  exact isCarried_string name text

theorem Request.isCarried_details (r : Request) : ∀ f ∈ r.details, IsCarried f := by
  simp [details, isCarried_string]

theorem Request.isCarried_opening (r : Request) : ∀ f ∈ r.opening, IsCarried f := by
  simp [opening, details, isCarried_string]

theorem Request.isCarried_closing (r : Request) {response : Response}
    (hshort : response.HasShortNumbers) (duration : Binary64) :
    ∀ f ∈ r.closing response duration, IsCarried f := by
  have hduration : IsCarried ("duration_ms", .double duration) :=
    .inr ⟨.double duration, .inl rfl⟩
  simp [closing, details, Response.details, isCarried_string,
    isCarried_integer _ hshort.status, isCarried_integer _ hshort.length, hduration]

theorem Failure.isCarried_details (f : Failure) : ∀ g ∈ f.details, IsCarried g := by
  cases f <;> simp [details, isCarried_string]

theorem Failure.isCarried_report (f : Failure) {details : List (String × Json)}
    (hdetails : ∀ g ∈ details, IsCarried g) : ∀ g ∈ f.report details, IsCarried g := by
  rw [report]
  refine List.forall_mem_append.2 ⟨hdetails, List.forall_mem_cons.2 ⟨?_, f.isCarried_details⟩⟩
  exact isCarried_string _ _

/-- A record of the client is flat if the values of its call are. -/
theorem Client.isFlat_recordOf (c : Client) {level : Log.Level} {event : String}
    {fields : List (String × Json)} (hfields : ∀ f ∈ fields, IsCarried f) :
    (c.recordOf level event fields).IsFlat where
  nodup := Json.nodup_updateFields (Json.nodup_updateFields List.nodup_nil)
  carried f hmem := by
    rcases Json.mem_of_mem_updateFields hmem with hbound | hcall
    · rcases Json.mem_of_mem_updateFields hbound with hnone | hbound
      · cases hnone
      · have hbound : f = ("component", .string "rpc") ∨ f = ("host", .string c.host) := by
          simpa using hbound
        rcases hbound with rfl | rfl
        · exact isCarried_string _ _
        · exact isCarried_string _ _
    · exact hfields f hcall

/-! ## Events -/

/-- Whether an event is no record, or a flat one. -/
def Event.IsFlat : Event → Prop
  | .logged r => r.IsFlat
  | _ => True

section Plain

variable (t n : Nat) (request : Request) (response : Response)

@[simp] theorem Event.isFlat_sent : (Event.sent t request).IsFlat := trivial
@[simp] theorem Event.isFlat_declined : (Event.declined t request).IsFlat := trivial
@[simp] theorem Event.isFlat_received : (Event.received t n response).IsFlat := trivial
@[simp] theorem Event.isFlat_released : (Event.released n).IsFlat := trivial
@[simp] theorem Event.isFlat_idleClosed : (Event.idleClosed t).IsFlat := trivial

end Plain

namespace Session

theorem isFlat_opening (s : Session) (r : Request) : (s.opening r).IsFlat :=
  s.client.isFlat_recordOf r.isCarried_opening

theorem isFlat_completion (s : Session) {details : List (String × Json)}
    (hdetails : ∀ f ∈ details, IsCarried f) : (s.completion details).IsFlat :=
  s.client.isFlat_recordOf hdetails

theorem isFlat_complaint (s : Session) (f : Failure) {details : List (String × Json)}
    (hdetails : ∀ g ∈ details, IsCarried g) : (s.complaint f details).IsFlat :=
  s.client.isFlat_recordOf (f.isCarried_report hdetails)

/-- The level of the head stands under a name that the line replaces. -/
theorem isFlat_readiness (s : Session) (head : Block) : (s.readiness head).IsFlat := by
  refine s.client.isFlat_recordOf (List.forall_mem_cons.2 ⟨isCarried_string _ _, ?_⟩)
  exact List.forall_mem_singleton.2 (.inl (by simp [Log.Record.headNames]))

theorem isFlat_of_mem_setback (s : Session) (step : BootstrapStep)
    {details : List (String × Json)} (hdetails : ∀ f ∈ details, ∃ text, f.2 = .string text)
    (f : Failure) : ∀ e ∈ s.setback step details f, e.IsFlat := by
  unfold setback
  split
  case isFalse => exact List.forall_mem_nil _
  case isTrue =>
    refine List.forall_mem_singleton.2 (s.client.isFlat_recordOf ?_)
    rw [BootstrapStep.report]
    refine List.forall_mem_append.2 ⟨List.forall_mem_cons.2 ⟨isCarried_string _ _, ?_⟩, ?_⟩
    · exact fun g hmem => isCarried_of_string (hdetails g hmem)
    · exact List.forall_mem_singleton.2 (isCarried_string _ _)

end Session

/-- Whether an event is no response, or one with short numbers. -/
def Event.HasShortNumbers : Event → Prop
  | .received _ _ response => response.HasShortNumbers
  | _ => True

instance (e : Event) : Decidable e.HasShortNumbers :=
  match e with
  | .received _ _ response => inferInstanceAs (Decidable response.HasShortNumbers)
  | .sent _ _ | .declined _ _ | .released _ | .idleClosed _ | .logged _ => .isTrue trivial

/-- What an exchange records is flat. -/
theorem Exchange.isFlat_of_mem {s aside : Session} {r : Request} {result : Except Failure Bytes}
    {events : List Event} (h : Exchange s r result aside events)
    (hshort : ∀ e ∈ events, e.HasShortNumbers) : ∀ e ∈ events, e.IsFlat := by
  have hopening := s.isFlat_opening r
  have hcomplaint := fun f => s.isFlat_complaint f r.isCarried_details
  cases h with
  | declined => simp [hopening]
  | refused => simp [hopening, hcomplaint]
  | aborted => simp [hopening]
  | brokenOff => simp [hopening, hcomplaint]
  | interrupted => simp [hopening]
  | unmeasured => simp [hopening]
  | tooDeep => simp [hopening]
  | @rejected response duration f =>
    have hnumbers : response.HasShortNumbers :=
      hshort (.received s.client.transport s.nextNumber response) (by simp)
    simp [hopening, s.isFlat_complaint f (r.isCarried_closing hnumbers duration)]
  | @completed response duration =>
    have hnumbers : response.HasShortNumbers :=
      hshort (.received s.client.transport s.nextNumber response) (by simp)
    simp [hopening, s.isFlat_completion (r.isCarried_closing hnumbers duration)]

/-- All records of a run are flat if the responses have short numbers. -/
theorem runProperty_isFlat :
    RunProperty fun events =>
      (∀ e ∈ events, e.HasShortNumbers) → ∀ e ∈ events, e.IsFlat where
  nil _ := List.forall_mem_nil _
  append h h' hshort := by
    obtain ⟨hfirst, hsecond⟩ := List.forall_mem_append.1 hshort
    exact List.forall_mem_append.2 ⟨h hfirst, h' hsecond⟩
  exchange h := h.isFlat_of_mem
  setback s step _ hdetails f _ := s.isFlat_of_mem_setback step hdetails f
  readiness s head _ := List.forall_mem_singleton.2 (s.isFlat_readiness head)
  idleClosed _ _ := List.forall_mem_singleton.2 trivial

theorem Session.mem_records_iff (events : List Event) (r : Log.Record) :
    r ∈ records events ↔ .logged r ∈ events := by
  unfold records
  rw [List.mem_filterMap]
  constructor
  · rintro ⟨e, hmem, he⟩
    cases e <;> simp_all
  · intro hmem
    exact ⟨_, hmem, rfl⟩

/-! ## Lines -/

namespace Session

/-- The names of the values of calls, but for the duration. -/
def callNames : List String :=
  ["component", "host", "method", "path", "query", "status_code", "bytes", "error_class", "error",
    "kind"]

/-- A session whose node answers once and is then out of reach, in words of two lines. -/
def answeringOnce : Session :=
  .answering [.plain] [.success "x", .refused ⟨.connect, "no\nroute"⟩]

end Session

end TezosNode
