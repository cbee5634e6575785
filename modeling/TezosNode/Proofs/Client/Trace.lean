import TezosNode.Proofs.Client.Keeping

set_option autoImplicit false

/-!
# Client: what runs add to the trace

A property of events that goes through when events come after one another holds of all that a run
adds to the trace of a session, if it holds of what an exchange adds, of the records of a
bootstrap and of the closing of idle connections: nothing else is ever added.
-/

namespace TezosNode

/-- A property of events that runs have if their parts do. -/
structure RunProperty (p : List Event → Prop) : Prop where
  nil : p []
  append {events more : List Event} (h : p events) (h' : p more) : p (events ++ more)
  exchange {s aside : Session} {r : Request} {result : Except Failure Bytes} {events : List Event}
    (h : Exchange s r result aside events) : p events
  setback (s : Session) (step : BootstrapStep) {details : List (String × Json)}
    (hdetails : ∀ f ∈ details, ∃ text, f.2 = .string text) (f : Failure) :
    p (s.setback step details f)
  readiness (s : Session) (head : Block) : p [s.readiness head]
  idleClosed (transport : Nat) : p [.idleClosed transport]

/-- A session goes on to another by events with a property. -/
def Session.Grows (p : List Event → Prop) (s t : Session) : Prop :=
  ∃ events, t.trace = s.trace ++ events ∧ p events

namespace RunProperty

variable {p : List Event → Prop} {s t u : Session}

theorem grows_of_trace_eq (h : RunProperty p) (htrace : t.trace = s.trace) : s.Grows p t :=
  ⟨[], by rw [htrace, List.append_nil], h.nil⟩

theorem trans (h : RunProperty p) (hfirst : s.Grows p t) (hsecond : t.Grows p u) :
    s.Grows p u := by
  obtain ⟨events, htrace, hevents⟩ := hfirst
  obtain ⟨more, htrace', hmore⟩ := hsecond
  exact ⟨events ++ more, by rw [htrace', htrace, List.append_assoc], h.append hevents hmore⟩

theorem note (h : RunProperty p) (hfirst : s.Grows p t) {events : List Event}
    (hevents : p events) : s.Grows p (t.note events) :=
  h.trans hfirst ⟨events, rfl, hevents⟩

/-- A call adds nothing, or what an exchange adds. -/
theorem grows_call (h : RunProperty p) (q : Inquiry) (s : Session) :
    s.Grows p (q.call.runIn s).2 := by
  rcases q.call_cases s with ⟨f, _, hfail⟩ | ⟨r, aside, events, _, hexchange, hafter⟩
  · rw [hfail]
    exact h.grows_of_trace_eq rfl
  · refine ⟨events, ?_, h.exchange hexchange⟩
    rw [hafter, Session.note_trace, hexchange.trace_eq]

theorem grows_bootstrap (h : RunProperty p) (s : Session) :
    s.Grows p (Action.bootstrap.runIn s).2 := by
  have hrun := Action.bootstrapRun s
  generalize Action.bootstrap.runIn s = run at hrun ⊢
  obtain ⟨result, after⟩ := run
  have hfirst := h.grows_call Inquiry.head s
  dsimp only at hrun ⊢
  cases hrun with
  | @headFailed f t hhead =>
    rw [← Endpoint.after_head hhead] at hfirst
    exact h.note hfirst (h.setback t .head (List.forall_mem_nil _) f)
  | @constantsFailed head f t u hhead hconstants =>
    have hsecond := h.grows_call (Inquiry.constants head.hash) t
    rw [← Endpoint.after_head hhead] at hfirst
    rw [← Endpoint.after_constants hconstants] at hsecond
    refine h.note (h.trans hfirst hsecond) (h.setback u .constants ?_ f)
    exact List.forall_mem_singleton.2 ⟨head.hash, rfl⟩
  | @completed head c t u hhead hconstants =>
    have hsecond := h.grows_call (Inquiry.constants head.hash) t
    rw [← Endpoint.after_head hhead] at hfirst
    rw [← Endpoint.after_constants hconstants] at hsecond
    have hkept : u.Grows p (u.setConstants c) := h.grows_of_trace_eq rfl
    exact h.note (h.trans (h.trans hfirst hsecond) hkept) (h.readiness u head)

theorem grows_perform (h : RunProperty p) (s : Session) (op : Operation) :
    s.Grows p (s.perform op).2 := by
  cases hop : op.inquiry? with
  | some q =>
    rw [Session.perform_of_inquiry hop]
    exact h.grows_call q s
  | none =>
    cases op with
    | bootstrap =>
      rw [Session.perform_bootstrap]
      exact h.grows_bootstrap s
    | useTransport n => exact h.grows_of_trace_eq rfl
    | installTransport t => exact h.grows_of_trace_eq rfl
    | closeIdle => exact ⟨[.idleClosed s.client.transport], rfl, h.idleClosed _⟩
    | closeTransport => exact h.grows_of_trace_eq rfl
    | setConstants c => exact h.grows_of_trace_eq rfl
    | _ => cases hop

/-- All that a run adds to the trace has the property. -/
theorem grows_performAll (h : RunProperty p) (s : Session) (ops : List Operation) :
    s.Grows p (s.performAll ops) := by
  induction ops generalizing s with
  | nil => exact h.grows_of_trace_eq rfl
  | cons op ops ih => exact h.trans (h.grows_perform s op) (ih (s.perform op).2)

end RunProperty

end TezosNode
