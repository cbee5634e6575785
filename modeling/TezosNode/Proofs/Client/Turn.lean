import TezosNode.Proofs.Client.Bootstrap

set_option autoImplicit false

/-!
# Client: turns of the caller

Everything that a caller may do with a session is a conversation of the client or one
change of the session.  `Session.Step` lists both, and `exists_step` proves the list
complete.  What holds of whole runs is proved from it by induction on the operations.
-/

namespace TezosNode

/-! ## Conversations of bootstraps -/

/-- The log records of a failed step of a bootstrap. -/
theorem Conversation.setback (s : Session) (step : BootstrapStep)
    (details : List (String × Json)) (f : Failure) :
    Conversation s (s.setback step details f) (s.note (s.setback step details f)) := by
  unfold Session.setback
  cases f.isOwn with
  | true => exact .logged s _
  | false =>
    rw [if_neg Bool.false_ne_true, Session.note_nil]
    exact .rest s

/-- A bootstrap is a conversation with two attempts at most, and with a second one only
once there is a head. -/
theorem BootstrapRun.conversation {s t : Session} {result : Except Failure Constants}
    (h : BootstrapRun s result t) :
    ∃ events, Conversation s events t ∧ (Session.attempts events).length ≤ 2 ∧
      (2 ≤ (Session.attempts events).length →
        ∃ head, (Endpoint.head.runIn s).1 = .ok head) := by
  cases h with
  | @headFailed f t hhead =>
    obtain ⟨events, hfirst, hone⟩ := Inquiry.head.conversation s
    rw [← Endpoint.after_head hhead] at hfirst
    refine ⟨_, hfirst.followed (.setback t .head [] f), ?_⟩
    rw [Session.attempts_append, Session.attempts_setback, List.append_nil]
    exact ⟨by omega, fun htwo => by omega⟩
  | @constantsFailed head f t u hhead hconstants =>
    obtain ⟨events, hfirst, hone⟩ := Inquiry.head.conversation s
    rw [← Endpoint.after_head hhead] at hfirst
    obtain ⟨more, hsecond, hone'⟩ := (Inquiry.constants head.hash).conversation t
    rw [← Endpoint.after_constants hconstants] at hsecond
    refine ⟨_, (hfirst.followed hsecond).followed (.setback u .constants _ f), ?_⟩
    rw [Session.attempts_append, Session.attempts_append, Session.attempts_setback,
      List.append_nil, List.length_append]
    exact ⟨by omega, fun _ => ⟨head, by rw [hhead]⟩⟩
  | @completed head c t u hhead hconstants =>
    obtain ⟨events, hfirst, hone⟩ := Inquiry.head.conversation s
    rw [← Endpoint.after_head hhead] at hfirst
    obtain ⟨more, hsecond, hone'⟩ := (Inquiry.constants head.hash).conversation t
    rw [← Endpoint.after_constants hconstants] at hsecond
    refine ⟨_, ((hfirst.followed hsecond).followed (.kept u c)).followed
      (.logged (u.setConstants c) _), ?_⟩
    have hrecord (record : Log.Record) : Session.attempts [.logged record] = [] := rfl
    rw [List.append_nil, Session.attempts_append, Session.attempts_append, hrecord,
      List.append_nil, List.length_append]
    exact ⟨by omega, fun _ => ⟨head, by rw [hhead]⟩⟩

/-! ## Operations -/

/-- How many attempts to send a request an operation makes at most. -/
def Operation.attemptLimit : Operation → Nat
  | .bootstrap => 2
  | .useTransport _ | .installTransport _ | .closeIdle | .closeTransport | .setConstants _ => 0
  | _ => 1

/-- Everything that an operation can do to a session, and the events of it. -/
inductive Session.Step (s : Session) : Operation → List Event → Session → Prop
  /-- the client asks the node for one document -/
  | inquired {op : Operation} {q : Inquiry} {events : List Event} {t : Session}
      (hop : op.inquiry? = some q) (h : Conversation s events t)
      (hone : (attempts events).length ≤ 1) : Step s op events t
  /-- the client asks for the head and for the constants there -/
  | bootstrapped {events : List Event} {t : Session} (h : Conversation s events t)
      (htwo : (attempts events).length ≤ 2)
      (hhead : 2 ≤ (attempts events).length → ∃ head, (Endpoint.head.runIn s).1 = .ok head) :
      Step s .bootstrap events t
  | used (n : Nat) : Step s (.useTransport n) [] (s.useTransport n)
  | installed (t : Transport) : Step s (.installTransport t) [] (s.installTransport t)
  | idleClosed :
      Step s .closeIdle [.idleClosed s.client.transport] (s.closeIdle s.client.transport)
  | closed : Step s .closeTransport [] s.closeTransport
  | constantsSet (c : Constants) : Step s (.setConstants c) [] (s.setConstants c)

namespace Session

/-- An operation for one document leaves what its call leaves. -/
theorem Step.of_inquiry {op : Operation} {q : Inquiry} (hop : op.inquiry? = some q)
    (s : Session) : ∃ events, Step s op events (s.perform op).2 := by
  obtain ⟨events, h, hone⟩ := q.conversation s
  refine ⟨events, .inquired hop ?_ hone⟩
  rw [perform_of_inquiry hop]
  exact h

/-- Every operation takes a step. -/
theorem exists_step (s : Session) (op : Operation) :
    ∃ events, Step s op events (s.perform op).2 := by
  cases hop : op.inquiry? with
  | some q => exact Step.of_inquiry hop s
  | none =>
    cases op with
    | bootstrap =>
      obtain ⟨events, h, htwo, hhead⟩ := (Action.bootstrapRun s).conversation
      refine ⟨events, .bootstrapped ?_ htwo hhead⟩
      have hafter : (s.perform .bootstrap).2 = (Action.bootstrap.runIn s).2 := by
        unfold Session.perform
        exact congrArg Prod.snd (Action.runIn_map Answer.constants Action.bootstrap s)
      rw [hafter]
      exact h
    | useTransport n => exact ⟨[], .used n⟩
    | installTransport t => exact ⟨[], .installed t⟩
    | closeIdle => exact ⟨_, .idleClosed⟩
    | closeTransport => exact ⟨[], .closed⟩
    | setConstants c => exact ⟨[], .constantsSet c⟩
    | _ => cases hop

namespace Step

variable {s t : Session} {op : Operation} {events : List Event}

/-- The trace grows by the events of a step. -/
theorem trace_eq (h : Step s op events t) : t.trace = s.trace ++ events := by
  cases h with
  | inquired _ h => exact h.trace_eq
  | bootstrapped h => exact h.trace_eq
  | used n => simp [useTransport]
  | installed t => simp [installTransport, useTransport]
  | idleClosed => rfl
  | closed => simp [closeTransport]
  | constantsSet c => simp [setConstants]

/-- The client keeps its settings. -/
theorem config_eq (h : Step s op events t) : t.client.config = s.client.config := by
  cases h with
  | inquired _ h => exact h.config_eq
  | bootstrapped h => exact h.config_eq
  | used n => rfl
  | installed t => rfl
  | idleClosed => rfl
  | closed => rfl
  | constantsSet c => rfl

/-- A clock in range stays in range. -/
theorem clockInRange (h : Step s op events t) (hclock : s.ClockInRange) : t.ClockInRange := by
  cases h with
  | inquired _ h => exact h.clockInRange hclock
  | bootstrapped h => exact h.clockInRange hclock
  | used n => exact hclock
  | installed t => exact hclock
  | idleClosed => exact hclock
  | closed => exact hclock
  | constantsSet c => exact hclock

end Step

end Session

end TezosNode
