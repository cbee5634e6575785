import TezosNode.Proofs.Client.Release

set_option autoImplicit false

/-!
# Client: idle connections

An account of the transports over a whole run.  A client uses the transport that has been
installed last and no other; it closes the idle connections of a transport once for every
success that came through it; and closing them closes what is idle at that moment, once.

Between two operations the connections of a transport go on as they like, so that a run
is a list of turns, each with what has become of the transports since the turn before.
-/

namespace TezosNode

/-! ## Turns -/

/-- What has become of the transports since the last operation, and the next operation. -/
structure Turn where
  change : Nat → Transport → Transport
  op : Operation

namespace Session

/-- A session whose transports have changed on their own. -/
def drifted (s : Session) (change : Nat → Transport → Transport) : Session :=
  { s with transports := s.transports.mapIdx change }

/-- A session after a turn. -/
def take (s : Session) (turn : Turn) : Session := ((s.drifted turn.change).perform turn.op).2

/-- A session after turns. -/
def takeAll (s : Session) (turns : List Turn) : Session := turns.foldl take s

/-- The transport in use, and how many transports there are. -/
def place (s : Session) : Nat × Nat := (s.client.transport, s.transports.length)

end Session

namespace Operation

/-- The transport in use and the number of transports after an operation. -/
def placeAfter : Nat × Nat → Operation → Nat × Nat
  | (_, count), .useTransport n => (n, count)
  | (_, count), .installTransport _ => (count, count + 1)
  | place, _ => place

/-- The transport in use after operations is the one that was installed last; at first it
is one of some transports. -/
def latest (place : Nat × Nat) (ops : List Operation) : Nat := (ops.foldl placeAfter place).1

/-- How often a caller closes the idle connections of a transport by an operation. -/
def ownClosings (inUse n : Nat) : Operation → Nat
  | .closeIdle => if n = inUse then 1 else 0
  | _ => 0

/-- How often a caller closes the idle connections of a transport by operations. -/
def allOwnClosings (n : Nat) : Nat × Nat → List Operation → Nat
  | _, [] => 0
  | place, op :: rest =>
    op.ownClosings place.1 n + allOwnClosings n (placeAfter place op) rest

/-- An operation of the client's own closes nothing for its caller. -/
theorem ownClosings_of_inquiry {op : Operation} {q : Inquiry} (hop : op.inquiry? = some q)
    (inUse n : Nat) : op.ownClosings inUse n = 0 := by
  cases op with
  | closeIdle => cases hop
  | _ => rfl

theorem placeAfter_of_inquiry {op : Operation} {q : Inquiry} (hop : op.inquiry? = some q)
    (place : Nat × Nat) : placeAfter place op = place := by
  cases op with
  | useTransport n => cases hop
  | installTransport t => cases hop
  | _ => rfl

end Operation

/-! ## Steps -/

namespace Session.Step

variable {s t : Session} {op : Operation} {events : List Event}

/-- Only installing a transport changes which one is in use. -/
theorem place_eq (h : Step s op events t) : t.place = Operation.placeAfter s.place op := by
  cases h with
  | inquired hop h =>
    rw [Operation.placeAfter_of_inquiry hop, place, h.transport_eq, h.length_transports_eq]
    rfl
  | bootstrapped h =>
    rw [place, h.transport_eq, h.length_transports_eq]
    rfl
  | used n => rfl
  | installed t => simp [place, Operation.placeAfter, installTransport, useTransport]
  | idleClosed => simp [place, Operation.placeAfter, closeIdle, withoutIdle]
  | closed => simp [place, Operation.placeAfter, closeTransport]
  | constantsSet c => rfl

/-- No transport but the one in use takes part in a step. -/
theorem transport_of_mem (h : Step s op events t) :
    ∀ e ∈ events, ∀ n, e.transport? = some n → n = s.client.transport := by
  cases h with
  | inquired _ h => exact h.transport_of_mem
  | bootstrapped h => exact h.transport_of_mem
  | idleClosed =>
    intro e hmem n htransport
    rw [List.mem_singleton.1 hmem] at htransport
    exact (Option.some.inj htransport).symm
  | _ =>
    intro e hmem
    cases hmem

/-- With a clock in range, the idle connections of a transport are closed for every success
and at the caller's wish. -/
theorem idleCloseCount_eq (h : Step s op events t) (hclock : s.ClockInRange) (n : Nat) :
    idleCloseCount events n =
      successCount s.client.config.strictErrors events n +
        op.ownClosings s.client.transport n := by
  cases h with
  | inquired hop h =>
    rw [Operation.ownClosings_of_inquiry hop, h.idleCloseCount_eq hclock]
    rfl
  | bootstrapped h =>
    rw [h.idleCloseCount_eq hclock]
    rfl
  | idleClosed =>
    by_cases hn : n = s.client.transport
    · simp [idleCloseCount, successCount, Operation.ownClosings, hn]
    · simp [idleCloseCount, successCount, Operation.ownClosings, hn, Ne.symm hn]
  | _ => rfl

/-- The pools are those before, but for idle connections that have been closed. -/
theorem pool_eq (h : Step s op events t) {n : Nat} (hn : n < s.transports.length) :
    (t.transportAt n).pool =
      if idleCloseCount events n = 0 then (s.transportAt n).pool
      else (s.transportAt n).closeIdle.pool := by
  cases h with
  | inquired _ h =>
    rw [h.transportAt_eq]
    split <;> rfl
  | bootstrapped h =>
    rw [h.transportAt_eq]
    split <;> rfl
  | used m => rfl
  | installed t =>
    simp [transportAt, installTransport, useTransport, idleCloseCount,
      List.getElem?_append_left hn, hn]
  | idleClosed =>
    rw [transportAt_closeIdle]
    by_cases hsame : n = s.client.transport
    · simp [idleCloseCount, hsame]
    · simp [idleCloseCount, hsame, Ne.symm hsame]
  | closed =>
    by_cases hsame : n = s.client.transport
    · subst hsame
      simp [transportAt, closeTransport, Transport.close, idleCloseCount, hn]
    · simp [transportAt, closeTransport, Ne.symm hsame, idleCloseCount]
  | constantsSet c => rfl

end Session.Step

/-! ## Runs -/

namespace Session

section Drift

variable (s : Session) (change : Nat → Transport → Transport)

@[simp] theorem drifted_client : (s.drifted change).client = s.client := rfl
@[simp] theorem drifted_trace : (s.drifted change).trace = s.trace := rfl

@[simp] theorem drifted_place : (s.drifted change).place = s.place := by
  simp [place, drifted]

theorem drifted_clockInRange {s : Session} (hclock : s.ClockInRange)
    (change : Nat → Transport → Transport) : (s.drifted change).ClockInRange := hclock

end Drift

/-- A turn is a step from the session that it finds. -/
theorem exists_step_of_take (s : Session) (turn : Turn) :
    ∃ events, Step (s.drifted turn.change) turn.op events (s.take turn) :=
  (s.drifted turn.change).exists_step turn.op

/-- The transport in use after turns is the one that was installed last. -/
theorem place_takeAll (s : Session) (turns : List Turn) :
    (s.takeAll turns).place = (turns.map Turn.op).foldl Operation.placeAfter s.place := by
  induction turns generalizing s with
  | nil => rfl
  | cons turn rest ih =>
    obtain ⟨events, hstep⟩ := s.exists_step_of_take turn
    have hplace : (s.take turn).place = Operation.placeAfter s.place turn.op := by
      rw [hstep.place_eq, drifted_place]
    rw [List.map_cons, List.foldl_cons, ← hplace]
    exact ih (s.take turn)

theorem clockInRange_takeAll {s : Session} (hclock : s.ClockInRange) (turns : List Turn) :
    (s.takeAll turns).ClockInRange := by
  induction turns generalizing s with
  | nil => exact hclock
  | cons turn rest ih =>
    obtain ⟨events, hstep⟩ := s.exists_step_of_take turn
    exact ih (hstep.clockInRange (drifted_clockInRange hclock turn.change))

/-- Turns close the idle connections of a transport for every success that comes through
it, and at the caller's wish. -/
theorem idleCloseCount_takeAll {s : Session} (hclock : s.ClockInRange) (turns : List Turn)
    (n : Nat) :
    idleCloseCount (s.takeAll turns).trace n +
        successCount s.client.config.strictErrors s.trace n =
      successCount s.client.config.strictErrors (s.takeAll turns).trace n +
        Operation.allOwnClosings n s.place (turns.map Turn.op) + idleCloseCount s.trace n := by
  -- The account is kept as a sum, since what has been closed before the turns counts on both
  -- sides; the first turn closes for its successes, and the rest is the account from there.
  induction turns generalizing s with
  | nil =>
    change idleCloseCount s.trace n + _ = successCount _ s.trace n + 0 + _
    omega
  | cons turn rest ih =>
    obtain ⟨events, hstep⟩ := s.exists_step_of_take turn
    have hdrifted := drifted_clockInRange hclock turn.change
    have hrest := ih (hstep.clockInRange hdrifted)
    have hcount := hstep.idleCloseCount_eq hdrifted n
    rw [hstep.config_eq, hstep.trace_eq, hstep.place_eq, idleCloseCount_append,
      successCount_append, drifted_client, drifted_trace, drifted_place] at hrest
    rw [drifted_client] at hcount
    have hown : Operation.allOwnClosings n s.place ((turn :: rest).map Turn.op) =
        turn.op.ownClosings s.client.transport n +
          Operation.allOwnClosings n (Operation.placeAfter s.place turn.op)
            (rest.map Turn.op) := rfl
    have htake : s.takeAll (turn :: rest) = (s.take turn).takeAll rest := rfl
    rw [htake, hown]
    omega

end Session

/-! ## The account -/

/-- The account of a turn that has led from one session to another, with a transport in
use and with the events of the turn. -/
structure TurnAccount (s t : Session) (op : Operation) (inUse : Nat) (events : List Event) :
    Prop where
  trace_eq : t.trace = s.trace ++ events
  inUse_eq : s.client.transport = inUse
  /-- no other transport is given a request or has connections closed -/
  transport_eq : ∀ e ∈ events, ∀ n, e.transport? = some n → n = inUse
  /-- idle connections are closed for every success, and at the caller's wish -/
  closings_eq : ∀ n, Session.idleCloseCount events n =
    Session.successCount s.client.config.strictErrors events n + op.ownClosings inUse n
  /-- a call closes them if it succeeds, whatever is made of its body -/
  call_closings_eq : ∀ q, op.inquiry? = some q → ∀ n, Session.idleCloseCount events n =
    if n = inUse ∧ (q.call.runIn s).1.isOk = true then 1 else 0
  /-- the connections of a transport stay if the idle ones are not closed -/
  pool_eq : ∀ n < s.transports.length, Session.idleCloseCount events n = 0 →
    (t.transportAt n).pool = (s.transportAt n).pool
  /-- if they are, exactly those that were idle have been closed, once -/
  hasClosedIdle : ∀ n < s.transports.length, 0 < Session.idleCloseCount events n →
    (s.transportAt n).HasClosedIdle (t.transportAt n)
  /-- and closing them again closes nothing -/
  closeIdle_eq : ∀ n < s.transports.length, 0 < Session.idleCloseCount events n →
    (t.closeIdle n).transports = t.transports

/-- A step from a session with a clock in range keeps the account. -/
theorem Session.Step.account {s t : Session} {op : Operation} {events : List Event}
    (h : Session.Step s op events t) (ht : t = (s.perform op).2) (hclock : s.ClockInRange) :
    TurnAccount s t op s.client.transport events := by
  have hclosed : ∀ n < s.transports.length, 0 < idleCloseCount events n →
      (t.transportAt n).pool = (s.transportAt n).closeIdle.pool := by
    intro n hn hpos
    rw [h.pool_eq hn, if_neg (by omega)]
  exact {
    trace_eq := h.trace_eq
    inUse_eq := rfl
    transport_eq := h.transport_of_mem
    closings_eq := h.idleCloseCount_eq hclock
    call_closings_eq := by
      intro q hop n
      have hcall := q.idleCloseCount_call s n
      have htrace := h.trace_eq
      rw [ht, perform_of_inquiry hop] at htrace
      rw [htrace, idleCloseCount_append] at hcall
      omega
    pool_eq := by
      intro n hn hzero
      rw [h.pool_eq hn, if_pos hzero]
    hasClosedIdle := by
      intro n hn hpos
      exact Transport.hasClosedIdle_of_pool_eq (hclosed n hn hpos)
    closeIdle_eq := by
      intro n hn hpos
      exact transports_closeIdle_of_eq (Transport.closeIdle_of_pool_eq (hclosed n hn hpos)) }

/-- The account of every session with a clock in range.  After all turns, the idle
connections of each transport have been closed as often as a success came through it and
as the caller asked; the next turn uses the transport that was installed last and closes
idle connections for its successes; and at whatever moment they are closed, exactly those
that are idle are, once. -/
theorem Session.idle_connections_accounted {host : Option String} {config : Config}
    {transports : List Transport} {transport : Nat} {replies : List Reply} {clock : List Int}
    {s : Session} (hstart : start host config transports transport replies clock = .ok s)
    (hclock : s.ClockInRange) (turns : List Turn) (turn : Turn) :
    (∀ n, idleCloseCount (s.takeAll turns).trace n =
      successCount config.strictErrors (s.takeAll turns).trace n +
        Operation.allOwnClosings n (transport, transports.length) (turns.map Turn.op)) ∧
    (∃ events, TurnAccount ((s.takeAll turns).drifted turn.change) ((s.takeAll turns).take turn)
      turn.op (Operation.latest (transport, transports.length) (turns.map Turn.op)) events) ∧
    ∀ (u : Session) (n : Nat), u.ClosesIdle n := by
  obtain ⟨htrace, hconfig, htransport, htransports⟩ := of_start hstart
  have hplace : s.place = (transport, transports.length) := by
    rw [place, htransport, htransports]
  refine ⟨?_, ?_, closesIdle⟩
  · intro n
    have hcount := idleCloseCount_takeAll hclock turns n
    rw [htrace, hconfig, hplace] at hcount
    exact hcount
  · obtain ⟨events, hstep⟩ := (s.takeAll turns).exists_step_of_take turn
    have hlatest : ((s.takeAll turns).drifted turn.change).client.transport =
        Operation.latest (transport, transports.length) (turns.map Turn.op) := by
      have hnow := congrArg Prod.fst (s.place_takeAll turns)
      rw [hplace] at hnow
      exact hnow
    have haccount := hstep.account rfl
      (drifted_clockInRange (clockInRange_takeAll hclock turns) turn.change)
    rw [hlatest] at haccount
    exact ⟨events, haccount⟩

/-- A success closes the one idle connection of a pool. -/
theorem Session.idle_connections_accounted_after_success :
    (Transport.pooled [.idle, .active]).HasClosedIdle
      (((answering [.pooled [.idle, .active]] [.success "4"]).take
        ⟨fun _ t => t, .get "/a" []⟩).transportAt 0) := by
  have hstart : start (some "http://node") .default [.pooled [.idle, .active]] 0
      [.success "4"] [] = .ok (answering [.pooled [.idle, .active]] [.success "4"]) := rfl
  obtain ⟨_, ⟨events, haccount⟩, _⟩ :=
    idle_connections_accounted hstart (by decide) [] ⟨fun _ t => t, .get "/a" []⟩
  have hclosed : 0 < idleCloseCount events 0 := by
    rw [haccount.call_closings_eq ⟨.get, "/a", none, []⟩ rfl 0]
    decide +kernel
  exact haccount.hasClosedIdle 0 (by decide) hclosed

end TezosNode
