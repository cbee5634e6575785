import TezosNode.Proofs.Client.Turn

set_option autoImplicit false

/-!
# Client: released responses

Every response is closed once, by the end of the operation that it was received in.  The
responses of a session are numbered as they come, so that all of them are closed once
just when the numbers closed are `0, 1, 2, …` as the numbers received are.
-/

namespace TezosNode

namespace Session

/-! ## Numbers and their counts -/

theorem length_releasedNumbers (events : List Event) :
    (releasedNumbers events).length = releasedCount events := by
  unfold releasedNumbers releasedCount
  rw [List.length_filterMap_eq_countP]
  congr 1
  funext e
  cases e <;> rfl

/-! ## Steps -/

namespace Step

variable {s t : Session} {op : Operation} {events : List Event}

/-- The responses closed in a step are those received in it. -/
theorem releasedNumbers_eq (h : Step s op events t) :
    releasedNumbers events = receivedNumbers events := by
  cases h with
  | inquired _ h => exact h.releasedNumbers_eq
  | bootstrapped h => exact h.releasedNumbers_eq
  | _ => rfl

/-- The responses received in a step have the next numbers. -/
theorem receivedNumbers_eq (h : Step s op events t) :
    receivedNumbers events = List.range' s.nextNumber (receivedCount events) := by
  cases h with
  | inquired _ h => exact h.receivedNumbers_eq
  | bootstrapped h => exact h.receivedNumbers_eq
  | _ => rfl

/-- An operation makes no more attempts than it may. -/
theorem attempts_le (h : Step s op events t) : (attempts events).length ≤ op.attemptLimit := by
  cases h with
  | inquired hop _ hone =>
    cases op with
    | bootstrap => cases hop
    | useTransport n => cases hop
    | installTransport t => cases hop
    | closeIdle => cases hop
    | closeTransport => cases hop
    | setConstants c => cases hop
    | _ => exact hone
  | bootstrapped _ htwo => exact htwo
  | _ => exact Nat.le_refl 0

/-- A second attempt is that of a bootstrap which has got the head. -/
theorem head_of_second_attempt (h : Step s op events t)
    (htwo : 2 ≤ (attempts events).length) :
    op = .bootstrap ∧ ∃ head, (Endpoint.head.runIn s).1 = .ok head := by
  cases h with
  | inquired _ _ hone => omega
  | bootstrapped _ _ hhead => exact ⟨rfl, hhead htwo⟩
  | _ => cases htwo

end Step

/-! ## Runs -/

/-- The responses received have the first numbers, and those and no others have been
closed, each once. -/
structure Settled (s : Session) : Prop where
  receivedNumbers_eq : receivedNumbers s.trace = List.range (receivedCount s.trace)
  releasedNumbers_eq : releasedNumbers s.trace = List.range (receivedCount s.trace)

/-- In a settled session as many responses have been closed as received. -/
theorem Settled.releasedCount_eq {s : Session} (h : s.Settled) :
    releasedCount s.trace = receivedCount s.trace := by
  rw [← length_releasedNumbers, h.releasedNumbers_eq, List.length_range]

/-- A step leaves nothing open. -/
theorem Settled.step {s t : Session} {op : Operation} {events : List Event} (h : s.Settled)
    (hstep : Step s op events t) : t.Settled := by
  -- The numbers of the step go on where those before it end.
  have hrange : List.range (receivedCount s.trace) ++
      List.range' s.nextNumber (receivedCount events) =
        List.range (receivedCount t.trace) := by
    rw [hstep.trace_eq, receivedCount_append, nextNumber, List.range_eq_range',
      List.range_eq_range']
    simpa using List.range'_append_1 (s := 0) (m := receivedCount s.trace)
      (n := receivedCount events)
  constructor
  · rw [← hrange, ← h.receivedNumbers_eq, ← hstep.receivedNumbers_eq, hstep.trace_eq,
      receivedNumbers_append]
  · rw [← hrange, ← h.releasedNumbers_eq, ← hstep.receivedNumbers_eq,
      ← hstep.releasedNumbers_eq, hstep.trace_eq, releasedNumbers_append]

/-- Operations leave nothing open. -/
theorem Settled.performAll {s : Session} (h : s.Settled) (ops : List Operation) :
    (s.performAll ops).Settled := by
  induction ops generalizing s with
  | nil => exact h
  | cons op rest ih =>
    obtain ⟨events, hstep⟩ := s.exists_step op
    exact ih (h.step hstep)

/-- A session begins with a fresh client for a host, and nothing has happened in it. -/
theorem eq_of_start {host : Option String} {config : Config} {transports : List Transport}
    {transport : Nat} {replies : List Reply} {clock : List Int} {s : Session}
    (hstart : start host config transports transport replies clock = .ok s) :
    ∃ url, Host.normalize (host.getD config.host) = .ok url ∧
      s = ⟨⟨url, config, transport, none⟩, transports, replies, clock, []⟩ := by
  unfold start Client.make at hstart
  cases hhost : Host.normalize (host.getD config.host) with
  | error fault =>
    rw [hhost] at hstart
    cases hstart
  | ok url =>
    rw [hhost] at hstart
    cases hstart
    exact ⟨url, rfl, rfl⟩

/-- A session begins without events, with the transports and the settings given. -/
theorem of_start {host : Option String} {config : Config} {transports : List Transport}
    {transport : Nat} {replies : List Reply} {clock : List Int} {s : Session}
    (hstart : start host config transports transport replies clock = .ok s) :
    s.trace = [] ∧ s.client.config = config ∧ s.client.transport = transport ∧
      s.transports = transports := by
  obtain ⟨url, _, rfl⟩ := eq_of_start hstart
  exact ⟨rfl, rfl, rfl, rfl⟩

/-- Every session begins settled. -/
theorem settled_of_start {host : Option String} {config : Config} {transports : List Transport}
    {transport : Nat} {replies : List Reply} {clock : List Int} {s : Session}
    (hstart : start host config transports transport replies clock = .ok s) : s.Settled := by
  obtain ⟨htrace, _⟩ := of_start hstart
  exact ⟨by rw [htrace]; rfl, by rw [htrace]; rfl⟩

/-- In every session and after all operations, whatever the node replies, each response
has been closed just once, by the end of the operation that it was received in.  An
operation makes one attempt to send a request at most, and a bootstrap two, of which the
second is made only after the first has brought the head. -/
theorem released_once {host : Option String} {config : Config} {transports : List Transport}
    {transport : Nat} {replies : List Reply} {clock : List Int} {s : Session}
    (hstart : start host config transports transport replies clock = .ok s)
    (ops : List Operation) (op : Operation) :
    ∃ events,
      ((s.performAll ops).perform op).2.trace = (s.performAll ops).trace ++ events ∧
      releasedNumbers events = receivedNumbers events ∧
      receivedNumbers ((s.performAll ops).perform op).2.trace =
        List.range (receivedCount ((s.performAll ops).perform op).2.trace) ∧
      releasedNumbers ((s.performAll ops).perform op).2.trace =
        List.range (receivedCount ((s.performAll ops).perform op).2.trace) ∧
      releasedCount ((s.performAll ops).perform op).2.trace =
        receivedCount ((s.performAll ops).perform op).2.trace ∧
      (attempts events).length ≤ op.attemptLimit ∧
      (2 ≤ (attempts events).length →
        op = .bootstrap ∧ ∃ head, (Endpoint.head.runIn (s.performAll ops)).1 = .ok head) := by
  obtain ⟨events, hstep⟩ := (s.performAll ops).exists_step op
  have hsettled := ((settled_of_start hstart).performAll ops).step hstep
  exact ⟨events, hstep.trace_eq, hstep.releasedNumbers_eq, hsettled.receivedNumbers_eq,
    hsettled.releasedNumbers_eq, hsettled.releasedCount_eq, hstep.attempts_le,
    hstep.head_of_second_attempt⟩

/-- A fault that no operation expects leaves nothing open, and neither does the call after
it. -/
theorem released_once_after_fault :
    releasedNumbers (((answering [.plain] [.response ⟨200, [[52]], some ⟨.value, ""⟩⟩,
      .success "4"]).performAll [.get "/a" []]).perform .chainId).2.trace = [0, 1] := by
  have hstart : start (some "http://node") .default [.plain] 0
      [.response ⟨200, [[52]], some ⟨.value, ""⟩⟩, .success "4"] [] =
        .ok (answering [.plain] [.response ⟨200, [[52]], some ⟨.value, ""⟩⟩, .success "4"]) :=
    rfl
  obtain ⟨events, _, _, _, hreleased, _⟩ := released_once hstart [.get "/a" []] .chainId
  rw [hreleased]
  decide +kernel

end Session

end TezosNode
