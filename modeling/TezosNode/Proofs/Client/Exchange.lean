import TezosNode.Proofs.Client.Run

set_option autoImplicit false

/-!
# Client: exchanges

An exchange is one request and what becomes of it.  `Exchange` says in one place
everything that it can do to a session, with one constructor for each way in which it can
end; `exists_exchange_of_perform` proves that the client does nothing else.  What holds of
exchanges is proved from the constructors, and never from the program again.
-/

namespace TezosNode

/-! ## Events of an exchange -/

namespace Session

/-- The number of the next response. -/
def nextNumber (s : Session) : Nat := receivedCount s.trace

/-- The log record before an exchange. -/
def opening (s : Session) (r : Request) : Event :=
  .logged (s.client.recordOf .debug "rpc_request" r.opening)

/-- The log record of an exchange that has failed. -/
def complaint (s : Session) (f : Failure) (details : List (String × Json)) : Event :=
  .logged (s.client.recordOf .warning "rpc_failed" (f.report details))

/-- The log record of an exchange that has succeeded. -/
def completion (s : Session) (details : List (String × Json)) : Event :=
  .logged (s.client.recordOf .debug "rpc_complete" details)

end Session

/-- What the log records after a complete response to a request tell. -/
def Request.closing (r : Request) (response : Response) (duration : Binary64) :
    List (String × Json) :=
  r.details ++ Response.details response.status response.content duration

/-! ## Verdicts -/

namespace ErrorPayload

variable {strict : Bool} {body : Bytes}

/-- A body that is nested too deep is not looked into. -/
theorem inspect_of_tooDeep {part : Json.Part} (hdeep : tooDeep? strict body = some part) :
    inspect strict body = .error (.foreign (.nesting part)) := by
  unfold inspect
  rw [hdeep]

/-- A body that there is room for is looked into by being classified. -/
theorem inspect_of_room (hroom : tooDeep? strict body = none) :
    inspect strict body =
      (classify strict body).mapError fun fault => .malformedPayload fault body := by
  unfold inspect
  rw [hroom]

/-- A body that cannot be looked into is nested too deep, or it has been refused. -/
theorem of_inspect_error {f : Failure} (hinspect : inspect strict body = .error f) :
    (∃ part, tooDeep? strict body = some part ∧ f = .foreign (.nesting part)) ∨
      ∃ fault, f = .malformedPayload fault body := by
  unfold inspect at hinspect
  split at hinspect
  case h_1 part hdeep => exact .inl ⟨part, hdeep, (Except.error.inj hinspect).symm⟩
  case h_2 =>
    cases hclass : classify strict body with
    | ok found =>
      rw [hclass] at hinspect
      cases hinspect
    | error fault =>
      rw [hclass] at hinspect
      exact .inr ⟨fault, (Except.error.inj hinspect).symm⟩

end ErrorPayload

/-- The failures that complete responses amount to: the status, a body that is nested too deep
to be looked into, a broken error payload, an error payload. -/
theorem Response.of_verdict_error {strict : Bool} {status : Int} {body : Bytes} {f : Failure}
    (hverdict : Response.verdict strict status body = .error f) :
    f = .httpStatus status body ∨
      (status = Response.success ∧
        ∃ part, ErrorPayload.tooDeep? strict body = some part ∧ f = .foreign (.nesting part)) ∨
      (∃ fault, f = .malformedPayload fault body) ∨
      ∃ first rest, f = .nodeError first rest (some body) := by
  unfold Response.verdict at hverdict
  split at hverdict
  case isTrue => exact .inl (Except.error.inj hverdict).symm
  case isFalse hstatus =>
    split at hverdict
    case h_1 g hinspect =>
      obtain rfl := Except.error.inj hverdict
      rcases ErrorPayload.of_inspect_error hinspect with hdeep | hrefused
      · exact .inr (.inl ⟨Classical.not_not.1 hstatus, hdeep⟩)
      · exact .inr (.inr (.inl hrefused))
    case h_2 first rest _ =>
      exact .inr (.inr (.inr ⟨first, rest, (Except.error.inj hverdict).symm⟩))
    case h_3 => cases hverdict

/-- The only failure among them that is not the client's own is that of a body that is nested
too deep. -/
theorem Response.of_verdict_foreign {strict : Bool} {status : Int} {body : Bytes} {f : Failure}
    (hverdict : Response.verdict strict status body = .error f) (hown : f.isOwn = false) :
    status = Response.success ∧
      ∃ part, ErrorPayload.tooDeep? strict body = some part ∧ f = .foreign (.nesting part) := by
  rcases Response.of_verdict_error hverdict with rfl | hdeep | ⟨fault, rfl⟩ | ⟨first, rest, rfl⟩
  · cases hown
  · exact hdeep
  · cases hown
  · cases hown

/-! ## Ways to end -/

/-- The ways in which a request can end in a session: its result, the session but for its
trace, and the events added to the trace. -/
inductive Exchange (s : Session) (r : Request) :
    Except Failure Bytes → Session → List Event → Prop
  /-- the transport has been closed -/
  | declined (hclosed : (s.transportAt s.client.transport).isClosed = true) :
      Exchange s r (.error (.foreign .closedTransport)) s.tick
        [s.opening r, .declined s.client.transport r]
  /-- the request cannot be sent -/
  | refused {fault : Fault} (hopen : (s.transportAt s.client.transport).isClosed = false)
      (hreply : s.reply = .refused fault) (hfamily : fault.kind.family = .exchange) :
      Exchange s r (.error (.transport fault)) s.tick.answered
        [s.opening r, .sent s.client.transport r, s.complaint (.transport fault) r.details]
  /-- the sending ends in a fault that no call expects -/
  | aborted {fault : Fault} (hopen : (s.transportAt s.client.transport).isClosed = false)
      (hreply : s.reply = .refused fault) (hfamily : fault.kind.family ≠ .exchange) :
      Exchange s r (.error (.foreign (.fault fault))) s.tick.answered
        [s.opening r, .sent s.client.transport r]
  /-- the response breaks off -/
  | brokenOff {response : Response} {fault : Fault}
      (hopen : (s.transportAt s.client.transport).isClosed = false)
      (hreply : s.reply = .response response) (hbroken : response.broken = some fault)
      (hfamily : fault.kind.family ≠ .program) :
      Exchange s r (.error (.bodyRead fault response.content)) s.tick.answered
        [s.opening r, .sent s.client.transport r,
          .received s.client.transport s.nextNumber response,
          s.complaint (.bodyRead fault response.content) r.details, .released s.nextNumber]
  /-- the reading ends in a fault that no call expects -/
  | interrupted {response : Response} {fault : Fault}
      (hopen : (s.transportAt s.client.transport).isClosed = false)
      (hreply : s.reply = .response response) (hbroken : response.broken = some fault)
      (hfamily : fault.kind.family = .program) :
      Exchange s r (.error (.foreign (.fault fault))) s.tick.answered
        [s.opening r, .sent s.client.transport r,
          .received s.client.transport s.nextNumber response, .released s.nextNumber]
  /-- the time that the exchange has taken cannot be told -/
  | unmeasured {response : Response}
      (hopen : (s.transportAt s.client.transport).isClosed = false)
      (hreply : s.reply = .response response) (hwhole : response.broken = none)
      (hduration : milliseconds? s.time s.tick.time = none) :
      Exchange s r (.error (.foreign .unboundedDuration)) s.tick.tick.answered
        [s.opening r, .sent s.client.transport r,
          .received s.client.transport s.nextNumber response, .released s.nextNumber]
  /-- the content of the response is nested too deep to be looked into -/
  | tooDeep {response : Response} {duration : Binary64} {part : Json.Part}
      (hopen : (s.transportAt s.client.transport).isClosed = false)
      (hreply : s.reply = .response response) (hwhole : response.broken = none)
      (hduration : milliseconds? s.time s.tick.time = some duration)
      (hstatus : response.status = Response.success)
      (hdeep : ErrorPayload.tooDeep? s.client.config.strictErrors response.content = some part) :
      Exchange s r (.error (.foreign (.nesting part))) s.tick.tick.answered
        [s.opening r, .sent s.client.transport r,
          .received s.client.transport s.nextNumber response, .released s.nextNumber]
  /-- the response amounts to a failure of the client's own -/
  | rejected {response : Response} {duration : Binary64} {f : Failure}
      (hopen : (s.transportAt s.client.transport).isClosed = false)
      (hreply : s.reply = .response response) (hwhole : response.broken = none)
      (hduration : milliseconds? s.time s.tick.time = some duration)
      (hverdict : Response.verdict s.client.config.strictErrors response.status
        response.content = .error f)
      (hown : f.isOwn = true) :
      Exchange s r (.error f) s.tick.tick.answered
        [s.opening r, .sent s.client.transport r,
          .received s.client.transport s.nextNumber response, .released s.nextNumber,
          s.complaint f (r.closing response duration)]
  /-- the response is the result -/
  | completed {response : Response} {duration : Binary64}
      (hopen : (s.transportAt s.client.transport).isClosed = false)
      (hreply : s.reply = .response response) (hwhole : response.broken = none)
      (hduration : milliseconds? s.time s.tick.time = some duration)
      (hverdict : Response.verdict s.client.config.strictErrors response.status
        response.content = .ok ()) :
      Exchange s r (.ok response.content) (s.tick.tick.answered.withoutIdle s.client.transport)
        [s.opening r, .sent s.client.transport r,
          .received s.client.transport s.nextNumber response, .released s.nextNumber,
          .idleClosed s.client.transport, s.completion (r.closing response duration)]

/-! ## Reading a response -/

namespace Action

/-- The chunks that are still to be read come after the octets received, one after
another. -/
theorem runIn_readFrom (number : Nat) (broken : Option Fault) (received : Bytes)
    (chunks : List Bytes) (s : Session) :
    (readFrom number broken received chunks).runIn s =
      (readFrom number broken (received ++ chunks.flatten) []).runIn s := by
  induction chunks generalizing received with
  | nil => simp
  | cons chunk rest ih =>
    rw [readFrom, ih (received ++ chunk), List.flatten_cons, List.append_assoc]

/-- Closing a response that is open. -/
theorem runIn_close_of_open {number : Nat} {s : Session}
    (hopen : Session.isOpen s.trace number = true) :
    (close number).runIn s = (.ok (), s.note [.released number]) := by
  rw [runIn_close, hopen, if_pos rfl]

/-- Closing a response that has been closed. -/
theorem runIn_close_of_closed {number : Nat} {s : Session}
    (hclosed : Session.isOpen s.trace number = false) :
    (close number).runIn s = (.ok (), s) := by
  rw [runIn_close, hclosed, if_neg Bool.false_ne_true]

/-- A response that is read to its end is closed by that, and not once more at the end of
the call. -/
theorem runIn_receive_of_whole (details : List (String × Json)) (transport : Nat)
    {r : Response} (hwhole : r.broken = none) (s : Session) :
    (receive details transport r).runIn s =
      (.ok r.content,
        s.note [.received transport s.nextNumber r, .released s.nextNumber]) := by
  have hread : (readFrom s.nextNumber r.broken [] r.chunks).runIn
      (s.note [.received transport s.nextNumber r]) =
        (.ok r.content,
          (s.note [.received transport s.nextNumber r]).note [.released s.nextNumber]) := by
    rw [runIn_readFrom, hwhole, readFrom]
    simp only [runIn_bind]
    rw [runIn_close_of_open (by simp)]
    rfl
  unfold receive
  rw [runIn_bind, runIn_accept]
  simp only [runIn_tryFinally, runIn_tryCatch]
  rw [← Session.nextNumber, hread]
  simp only
  rw [runIn_close_of_closed (by simp only [Session.note_trace, Session.isOpen_released]),
    Session.note_note]
  rfl

/-- A response that breaks off is closed at the end of the call. -/
theorem runIn_receive_of_broken (details : List (String × Json)) (transport : Nat)
    {r : Response} {fault : Fault} (hbroken : r.broken = some fault)
    (hfamily : fault.kind.family ≠ .program) (s : Session) :
    (receive details transport r).runIn s =
      (.error (.bodyRead fault r.content),
        s.note [.received transport s.nextNumber r,
          s.complaint (.bodyRead fault r.content) details, .released s.nextNumber]) := by
  have hread : (readFrom s.nextNumber r.broken [] r.chunks).runIn
      (s.note [.received transport s.nextNumber r]) =
        (.error (.bodyRead fault r.content),
          s.note [.received transport s.nextNumber r]) := by
    rw [runIn_readFrom, hbroken, readFrom]
    simp only [if_neg hfamily]
    rfl
  unfold receive
  rw [runIn_bind, runIn_accept]
  simp only [runIn_tryFinally, runIn_tryCatch]
  rw [← Session.nextNumber, hread]
  simp only [fail, runIn_bind, runIn_log, runIn_throw, Failure.category?, if_true]
  rw [runIn_close_of_open (by
    simp only [Session.note_trace, Session.isOpen_logged, Session.isOpen_received])]
  simp [Session.complaint]

/-- A response whose reading is given up is closed at the end of the call. -/
theorem runIn_receive_of_interrupted (details : List (String × Json)) (transport : Nat)
    {r : Response} {fault : Fault} (hbroken : r.broken = some fault)
    (hfamily : fault.kind.family = .program) (s : Session) :
    (receive details transport r).runIn s =
      (.error (.foreign (.fault fault)),
        s.note [.received transport s.nextNumber r, .released s.nextNumber]) := by
  have hread : (readFrom s.nextNumber r.broken [] r.chunks).runIn
      (s.note [.received transport s.nextNumber r]) =
        (.error (.foreign (.fault fault)),
          s.note [.received transport s.nextNumber r]) := by
    rw [runIn_readFrom, hbroken, readFrom]
    simp only [if_pos hfamily]
    rfl
  unfold receive
  rw [runIn_bind, runIn_accept]
  simp only [runIn_tryFinally, runIn_tryCatch]
  rw [← Session.nextNumber, hread]
  simp only [Failure.category?, reduceCtorEq, if_false, runIn_throw]
  rw [runIn_close_of_open (by simp only [Session.note_trace, Session.isOpen_received])]
  simp

/-! ## The whole exchange -/

/-- A transport that has been closed ends an exchange before it has begun. -/
theorem runIn_perform_of_closed {s : Session} (r : Request)
    (hclosed : (s.transportAt s.client.transport).isClosed = true) :
    (perform r).runIn s =
      (.error (.foreign .closedTransport),
        s.tick.note [s.opening r, .declined s.client.transport r]) := by
  unfold perform
  simp only [runIn_bind, runIn_get, runIn_log, runIn_readClock]
  rw [runIn_send_of_closed r (by simpa using hclosed)]
  simp [Session.opening]

/-- A request that is sent is settled by the next reply. -/
theorem runIn_perform_of_open {s : Session} (r : Request)
    (hopen : (s.transportAt s.client.transport).isClosed = false) :
    (perform r).runIn s =
      (settle r s.client.transport s.time s.reply).runIn
        (s.tick.answered.note [s.opening r, .sent s.client.transport r]) := by
  unfold perform
  simp only [runIn_bind, runIn_get, runIn_log, runIn_readClock]
  rw [runIn_send r (by simpa using hopen)]
  simp [Session.opening]

theorem runIn_settle_refused {fault : Fault} (r : Request) (transport : Nat) (start : Int)
    (hfamily : fault.kind.family = .exchange) (s : Session) :
    (settle r transport start (.refused fault)).runIn s =
      (.error (.transport fault), s.note [s.complaint (.transport fault) r.details]) := by
  simp only [settle, if_pos hfamily, fail, runIn_bind, runIn_log, runIn_throw, Session.complaint]

theorem runIn_settle_aborted {fault : Fault} (r : Request) (transport : Nat) (start : Int)
    (hfamily : fault.kind.family ≠ .exchange) (s : Session) :
    (settle r transport start (.refused fault)).runIn s =
      (.error (.foreign (.fault fault)), s) := by
  simp only [settle, if_neg hfamily, runIn_throw]

theorem runIn_settle_of_receive_error {response : Response} {f : Failure} {s s' : Session}
    (r : Request) (transport : Nat) (start : Int)
    (hreceive : (receive r.details transport response).runIn s = (.error f, s')) :
    (settle r transport start (.response response)).runIn s = (.error f, s') := by
  simp only [settle, runIn_bind, hreceive]

theorem runIn_settle_of_receive {response : Response} {body : Bytes} {s s' : Session}
    (r : Request) (transport : Nat) (start : Int)
    (hreceive : (receive r.details transport response).runIn s = (.ok body, s')) :
    (settle r transport start (.response response)).runIn s =
      match milliseconds? start s'.time with
      | none => (.error (.foreign .unboundedDuration), s'.tick)
      | some duration =>
        match Response.verdict s'.client.config.strictErrors response.status body with
        | .error f =>
          if f.isOwn then
            (.error f, s'.tick.note
              [s'.complaint f (r.details ++ Response.details response.status body duration)])
          else (.error f, s'.tick)
        | .ok () =>
          (.ok body, (s'.tick.closeIdle transport).note
            [s'.completion (r.details ++ Response.details response.status body duration)]) := by
  simp only [settle, runIn_bind, hreceive, runIn_readClock, measure]
  cases milliseconds? start s'.time with
  | none => rfl
  | some duration =>
    simp only [runIn_pure, runIn_get, Session.tick_client]
    cases Response.verdict s'.client.config.strictErrors response.status body with
    | error f =>
      dsimp only
      cases f.isOwn with
      | true => rfl
      | false => rfl
    | ok _ => rfl

/-- Everything that a request can do to a session. -/
theorem exists_exchange_of_perform (r : Request) (s : Session) :
    ∃ aside events, Exchange s r ((perform r).runIn s).1 aside events ∧
      ((perform r).runIn s).2 = aside.note events := by
  cases hclosed : (s.transportAt s.client.transport).isClosed with
  | true =>
    rw [runIn_perform_of_closed r hclosed]
    exact ⟨_, _, .declined hclosed, rfl⟩
  | false =>
    rw [runIn_perform_of_open r hclosed]
    cases hreply : s.reply with
    | refused fault =>
      by_cases hfamily : fault.kind.family = .exchange
      · rw [runIn_settle_refused r _ _ hfamily]
        exact ⟨_, _, .refused hclosed hreply hfamily, by simp [Session.complaint]⟩
      · rw [runIn_settle_aborted r _ _ hfamily]
        exact ⟨_, _, .aborted hclosed hreply hfamily, rfl⟩
    | response response =>
      -- The response is the next one, whatever the session has noted since the beginning.
      have hnumber : (s.tick.answered.note
          [s.opening r, .sent s.client.transport r]).nextNumber = s.nextNumber := by
        simp [Session.nextNumber, Session.receivedCount, Session.opening]
      cases hbroken : response.broken with
      | some fault =>
        by_cases hfamily : fault.kind.family = .program
        · rw [runIn_settle_of_receive_error r _ _
            (runIn_receive_of_interrupted r.details _ hbroken hfamily _), hnumber]
          exact ⟨_, _, .interrupted hclosed hreply hbroken hfamily, by simp⟩
        · rw [runIn_settle_of_receive_error r _ _
            (runIn_receive_of_broken r.details _ hbroken hfamily _), hnumber]
          exact ⟨_, _, .brokenOff hclosed hreply hbroken hfamily, by simp [Session.complaint]⟩
      | none =>
        rw [runIn_settle_of_receive r _ _ (runIn_receive_of_whole r.details _ hbroken _),
          hnumber]
        simp only [Session.note_time, Session.answered_time, Session.note_client,
          Session.answered_client, Session.tick_client]
        cases hduration : milliseconds? s.time s.tick.time with
        | none => exact ⟨_, _, .unmeasured hclosed hreply hbroken hduration, by simp⟩
        | some duration =>
          cases hverdict : Response.verdict s.client.config.strictErrors response.status
              response.content with
          | error f =>
            cases hown : f.isOwn with
            | true =>
              simp only [hown, if_true]
              exact ⟨_, _, .rejected hclosed hreply hbroken hduration hverdict hown, by
                simp [Session.complaint, Request.closing]⟩
            | false =>
              simp only [hown, Bool.false_eq_true, if_false]
              obtain ⟨hstatus, part, hdeep, rfl⟩ := Response.of_verdict_foreign hverdict hown
              exact ⟨_, _, .tooDeep hclosed hreply hbroken hduration hstatus hdeep, by simp⟩
          | ok _ =>
            exact ⟨_, _, .completed hclosed hreply hbroken hduration hverdict, by
              simp [Session.closeIdle, Session.completion, Request.closing]⟩

end Action

end TezosNode
