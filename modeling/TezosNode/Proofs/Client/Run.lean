import TezosNode.Client.Operation

set_option autoImplicit false

/-!
# Client: running actions

What the steps of an action do to the session they run in.  A step adds events to the
trace, looks at the clock or takes a reply; everything else about the session stays, and
the lemmas on the fields of a session say so once.

Sessions are kept in one form, `aside.note events`: what happened stands outermost, so
that two sessions with the same past are compared by their events alone.
-/

namespace TezosNode

namespace Session

/-! ## Fields of sessions -/

section Fields

variable (s : Session) (events more : List Event)

@[simp] theorem note_client : (s.note events).client = s.client := rfl
@[simp] theorem note_transports : (s.note events).transports = s.transports := rfl
@[simp] theorem note_trace : (s.note events).trace = s.trace ++ events := rfl
@[simp] theorem note_time : (s.note events).time = s.time := rfl
@[simp] theorem note_reply : (s.note events).reply = s.reply := rfl

@[simp] theorem note_transportAt (n : Nat) :
    (s.note events).transportAt n = s.transportAt n := rfl

@[simp] theorem note_nil : s.note [] = s := by
  cases s
  simp [note]

@[simp] theorem note_note : (s.note events).note more = s.note (events ++ more) := by
  simp [note, List.append_assoc]

@[simp] theorem answered_client : s.answered.client = s.client := rfl
@[simp] theorem answered_transports : s.answered.transports = s.transports := rfl
@[simp] theorem answered_trace : s.answered.trace = s.trace := rfl
@[simp] theorem answered_time : s.answered.time = s.time := rfl
@[simp] theorem answered_transportAt (n : Nat) :
    s.answered.transportAt n = s.transportAt n := rfl
@[simp] theorem answered_note : (s.note events).answered = s.answered.note events := rfl

@[simp] theorem tick_client : s.tick.client = s.client := rfl
@[simp] theorem tick_transports : s.tick.transports = s.transports := rfl
@[simp] theorem tick_trace : s.tick.trace = s.trace := rfl
@[simp] theorem tick_reply : s.tick.reply = s.reply := rfl
@[simp] theorem tick_transportAt (n : Nat) : s.tick.transportAt n = s.transportAt n := rfl
@[simp] theorem tick_note : (s.note events).tick = s.tick.note events := rfl
@[simp] theorem tick_answered : s.answered.tick = s.tick.answered := rfl

variable (n : Nat)

@[simp] theorem withoutIdle_trace : (s.withoutIdle n).trace = s.trace := rfl
@[simp] theorem withoutIdle_note :
    (s.note events).withoutIdle n = (s.withoutIdle n).note events := rfl

end Fields

/-! ## Open responses -/

section Open

variable (trace : List Event) (transport number : Nat) (r : Response) (record : Log.Record)

@[simp] theorem isOpen_received :
    isOpen (trace ++ [.received transport number r]) number = true := by
  simp [isOpen]

@[simp] theorem isOpen_released : isOpen (trace ++ [.released number]) number = false := by
  simp [isOpen]

@[simp] theorem isOpen_logged :
    isOpen (trace ++ [.logged record]) number = isOpen trace number := by
  simp [isOpen]

end Open

end Session

/-! ## Results of actions -/

namespace Action

variable {α β : Type}

@[simp] theorem runIn_pure (a : α) (s : Session) :
    (pure a : Action α).runIn s = (.ok a, s) := rfl

@[simp] theorem runIn_throw (f : Failure) (s : Session) :
    (throw f : Action α).runIn s = (.error f, s) := rfl

@[simp] theorem runIn_get (s : Session) :
    (MonadState.get : Action Session).runIn s = (.ok s, s) := rfl

theorem runIn_bind (act : Action α) (next : α → Action β) (s : Session) :
    (act >>= next).runIn s =
      match act.runIn s with
      | (.ok a, s') => (next a).runIn s'
      | (.error f, s') => (.error f, s') := by
  simp only [runIn, ExceptT.run_bind, StateT.run_bind]
  rcases hact : StateT.run act.run s with ⟨_ | a, s'⟩
  · rfl
  · rfl

/-- A result that is only renamed takes nothing but the action it is of. -/
theorem runIn_map (rename : α → β) (act : Action α) (s : Session) :
    (rename <$> act).runIn s = ((act.runIn s).1.map rename, (act.runIn s).2) := by
  rw [← bind_pure_comp, runIn_bind]
  rcases act.runIn s with ⟨_ | a, s'⟩
  · rfl
  · rfl

theorem runIn_tryCatch (act : Action α) (handle : Failure → Action α) (s : Session) :
    (tryCatch act handle).runIn s =
      match act.runIn s with
      | (.ok a, s') => (.ok a, s')
      | (.error f, s') => (handle f).runIn s' := by
  simp only [runIn, ExceptT.run_tryCatch, StateT.run_bind]
  rcases hact : StateT.run act.run s with ⟨_ | a, s'⟩
  · rfl
  · rfl

/-- What is done at the end of an action is done after a failure, too. -/
theorem runIn_tryFinally (act : Action α) (last : Action Unit) (s : Session) :
    (tryFinally act last).runIn s =
      match last.runIn (act.runIn s).2 with
      | (.ok _, s') => ((act.runIn s).1, s')
      | (.error f, s') => (.error f, s') := by
  simp only [runIn, tryFinally, tryFinally', Functor.map, ExceptT.map, ExceptT.mk, ExceptT.run,
    bind, StateT.bind, StateT.run, pure]
  rcases act s with ⟨_ | a, s'⟩
  · rcases hlast : last s' with ⟨_ | _, s''⟩
    · simp only [hlast]
      rfl
    · simp only [hlast]
      rfl
  · rcases hlast : last s' with ⟨_ | _, s''⟩
    · simp only [hlast]
      rfl
    · simp only [hlast]
      rfl

/-! ## Steps -/

@[simp] theorem runIn_record (e : Event) (s : Session) :
    (record e).runIn s = (.ok (), s.note [e]) := rfl

@[simp] theorem runIn_log (level : Log.Level) (event : String) (fields : List (String × Json))
    (s : Session) :
    (log level event fields).runIn s =
      (.ok (), s.note [.logged (s.client.recordOf level event fields)]) := rfl

@[simp] theorem runIn_readClock (s : Session) : readClock.runIn s = (.ok s.time, s.tick) := rfl

@[simp] theorem runIn_nextReply (s : Session) :
    nextReply.runIn s = (.ok s.reply, s.answered) := rfl

@[simp] theorem runIn_accept (transport : Nat) (r : Response) (s : Session) :
    (accept transport r).runIn s =
      (.ok (Session.receivedCount s.trace),
        s.note [.received transport (Session.receivedCount s.trace) r]) := rfl

/-- An open response is closed, and a closed one is left alone. -/
theorem runIn_close (number : Nat) (s : Session) :
    (close number).runIn s =
      (.ok (), if Session.isOpen s.trace number then s.note [.released number] else s) := by
  unfold close
  rw [runIn_bind, runIn_get]
  cases hopen : Session.isOpen s.trace number with
  | true => simp [hopen]
  | false => simp [hopen]

/-- A transport that has been closed turns every request away. -/
theorem runIn_send_of_closed {transport : Nat} {s : Session} (r : Request)
    (hclosed : (s.transportAt transport).isClosed = true) :
    (send transport r).runIn s =
      (.error (.foreign .closedTransport), s.note [.declined transport r]) := by
  unfold send
  simp [runIn_bind, hclosed]

theorem runIn_send {transport : Nat} {s : Session} (r : Request)
    (hopen : (s.transportAt transport).isClosed = false) :
    (send transport r).runIn s = (.ok s.reply, s.answered.note [.sent transport r]) := by
  unfold send
  simp [runIn_bind, hopen]

end Action

/-! ## A node with given replies -/

/-- A whole response of success that comes in one chunk. -/
def Reply.success (text : String) : Reply :=
  .response ⟨200, [Text.Utf8.encode text.toList], none⟩

/-- A session of a fresh client with some transports, the first of them in use, whose node
gives some replies. -/
def Session.answering (transports : List Transport) (replies : List Reply) : Session :=
  ⟨⟨"http://node", .default, 0, none⟩, transports, replies, [], []⟩

end TezosNode
