import TezosNode.Proofs.Client.Clock
import TezosNode.Proofs.Client.Exchange
import TezosNode.Proofs.Client.Pool

set_option autoImplicit false

/-!
# Client: conversations

A conversation is what the client does on its own between two words of its caller:
exchanges and log records, one after another, and at times it keeps constants.  What
holds of a conversation is proved for a single exchange first, by its ways to end, and
then for the whole by induction on how it is put together.
-/

namespace TezosNode

/-! ## Views of events -/

namespace Event

/-- The transport that an event is about, if it is about one. -/
def transport? : Event → Option Nat
  | .sent t _ | .declined t _ | .received t _ _ | .idleClosed t => some t
  | .released _ | .logged _ => none

end Event

namespace Session

/-- The requests given to transports, whether they were sent or turned away. -/
def attempts (events : List Event) : List (Nat × Request) :=
  events.filterMap fun
    | .sent t r | .declined t r => some (t, r)
    | _ => none

/-- The numbers of the responses received, in order. -/
def receivedNumbers (events : List Event) : List Nat :=
  events.filterMap fun
    | .received _ number _ => some number
    | _ => none

/-- The numbers of the responses closed, in order. -/
def releasedNumbers (events : List Event) : List Nat :=
  events.filterMap fun
    | .released number => some number
    | _ => none

end Session

/-- Whether a response is a success: it does not break off, its status is that of
success, and there is no error payload in it. -/
def Response.isSuccess (strict : Bool) (r : Response) : Bool :=
  r.broken.isNone && (r.status == 200) &&
    match ErrorPayload.inspect strict r.content with
    | .ok none | .ok (some []) => true
    | _ => false

/-- The number of successes that have come through a transport. -/
def Session.successCount (strict : Bool) (events : List Event) (transport : Nat) : Nat :=
  events.countP fun
    | .received t _ r => t == transport && r.isSuccess strict
    | _ => false

namespace Session

variable (events more : List Event) (transport : Nat)

@[simp] theorem requests_append : requests (events ++ more) = requests events ++ requests more :=
  List.filterMap_append

@[simp] theorem attempts_append : attempts (events ++ more) = attempts events ++ attempts more :=
  List.filterMap_append

@[simp] theorem receivedNumbers_append :
    receivedNumbers (events ++ more) = receivedNumbers events ++ receivedNumbers more :=
  List.filterMap_append

@[simp] theorem releasedNumbers_append :
    releasedNumbers (events ++ more) = releasedNumbers events ++ releasedNumbers more :=
  List.filterMap_append

@[simp] theorem receivedCount_append :
    receivedCount (events ++ more) = receivedCount events + receivedCount more :=
  List.countP_append

@[simp] theorem idleCloseCount_append :
    idleCloseCount (events ++ more) transport =
      idleCloseCount events transport + idleCloseCount more transport :=
  List.countP_append

@[simp] theorem successCount_append (strict : Bool) :
    successCount strict (events ++ more) transport =
      successCount strict events transport + successCount strict more transport :=
  List.countP_append

end Session

/-- A whole response is a success just when its verdict is no failure. -/
theorem Response.isSuccess_iff {strict : Bool} {r : Response} (hwhole : r.broken = none) :
    r.isSuccess strict = true ↔ Response.verdict strict r.status r.content = .ok () := by
  unfold Response.isSuccess Response.verdict Response.success
  by_cases hstatus : r.status = 200
  · rcases ErrorPayload.inspect strict r.content with f | _ | _ | ⟨first, rest⟩
    · simp [hwhole, hstatus]
    · simp [hwhole, hstatus]
    · simp [hwhole, hstatus]
    · simp [hwhole, hstatus]
  · simp [hstatus]

/-- A response that breaks off is no success. -/
theorem Response.isSuccess_of_broken {strict : Bool} {r : Response} {fault : Fault}
    (hbroken : r.broken = some fault) : r.isSuccess strict = false := by
  simp [Response.isSuccess, hbroken]

/-- A success does not break off, and its status is that of success. -/
theorem Response.whole_of_isSuccess {strict : Bool} {r : Response}
    (hsuccess : r.isSuccess strict = true) : r.broken = none ∧ r.status = 200 := by
  unfold Response.isSuccess at hsuccess
  simp only [Bool.and_eq_true, Option.isNone_iff_eq_none, beq_iff_eq] at hsuccess
  exact hsuccess.1

/-- A verdict that is a failure of the client's own has a code of its own. -/
theorem Response.category?_of_verdict {strict : Bool} {status : Int} {body : Bytes}
    {f : Failure} (hverdict : Response.verdict strict status body = .error f)
    (hown : f.isOwn = true) :
    ∃ category, f.category? = some category ∧
      5 ≤ category.exitCode ∧ category.exitCode ≤ 7 := by
  rcases Response.of_verdict_error hverdict with
    rfl | ⟨-, part, -, rfl⟩ | ⟨fault, rfl⟩ | ⟨first, rest, rfl⟩
  · exact ⟨.httpStatus, rfl, by decide⟩
  · cases hown
  · exact ⟨.malformedPayload, rfl, by decide⟩
  · exact ⟨.nodeError, rfl, by decide⟩

/-- The verdict on a body that is nested too deep to be looked into is its nesting. -/
theorem Response.verdict_of_tooDeep {strict : Bool} {body : Bytes} {part : Json.Part}
    (hdeep : ErrorPayload.tooDeep? strict body = some part) :
    Response.verdict strict Response.success body = .error (.foreign (.nesting part)) := by
  simp [Response.verdict, ErrorPayload.inspect, hdeep]

/-! ## Single exchanges -/

namespace Exchange

variable {s aside : Session} {r : Request} {result : Except Failure Bytes} {events : List Event}

/-- The trace is no concern of an exchange but for its events. -/
theorem trace_eq (h : Exchange s r result aside events) : aside.trace = s.trace := by
  cases h <;> rfl

/-- An exchange leaves the client as it is. -/
theorem client_eq (h : Exchange s r result aside events) : aside.client = s.client := by
  cases h <;> rfl

/-- An exchange makes one attempt, with its request and through the transport in use. -/
theorem attempts_eq (h : Exchange s r result aside events) :
    Session.attempts events = [(s.client.transport, r)] := by
  cases h <;> rfl

/-- Through an open transport an exchange sends its request. -/
theorem requests_eq (h : Exchange s r result aside events)
    (hopen : (s.transportAt s.client.transport).isClosed = false) :
    Session.requests events = [(s.client.transport, r)] := by
  cases h with
  | declined hclosed =>
    rw [hopen] at hclosed
    cases hclosed
  | _ => rfl

/-- A response is closed in the exchange that it is received in. -/
theorem releasedNumbers_eq (h : Exchange s r result aside events) :
    Session.releasedNumbers events = Session.receivedNumbers events := by
  cases h <;> rfl

/-- The response of an exchange has the next number. -/
theorem receivedNumbers_eq (h : Exchange s r result aside events) :
    Session.receivedNumbers events =
      List.range' s.nextNumber (Session.receivedCount events) := by
  cases h <;> rfl

/-- No transport but the one in use takes part in an exchange. -/
theorem transport_of_mem (h : Exchange s r result aside events) {e : Event} (hmem : e ∈ events)
    {t : Nat} (htransport : e.transport? = some t) : t = s.client.transport := by
  have hall : ∀ e ∈ events, e.transport? = none ∨ e.transport? = some s.client.transport := by
    cases h with
    | declined => simp [Event.transport?, Session.opening]
    | refused => simp [Event.transport?, Session.opening, Session.complaint]
    | aborted => simp [Event.transport?, Session.opening]
    | brokenOff => simp [Event.transport?, Session.opening, Session.complaint]
    | interrupted => simp [Event.transport?, Session.opening]
    | unmeasured => simp [Event.transport?, Session.opening]
    | tooDeep => simp [Event.transport?, Session.opening]
    | rejected => simp [Event.transport?, Session.opening, Session.complaint]
    | completed => simp [Event.transport?, Session.opening, Session.completion]
  rcases hall e hmem with hnone | hsome
  · rw [hnone] at htransport
    cases htransport
  · exact Option.some.inj (htransport.symm.trans hsome)

/-- An exchange closes the idle connections of the transport in use once if it succeeds,
and never otherwise. -/
theorem idleCloseCount_eq (h : Exchange s r result aside events) (n : Nat) :
    Session.idleCloseCount events n =
      if n = s.client.transport ∧ result.isOk = true then 1 else 0 := by
  cases h with
  | completed =>
    by_cases hn : n = s.client.transport
    · simp [Session.idleCloseCount, Session.opening, Session.completion, Except.isOk,
        Except.toBool, hn]
    · simp [Session.idleCloseCount, Session.opening, Session.completion, hn, Ne.symm hn]
  | _ =>
    simp [Session.idleCloseCount, Session.opening, Session.complaint, Except.isOk, Except.toBool]

/-- With a clock in range an exchange succeeds just when its response is a success. -/
theorem successCount_eq (h : Exchange s r result aside events) (hclock : s.ClockInRange)
    (n : Nat) :
    Session.successCount s.client.config.strictErrors events n =
      Session.idleCloseCount events n := by
  rw [h.idleCloseCount_eq]
  cases h with
  | declined => simp [Session.successCount, Session.opening, Except.isOk, Except.toBool]
  | refused =>
    simp [Session.successCount, Session.opening, Session.complaint, Except.isOk, Except.toBool]
  | aborted => simp [Session.successCount, Session.opening, Except.isOk, Except.toBool]
  | brokenOff _ _ hbroken =>
    simp [Session.successCount, Session.opening, Session.complaint, Except.isOk, Except.toBool,
      Response.isSuccess_of_broken hbroken]
  | interrupted _ _ hbroken =>
    simp [Session.successCount, Session.opening, Except.isOk, Except.toBool,
      Response.isSuccess_of_broken hbroken]
  | unmeasured _ _ _ hduration =>
    obtain ⟨duration, hsome⟩ := hclock.exists_milliseconds
    rw [hduration] at hsome
    cases hsome
  | @tooDeep response _ _ _ _ hwhole _ hstatus hdeep =>
    have hfailure : ¬ response.isSuccess s.client.config.strictErrors = true := by
      rw [Response.isSuccess_iff hwhole, hstatus, Response.verdict_of_tooDeep hdeep]
      simp
    simp [Session.successCount, Session.opening, Except.isOk, Except.toBool, hfailure]
  | @rejected response _ f _ _ hwhole _ hverdict =>
    have hfailure : ¬ response.isSuccess s.client.config.strictErrors = true := by
      rw [Response.isSuccess_iff hwhole, hverdict]
      simp
    simp [Session.successCount, Session.opening, Session.complaint, Except.isOk, Except.toBool,
      hfailure]
  | completed _ _ hwhole _ hverdict =>
    have hsuccess := (Response.isSuccess_iff hwhole).2 hverdict
    by_cases hn : n = s.client.transport
    · simp [Session.successCount, Session.opening, Session.completion, Except.isOk,
        Except.toBool, hsuccess, hn]
    · simp [Session.successCount, Session.opening, Session.completion, hn, Ne.symm hn]

/-- The transports are those before, but for idle connections that have been closed. -/
theorem transportAt_eq (h : Exchange s r result aside events) (n : Nat) :
    aside.transportAt n =
      if Session.idleCloseCount events n = 0 then s.transportAt n
      else (s.transportAt n).closeIdle := by
  rw [h.idleCloseCount_eq]
  cases h with
  | completed =>
    by_cases hn : n = s.client.transport
    · simp [Session.transportAt_withoutIdle, Except.isOk, Except.toBool, hn]
    · simp [Session.transportAt_withoutIdle, hn]
  | _ => simp [Except.isOk, Except.toBool]

/-- An exchange adds no transport and takes none away. -/
theorem length_transports_eq (h : Exchange s r result aside events) :
    aside.transports.length = s.transports.length := by
  cases h with
  | completed => simp [Session.withoutIdle]
  | _ => rfl

/-- A clock in range stays in range. -/
theorem clockInRange (h : Exchange s r result aside events) (hclock : s.ClockInRange) :
    aside.ClockInRange := by
  cases h with
  | declined => exact hclock.tick
  | refused => exact hclock.tick
  | aborted => exact hclock.tick
  | brokenOff => exact hclock.tick
  | interrupted => exact hclock.tick
  | unmeasured => exact hclock.tick.tick
  | tooDeep => exact hclock.tick.tick
  | rejected => exact hclock.tick.tick
  | completed => exact hclock.tick.tick

end Exchange

/-! ## Conversations -/

/-- What the client does on its own, from one session to another, and its events.  Putting
two conversations together is a constructor, so that inductions need no lemma on it. -/
inductive Conversation : Session → List Event → Session → Prop
  | rest (s : Session) : Conversation s [] s
  | exchanged {s aside : Session} {r : Request} {result : Except Failure Bytes}
      {events : List Event} (h : Exchange s r result aside events) :
      Conversation s events (aside.note events)
  | logged (s : Session) (record : Log.Record) :
      Conversation s [.logged record] (s.note [.logged record])
  | kept (s : Session) (c : Constants) : Conversation s [] (s.setConstants c)
  | followed {s t u : Session} {events more : List Event} (hfirst : Conversation s events t)
      (hthen : Conversation t more u) : Conversation s (events ++ more) u

namespace Conversation

variable {s t : Session} {events : List Event}

/-- The trace grows by the events of a conversation. -/
theorem trace_eq (h : Conversation s events t) : t.trace = s.trace ++ events := by
  induction h with
  | rest s => simp
  | exchanged h => simp [h.trace_eq]
  | logged s record => rfl
  | kept s c => simp [Session.setConstants]
  | followed hfirst hthen ihfirst ihthen => rw [ihthen, ihfirst, List.append_assoc]

/-- The client keeps its transport. -/
theorem transport_eq (h : Conversation s events t) :
    t.client.transport = s.client.transport := by
  induction h with
  | rest s => rfl
  | exchanged h => simp [h.client_eq]
  | logged s record => rfl
  | kept s c => rfl
  | followed hfirst hthen ihfirst ihthen => rw [ihthen, ihfirst]

/-- The client keeps its settings. -/
theorem config_eq (h : Conversation s events t) : t.client.config = s.client.config := by
  induction h with
  | rest s => rfl
  | exchanged h => simp [h.client_eq]
  | logged s record => rfl
  | kept s c => rfl
  | followed hfirst hthen ihfirst ihthen => rw [ihthen, ihfirst]

/-- Every response is closed in the conversation that it is received in, in the same
order. -/
theorem releasedNumbers_eq (h : Conversation s events t) :
    Session.releasedNumbers events = Session.receivedNumbers events := by
  induction h with
  | rest s => rfl
  | exchanged h => exact h.releasedNumbers_eq
  | logged s record => rfl
  | kept s c => rfl
  | followed hfirst hthen ihfirst ihthen => simp [ihfirst, ihthen]

/-- The responses of a conversation are numbered from the next number on. -/
theorem receivedNumbers_eq (h : Conversation s events t) :
    Session.receivedNumbers events =
      List.range' s.nextNumber (Session.receivedCount events) := by
  induction h with
  | rest s => rfl
  | exchanged h => exact h.receivedNumbers_eq
  | logged s record => rfl
  | kept s c => rfl
  | @followed s t u events more hfirst hthen ihfirst ihthen =>
    -- The second conversation counts on from the trace that the first has left.
    have hnext : t.nextNumber = s.nextNumber + Session.receivedCount events := by
      simp [Session.nextNumber, hfirst.trace_eq]
    rw [Session.receivedNumbers_append, ihfirst, ihthen, hnext, Session.receivedCount_append,
      List.range'_append_1]

/-- No transport but the one in use takes part in a conversation. -/
theorem transport_of_mem (h : Conversation s events t) :
    ∀ e ∈ events, ∀ n, e.transport? = some n → n = s.client.transport := by
  induction h with
  | rest s => simp
  | exchanged h => exact fun e hmem n htransport => h.transport_of_mem hmem htransport
  | logged s record => simp [Event.transport?]
  | kept s c => simp
  | followed hfirst hthen ihfirst ihthen =>
    intro e hmem n htransport
    rcases List.mem_append.1 hmem with hmem | hmem
    · exact ihfirst e hmem n htransport
    · rw [ihthen e hmem n htransport, hfirst.transport_eq]

/-- The transports are those before, but for idle connections that have been closed. -/
theorem transportAt_eq (h : Conversation s events t) (n : Nat) :
    t.transportAt n =
      if Session.idleCloseCount events n = 0 then s.transportAt n
      else (s.transportAt n).closeIdle := by
  induction h with
  | rest s => rfl
  | exchanged h => simp [h.transportAt_eq]
  | logged s record => rfl
  | kept s c => rfl
  | @followed s t u events more hfirst hthen ihfirst ihthen =>
    rw [ihthen, ihfirst, Session.idleCloseCount_append]
    by_cases hevents : Session.idleCloseCount events n = 0
    · by_cases hmore : Session.idleCloseCount more n = 0
      · simp [hevents, hmore]
      · simp [hevents, hmore]
    · by_cases hmore : Session.idleCloseCount more n = 0
      · simp [hevents, hmore]
      · simp [hevents, hmore, Transport.closeIdle_closeIdle]

/-- A conversation adds no transport and takes none away. -/
theorem length_transports_eq (h : Conversation s events t) :
    t.transports.length = s.transports.length := by
  induction h with
  | rest s => rfl
  | exchanged h => simp [h.length_transports_eq]
  | logged s record => rfl
  | kept s c => rfl
  | followed hfirst hthen ihfirst ihthen => rw [ihthen, ihfirst]

/-- A clock in range stays in range. -/
theorem clockInRange (h : Conversation s events t) (hclock : s.ClockInRange) :
    t.ClockInRange := by
  induction h with
  | rest s => exact hclock
  | exchanged h => exact h.clockInRange hclock
  | logged s record => exact hclock
  | kept s c => exact hclock
  | followed hfirst hthen ihfirst ihthen => exact ihthen (ihfirst hclock)

/-- With a clock in range, every success closes the idle connections of its transport
once, and nothing else closes them. -/
theorem idleCloseCount_eq (h : Conversation s events t) (hclock : s.ClockInRange) (n : Nat) :
    Session.idleCloseCount events n =
      Session.successCount s.client.config.strictErrors events n := by
  induction h with
  | rest s => rfl
  | exchanged h => exact (h.successCount_eq hclock n).symm
  | logged s record => rfl
  | kept s c => rfl
  | followed hfirst hthen ihfirst ihthen =>
    rw [Session.idleCloseCount_append, Session.successCount_append, ihfirst hclock,
      ihthen (hfirst.clockInRange hclock), hfirst.config_eq]

end Conversation

end TezosNode
