import TezosNode.Proofs.Client.Keeping
import TezosNode.Proofs.Log.Notice

set_option autoImplicit false

/-!
# Client: what the log tells

What a session writes to the log of its calls and bootstraps is fixed by how they end: a
call that gives a request to its transport tells of the request and of its end, once each,
and a bootstrap adds one notice of its own end.  What becomes of the octets of a call
afterwards is told nowhere.  The notices are found for the events of one exchange, then for
calls, bootstraps and operations, and by induction for whole runs.
-/

namespace TezosNode

open Log (Notice)

/-! ## Notices of ends -/

/-- What the end of a call tells: that it has returned octets, or the class of the error, if
it is one of the client's own. -/
def Log.Notice.ofCall : Except Failure Bytes → List Notice
  | .ok _ => [.completed]
  | .error f => (f.category?.map fun c => Notice.failed c.name).toList

/-- What the end of a bootstrap tells: that it has returned constants, or the step that its
error names. -/
def Log.Notice.ofBootstrap : Except Failure Constants → List Notice
  | .ok _ => [.ready]
  | .error (.bootstrap step _) => [.stuck step.name]
  | .error _ => []

/-- What a call tells: nothing unless a request gets as far as the transport, and else of
the request first and of the end then. -/
def Inquiry.notices (q : Inquiry) (s : Session) : List Notice :=
  if (Session.attempts (q.call.runIn s).2.trace).length = (Session.attempts s.trace).length then
    []
  else .request :: Notice.ofCall (q.call.runIn s).1

/-- What a bootstrap tells: what its calls do, of which the second is for the constants at
the head if there is one, and last of its end. -/
def Session.bootstrapNotices (s : Session) : List Notice :=
  let (head, t) := Endpoint.head.runIn s
  let second :=
    match head with
    | .ok b => (Inquiry.constants b.hash).notices t
    | .error _ => []
  Inquiry.head.notices s ++ second ++ Notice.ofBootstrap (Action.bootstrap.runIn s).1

/-- What an operation tells.  An operation that reads the octets of a call tells what the
call does, however the reading ends. -/
def Session.notices (s : Session) (op : Operation) : List Notice :=
  match op with
  | .bootstrap => s.bootstrapNotices
  | op => (op.inquiry?.map fun q => q.notices s).getD []

/-- What operations tell, one after another. -/
def Session.noticesOfAll (s : Session) : List Operation → List Notice
  | [] => []
  | op :: ops => s.notices op ++ (s.perform op).2.noticesOfAll ops

/-! ## Records without marks -/

/-- The names that notices are read from, and those that lines have places for below them. -/
def markNames : List String := ["error_class", "step", Log.stackName, Log.exceptionName]

/-- Values of which none has such a name. -/
def Unmarked (fields : List (String × Json)) : Prop := ∀ n ∈ markNames, n ∉ fields.map (·.1)

theorem Request.unmarked_opening (r : Request) : Unmarked r.opening := by
  change ∀ n ∈ markNames, n ∉ ["method", "path", "query"]
  decide

theorem Request.unmarked_details (r : Request) : Unmarked r.details := by
  change ∀ n ∈ markNames, n ∉ ["method", "path"]
  decide

theorem Request.unmarked_closing (r : Request) (response : Response) (duration : Binary64) :
    Unmarked (r.closing response duration) := by
  change ∀ n ∈ markNames, n ∉ ["method", "path", "status_code", "bytes", "duration_ms"]
  decide

theorem Failure.unmarked_details (f : Failure) : Unmarked f.details := by
  have hnames : f.details.map (·.1) = ["error"] ∨ f.details.map (·.1) = [] ∨
      f.details.map (·.1) = ["kind"] := by
    cases f with
    | httpStatus => exact .inr (.inl rfl)
    | nodeError => exact .inr (.inr rfl)
    | _ => exact .inl rfl
  unfold Unmarked
  rcases hnames with h | h | h
  · rw [h]
    decide
  · rw [h]
    decide
  · rw [h]
    decide

theorem unmarked_nil : Unmarked [] := fun _ _ hmem => List.not_mem_nil hmem

theorem Unmarked.append {fields more : List (String × Json)} (h : Unmarked fields)
    (h' : Unmarked more) : Unmarked (fields ++ more) := by
  intro n hmark hmem
  rw [List.map_append, List.mem_append] at hmem
  rcases hmem with hmem | hmem
  · exact h n hmark hmem
  · exact h' n hmark hmem

namespace Client

variable (c : Client) {level : Log.Level} {event : String} {fields : List (String × Json)}

/-- No mark stands among the values that the client gives its logger. -/
theorem text?_recordOf_of_notMem {name : String} (hname : name ∈ markNames)
    (hfields : name ∉ fields.map (·.1)) :
    (c.recordOf level event fields).text? name = some none := by
  have hmarks : ∀ n ∈ markNames, n ∉ Log.orderNames ∧ n ∉ ["component", "host"] := by decide
  obtain ⟨horder, hbound⟩ := hmarks name hname
  exact Log.Record.text?_of_notMem horder hbound hfields

/-- A record whose values have no marks tells its event and nothing else. -/
theorem notice_recordOf (hfields : Unmarked fields) :
    (c.recordOf level event fields).notice = ⟨event, none, none⟩ := by
  unfold Log.Record.notice
  rw [c.text?_recordOf_of_notMem (by decide) (hfields "error_class" (by decide)),
    c.text?_recordOf_of_notMem (by decide) (hfields "step" (by decide))]
  rfl

/-- Where a call gives one mark a text, the record has that text and no other. -/
theorem text?_recordOf_of_mark {before after : List (String × Json)} {mark text name : String}
    (hfields : fields = before ++ (mark, .string text) :: after) (hbefore : Unmarked before)
    (hafter : Unmarked after) (hname : name ∈ markNames) :
    (c.recordOf level event fields).text? name =
      some (if name = mark then some text else none) := by
  by_cases hmark : name = mark
  · subst hmark
    rw [if_pos rfl]
    have horder : ∀ n ∈ markNames, n ∉ Log.orderNames := by decide
    exact Log.Record.text?_of_last (horder name hname) hfields (hafter name hname)
  · rw [if_neg hmark]
    refine c.text?_recordOf_of_notMem hname ?_
    intro hmem
    rw [hfields, List.map_append, List.map_cons, List.mem_append, List.mem_cons] at hmem
    rcases hmem with hmem | hmem | hmem
    · exact hbefore name hname hmem
    · exact hmark hmem
    · exact hafter name hname hmem

end Client

/-! ## Events and their notices -/

/-- Events with the notices of the records among them, which are regular. -/
inductive Told : List Event → List Notice → Prop
  | nil : Told [] []
  | silent {e : Event} {events : List Event} {notices : List Notice}
      (hsilent : Session.records [e] = []) (h : Told events notices) : Told (e :: events) notices
  | logged {r : Log.Record} {events : List Event} {notices : List Notice}
      (hregular : r.IsRegular) (h : Told events notices) :
      Told (.logged r :: events) (r.notice :: notices)

namespace Told

variable {events more : List Event} {notices others : List Notice}

theorem append (h : Told events notices) (h' : Told more others) :
    Told (events ++ more) (notices ++ others) := by
  induction h with
  | nil => exact h'
  | silent hsilent _ ih => exact .silent hsilent ih
  | logged hregular _ ih => exact .logged hregular ih

/-- The records of the events are regular, and the notices are theirs. -/
theorem records (h : Told events notices) :
    (∀ r ∈ Session.records events, r.IsRegular) ∧
      (Session.records events).map Log.Record.notice = notices := by
  induction h with
  | nil => exact ⟨by simp [Session.records], rfl⟩
  | @silent e events notices hsilent _ ih =>
    have hrecords : Session.records (e :: events) = Session.records events := by
      rw [← List.singleton_append, Session.records, List.filterMap_append]
      exact congrArg (· ++ Session.records events) hsilent
    rw [hrecords]
    exact ih
  | @logged r events notices hregular _ ih =>
    have hrecords : Session.records (.logged r :: events) = r :: Session.records events := rfl
    rw [hrecords, List.map_cons, ih.2]
    refine ⟨?_, rfl⟩
    intro r' hmem
    rcases List.mem_cons.1 hmem with rfl | hmem
    · exact hregular
    · exact ih.1 r' hmem

/-- An event of the client whose values have no marks, and which is no failure. -/
theorem plain {c : Client} {level : Log.Level} {event : String} {fields : List (String × Json)}
    (hfields : Unmarked fields) (hlevel : level.number < Log.Level.warning.number)
    (hevent : (⟨event, none, none⟩ : Notice).isFailure = false) (h : Told events notices) :
    Told (.logged (c.recordOf level event fields) :: events) (⟨event, none, none⟩ :: notices) := by
  have hnotice : (c.recordOf level event fields).notice = ⟨event, none, none⟩ :=
    c.notice_recordOf hfields
  rw [← hnotice]
  refine .logged ⟨?_, ?_⟩ h
  · exact Log.Record.isSome_render_of_text?
      (c.text?_recordOf_of_notMem (by decide) (hfields _ (by decide)))
      (c.text?_recordOf_of_notMem (by decide) (hfields _ (by decide)))
  · rw [hnotice, hevent]
    exact ⟨nofun, fun hle => absurd hlevel (Int.not_lt.2 hle)⟩

/-- A warning of the client with one mark, whose event is a failure, tells the mark. -/
theorem marked {c : Client} {event mark text : String}
    {fields before after : List (String × Json)}
    (hmark : mark ∈ ["error_class", "step"])
    (hfields : fields = before ++ (mark, .string text) :: after) (hbefore : Unmarked before)
    (hafter : Unmarked after)
    (hevent : (⟨event, none, none⟩ : Notice).isFailure = true) (h : Told events notices) :
    Told (.logged (c.recordOf .warning event fields) :: events)
      (⟨event, if "error_class" = mark then some text else none,
        if "step" = mark then some text else none⟩ :: notices) := by
  have htext : ∀ name ∈ markNames, (c.recordOf .warning event fields).text? name =
      some (if name = mark then some text else none) := fun name hname =>
    c.text?_recordOf_of_mark hfields hbefore hafter hname
  have hnotice : (c.recordOf .warning event fields).notice =
      ⟨event, if "error_class" = mark then some text else none,
        if "step" = mark then some text else none⟩ := by
    unfold Log.Record.notice
    rw [htext _ (by decide), htext _ (by decide)]
    rfl
  rw [← hnotice]
  refine .logged ⟨?_, ?_⟩ h
  · have hne : Log.stackName ≠ mark ∧ Log.exceptionName ≠ mark := by
      have hboth : ∀ m ∈ ["error_class", "step"], Log.stackName ≠ m ∧ Log.exceptionName ≠ m := by
        decide
      exact hboth mark hmark
    have hstack := htext Log.stackName (by decide)
    have hexception := htext Log.exceptionName (by decide)
    rw [if_neg hne.1] at hstack
    rw [if_neg hne.2] at hexception
    exact Log.Record.isSome_render_of_text? hstack hexception
  · rw [hnotice]
    exact ⟨fun _ => Int.le_refl _, fun _ => hevent⟩

/-- The record before an exchange tells of a request. -/
theorem opening (s : Session) (r : Request) (h : Told events notices) :
    Told (s.opening r :: events) (.request :: notices) :=
  plain r.unmarked_opening (by decide) (by decide) h

/-- The record of an exchange that has succeeded tells so. -/
theorem completion (s : Session) {details : List (String × Json)} (hdetails : Unmarked details)
    (h : Told events notices) : Told (s.completion details :: events) (.completed :: notices) :=
  plain hdetails (by decide) (by decide) h

/-- The record of an exchange that has failed tells the class of the error. -/
theorem complaint (s : Session) {f : Failure} {category : Category}
    (hcategory : f.category? = some category) {details : List (String × Json)}
    (hdetails : Unmarked details) (h : Told events notices) :
    Told (s.complaint f details :: events) (.failed category.name :: notices) := by
  have hreport : f.report details =
      details ++ ("error_class", .string category.name) :: f.details := by
    unfold Failure.report
    rw [hcategory]
    rfl
  exact marked (by decide) hreport hdetails f.unmarked_details (by decide) h

/-- The record of a bootstrap that has succeeded tells so. -/
theorem readiness (s : Session) (head : Block) (h : Told events notices) :
    Told (s.readiness head :: events) (.ready :: notices) := by
  refine plain ?_ (by decide) (by decide) h
  change ∀ n ∈ markNames, n ∉ ["block_hash", "level"]
  decide

/-- The record of a step that has failed in a failure of the client's own tells the step. -/
theorem setback (s : Session) (step : BootstrapStep) {details : List (String × Json)}
    (hdetails : Unmarked details) (f : Failure) :
    Told (s.setback step details f) (Notice.ofBootstrap (.error (f.ofStep step))) := by
  unfold Session.setback Failure.ofStep
  cases hown : f.isOwn with
  | false =>
    cases f with
    | foreign fault => exact .nil
    | _ => cases hown
  | true =>
    have hafter : Unmarked (details ++ [("error", Json.string f.message)]) := by
      refine hdetails.append ?_
      change ∀ n ∈ markNames, n ∉ ["error"]
      decide
    exact marked (by decide) (List.nil_append _).symm unmarked_nil hafter (by decide) .nil

end Told

/-! ## Calls -/

/-- An exchange tells of its request and then of its end, whichever it is. -/
theorem Exchange.told {s aside : Session} {r : Request} {result : Except Failure Bytes}
    {events : List Event} (h : Exchange s r result aside events) :
    Told events (.request :: Notice.ofCall result) := by
  cases h with
  | declined => exact .opening s r (.silent rfl .nil)
  | refused => exact .opening s r (.silent rfl (.complaint s rfl r.unmarked_details .nil))
  | aborted => exact .opening s r (.silent rfl .nil)
  | brokenOff =>
    exact .opening s r (.silent rfl (.silent rfl
      (.complaint s rfl r.unmarked_details (.silent rfl .nil))))
  | interrupted => exact .opening s r (.silent rfl (.silent rfl (.silent rfl .nil)))
  | unmeasured => exact .opening s r (.silent rfl (.silent rfl (.silent rfl .nil)))
  | tooDeep => exact .opening s r (.silent rfl (.silent rfl (.silent rfl .nil)))
  | @rejected response duration f _ _ _ _ hverdict hown =>
    obtain ⟨category, hcategory, _⟩ := Response.category?_of_verdict hverdict hown
    have hend : Notice.ofCall (.error f) = [.failed category.name] := by
      change (f.category?.map fun c => Notice.failed c.name).toList = [.failed category.name]
      rw [hcategory]
      rfl
    rw [hend]
    exact .opening s r (.silent rfl (.silent rfl (.silent rfl
      (.complaint s hcategory (r.unmarked_closing response duration) .nil))))
  | @completed response duration =>
    exact .opening s r (.silent rfl (.silent rfl (.silent rfl (.silent rfl
      (.completion s (r.unmarked_closing response duration) .nil)))))

/-- What happens from one session to another is told by some notices. -/
def Session.Tells (s t : Session) (notices : List Notice) : Prop :=
  ∃ events, t.trace = s.trace ++ events ∧ Told events notices

namespace Session.Tells

variable {s t u : Session} {notices more : List Notice}

theorem of_trace_eq (htrace : t.trace = s.trace) : s.Tells t [] :=
  ⟨[], by rw [htrace, List.append_nil], .nil⟩

theorem trans (h : s.Tells t notices) (h' : t.Tells u more) : s.Tells u (notices ++ more) := by
  obtain ⟨events, htrace, htold⟩ := h
  obtain ⟨events', htrace', htold'⟩ := h'
  refine ⟨events ++ events', ?_, htold.append htold'⟩
  rw [htrace', htrace, List.append_assoc]

theorem note (h : s.Tells t notices) {events : List Event} (htold : Told events more) :
    s.Tells (t.note events) (notices ++ more) :=
  h.trans ⟨events, rfl, htold⟩

end Session.Tells

/-- A call tells nothing if it makes no attempt, and else of its request and its end. -/
theorem Inquiry.tells_call (q : Inquiry) (s : Session) :
    s.Tells (q.call.runIn s).2 (q.notices s) := by
  unfold Inquiry.notices
  rcases q.call_cases s with ⟨f, _, hfail⟩ | ⟨r, aside, events, _, hexchange, hafter⟩
  · rw [hfail, if_pos rfl]
    exact .of_trace_eq rfl
  · have htrace : (q.call.runIn s).2.trace = s.trace ++ events := by
      rw [hafter, Session.note_trace, hexchange.trace_eq]
    have hattempt : (Session.attempts (q.call.runIn s).2.trace).length ≠
        (Session.attempts s.trace).length := by
      rw [htrace, Session.attempts_append, hexchange.attempts_eq, List.length_append]
      exact Nat.succ_ne_self _
    rw [if_neg hattempt]
    exact ⟨events, htrace, hexchange.told⟩

/-! ## Operations -/

namespace Session

/-- A bootstrap tells what its calls do, and last of its end. -/
theorem tells_bootstrap (s : Session) :
    s.Tells (Action.bootstrap.runIn s).2 s.bootstrapNotices := by
  have hrun := Action.bootstrapRun s
  unfold bootstrapNotices
  generalize Action.bootstrap.runIn s = run at hrun ⊢
  obtain ⟨result, after⟩ := run
  have hfirst := Inquiry.head.tells_call s
  dsimp only at hrun ⊢
  cases hrun with
  | @headFailed f t hhead =>
    rw [← Endpoint.after_head hhead] at hfirst
    rw [hhead]
    exact (hfirst.trans (.of_trace_eq rfl)).note (.setback t .head unmarked_nil f)
  | @constantsFailed head f t u hhead hconstants =>
    have hsecond := (Inquiry.constants head.hash).tells_call t
    rw [← Endpoint.after_head hhead] at hfirst
    rw [← Endpoint.after_constants hconstants] at hsecond
    rw [hhead]
    refine (hfirst.trans hsecond).note (.setback u .constants ?_ f)
    change ∀ n ∈ markNames, n ∉ ["block_hash"]
    decide
  | @completed head c t u hhead hconstants =>
    have hsecond := (Inquiry.constants head.hash).tells_call t
    rw [← Endpoint.after_head hhead] at hfirst
    rw [← Endpoint.after_constants hconstants] at hsecond
    rw [hhead]
    have hkept : s.Tells (u.setConstants c)
        (Inquiry.head.notices s ++ (Inquiry.constants head.hash).notices t) := by
      have hsame : u.Tells (u.setConstants c) [] := .of_trace_eq rfl
      simpa using (hfirst.trans hsecond).trans hsame
    exact hkept.note (.readiness u head .nil)

/-- An operation that asks for one document tells what its call does. -/
theorem notices_of_inquiry {op : Operation} {q : Inquiry} (hop : op.inquiry? = some q)
    (s : Session) : s.notices op = q.notices s := by
  unfold notices
  split
  · cases hop
  · rw [hop]
    rfl

/-- What one operation tells. -/
theorem tells_perform (s : Session) (op : Operation) :
    s.Tells (s.perform op).2 (s.notices op) := by
  cases hop : op.inquiry? with
  | some q =>
    rw [notices_of_inquiry hop, perform_of_inquiry hop]
    exact q.tells_call s
  | none =>
    cases op with
    | bootstrap =>
      rw [perform_bootstrap]
      exact s.tells_bootstrap
    | useTransport n => exact .of_trace_eq rfl
    | installTransport t => exact .of_trace_eq rfl
    | closeIdle => exact ⟨[.idleClosed s.client.transport], rfl, .silent rfl .nil⟩
    | closeTransport => exact .of_trace_eq rfl
    | setConstants c => exact .of_trace_eq rfl
    | _ => cases hop

/-! ## Runs -/

/-- What a whole run tells is what its operations tell, one after another. -/
theorem tells_performAll (s : Session) (ops : List Operation) :
    s.Tells (s.performAll ops) (s.noticesOfAll ops) := by
  -- The session is generalized: what an operation tells depends on where those before it end.
  induction ops generalizing s with
  | nil => exact .of_trace_eq rfl
  | cons op ops ih => exact (s.tells_perform op).trans (ih (s.perform op).2)

/-- What the stream of a configured logger tells of a session, whatever has been configured
before, whatever its lines look like, and whatever operations a caller performs.  With a
threshold in effect of DEBUG or below, it tells of every call that makes an attempt that a
request is sent and, if the call ends in octets or in a failure of the client's own, how it
ends, with the class of the failure; of every other call nothing, and of every bootstrap
also how that ends, with the step that has failed.  With the threshold WARNING the same is
told but for everything that is not a failure.  The level zero sets no threshold: then that
of the loggers above is in effect. -/
theorem log_tells (before : Log.Output) (level : Int) (stream : String) (format : Log.Format)
    (time : String) (s : Session) (ops : List Operation) :
    ∃ events, (s.performAll ops).trace = s.trace ++ events ∧
      ((before.configure level stream format).threshold ≤ Log.Level.debug.number →
        (before.configure level stream format).tells time (records events) =
          s.noticesOfAll ops) ∧
      ((before.configure level stream format).threshold = Log.Level.warning.number →
        (before.configure level stream format).tells time (records events) =
          (s.noticesOfAll ops).filter Notice.isFailure) := by
  obtain ⟨events, htrace, htold⟩ := s.tells_performAll ops
  obtain ⟨hregular, hnotices⟩ := htold.records
  refine ⟨events, htrace, ?_, ?_⟩
  · intro hthreshold
    rw [Log.Output.tells_of_debug hregular hthreshold, hnotices]
  · intro hthreshold
    rw [Log.Output.tells_of_warning hregular hthreshold, hnotices]

/-- A balance that cannot be read and a bootstrap without a head: the first is told as a call
that has returned octets, and only the second leaves anything among the warnings. -/
theorem log_tells_of_unreadable_balance :
    let s : Session := .answering [.plain] [.success "x", .response ⟨404, [], none⟩]
    let ops : List Operation := [.balance "head" "tz1", .bootstrap]
    let debugging := Log.Output.initial.configure 10 "stderr" .console
    let warning := Log.Output.initial.configure 30 "stderr" .json
    (∃ events, (s.performAll ops).trace = s.trace ++ events ∧
      debugging.tells "" (records events) =
        [.request, .completed, .request, .failed "HTTPStatusError", .stuck "head"]) ∧
      ∃ events, (s.performAll ops).trace = s.trace ++ events ∧
        warning.tells "" (records events) = [.failed "HTTPStatusError", .stuck "head"] := by
  intro s ops debugging warning
  have hnotices : s.noticesOfAll ops =
      [.request, .completed, .request, .failed "HTTPStatusError", .stuck "head"] := by
    decide +kernel
  obtain ⟨events, htrace, htold, -⟩ := log_tells .initial 10 "stderr" .console "" s ops
  obtain ⟨events', htrace', -, htold'⟩ := log_tells .initial 30 "stderr" .json "" s ops
  refine ⟨⟨events, htrace, ?_⟩, events', htrace', ?_⟩
  · rw [htold (by decide), hnotices]
  · rw [htold' (by decide), hnotices]
    rfl

end Session

end TezosNode
