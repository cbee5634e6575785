import TezosNode.Proofs.Client.Release

set_option autoImplicit false

/-!
# Client: constants that are kept

The constants of a client are written in two ways only: its caller sets them, or a
bootstrap returns.  A history lists the operations of a session with what came of each,
and the constants at any point of a session are those that were kept last in its history.
What a bootstrap or a call does to the client is said once for each, and the run follows
by induction on the operations.
-/

namespace TezosNode

/-! ## Histories -/

/-- The constants that a client keeps for an operation, by what came of it: those that
the caller sets and those that a bootstrap returns.  Constants that are only asked for
are not kept. -/
def Operation.kept? : Operation → Except Failure Answer → Option Constants
  | .setConstants c, _ => some c
  | .bootstrap, .ok (.constants c) => some c
  | _, _ => none

/-- Operations, each with what came of it. -/
abbrev History : Type := List (Operation × Except Failure Answer)

/-- The constants that were kept last. -/
def History.latest? (history : History) : Option Constants :=
  (history.filterMap fun step => step.1.kept? step.2).getLast?

/-- The history of operations that are performed one after another in a session. -/
def Session.history (s : Session) : List Operation → History
  | [] => []
  | op :: rest => (op, (s.perform op).1) :: history (s.perform op).2 rest

/-- An operation that comes first counts only if nothing is kept after it. -/
theorem History.latest?_cons (step : Operation × Except Failure Answer) (rest : History) :
    History.latest? (step :: rest) = (History.latest? rest).or (step.1.kept? step.2) := by
  unfold latest?
  rw [List.filterMap_cons]
  cases step.1.kept? step.2 with
  | none => rw [Option.or_none]
  | some c =>
    rw [List.getLast?_cons]
    cases (rest.filterMap fun step => step.1.kept? step.2).getLast? with
    | none => rfl
    | some _ => rfl

/-! ## Single operations -/

/-- Nothing is kept for an operation that asks for one document. -/
theorem Operation.kept?_of_inquiry {op : Operation} {q : Inquiry} (hop : op.inquiry? = some q)
    (result : Except Failure Answer) : op.kept? result = none := by
  cases op with
  | bootstrap => cases hop
  | setConstants c => cases hop
  | _ => rfl

/-- A bootstrap changes nothing about the client but the constants, and these only if it
returns some. -/
theorem BootstrapRun.client_eq {s t : Session} {result : Except Failure Constants}
    (h : BootstrapRun s result t) :
    t.client = { s.client with constants := result.toOption.or s.client.constants } := by
  cases h with
  | headFailed hhead =>
    rw [Session.note_client, Endpoint.after_head hhead, Inquiry.call_client]
    rfl
  | constantsFailed hhead hconstants =>
    rw [Session.note_client, Endpoint.after_constants hconstants, Inquiry.call_client,
      Endpoint.after_head hhead, Inquiry.call_client]
    rfl
  | @completed head c t u hhead hconstants =>
    have hclient : u.client = s.client := by
      rw [Endpoint.after_constants hconstants, Inquiry.call_client, Endpoint.after_head hhead,
        Inquiry.call_client]
    rw [Session.note_client, Session.setConstants, hclient]
    rfl

namespace Session

/-- The result of a bootstrap that a caller asks for, and the client after it. -/
theorem perform_bootstrap (s : Session) :
    s.perform .bootstrap =
      ((Action.bootstrap.runIn s).1.map .constants, (Action.bootstrap.runIn s).2) :=
  Action.runIn_map Answer.constants Action.bootstrap s

/-- What a bootstrap returns is what is kept for it. -/
theorem kept?_bootstrap (result : Except Failure Constants) :
    Operation.bootstrap.kept? (result.map .constants) = result.toOption := by
  cases result with
  | error f => rfl
  | ok c => rfl

/-- An operation changes the constants to those that are kept for it, if any. -/
theorem constants_perform (s : Session) (op : Operation) :
    (s.perform op).2.client.constants =
      (op.kept? (s.perform op).1).or s.client.constants := by
  cases hop : op.inquiry? with
  | some q =>
    rw [Operation.kept?_of_inquiry hop, perform_of_inquiry hop]
    exact congrArg Client.constants (q.call_client s)
  | none =>
    cases op with
    | bootstrap =>
      rw [perform_bootstrap, kept?_bootstrap, (Action.bootstrapRun s).client_eq]
    | useTransport n => rfl
    | installTransport t => rfl
    | closeIdle => rfl
    | closeTransport => rfl
    | setConstants c => rfl
    | _ => cases hop

/-- No operation changes the host of the client. -/
theorem host_perform (s : Session) (op : Operation) :
    (s.perform op).2.client.host = s.client.host := by
  cases hop : op.inquiry? with
  | some q =>
    rw [perform_of_inquiry hop]
    exact congrArg Client.host (q.call_client s)
  | none =>
    cases op with
    | bootstrap => rw [perform_bootstrap, (Action.bootstrapRun s).client_eq]
    | useTransport n => rfl
    | installTransport t => rfl
    | closeIdle => rfl
    | closeTransport => rfl
    | setConstants c => rfl
    | _ => cases hop

/-- No operation changes the settings of the client. -/
theorem config_perform (s : Session) (op : Operation) :
    (s.perform op).2.client.config = s.client.config := by
  obtain ⟨events, hstep⟩ := s.exists_step op
  exact hstep.config_eq

/-! ## Runs -/

/-- Operations leave the constants that were kept last, or those from before. -/
theorem constants_performAll (s : Session) (ops : List Operation) :
    (s.performAll ops).client.constants =
      (s.history ops).latest?.or s.client.constants := by
  induction ops generalizing s with
  | nil => rfl
  | cons op rest ih =>
    have hrun : s.performAll (op :: rest) = (s.perform op).2.performAll rest := rfl
    rw [hrun, ih, constants_perform, history, History.latest?_cons, Option.or_assoc]

theorem host_performAll (s : Session) (ops : List Operation) :
    (s.performAll ops).client.host = s.client.host := by
  induction ops generalizing s with
  | nil => rfl
  | cons op rest ih => exact (ih (s.perform op).2).trans (s.host_perform op)

theorem config_performAll (s : Session) (ops : List Operation) :
    (s.performAll ops).client.config = s.client.config := by
  induction ops generalizing s with
  | nil => rfl
  | cons op rest ih => exact (ih (s.perform op).2).trans (s.config_perform op)

/-! ## Whole sessions -/

/-- A session shows the constants that were kept last in a history, and the host and the
settings that its client was made with. -/
structure Shows (s : Session) (host : Option String) (config : Config) (history : History) :
    Prop where
  constants_eq : s.client.constants = history.latest?
  host_eq : Host.normalize (host.getD config.host) = .ok s.client.host
  config_eq : s.client.config = config

variable {host : Option String} {config : Config} {transports : List Transport}
  {transport : Nat} {replies : List Reply} {clock : List Int} {s : Session}

/-- A session begins without constants. -/
theorem shows_of_start (hstart : start host config transports transport replies clock = .ok s) :
    s.Shows host config [] := by
  obtain ⟨url, hhost, rfl⟩ := eq_of_start hstart
  exact ⟨rfl, hhost, rfl⟩

/-- A session that has tried to get ready is one that has begun with a bootstrap. -/
theorem of_startReady {result : Except Failure Constants}
    (hstart : startReady host config transports transport replies clock = .ok (result, s)) :
    ∃ s₀, start host config transports transport replies clock = .ok s₀ ∧
      s = s₀.performAll [.bootstrap] ∧
      s₀.history [.bootstrap] = [(.bootstrap, result.map .constants)] := by
  unfold startReady at hstart
  cases hbegin : start host config transports transport replies clock with
  | error fault =>
    rw [hbegin] at hstart
    cases hstart
  | ok s₀ =>
    rw [hbegin] at hstart
    have hrun : Action.bootstrap.runIn s₀ = (result, s) := Except.ok.inj hstart
    have hperform := s₀.perform_bootstrap
    rw [hrun] at hperform
    refine ⟨s₀, rfl, ?_, ?_⟩
    · exact (congrArg Prod.snd hperform).symm
    · rw [history, hperform]
      rfl

/-- A session goes on showing what was kept last. -/
theorem Shows.performAll {past : History} (h : s.Shows host config past)
    (ops : List Operation) : (s.performAll ops).Shows host config (past ++ s.history ops) where
  constants_eq := by
    rw [constants_performAll, h.constants_eq, History.latest?, History.latest?, History.latest?,
      List.filterMap_append, List.getLast?_append]
  host_eq := by
    rw [host_performAll]
    exact h.host_eq
  config_eq := (s.config_performAll ops).trans h.config_eq

/-- At every point of every session, whatever the node replies and however operations
fail, the constants of the client are those that were kept last: set by the caller, or
returned by a bootstrap, of which the one that makes a client ready is the first.  If none
were kept there are none.  Host and settings stay as they were given. -/
theorem constants_kept_last (ops : List Operation) :
    (start host config transports transport replies clock = .ok s →
      (s.performAll ops).Shows host config (s.history ops)) ∧
    ∀ result, startReady host config transports transport replies clock = .ok (result, s) →
      (s.performAll ops).Shows host config
        ((.bootstrap, result.map .constants) :: s.history ops) := by
  constructor
  · intro hstart
    exact (shows_of_start hstart).performAll ops
  · intro result hready
    obtain ⟨s₀, hstart, rfl, hhistory⟩ := of_startReady hready
    have hready := (shows_of_start hstart).performAll [.bootstrap]
    rw [hhistory] at hready
    exact hready.performAll ops

/-- Constants that are asked for, and a bootstrap that fails, leave those that were set. -/
theorem constants_kept_last_after_failure :
    ((answering [.plain] [.success "\x7b\"a\":1\x7d", .refused ⟨.connect, ""⟩]).performAll
      [.setConstants ⟨[], some "A"⟩, .constants "B", .bootstrap]).client.constants.bind
        Constants.blockHash = some "A" := by
  have hstart : start (some "http://node") .default [.plain] 0
      [.success "\x7b\"a\":1\x7d", .refused ⟨.connect, ""⟩] [] =
        .ok (answering [.plain] [.success "\x7b\"a\":1\x7d", .refused ⟨.connect, ""⟩]) :=
    rfl
  have hshows := (constants_kept_last
    [.setConstants ⟨[], some "A"⟩, .constants "B", .bootstrap]).1 hstart
  rw [hshows.constants_eq]
  decide +kernel

end Session

end TezosNode
