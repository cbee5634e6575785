import TezosNode.Cli.Run
import TezosNode.Proofs.Client.Readiness

set_option autoImplicit false

/-!
# Command line: jobs

A job is a fresh session and one task in it, and how the run of the program ends is read off
the result of the task alone.  All tasks but one are an inquiry with a reading of its body;
the task of constants is a bootstrap.
-/

namespace TezosNode.Cli

/-! ## Tasks as inquiries -/

namespace Task

/-- The inquiry of a task that asks the node for one document. -/
def inquiry? : Task → Option Inquiry
  | .head => some .head
  | .constants => none
  | .balance block address => some (.get (Endpoint.balancePath block address))
  | .call method path body options => some ⟨method, path, body, options⟩

/-- What a task makes of the body of the document that it has asked for. -/
def read : Task → Bytes → Except Failure String
  | .head, body => (Endpoint.blockOf body).map blockText
  | .balance _ _, body => (Endpoint.integerOf .balance body).bind balanceText
  | .constants, body | .call _ _ _ _, body => .ok (bodyText body)

/-- A head that cannot be read is a body that is nested too deep or no block. -/
theorem of_read_head {body : Bytes} {f : Failure} (hread : Task.head.read body = .error f) :
    (∃ part, Json.tooDeep? body = some part ∧ f = .foreign (.nesting part)) ∨
      ∃ mismatch, f = .undecodable .block mismatch body := by
  change (Endpoint.blockOf body).map blockText = .error f at hread
  cases hblock : Endpoint.blockOf body with
  | ok b =>
    rw [hblock] at hread
    cases hread
  | error g =>
    rw [hblock] at hread
    obtain rfl : g = f := Except.error.inj hread
    exact Endpoint.of_blockOf_error hblock

/-- A task that asks for one document is a call and a reading of its body. -/
theorem runIn_perform_of_inquiry {t : Task} {q : Inquiry} (hq : t.inquiry? = some q)
    (s : Session) :
    t.perform.runIn s = ((q.call.runIn s).1.bind t.read, (q.call.runIn s).2) := by
  cases t with
  | head =>
    obtain rfl := Option.some.inj hq
    unfold perform
    rw [Action.runIn_bind, Endpoint.runIn_head]
    rcases Inquiry.head.call.runIn s with ⟨f | body, t⟩
    · rfl
    · unfold read Except.bind
      dsimp only
      cases Endpoint.blockOf body with
      | error f => rfl
      | ok b => rfl
  | constants => cases hq
  | balance block address =>
    obtain rfl := Option.some.inj hq
    have hbalance : (Endpoint.balance block address).runIn s = _ :=
      Action.runIn_call_read (.get (Endpoint.balancePath block address))
        (Endpoint.integerOf .balance) s
    unfold perform
    rw [Action.runIn_bind, hbalance]
    rcases (Inquiry.get (Endpoint.balancePath block address)).call.runIn s with ⟨f | body, t⟩
    · rfl
    · unfold read
      dsimp only [Except.bind]
      cases Endpoint.integerOf .balance body with
      | error f => rfl
      | ok n => cases balanceText n <;> rfl
  | call method path body options =>
    obtain rfl := Option.some.inj hq
    have hcall : Action.call method path body options =
        (Inquiry.mk method path body options).call := rfl
    unfold perform
    rw [Action.runIn_bind, hcall]
    rcases (Inquiry.mk method path body options).call.runIn s with ⟨f | body, t⟩
    · rfl
    · rfl

/-- The task of constants is a bootstrap. -/
theorem runIn_perform_constants (s : Session) :
    Task.constants.perform.runIn s =
      ((Action.bootstrap.runIn s).1.map constantsText, (Action.bootstrap.runIn s).2) := by
  unfold perform
  rw [Action.runIn_bind]
  rcases Action.bootstrap.runIn s with ⟨f | c, t⟩
  · rfl
  · rfl

/-- The task of constants is the only one that is no inquiry. -/
theorem eq_constants_of_inquiry {t : Task} (hnone : t.inquiry? = none) : t = .constants := by
  cases t with
  | constants => rfl
  | head => cases hnone
  | balance => cases hnone
  | call => cases hnone

end Task

/-! ## Surroundings -/

/-- The surroundings have no part in how the program ends. -/
structure Surroundings.LetBe (w : Surroundings) : Prop where
  completion : w.completion? = none
  obstacle : w.obstacle? = none
  refusal : w.refusal? = none

theorem Surroundings.letBe_usual : Surroundings.usual.LetBe := ⟨rfl, rfl, rfl⟩

/-- In surroundings that let it be, the program ends as its run does. -/
theorem exitIn_of_letBe {w : Surroundings} (hlet : w.LetBe) (l : Launch) :
    exitIn w l = (run l).exit := by
  have hnone : w.mishap? (run l) = none := by
    unfold Surroundings.mishap?
    rw [hlet.obstacle, hlet.refusal, ite_self, ite_self]
    rfl
  unfold exitIn
  rw [hlet.completion]
  dsimp only
  rw [hnone]

/-! ## Ends of runs -/

/-- How a run ends whose task has a result. -/
def exitOf : Except Failure String → Except Failure Nat
  | .ok _ => .ok 0
  | .error f =>
    match f.category? with
    | some category => .ok category.exitCode
    | none => .error f

/-- What a task prints that has a result. -/
def outputOf : Except Failure String → String
  | .ok text => text
  | .error _ => ""

/-- What is printed about a task that has failed. -/
def Task.complaintOf (t : Task) : Except Failure String → String
  | .ok _ => ""
  | .error f => if f.isOwn then t.complaint f else ""

/-- A failure of the client's own is told of. -/
theorem Task.complaintOf_of_isOwn (t : Task) {f : Failure} (hown : f.isOwn = true) :
    t.complaintOf (.error f) = t.complaint f :=
  if_pos hown

/-- A run that ends with another code than zero has printed nothing to the standard
output. -/
theorem outputOf_of_exitOf {result : Except Failure String} {code : Nat}
    (hexit : exitOf result = .ok code) (hcode : code ≠ 0) : outputOf result = "" := by
  cases result with
  | ok text => exact absurd (Except.ok.inj hexit).symm hcode
  | error f => rfl

/-- A run whose task has failed ends with the code of the category of the failure. -/
theorem exitOf_error {f : Failure} {code : Nat} (hexit : exitOf (.error f) = .ok code) :
    ∃ category, f.category? = some category ∧ category.exitCode = code := by
  unfold exitOf at hexit
  dsimp only at hexit
  cases hcategory : f.category? with
  | none =>
    rw [hcategory] at hexit
    cases hexit
  | some category =>
    rw [hcategory] at hexit
    exact ⟨category, rfl, Except.ok.inj hexit⟩

/-- A run ends with a failure just where its task has one that is not the client's own. -/
theorem exitOf_eq_error_iff {result : Except Failure String} {f : Failure} :
    exitOf result = .error f ↔ result = .error f ∧ f.isOwn = false := by
  cases result with
  | ok text => exact ⟨nofun, nofun⟩
  | error g =>
    unfold exitOf Failure.isOwn
    dsimp only
    constructor
    · intro hexit
      cases hcategory : g.category? with
      | some category =>
        rw [hcategory] at hexit
        cases hexit
      | none =>
        rw [hcategory] at hexit
        obtain rfl := Except.error.inj hexit
        exact ⟨rfl, by rw [hcategory]; rfl⟩
    · rintro ⟨hresult, hown⟩
      obtain rfl := Except.error.inj hresult
      cases hcategory : g.category? with
      | some category =>
        rw [hcategory] at hown
        cases hown
      | none => rfl

/-! ## Runs of jobs -/

namespace Job

variable (j : Job) (l : Launch)

/-- The host that a job talks to. -/
def host : String := j.globals.host.getD j.config.host

/-- The session of a job for the URL of its host. -/
def sessionAt (url : String) : Session :=
  ⟨⟨url, j.config, transportNumber, none⟩, [.plain], l.replies, l.clock, []⟩

/-- The run of a job whose task has been carried out. -/
def runOf (result : Except Failure String) (s : Session) : Run :=
  ⟨exitOf result, plainText (outputOf result),
    logText j.globals l.time (Session.records s.trace) ++ plainText (j.task.complaintOf result),
    s.trace, [j.config.timeout]⟩

/-- Without a host the program ends before there is a session. -/
theorem run_of_empty (hhost : j.host = "") :
    j.run l =
      ⟨.error (.foreign (.value Host.Fault.empty.message)), "", "", [], []⟩ := by
  have hstart : Session.start j.globals.host j.config [.plain] transportNumber l.replies l.clock =
      .error .empty := by
    have hempty : j.globals.host.getD j.config.host = "" := hhost
    unfold Session.start Client.make Host.normalize
    rw [if_pos hempty]
    rfl
  unfold run
  rw [hstart]

/-- The run of a job is what becomes of its task in its session. -/
theorem run_of_start {s : Session}
    (hstart : Session.start j.globals.host j.config [.plain] transportNumber l.replies l.clock =
      .ok s) :
    j.run l = j.runOf l (j.task.perform.runIn s).1 (j.task.perform.runIn s).2 := by
  unfold run
  rw [hstart]
  dsimp only
  rcases j.task.perform.runIn s with ⟨f | text, t⟩
  · unfold runOf exitOf outputOf Task.complaintOf Failure.isOwn
    dsimp only
    cases f.category? with
    | none => rfl
    | some category => rfl
  · rfl

/-- With a host there is a session for its URL. -/
theorem run_of_host (hhost : j.host ≠ "") :
    ∃ url, Host.normalize j.host = .ok url ∧
      j.run l = j.runOf l (j.task.perform.runIn (j.sessionAt l url)).1
        (j.task.perform.runIn (j.sessionAt l url)).2 := by
  obtain ⟨url, hurl, hstart⟩ := @Session.exists_start j.globals.host j.config [.plain]
    transportNumber l.replies l.clock hhost
  exact ⟨url, hurl, j.run_of_start l hstart⟩

variable {j}

/-- The run of a job whose host has a URL. -/
theorem run_of_url {url : String} (hurl : Host.normalize j.host = .ok url) :
    j.run l = j.runOf l (j.task.perform.runIn (j.sessionAt l url)).1
      (j.task.perform.runIn (j.sessionAt l url)).2 := by
  have hhost : j.host ≠ "" := by
    intro hempty
    rw [hempty] at hurl
    cases hurl
  obtain ⟨url', hurl', hrun⟩ := j.run_of_host l hhost
  obtain rfl := Except.ok.inj (hurl'.symm.trans hurl)
  exact hrun

end Job

/-- The exit code of a run, if it has one. -/
def Run.code? (r : Run) : Option Nat := r.exit.toOption

theorem Run.exit_of_code? {r : Run} {code : Nat} (hcode : r.code? = some code) :
    r.exit = .ok code := by
  unfold Run.code? at hcode
  cases hexit : r.exit with
  | error f =>
    rw [hexit] at hcode
    cases hcode
  | ok c =>
    rw [hexit] at hcode
    obtain rfl := Option.some.inj hcode
    rfl

/-- What a run leaves to its surroundings, if it does. -/
def Run.escaped? (r : Run) : Option Foreign :=
  match r.exit with
  | .error (.foreign f) => some f
  | _ => none

theorem Run.exit_of_escaped? {r : Run} {f : Foreign} (hescaped : r.escaped? = some f) :
    r.exit = .error (.foreign f) := by
  unfold Run.escaped? at hescaped
  split at hescaped
  · rename_i g hexit
    obtain rfl := Option.some.inj hescaped
    exact hexit
  · cases hescaped

/-- The run of a command line that stops the program. -/
theorem run_of_stop {l : Launch} {stop : Stop}
    (hread : Job.read l.environment l.file l.arguments = .error stop) : run l = stop.run := by
  unfold run
  rw [hread]

/-- The run of a command line that gives a job. -/
theorem run_of_job {l : Launch} {job : Job}
    (hread : Job.read l.environment l.file l.arguments = .ok job) : run l = job.run l := by
  unfold run
  rw [hread]

/-- A run of a job that ends with an exit code is that of its task in a session. -/
theorem exists_runOf_of_exit {l : Launch} {job : Job} {code : Nat}
    (hread : Job.read l.environment l.file l.arguments = .ok job)
    (hexit : (run l).exit = .ok code) :
    ∃ url, run l = job.runOf l (job.task.perform.runIn (job.sessionAt l url)).1
      (job.task.perform.runIn (job.sessionAt l url)).2 := by
  rw [run_of_job hread] at hexit ⊢
  by_cases hhost : job.host = ""
  · rw [job.run_of_empty l hhost] at hexit
    cases hexit
  · obtain ⟨url, -, hrun⟩ := job.run_of_host l hhost
    exact ⟨url, hrun⟩

end TezosNode.Cli
