import TezosNode.Cli.Task
import TezosNode.Proofs.Text.CaseFold

set_option autoImplicit false

/-!
# Command line: how jobs are read

A command line that gives a job has been read in steps, each of which can refuse it: the
options of the program, the command, the settings, the options and arguments of the command.
`Job.Reads` keeps what each step has found.  For a call the last step is taken apart further:
the word for its method, the path, the data and the parameters.
-/

namespace TezosNode.Cli

/-- A chain that succeeds has a first step that succeeds. -/
theorem exists_of_bind_ok {α β ε : Type} {first : Except ε α} {next : α → Except ε β} {b : β}
    (h : (first >>= next) = .ok b) : ∃ a, first = .ok a ∧ next a = .ok b := by
  cases first with
  | error fault => cases h
  | ok a => exact ⟨a, rfl, h⟩

/-! ## Arguments of a call -/

/-- The method of a word is that word in capitals, however its letters were written. -/
theorem upperCase_of_methodOf? {word : String} {method : Method}
    (hmethod : methodOf? word = some method) : Text.upperCase word = method.name := by
  unfold methodOf? at hmethod
  split at hmethod
  case h_4 => cases hmethod
  all_goals
    rename_i hfold
    obtain rfl := Option.some.inj hmethod
    exact Text.upperCase_of_foldCase hfold (by decide) (by decide +kernel) (by decide +kernel)

-- A word with a long s is a method all the same.
example : methodOf? "po\u017ft" = some .post ∧ Text.upperCase "po\u017ft" = "POST" := by
  decide +kernel

/-- Only a POST has data, and no other call has a body. -/
theorem bodyOf_eq {method : Method} {data : Option String} {body : Option Bytes}
    (hbody : bodyOf method data = .ok body) :
    body = (if method = .post then some (Text.Utf8.encode (data.getD "").toList) else none) ∧
      (method ≠ .post → data = none) := by
  by_cases hpost : method = .post
  · subst hpost
    obtain rfl := Except.ok.inj hbody
    exact ⟨rfl, fun hother => absurd rfl hother⟩
  · have hother : bodyOf method none = .ok none ∧
        ∀ text, bodyOf method (some text) = .error .dataWithoutPost := by
      cases method with
      | post => exact absurd rfl hpost
      | get => exact ⟨rfl, fun _ => rfl⟩
      | delete => exact ⟨rfl, fun _ => rfl⟩
    rw [if_neg hpost]
    cases data with
    | some text =>
      rw [hother.2 text] at hbody
      cases hbody
    | none =>
      rw [hother.1] at hbody
      exact ⟨(Except.ok.inj hbody).symm, fun _ => rfl⟩

/-- What arguments say that are those of a call. -/
structure Scanned.Calls (s : Scanned) (method : Method) (path : String) (body : Option Bytes)
    (options : List Url.Param) : Prop where
  method_eq : ∃ word, s.rest = [word, path] ∧ methodOf? word = some method
  path_head : path.toList.head? = some '/'
  body_eq : bodyOf method (s.value? .data) = .ok body
  options_eq : (s.values .param).mapM paramOf = .ok options

/-- Arguments that give the task of a call are those of that call. -/
theorem Scanned.exists_calls {s : Scanned} {t : Task} (htask : callTask s = .ok t) :
    ∃ method path body options, s.Calls method path body options ∧
      t = .call method path body options := by
  unfold callTask at htask
  split at htask
  · cases htask
  · rename_i word args hrest
    split at htask
    · cases htask
    · rename_i method hmethod
      split at htask
      · cases htask
      · rename_i path more
        obtain ⟨_, hsurplus, htask⟩ := exists_of_bind_ok htask
        dsimp only at htask
        split at htask
        · cases htask
        · rename_i hpath
          obtain ⟨body, hbody, htask⟩ := exists_of_bind_ok htask
          obtain ⟨options, hoptions, htask⟩ := exists_of_bind_ok htask
          -- All checks have passed; what remains is what they have found.
          have hnone : more = [] := by
            unfold refuseSurplus at hsurplus
            split at hsurplus
            · rename_i hempty
              exact List.isEmpty_iff.1 hempty
            · cases hsurplus
          rw [hnone] at hrest
          refine ⟨method, path, body, options, ?_, (Except.ok.inj htask).symm⟩
          exact ⟨⟨word, hrest, hmethod⟩, Decidable.not_not.1 hpath, hbody, hoptions⟩

/-! ## Jobs -/

/-- A command that takes no arguments has one task. -/
theorem eq_of_refuseSurplus {args : List String} {t found : Task}
    (htask : (refuseSurplus args).map (fun _ => t) = .ok found) : found = t := by
  cases hsurplus : refuseSurplus args with
  | error misuse =>
    rw [hsurplus] at htask
    cases htask
  | ok _ =>
    rw [hsurplus] at htask
    exact (Except.ok.inj htask).symm

/-- The task of a command asks for that command. -/
theorem Command.command_of_task {c : Command} {s : Scanned} {t : Task} (htask : c.task s = .ok t) :
    t.command = c := by
  cases c with
  | head =>
    rw [eq_of_refuseSurplus htask]
    rfl
  | constants =>
    rw [eq_of_refuseSurplus htask]
    rfl
  | balance =>
    change balanceTask s = .ok t at htask
    unfold balanceTask at htask
    split at htask
    · cases htask
    · obtain ⟨_, _, hdone⟩ := exists_of_bind_ok htask
      obtain rfl := Except.ok.inj hdone
      rfl
  | call =>
    obtain ⟨method, path, body, options, _, rfl⟩ := Scanned.exists_calls htask
    rfl

/-- What the steps of reading a command line as a job have found; the last of them read the
arguments of the command, told apart. -/
structure Job.Reads (env : Environment) (file : Option Bytes) (args : List String) (job : Job)
    (scanned : Scanned) : Prop where
  scanned_eq : ∃ rest own, Globals.read env args = .ok (job.globals, rest) ∧
    Command.read env rest = .ok (job.task.command, own) ∧
    (Scope.command job.task.command).accept own = .ok scanned
  config_eq : (Config.load env file).1 = .ok job.config
  task_eq : job.task.command.task scanned = .ok job.task

/-- A command line that gives a job has been read in these steps. -/
theorem Job.exists_reads {env : Environment} {file : Option Bytes} {args : List String}
    {job : Job} (hread : Job.read env file args = .ok job) :
    ∃ scanned, job.Reads env file args scanned := by
  unfold Job.read at hread
  dsimp only at hread
  split at hread
  · cases hread
  · obtain ⟨⟨globals, rest⟩, hglobals, hread⟩ := exists_of_bind_ok hread
    obtain ⟨⟨command, own⟩, hcommand, hread⟩ := exists_of_bind_ok hread
    dsimp only at hcommand hread
    split at hread
    · cases hread
    · rename_i config hconfig
      obtain ⟨scanned, haccept, hread⟩ := exists_of_bind_ok hread
      split at hread
      · cases hread
      · rename_i task htask
        obtain rfl := Except.ok.inj hread
        obtain rfl := Command.command_of_task htask
        exact ⟨scanned, ⟨rest, own, hglobals, hcommand, haccept⟩, hconfig, htask⟩

end TezosNode.Cli
