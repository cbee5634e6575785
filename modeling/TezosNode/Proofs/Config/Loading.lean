import Mathlib.Data.List.Induction
import TezosNode.Config.Basic
import TezosNode.Proofs.Config.Environment

set_option autoImplicit false

/-!
# Configuration: loading

The variables of a file are added to the environment before the settings are taken from it, so
the environment wins over the file, and the settings are those of the two together.  Loading
once more changes nothing, unless it stopped at a variable that could not be set: what had
been set by then may keep the file from being read, or may give that variable another value.
-/

namespace TezosNode

/-! ## The values of a file -/

namespace DotEnv

open Environment

/-- Replacing the value of a name in every place gives it that value, if it has a place. -/
theorem given_replaced (values : List (String × Option String)) (name other : String)
    (v : Option String) :
    given (values.map fun a => if a.1 == name then (name, v) else a) other =
      if name = other then (if values.any fun a => a.1 == name then v else none)
      else given values other := by
  induction values with
  | nil => simp [given]
  | cons a values ih =>
    rw [List.map_cons, given_cons, ih, given_cons, List.any_cons]
    by_cases hname : name = other
    · subst hname
      by_cases ha : a.1 = name
      · cases v <;> simp [ha]
      · have hskip : (a.1 == name) = false := beq_eq_false_iff_ne.2 ha
        rw [if_neg (by rw [hskip]; exact ha), if_neg ha, if_pos rfl, if_pos rfl, Option.none_or,
          hskip, Bool.false_or]
    · by_cases ha : a.1 = name <;> simp [hname, ha]

/-- Assigning gives one name a value and leaves the others theirs. -/
theorem given_assign (assigned : List (String × Option String)) (name other : String)
    (v : Option String) :
    given (assign assigned name v) other = if name = other then v else given assigned other := by
  unfold assign
  split
  · rename_i hknown
    rw [given_replaced, hknown, if_pos rfl]
  · rename_i hnew
    have hsingle : given [(name, v)] other = if name = other then v else none := by
      rw [given_cons]
      exact Option.or_none
    rw [given_append, hsingle]
    by_cases hname : name = other
    · have hnone : given assigned other = none := by
        rw [← Option.not_isSome_iff_eq_none, isSome_given_iff]
        intro hmem
        obtain ⟨a, ha, heq⟩ := List.mem_map.1 hmem
        refine hnew (List.any_eq_true.2 ⟨a, ha, ?_⟩)
        rw [(Prod.mk.inj heq).1, hname, beq_self_eq_true]
      rw [hnone, Option.none_or, if_pos hname]
    · rw [if_neg hname, if_neg hname, Option.or_none]

theorem shape_assign (assigned : List (String × Option String)) (name : String)
    (v : Option String) :
    shape (assign assigned name v) =
      if (shape assigned).any fun a => a.1 == name then
        (shape assigned).map fun a => if a.1 == name then (name, v.isSome) else a
      else shape assigned ++ [(name, v.isSome)] := by
  have hany : ((shape assigned).any fun a => a.1 == name) =
      assigned.any fun a => a.1 == name := by
    rw [shape, List.any_map]
    rfl
  rw [hany]
  unfold assign shape
  split
  · rw [List.map_map, List.map_map]
    refine List.map_congr_left fun a _ => ?_
    dsimp only [Function.comp_apply]
    by_cases ha : a.1 = name <;> simp [ha]
  · rw [List.map_append]
    rfl

/-- The value of an assignment, with the variables in it replaced by what the environment and
the assignments before it say. -/
def valueIn (env : Environment) (before : List Binding) (b : Binding) : Option String :=
  b.value.map fun v =>
    String.ofList (expandFrom (resolve env (assignedValues env before)) 0 v.toList)

theorem assignedValues_concat (env : Environment) (before : List Binding) (b : Binding) :
    assignedValues env (before ++ [b]) =
      assign (assignedValues env before) b.name (valueIn env before b) := by
  unfold assignedValues
  rw [List.foldl_append]
  rfl

/-- The value that assignments give a variable in an environment. -/
def valueOf? (env : Environment) (found : List Binding) (name : String) : Option String :=
  given (assignedValues env found) name

/-- The last assignment of a variable counts. -/
theorem valueOf?_concat (env : Environment) (before : List Binding) (b : Binding) (name : String) :
    valueOf? env (before ++ [b]) name =
      if b.name = name then valueIn env before b else valueOf? env before name := by
  unfold valueOf?
  rw [assignedValues_concat, given_assign]

/-- A variable that gets a value is assigned one. -/
theorem exists_of_valueOf? {env : Environment} {found : List Binding} {name value : String}
    (hvalue : valueOf? env found name = some value) :
    ∃ b ∈ found, b.name = name ∧ b.value.isSome = true := by
  induction found using List.reverseRecOn with
  | nil => cases hvalue
  | append_singleton before b ih =>
    rw [valueOf?_concat] at hvalue
    split at hvalue
    · rename_i hname
      obtain ⟨v, hv, _⟩ := Option.map_eq_some_iff.1 hvalue
      exact ⟨b, List.mem_append_right _ List.mem_cons_self, hname, by rw [hv]; rfl⟩
    · obtain ⟨b, hmem, hb⟩ := ih hvalue
      exact ⟨b, List.mem_append_left _ hmem, hb⟩

/-- Which variables get a value does not depend on the environment. -/
theorem shape_assignedValues (env other : Environment) (found : List Binding) :
    shape (assignedValues env found) = shape (assignedValues other found) := by
  induction found using List.reverseRecOn with
  | nil => rfl
  | append_singleton before b ih =>
    rw [assignedValues_concat, assignedValues_concat, shape_assign, shape_assign, ih]
    simp only [valueIn, Option.isSome_map]

/-- The assignments that are read from a file: none if there is no file, if the environment
keeps files from being read, or if the file is no text. -/
def assignments? (env : Environment) (file : Option Bytes) : Option (List Binding) :=
  if isDisabled env then none else file.bind fun bytes => (decode bytes).toOption

end DotEnv

/-! ## Settings -/

namespace Config

theorem make_eq_ok_iff {host : String} {timeout : Seconds} {strictErrors : Bool} {c : Config} :
    make host timeout strictErrors = .ok c ↔
      timeout.isNonPositive = false ∧ c = ⟨host, timeout, strictErrors⟩ := by
  unfold make
  cases timeout.isNonPositive with
  | true => simp
  | false => simp [eq_comm]

/-- The settings of an environment are what it says about each of them. -/
theorem of_ofEnvironment {env : Environment} {c : Config} (hsettings : ofEnvironment env = .ok c) :
    c.host = hostOf env ∧ timeoutOf env = .ok c.timeout ∧ strictOf env = .ok c.strictErrors := by
  unfold ofEnvironment at hsettings
  cases htimeout : timeoutOf env with
  | error fault =>
    rw [htimeout] at hsettings
    cases hsettings
  | ok timeout =>
    cases hstrict : strictOf env with
    | error fault =>
      rw [htimeout, hstrict] at hsettings
      cases hsettings
    | ok strict =>
      rw [htimeout, hstrict] at hsettings
      obtain ⟨_, rfl⟩ := make_eq_ok_iff.1 hsettings
      exact ⟨rfl, rfl, rfl⟩

theorem of_timeoutOf_error {env : Environment} {fault : Fault}
    (htimeout : timeoutOf env = .error fault) : ∃ text, fault = .timeoutNoNumber text := by
  unfold timeoutOf at htimeout
  split at htimeout
  · cases htimeout
  · split at htimeout
    · cases htimeout
    · exact ⟨_, (Except.error.inj htimeout).symm⟩

theorem of_strictOf_error {env : Environment} {fault : Fault}
    (hstrict : strictOf env = .error fault) : ∃ text, fault = .strictNoBoolean text := by
  unfold strictOf at hstrict
  dsimp only at hstrict
  split at hstrict
  · cases hstrict
  · exact ⟨_, (Except.error.inj hstrict).symm⟩

theorem of_make_error {host : String} {timeout : Seconds} {strictErrors : Bool} {fault : Fault}
    (hmake : make host timeout strictErrors = .error fault) :
    fault = .nonPositiveTimeout timeout := by
  unfold make at hmake
  split at hmake
  · exact (Except.error.inj hmake).symm
  · cases hmake

/-- What is wrong with settings is never that a variable cannot be set. -/
theorem ofEnvironment_ne_variable (env : Environment) (fault : Environment.Fault) :
    ofEnvironment env ≠ .error (.variable fault) := by
  intro hsettings
  unfold ofEnvironment at hsettings
  cases htimeout : timeoutOf env with
  | error f =>
    obtain ⟨text, rfl⟩ := of_timeoutOf_error htimeout
    rw [htimeout] at hsettings
    cases hsettings
  | ok timeout =>
    cases hstrict : strictOf env with
    | error f =>
      obtain ⟨text, rfl⟩ := of_strictOf_error hstrict
      rw [htimeout, hstrict] at hsettings
      cases hsettings
    | ok strict =>
      rw [htimeout, hstrict] at hsettings
      cases of_make_error hsettings

/-! ## Loading -/

section Load

variable {env : Environment} {file : Option Bytes} {found : List DotEnv.Binding}

/-- Where files are kept from being read, the settings are those of the environment. -/
theorem load_of_disabled (hdisabled : DotEnv.isDisabled env = true) (file : Option Bytes) :
    load env file = (ofEnvironment env, env) := by
  unfold load
  rw [hdisabled]
  cases file <;> rfl

/-- Where files are read, the settings are those of the environment and the file. -/
theorem load_of_enabled (henabled : DotEnv.isDisabled env = false) (bytes : Bytes) :
    load env (some bytes) =
      match DotEnv.decode bytes with
      | .error fault => (.error (.undecodableFile fault), env)
      | .ok found =>
        match DotEnv.load env found with
        | (after, .ok ()) => (ofEnvironment after, after)
        | (after, .error fault) => (.error (.variable fault), after) := by
  unfold load
  rw [henabled]
  rfl

/-- Without assignments the environment stays as it is, and the settings are its own. -/
theorem load_of_unread (hunread : DotEnv.assignments? env file = none) :
    (load env file).2 = env ∧ ∀ c, (load env file).1 = .ok c → ofEnvironment env = .ok c := by
  unfold DotEnv.assignments? at hunread
  cases hdisabled : DotEnv.isDisabled env with
  | true =>
    rw [load_of_disabled hdisabled]
    exact ⟨rfl, fun _ hsettings => hsettings⟩
  | false =>
    cases file with
    | none => exact ⟨rfl, fun _ hsettings => hsettings⟩
    | some bytes =>
      rw [load_of_enabled hdisabled]
      cases hdecode : DotEnv.decode bytes with
      | error fault => exact ⟨rfl, fun _ hsettings => nomatch hsettings⟩
      | ok found => simp [hdisabled, hdecode, Except.toOption] at hunread

/-- Assignments that are read are loaded, as far as that goes. -/
theorem load_of_read (hread : DotEnv.assignments? env file = some found) :
    load env file =
      match DotEnv.load env found with
      | (after, .ok ()) => (ofEnvironment after, after)
      | (after, .error fault) => (.error (.variable fault), after) := by
  unfold DotEnv.assignments? at hread
  split at hread
  · cases hread
  · rename_i henabled
    obtain ⟨bytes, rfl, hbytes⟩ := Option.bind_eq_some_iff.1 hread
    have hdecode : DotEnv.decode bytes = .ok found := by
      cases hdecode : DotEnv.decode bytes with
      | error fault =>
        rw [hdecode] at hbytes
        cases hbytes
      | ok others =>
        rw [hdecode] at hbytes
        rw [Option.some.inj hbytes]
    rw [load_of_enabled (Bool.eq_false_iff.2 henabled), hdecode]

/-- Assignments are read again unless what has been set keeps files from being read. -/
theorem assignments?_of_enabled {after : Environment}
    (hread : DotEnv.assignments? env file = some found)
    (henabled : DotEnv.isDisabled after = false) :
    DotEnv.assignments? after file = some found := by
  unfold DotEnv.assignments? at hread ⊢
  split at hread
  · cases hread
  · rw [henabled]
    exact hread

/-- The environment that assignments leave. -/
theorem load_snd_of_read (hread : DotEnv.assignments? env file = some found) :
    (load env file).2 = (env.setDefaults (DotEnv.assignedValues env found)).1 := by
  rw [load_of_read hread]
  unfold DotEnv.load
  rcases env.setDefaults (DotEnv.assignedValues env found) with ⟨after, _ | ⟨⟩⟩
  · rfl
  · rfl

/-- Settings that are returned are those of an environment in which all assigned variables
have been set. -/
theorem of_load_ok (hread : DotEnv.assignments? env file = some found) {c : Config}
    (hsettings : (load env file).1 = .ok c) :
    env.setDefaults (DotEnv.assignedValues env found) = ((load env file).2, .ok ()) ∧
      ofEnvironment (load env file).2 = .ok c := by
  rw [load_of_read hread] at hsettings ⊢
  unfold DotEnv.load at hsettings ⊢
  rcases hset : env.setDefaults (DotEnv.assignedValues env found) with ⟨after, _ | ⟨⟩⟩
  · rw [hset] at hsettings
    cases hsettings
  · rw [hset] at hsettings
    exact ⟨rfl, hsettings⟩

end Load

/-! ## Loading once more -/

section Again

variable {env after : Environment} {file : Option Bytes} {found : List DotEnv.Binding}
  (hread : DotEnv.assignments? env file = some found)
include hread

/-- If all assigned variables could be set, loading once more gives the same. -/
theorem load_again_of_no_stop
    (hset : env.setDefaults (DotEnv.assignedValues env found) = (after, .ok ())) :
    load after file = load env file := by
  have hfirst : load env file = (ofEnvironment after, after) := by
    rw [load_of_read hread, DotEnv.load, hset]
  cases hdisabled : DotEnv.isDisabled after with
  | true => rw [hfirst, load_of_disabled hdisabled]
  | false =>
    rw [hfirst, load_of_read (assignments?_of_enabled hread hdisabled), DotEnv.load,
      Environment.setDefaults_again (DotEnv.shape_assignedValues after env found) hset]

/-- If a variable could not be set, loading once more gives the same just where the file is
still read and the value of that variable still cannot be set. -/
theorem load_again_iff_of_stop {name : String} {fault : Environment.Fault}
    (hstop : env.stop? (DotEnv.assignedValues env found) = some name)
    (hset : env.setDefaults (DotEnv.assignedValues env found) = (after, .error fault)) :
    load after file = load env file ↔
      DotEnv.isDisabled after = false ∧
        ∃ value, DotEnv.valueOf? after found name = some value ∧
          after.setDefault name value = .error fault := by
  have hfirst : load env file = (.error (.variable fault), after) := by
    rw [load_of_read hread, DotEnv.load, hset]
  rw [hfirst]
  cases hdisabled : DotEnv.isDisabled after with
  | true =>
    rw [load_of_disabled hdisabled]
    constructor
    · intro heq
      exact absurd (Prod.mk.inj heq).1 (ofEnvironment_ne_variable after fault)
    · rintro ⟨hfalse, _⟩
      cases hfalse
  | false =>
    have hagain := Environment.setDefaults_again_of_stop
      (DotEnv.shape_assignedValues after env found) hstop (by rw [hset]) fault
    rw [load_of_read (assignments?_of_enabled hread hdisabled), DotEnv.load]
    refine Iff.trans ?_ (hagain.trans ⟨fun h => ⟨rfl, h⟩, fun h => h.2⟩)
    rcases after.setDefaults (DotEnv.assignedValues after found) with ⟨left, other | ⟨⟩⟩
    · simp [and_comm]
    · constructor
      · intro heq
        exact absurd (Prod.mk.inj heq).1 (ofEnvironment_ne_variable left fault)
      · intro heq
        cases (Prod.mk.inj heq).2

end Again

/-! ## Loading, whatever the environment and the file are -/

theorem load_keeps {env : Environment} {name value : String}
    (hvalue : env.get? name = some value) (file : Option Bytes) :
    (load env file).2.get? name = some value := by
  cases hread : DotEnv.assignments? env file with
  | none => rwa [(load_of_unread hread).1]
  | some found =>
    rw [load_snd_of_read hread]
    exact Environment.get?_setDefaults_of_some hvalue _

/-- A variable that has a value only afterwards has it from the file. -/
theorem assigned_of_load {env : Environment} {file : Option Bytes} {name value : String}
    (hnone : env.get? name = none) (hvalue : (load env file).2.get? name = some value) :
    ∃ found, DotEnv.assignments? env file = some found ∧
      DotEnv.valueOf? env found name = some value ∧
      ∃ b ∈ found, b.name = name ∧ b.value.isSome = true := by
  cases hread : DotEnv.assignments? env file with
  | none =>
    rw [(load_of_unread hread).1, hnone] at hvalue
    cases hvalue
  | some found =>
    rw [load_snd_of_read hread] at hvalue
    have hgiven : DotEnv.valueOf? env found name = some value :=
      Environment.given_of_setDefaults hnone hvalue
    exact ⟨found, rfl, hgiven, DotEnv.exists_of_valueOf? hgiven⟩

/-- Loading once more gives the same unless it stopped, and then just where it stops again. -/
theorem load_again_iff (env : Environment) (file : Option Bytes) :
    load (load env file).2 file = load env file ↔
      ∀ found name, DotEnv.assignments? env file = some found →
        env.stop? (DotEnv.assignedValues env found) = some name →
        DotEnv.isDisabled (load env file).2 = false ∧
          ∃ value fault, DotEnv.valueOf? (load env file).2 found name = some value ∧
            (load env file).2.setDefault name value = .error fault ∧
            (load env file).1 = .error (.variable fault) := by
  cases hread : DotEnv.assignments? env file with
  | none =>
    rw [(load_of_unread hread).1]
    exact ⟨fun _ _ _ hfound => (nomatch hfound), fun _ => rfl⟩
  | some found =>
    cases hstop : env.stop? (DotEnv.assignedValues env found) with
    | none =>
      obtain ⟨after, hset⟩ := Environment.exists_of_no_stop hstop
      have hafter : (load env file).2 = after := by rw [load_snd_of_read hread, hset]
      rw [hafter, load_again_of_no_stop hread hset]
      refine iff_of_true rfl fun others name hothers hname => ?_
      rw [← Option.some.inj hothers, hstop] at hname
      cases hname
    | some name =>
      obtain ⟨_, _, _, after, fault, _, _, _, hset⟩ := Environment.exists_of_stop hstop
      have hafter : (load env file).2 = after := by rw [load_snd_of_read hread, hset]
      have hfirst : (load env file).1 = .error (.variable fault) := by
        rw [load_of_read hread, DotEnv.load, hset]
      rw [hafter, load_again_iff_of_stop hread hstop hset, hfirst]
      constructor
      · rintro ⟨henabled, value, hvalue, hfault⟩ others other hothers hother
        obtain rfl := Option.some.inj hothers
        obtain rfl := Option.some.inj (hstop.symm.trans hother)
        exact ⟨henabled, value, fault, hvalue, hfault, rfl⟩
      · intro hall
        obtain ⟨henabled, value, other, hvalue, hfault, heq⟩ := hall found name rfl hstop
        obtain rfl := Fault.variable.inj (Except.error.inj heq)
        exact ⟨henabled, value, hvalue, hfault⟩

/-- Settings that are returned are those of the environment and the file together. -/
theorem of_load {env : Environment} {file : Option Bytes} {c : Config}
    (hsettings : (load env file).1 = .ok c) :
    (∀ name, (load env file).2.get? name = (env.get? name).or
        ((DotEnv.assignments? env file).bind fun found => DotEnv.valueOf? env found name)) ∧
      ofEnvironment (load env file).2 = .ok c := by
  cases hread : DotEnv.assignments? env file with
  | none =>
    obtain ⟨hsame, hown⟩ := load_of_unread hread
    rw [hsame]
    exact ⟨fun _ => Option.or_none.symm, hown c hsettings⟩
  | some found =>
    obtain ⟨hset, hafter⟩ := of_load_ok hread hsettings
    exact ⟨fun name => Environment.get?_of_setDefaults hset name, hafter⟩

/-- Whatever the environment and the file are, loading keeps the value of every variable, and
sets only variables that the file assigns.  Loading once more gives the same and changes
nothing, unless a variable could not be set; and then just where the file is still read and
the value that it has for that variable cannot be set for the same reason.  Settings that are
returned are those of the environment afterwards, in which a variable has its value from the
environment before, or else from the file. -/
theorem load_merges (env : Environment) (file : Option Bytes) :
    let after := (load env file).2
    (∀ name value, env.get? name = some value → after.get? name = some value) ∧
    (∀ name value, env.get? name = none → after.get? name = some value →
      ∃ found, DotEnv.assignments? env file = some found ∧
        DotEnv.valueOf? env found name = some value ∧
        ∃ b ∈ found, b.name = name ∧ b.value.isSome = true) ∧
    (load after file = load env file ↔
      ∀ found name, DotEnv.assignments? env file = some found →
        env.stop? (DotEnv.assignedValues env found) = some name →
        DotEnv.isDisabled after = false ∧
          ∃ value fault, DotEnv.valueOf? after found name = some value ∧
            after.setDefault name value = .error fault ∧
            (load env file).1 = .error (.variable fault)) ∧
    ∀ c, (load env file).1 = .ok c →
      (∀ name, after.get? name = (env.get? name).or
        ((DotEnv.assignments? env file).bind fun found => DotEnv.valueOf? env found name)) ∧
      timeoutOf after = .ok c.timeout ∧ strictOf after = .ok c.strictErrors ∧
      hostOf after = c.host := by
  intro after
  refine ⟨fun _ _ hvalue => load_keeps hvalue file, fun _ _ => assigned_of_load,
    load_again_iff env file, fun c hsettings => ?_⟩
  obtain ⟨hvalues, hafter⟩ := of_load hsettings
  obtain ⟨hhost, htimeout, hstrict⟩ := of_ofEnvironment hafter
  exact ⟨hvalues, htimeout, hstrict, hhost.symm⟩

/-- A node that the environment names by an empty text stays so, and the file adds the limit on
waits. -/
theorem load_merges_of_empty_host :
    let env : Environment := [("TEZOS_RPC_URL", "")]
    let file := some (Text.Utf8.encode "TEZOS_RPC_URL=http://file\nTEZOS_RPC_TIMEOUT=3\n".toList)
    let after := (load env file).2
    after.get? "TEZOS_RPC_URL" = some "" ∧ hostOf after = "" ∧
      timeoutOf after = .ok (.double (.ofRatio false 3 1)) ∧
      after.get? "TEZOS_RPC_TIMEOUT" = some "3" ∧ load after file = load env file := by
  intro env file after
  obtain ⟨hkept, _, hagain, hmerged⟩ := load_merges env file
  have hsettings : (load env file).1 = .ok ⟨"", .double (.ofRatio false 3 1), false⟩ := by
    decide +kernel
  have hstop : ((DotEnv.assignments? env file).bind fun found =>
      env.stop? (DotEnv.assignedValues env found)) = none := by
    decide +kernel
  have hfile : ((DotEnv.assignments? env file).bind fun found =>
      DotEnv.valueOf? env found "TEZOS_RPC_TIMEOUT") = some "3" := by
    decide +kernel
  obtain ⟨hvalues, htimeout, _, hhost⟩ := hmerged _ hsettings
  refine ⟨hkept "TEZOS_RPC_URL" "" rfl, hhost, htimeout, ?_, hagain.2 ?_⟩
  · rw [hvalues, hfile]
    rfl
  · intro found name hfound hname
    rw [hfound, Option.bind_some, hname] at hstop
    cases hstop

/-- A file that sets a variable that keeps files from being read and then stops at a variable
that cannot be set: the first time its fault shows, and the second time it is not read. -/
theorem load_again_ne_of_disabling :
    let file := some (Text.Utf8.encode "PYTHON_DOTENV_DISABLED=1\n'A=B'=x\n".toList)
    let after := (load [] file).2
    (load [] file).1 = .error (.variable .illegalName) ∧ (load after file).1 = .ok default ∧
      load after file ≠ load [] file := by
  intro file after
  have hfirst : (load [] file).1 = .error (.variable .illegalName) := by decide +kernel
  have hsecond : (load after file).1 = .ok default := by decide +kernel
  refine ⟨hfirst, hsecond, ?_⟩
  intro heq
  rw [heq, hfirst] at hsecond
  cases hsecond

end Config

end TezosNode
