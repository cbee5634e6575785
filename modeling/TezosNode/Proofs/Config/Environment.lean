import TezosNode.Config.Environment

set_option autoImplicit false

/-!
# Configuration: environments that grow

Giving values to variables that have none changes no variable that has one.  The values go in
one after another until one cannot be set, so the environment that results has those before
it; and giving values to the same variables once more passes over all of these.
-/

namespace TezosNode.Environment

/-! ## One variable -/

/-- A variable after one more has been set at the end. -/
theorem get?_concat (env : Environment) (name value other : String) :
    get? (env ++ [(name, value)]) other =
      (env.get? other).or (if name = other then some value else none) := by
  unfold get?
  rw [List.find?_append, Option.map_or]
  by_cases hname : name = other
  · simp [hname]
  · simp [hname]

/-- A value is given to a variable that has none, and no other variable changes. -/
theorem get?_of_setDefault {env after : Environment} {name value : String}
    (hset : env.setDefault name value = .ok after) (other : String) :
    after.get? other = (env.get? other).or (if name = other then some value else none) := by
  unfold setDefault at hset
  split at hset
  · rename_i hsome
    obtain rfl := Except.ok.inj hset
    by_cases hname : name = other
    · obtain ⟨v, hv⟩ := Option.isSome_iff_exists.1 hsome
      rw [← hname, hv, Option.some_or]
    · rw [if_neg hname, Option.or_none]
  · split at hset
    · cases hset
    · split at hset
      · cases hset
      · obtain rfl := Except.ok.inj hset
        exact get?_concat env name value other

theorem setDefault_of_isSome {env : Environment} {name : String}
    (hsome : (env.get? name).isSome = true) (value : String) :
    env.setDefault name value = .ok env :=
  if_pos hsome

/-- A variable that cannot be set has no value. -/
theorem get?_of_setDefault_error {env : Environment} {name value : String} {fault : Fault}
    (hset : env.setDefault name value = .error fault) : env.get? name = none := by
  cases hvalue : env.get? name with
  | none => rfl
  | some v =>
    rw [setDefault_of_isSome (by rw [hvalue]; rfl)] at hset
    cases hset

/-! ## Many variables -/

/-- The value that a list has for a variable. -/
def given (values : List (String × Option String)) (name : String) : Option String :=
  values.findSome? fun a => if a.1 = name then a.2 else none

theorem given_append (passed rest : List (String × Option String)) (name : String) :
    given (passed ++ rest) name = (given passed name).or (given rest name) :=
  List.findSome?_append

theorem given_cons (a : String × Option String) (rest : List (String × Option String))
    (name : String) :
    given (a :: rest) name = (if a.1 = name then a.2 else none).or (given rest name) := by
  unfold given
  rw [List.findSome?_cons]
  cases (if a.1 = name then a.2 else none) with
  | none => rfl
  | some v => rfl

/-- The variable that values stop at, for it cannot be set. -/
def stop? (env : Environment) : List (String × Option String) → Option String
  | [] => none
  | (_, none) :: rest => env.stop? rest
  | (name, some value) :: rest =>
    match env.setDefault name value with
    | .ok env => env.stop? rest
    | .error _ => some name

/-- Values that can all be set are what the variables without value have afterwards. -/
theorem get?_of_setDefaults {env after : Environment} {values : List (String × Option String)}
    (hset : env.setDefaults values = (after, .ok ())) (name : String) :
    after.get? name = (env.get? name).or (given values name) := by
  induction values generalizing env with
  | nil =>
    obtain rfl := (Prod.mk.inj hset).1
    exact Option.or_none.symm
  | cons a rest ih =>
    obtain ⟨n, v⟩ := a
    cases v with
    | none =>
      rw [given_cons, ite_self, Option.none_or]
      exact ih hset
    | some v =>
      unfold setDefaults at hset
      cases hone : env.setDefault n v with
      | error fault =>
        rw [hone] at hset
        cases hset
      | ok middle =>
        rw [hone] at hset
        rw [ih hset, get?_of_setDefault hone, given_cons, Option.or_assoc]

/-- Values stop where all before could be set and the next one cannot. -/
theorem exists_of_stop {env : Environment} {values : List (String × Option String)}
    {name : String} (hstop : env.stop? values = some name) :
    ∃ passed value rest after fault, values = passed ++ (name, some value) :: rest ∧
      env.setDefaults passed = (after, .ok ()) ∧ after.setDefault name value = .error fault ∧
      env.setDefaults values = (after, .error fault) := by
  induction values generalizing env with
  | nil => cases hstop
  | cons a rest ih =>
    obtain ⟨n, v⟩ := a
    cases v with
    | none =>
      obtain ⟨passed, value, rest', after, fault, rfl, hpassed, hfault, hall⟩ := ih hstop
      exact ⟨(n, none) :: passed, value, rest', after, fault, rfl, hpassed, hfault, hall⟩
    | some v =>
      unfold stop? at hstop
      cases hone : env.setDefault n v with
      | error fault =>
        rw [hone] at hstop
        obtain rfl := Option.some.inj hstop
        exact ⟨[], v, rest, env, fault, rfl, rfl, hone, by simp [setDefaults, hone]⟩
      | ok middle =>
        rw [hone] at hstop
        obtain ⟨passed, value, rest', after, fault, rfl, hpassed, hfault, hall⟩ := ih hstop
        exact ⟨(n, some v) :: passed, value, rest', after, fault, rfl,
          by simpa [setDefaults, hone] using hpassed, hfault,
          by simpa [setDefaults, hone] using hall⟩

/-- Values that stop nowhere can all be set. -/
theorem exists_of_no_stop {env : Environment} {values : List (String × Option String)}
    (hnone : env.stop? values = none) : ∃ after, env.setDefaults values = (after, .ok ()) := by
  induction values generalizing env with
  | nil => exact ⟨env, rfl⟩
  | cons a rest ih =>
    obtain ⟨n, v⟩ := a
    cases v with
    | none => exact ih hnone
    | some v =>
      unfold stop? at hnone
      cases hone : env.setDefault n v with
      | error fault =>
        rw [hone] at hnone
        cases hnone
      | ok middle =>
        rw [hone] at hnone
        obtain ⟨after, hall⟩ := ih hnone
        exact ⟨after, by simpa [setDefaults, hone] using hall⟩

/-- Whether or not values stop, the environment is the one after some of them, all of which
could be set. -/
theorem exists_passed (env : Environment) (values : List (String × Option String)) :
    ∃ passed rest, values = passed ++ rest ∧
      env.setDefaults passed = ((env.setDefaults values).1, .ok ()) := by
  cases hstop : env.stop? values with
  | none =>
    obtain ⟨after, hall⟩ := exists_of_no_stop hstop
    exact ⟨values, [], (List.append_nil values).symm, by rw [hall]⟩
  | some name =>
    obtain ⟨passed, value, rest, after, fault, hvalues, hpassed, _, hall⟩ := exists_of_stop hstop
    exact ⟨passed, _, hvalues, by rw [hall, hpassed]⟩

/-- A variable that has a value keeps it. -/
theorem get?_setDefaults_of_some {env : Environment} {name value : String}
    (hvalue : env.get? name = some value) (values : List (String × Option String)) :
    (env.setDefaults values).1.get? name = some value := by
  obtain ⟨passed, rest, _, hpassed⟩ := env.exists_passed values
  rw [get?_of_setDefaults hpassed, hvalue, Option.some_or]

/-- A variable that has a value only afterwards has it from the values. -/
theorem given_of_setDefaults {env : Environment} {values : List (String × Option String)}
    {name value : String} (hnone : env.get? name = none)
    (hvalue : (env.setDefaults values).1.get? name = some value) :
    given values name = some value := by
  obtain ⟨passed, rest, hvalues, hpassed⟩ := env.exists_passed values
  rw [get?_of_setDefaults hpassed, hnone, Option.none_or] at hvalue
  rw [hvalues, given_append, hvalue, Option.some_or]

/-! ## Once more -/

/-- The variables of a list, and which of them have a value there. -/
def shape (values : List (String × Option String)) : List (String × Bool) :=
  values.map fun a => (a.1, a.2.isSome)

theorem isSome_given_iff {values : List (String × Option String)} {name : String} :
    (given values name).isSome = true ↔ (name, true) ∈ shape values := by
  rw [given, List.findSome?_isSome_iff, shape, List.mem_map]
  constructor
  · rintro ⟨a, hmem, hsome⟩
    split at hsome
    · rename_i hname
      exact ⟨a, hmem, by rw [hname, hsome]⟩
    · cases hsome
  · rintro ⟨a, hmem, heq⟩
    obtain ⟨hname, hsome⟩ := Prod.mk.inj heq
    exact ⟨a, hmem, by rw [if_pos hname, hsome]⟩

/-- Values for variables that have one are passed over. -/
theorem setDefaults_append_of_isSome {env : Environment}
    {passed : List (String × Option String)}
    (hset : ∀ name, (name, true) ∈ shape passed → (env.get? name).isSome = true)
    (rest : List (String × Option String)) :
    env.setDefaults (passed ++ rest) = env.setDefaults rest := by
  induction passed with
  | nil => rfl
  | cons a passed ih =>
    obtain ⟨n, v⟩ := a
    have hrest := ih fun name hmem => hset name (List.mem_cons_of_mem _ hmem)
    cases v with
    | none => exact hrest
    | some v =>
      have hn := hset n List.mem_cons_self
      rw [List.cons_append, setDefaults, setDefault_of_isSome hn]
      exact hrest

section Again

variable {env after : Environment} {values again : List (String × Option String)}
  (hshape : shape again = shape values)
include hshape

/-- Once all values have been set, other values for the same variables change nothing. -/
theorem setDefaults_again (hset : env.setDefaults values = (after, .ok ())) :
    after.setDefaults again = (after, .ok ()) := by
  have hall : ∀ name, (name, true) ∈ shape again → (after.get? name).isSome = true := by
    intro name hmem
    rw [hshape] at hmem
    rw [get?_of_setDefaults hset, Option.isSome_or, isSome_given_iff.2 hmem, Bool.or_true]
  have hpassed := setDefaults_append_of_isSome hall []
  rwa [List.append_nil] at hpassed

/-- Once values have stopped at a variable, other values for the same variables change nothing
just where the value of that variable cannot be set either. -/
theorem setDefaults_again_of_stop {name : String} (hstop : env.stop? values = some name)
    (hafter : (env.setDefaults values).1 = after) (fault : Fault) :
    after.setDefaults again = (after, .error fault) ↔
      ∃ value, given again name = some value ∧ after.setDefault name value = .error fault := by
  obtain ⟨passed, value, rest, middle, first, rfl, hpassed, hfirst, hall⟩ := exists_of_stop hstop
  rw [hall] at hafter
  obtain rfl : middle = after := hafter
  -- The other values have the same parts: those before the variable, its own and the rest.
  rw [shape, shape, List.map_append] at hshape
  obtain ⟨passed', others, rfl, hpassed', hothers⟩ := List.map_eq_append_iff.1 hshape
  obtain ⟨a, rest', rfl, ha, hrest'⟩ := List.map_eq_cons_iff.1 hothers
  obtain ⟨n, v⟩ := a
  obtain ⟨rfl, hv⟩ := Prod.mk.inj ha
  obtain ⟨v, rfl⟩ := Option.isSome_iff_exists.1 hv
  have hset : ∀ m, (m, true) ∈ shape passed' → (middle.get? m).isSome = true := by
    intro m hmem
    rw [shape, hpassed'] at hmem
    rw [get?_of_setDefaults hpassed, Option.isSome_or, isSome_given_iff.2 hmem, Bool.or_true]
  have hunset : middle.get? n = none := get?_of_setDefault_error hfirst
  have hgiven : given (passed' ++ (n, some v) :: rest') n = some v := by
    have hearlier : given passed' n = none := by
      rw [← Option.not_isSome_iff_eq_none, isSome_given_iff]
      intro hmem
      have hn := hset n hmem
      rw [hunset] at hn
      cases hn
    rw [given_append, hearlier, Option.none_or, given_cons, if_pos rfl, Option.some_or]
  rw [setDefaults_append_of_isSome hset, setDefaults, hgiven]
  cases hone : middle.setDefault n v with
  | error other => simp [hone]
  | ok grown =>
    -- The variable would have a value that it did not have before.
    constructor
    · intro heq
      have hgrown : grown.get? n = some v := by
        rw [get?_of_setDefault hone, hunset, if_pos rfl, Option.none_or]
      have hkept := get?_setDefaults_of_some hgrown rest'
      dsimp only at heq
      rw [heq, hunset] at hkept
      cases hkept
    · rintro ⟨w, hw, hfault⟩
      obtain rfl := Option.some.inj hw
      rw [hone] at hfault
      cases hfault

end Again

end TezosNode.Environment
