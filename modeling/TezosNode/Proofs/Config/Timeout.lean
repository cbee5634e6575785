import TezosNode.Proofs.Config.Loading
import TezosNode.Proofs.Number.Positive

set_option autoImplicit false

/-!
# Configuration: the limit on waits

Settings are refused if their limit is zero or below it.  That leaves the limits above zero and
not-a-number, which is on no side of zero.  It is let through wherever it comes from; from an
environment it comes just where the variable of the limit spells it.
-/

namespace TezosNode

namespace Seconds

/-- Whether a span is longer than none. -/
inductive IsPositive : Seconds → Prop
  | whole {n : Int} (hn : 0 < n) : IsPositive (.whole n)
  | double {x : Binary64} (hx : x.IsPositive) : IsPositive (.double x)

theorem not_isPositive_nan : ¬ IsPositive (.double .nan) := by
  intro hpositive
  cases hpositive with
  | double hx => exact Binary64.not_isPositive_nan hx

theorem isNonPositive_eq_false_iff (t : Seconds) :
    t.isNonPositive = false ↔ t.IsPositive ∨ t = .double .nan := by
  cases t with
  | whole n =>
    rw [isNonPositive, decide_eq_false_iff_not, Int.not_le]
    constructor
    · exact fun hn => .inl (.whole hn)
    · rintro (hpositive | hnan)
      · cases hpositive with
        | whole hn => exact hn
      · cases hnan
  | double x =>
    rw [isNonPositive, x.isNonPositive_eq_false_iff]
    constructor
    · rintro (hx | rfl)
      · exact .inl (.double hx)
      · exact .inr rfl
    · rintro (hpositive | hnan)
      · cases hpositive with
        | double hx => exact .inl hx
      · exact .inr (Seconds.double.inj hnan)

end Seconds

namespace Config

/-! ## Settings from values -/

theorem exists_make_iff (host : String) (timeout : Seconds) (strictErrors : Bool) :
    (∃ c, make host timeout strictErrors = .ok c) ↔
      timeout.IsPositive ∨ timeout = .double .nan := by
  rw [← timeout.isNonPositive_eq_false_iff]
  constructor
  · rintro ⟨c, hmake⟩
    exact (make_eq_ok_iff.1 hmake).1
  · intro hpositive
    exact ⟨_, make_eq_ok_iff.2 ⟨hpositive, rfl⟩⟩

theorem timeout_of_make {host : String} {timeout : Seconds} {strictErrors : Bool} {c : Config}
    (hmake : make host timeout strictErrors = .ok c) : c.timeout = timeout := by
  rw [(make_eq_ok_iff.1 hmake).2]

/-! ## Settings from the environment -/

/-- The limit of an environment is the number that its variable is read as. -/
theorem timeoutOf_of_some {env : Environment} {text : String} {t : Seconds}
    (htext : env.get? timeoutVariable = some text) (htimeout : timeoutOf env = .ok t) :
    ∃ x, Numeral.double? text.toList = some x ∧ t = .double x := by
  unfold timeoutOf at htimeout
  rw [htext] at htimeout
  dsimp only at htimeout
  split at htimeout
  case h_1 x hread => exact ⟨x, hread, (Except.ok.inj htimeout).symm⟩
  case h_2 => cases htimeout

/-- Without the variable it is a number. -/
theorem timeoutOf_of_none {env : Environment} {t : Seconds}
    (hnone : env.get? timeoutVariable = none) (htimeout : timeoutOf env = .ok t) :
    t ≠ .double .nan := by
  unfold timeoutOf at htimeout
  rw [hnone] at htimeout
  obtain rfl := Except.ok.inj htimeout
  exact fun hnan => Binary64.ofRatio_ne_nan false 10 1 (Seconds.double.inj hnan)

/-- The limit of an environment is not a number just where the variable spells it. -/
theorem timeoutOf_eq_nan_iff {env : Environment} {t : Seconds} (htimeout : timeoutOf env = .ok t) :
    t = .double .nan ↔
      ∃ text, env.get? timeoutVariable = some text ∧ Numeral.SpellsNan text.toList := by
  cases hvariable : env.get? timeoutVariable with
  | none => simp [timeoutOf_of_none hvariable htimeout]
  | some text =>
    obtain ⟨x, hread, rfl⟩ := timeoutOf_of_some hvariable htimeout
    simp only [Seconds.double.injEq, Option.some.injEq, exists_eq_left',
      ← Numeral.double?_eq_nan_iff, hread]

/-- Settings that have been loaded have a limit that was not refused. -/
theorem timeout_of_load {env : Environment} {file : Option Bytes} {c : Config}
    (hsettings : (load env file).1 = .ok c) :
    timeoutOf (load env file).2 = .ok c.timeout ∧
      (c.timeout.IsPositive ∨ c.timeout = .double .nan) := by
  obtain ⟨-, hafter⟩ := of_load hsettings
  obtain ⟨-, htimeout, hstrict⟩ := of_ofEnvironment hafter
  unfold ofEnvironment at hafter
  rw [htimeout, hstrict] at hafter
  exact ⟨htimeout, (exists_make_iff _ _ _).1 ⟨c, hafter⟩⟩

/-- Settings are made of values just where their limit is above zero or not a number.  Settings
from an environment and a file have a limit above zero, unless the variable of the limit spells
not-a-number where the two have been put together; then that is the limit.  A variable that is set
in the environment has its text still when the file has been added. -/
theorem timeout_positive_unless_nan (host : String) (timeout : Seconds) (strictErrors : Bool)
    (env : Environment) (file : Option Bytes) :
    (((∃ c, make host timeout strictErrors = .ok c) ↔
        timeout.IsPositive ∨ timeout = .double .nan) ∧
      ∀ c, make host timeout strictErrors = .ok c → c.timeout = timeout) ∧
    ∀ c, (load env file).1 = .ok c →
      (∀ text, env.get? timeoutVariable = some text →
        (load env file).2.get? timeoutVariable = some text ∧
          ∃ x, Numeral.double? text.toList = some x ∧ c.timeout = .double x) ∧
      (c.timeout.IsPositive ↔
        ¬ ∃ text, (load env file).2.get? timeoutVariable = some text ∧
          Numeral.SpellsNan text.toList) ∧
      (c.timeout = .double .nan ↔
        ∃ text, (load env file).2.get? timeoutVariable = some text ∧
          Numeral.SpellsNan text.toList) := by
  refine ⟨⟨exists_make_iff host timeout strictErrors, fun c => timeout_of_make⟩, ?_⟩
  intro c hsettings
  obtain ⟨htimeout, hkept⟩ := timeout_of_load hsettings
  refine ⟨fun text htext => ?_, ?_, timeoutOf_eq_nan_iff htimeout⟩
  · have hafter := load_keeps htext file
    exact ⟨hafter, timeoutOf_of_some hafter htimeout⟩
  · rw [← timeoutOf_eq_nan_iff htimeout]
    constructor
    · intro hpositive hnan
      rw [hnan] at hpositive
      exact Seconds.not_isPositive_nan hpositive
    · exact hkept.resolve_right

/-- A limit that no double can hold is the infinity, which is above zero. -/
theorem timeout_positive_unless_nan_of_beyond_doubles :
    let env : Environment := [("TEZOS_RPC_TIMEOUT", " 1_0e999")]
    ∃ c, (load env none).1 = .ok c ∧ c.timeout.IsPositive ∧
      c.timeout = .double (.infinite false) := by
  intro env
  have hsettings : (load env none).1 = .ok ⟨defaultHost, .double (.infinite false), false⟩ := by
    decide +kernel
  obtain ⟨-, hpositive, hnan⟩ :=
    (timeout_positive_unless_nan "" (.whole 1) false env none).2 _ hsettings
  refine ⟨_, hsettings, hpositive.2 fun hspelled => ?_, rfl⟩
  cases hnan.2 hspelled

/-- A limit that is spelled as not-a-number is taken, and is not above zero. -/
theorem timeout_not_positive_of_nan :
    let env : Environment := [("TEZOS_RPC_TIMEOUT", "nan")]
    ∃ c, (load env none).1 = .ok c ∧ env.get? timeoutVariable = some "nan" ∧
      ¬ c.timeout.IsPositive :=
  ⟨⟨defaultHost, .double .nan, false⟩, by decide +kernel, rfl, Seconds.not_isPositive_nan⟩

end Config

end TezosNode
