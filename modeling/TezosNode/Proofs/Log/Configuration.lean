import Mathlib.Data.List.Basic
import TezosNode.Log.Output

set_option autoImplicit false

/-!
# Log: configurations one after another

A logger that is configured again and again, with records between, has the handler of the last
configuration at every time, and no other that has been installed; what the application has put
there stays in its order.  A configuration establishes this whatever was there before, and a
record leaves the logger as it is.  So a record is written for the last configuration alone.
-/

namespace TezosNode.Log

/-! ## Steps -/

/-- What a configuration is called with. -/
structure Setup where
  level : Int
  stream : String
  format : Format
  deriving DecidableEq, Repr, Inhabited

/-- The handler that a configuration installs. -/
def Setup.handler (c : Setup) : Handler := .installed c.stream c.format

/-- What happens to a logger: it is configured, or it is given a record at a time, by its own
name or that of a logger below it. -/
inductive Step where
  | configure (c : Setup)
  | event (time logger : String) (r : Record)
  deriving Repr, Inhabited

/-- The last configuration of some steps. -/
def lastSetup? : List Step → Option Setup
  | [] => none
  | .configure c :: rest => some ((lastSetup? rest).getD c)
  | .event _ _ _ :: rest => lastSetup? rest

theorem lastSetup?_concat_configure (steps : List Step) (c : Setup) :
    lastSetup? (steps ++ [.configure c]) = some c := by
  induction steps with
  | nil => rfl
  | cons step rest ih =>
    cases step with
    | configure d => rw [List.cons_append, lastSetup?, ih, Option.getD_some]
    | event time logger r => rw [List.cons_append, lastSetup?, ih]

namespace Output

/-- A logger after a step. -/
def after (o : Output) : Step → Output
  | .configure c => o.configure c.level c.stream c.format
  | .event _ _ _ => o

/-- A logger after some steps. -/
def run (o : Output) (steps : List Step) : Output := steps.foldl after o

/-! ## What holds after every step -/

/-- The handlers that the application has put on a logger. -/
def ownHandlers (o : Output) : List Handler := o.handlers.filter (!·.isInstalled)

/-- A logger that has one installed handler, that of a configuration, and its level. -/
structure Serves (o : Output) (c : Setup) : Prop where
  installed_eq : o.handlers.filter (·.isInstalled) = [c.handler]
  level_eq : o.level = c.level
  not_propagates : o.propagates = false

theorem serves_configure (o : Output) (c : Setup) :
    (o.configure c.level c.stream c.format).Serves c where
  installed_eq := by
    -- Earlier handlers that were installed are taken out, so that only the new one is left.
    have hnone : (o.handlers.filter (!·.isInstalled)).filter (·.isInstalled) = [] := by
      rw [List.filter_filter, List.filter_eq_nil_iff]
      intro h _
      cases h.isInstalled <;> decide
    rw [configure, List.filter_append, hnone]
    rfl
  level_eq := rfl
  not_propagates := rfl

/-- No step touches the handlers of the application. -/
theorem ownHandlers_after (o : Output) (step : Step) :
    (o.after step).ownHandlers = o.ownHandlers := by
  cases step with
  | configure c =>
    change (o.handlers.filter (!·.isInstalled) ++ [c.handler]).filter (!·.isInstalled) = _
    rw [List.filter_append, List.filter_filter, Setup.handler]
    simp [ownHandlers, Handler.isInstalled]
  | event time logger r => rfl

theorem ownHandlers_run (o : Output) (steps : List Step) :
    (o.run steps).ownHandlers = o.ownHandlers := by
  induction steps generalizing o with
  | nil => rfl
  | cons step rest ih => exact (ih (o.after step)).trans (o.ownHandlers_after step)

/-- After some steps a logger serves the last configuration among them, and else the one that it
served before. -/
theorem serves_run {o : Output} {steps : List Step} {c : Setup}
    (hlast : lastSetup? steps = some c ∨ lastSetup? steps = none ∧ o.Serves c) :
    (o.run steps).Serves c := by
  induction steps generalizing o with
  | nil =>
    rcases hlast with hlast | ⟨-, hserves⟩
    · cases hlast
    · exact hserves
  | cons step rest ih =>
    refine ih (o := o.after step) ?_
    cases step with
    | event time logger r => exact hlast
    | configure d =>
      rcases hlast with hlast | ⟨hlast, -⟩
      · cases hrest : lastSetup? rest with
        | some e =>
          rw [lastSetup?, hrest] at hlast
          exact .inl hlast
        | none =>
          rw [lastSetup?, hrest] at hlast
          obtain rfl := Option.some.inj hlast
          exact .inr ⟨rfl, o.serves_configure d⟩
      · cases hlast

/-! ## What is written -/

/-- Only installed handlers write. -/
theorem emit_eq_of_installed (o : Output) (time logger : String) (r : Record) :
    o.emit time logger r =
      if isOwn logger && o.isEnabled r.level then
        (o.handlers.filter (·.isInstalled)).filterMap fun
          | .installed stream format => (r.render? format time).map (stream, ·)
          | _ => none
      else [] := by
  rw [emit, List.filterMap_filter]
  congr 2
  funext h
  cases h <;> rfl

namespace Serves

variable {o : Output} {c : Setup}

/-- A logger that serves a configuration writes a record of a level that it is enabled for once,
to the stream of the configuration and in its format, and writes no other record. -/
theorem emit_eq (h : o.Serves c) {logger : String} (hown : isOwn logger = true) (time : String)
    (r : Record) :
    o.emit time logger r =
      if o.isEnabled r.level then ((r.render? c.format time).map (c.stream, ·)).toList else [] := by
  rw [emit_eq_of_installed, hown, Bool.true_and, h.installed_eq, Setup.handler]
  simp only [List.filterMap_cons, List.filterMap_nil]
  cases r.render? c.format time with
  | none => rfl
  | some line => rfl

/-- A positive level is the threshold. -/
theorem isEnabled_eq (h : o.Serves c) (hlevel : 0 < c.level) (level : Level) :
    o.isEnabled level = decide (c.level ≤ level.number) := by
  rw [isEnabled, threshold, h.level_eq, if_neg (Int.ne_of_gt hlevel)]

end Serves

end Output

end TezosNode.Log
