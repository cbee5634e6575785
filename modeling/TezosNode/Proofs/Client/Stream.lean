import TezosNode.Proofs.Client.Telling
import TezosNode.Proofs.Log.Configuration

set_option autoImplicit false

/-!
# Client: the stream of its log

Every record of a client can be written in both formats, so that a logger that is configured
again and again writes each of them that reaches its level in one place: the stream of the last
configuration.
-/

namespace TezosNode.Session

/-- Every record of a run can be written in every format. -/
theorem exists_line_of_mem_records {s : Session} {ops : List Operation} {events : List Event}
    (htrace : (s.performAll ops).trace = s.trace ++ events) {r : Log.Record}
    (hr : r ∈ records events) (format : Log.Format) (time : String) :
    ∃ line, r.render? format time = some line := by
  obtain ⟨told, htrace', htold⟩ := s.tells_performAll ops
  obtain rfl : events = told := List.append_cancel_left (htrace.symm.trans htrace')
  exact Option.isSome_iff_exists.1 ((htold.records.1 r hr).isSome_render format time)

/-- The logger in any state, after any configurations with any records between.  Another
configuration leaves it with one installed handler, its own, and with the handlers of the
application as they were at the start.  If the last configuration so far has a positive level,
the next record is written just if its level reaches that one: once, in the format of that
configuration and to its stream, and to no other.  What a format cannot write is not written, but
there are no such records among those of a client. -/
theorem written_to_latest (o : Log.Output) (steps : List Log.Step) :
    (∀ c : Log.Setup,
      (o.run (steps ++ [.configure c])).handlers.filter (·.isInstalled) = [c.handler] ∧
      (o.run (steps ++ [.configure c])).ownHandlers = o.ownHandlers) ∧
    ∀ c : Log.Setup, Log.lastSetup? steps = some c → 0 < c.level →
      ∀ time logger : String, Log.isOwn logger = true →
        (∀ r : Log.Record, (o.run steps).emit time logger r =
          if c.level ≤ r.level.number then
            ((r.render? c.format time).map (c.stream, ·)).toList
          else []) ∧
        ∀ (s : Session) (ops : List Operation) (events : List Event),
          (s.performAll ops).trace = s.trace ++ events → ∀ r ∈ records events,
            ∃ line, r.render? c.format time = some line ∧
              (o.run steps).emit time logger r =
                if c.level ≤ r.level.number then [(c.stream, line)] else [] := by
  refine ⟨fun c => ?_, fun c hlast hlevel time logger hown => ?_⟩
  · have hserves : (o.run (steps ++ [.configure c])).Serves c :=
      Log.Output.serves_run (.inl (Log.lastSetup?_concat_configure steps c))
    exact ⟨hserves.installed_eq, o.ownHandlers_run _⟩
  · have hserves : (o.run steps).Serves c := Log.Output.serves_run (.inl hlast)
    have hemit : ∀ r : Log.Record, (o.run steps).emit time logger r =
        if c.level ≤ r.level.number then ((r.render? c.format time).map (c.stream, ·)).toList
        else [] := by
      intro r
      rw [hserves.emit_eq hown, hserves.isEnabled_eq hlevel]
      simp only [decide_eq_true_eq]
    refine ⟨hemit, fun s ops events htrace r hr => ?_⟩
    obtain ⟨line, hline⟩ := exists_line_of_mem_records htrace hr c.format time
    refine ⟨line, hline, ?_⟩
    rw [hemit, hline]
    rfl

/-- A logger with a handler of the application, configured twice: the record of an error goes to
the second stream alone, and that of a request nowhere. -/
theorem written_to_latest_of_two :
    let o : Log.Output := ⟨[.null, .foreign "application"], 0, true⟩
    let steps : List Log.Step := [.configure ⟨10, "first", .json⟩,
      .event "" "tezrpc" ⟨.debug, "rpc_request", []⟩, .configure ⟨30, "second", .console⟩]
    (o.run steps).handlers =
        [.null, .foreign "application", .installed "second" .console] ∧
      (o.run steps).emit "now" "tezrpc.http" ⟨.error, "down", [("host", .string "http://node")]⟩ =
        [("second", "now [error    ] down                           host=http://node")] ∧
      (o.run steps).emit "now" "tezrpc" ⟨.debug, "rpc_request", []⟩ = [] := by
  intro o steps
  have hemit := fun logger hown =>
    ((written_to_latest o steps).2 ⟨30, "second", .console⟩ rfl (by decide) "now" logger hown).1
  refine ⟨rfl, ?_, ?_⟩
  · rw [hemit "tezrpc.http" (by decide)]
    decide +kernel
  · exact hemit "tezrpc" (by decide) _

end TezosNode.Session
