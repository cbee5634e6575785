import TezosNode.Proofs.Cli.Call
import TezosNode.Proofs.Cli.ExitCode
import TezosNode.Proofs.Json.Indentation

set_option autoImplicit false

/-!
# Command line: printed constants

What the task of constants prints is the document of the node's second reply, sorted, in the
indented form and a line of its own.  It goes to the standard output as it is, since it has no
escape characters, and what stands there is read as the same data again.
-/

namespace TezosNode

/-- A reply with a document is one that the node has been given, not what a node says that has
nothing to say. -/
theorem Session.head?_replies {s : Session} {r : Response} {v : Json}
    (hreply : s.reply = .response r) (hdecode : Json.decode r.content = .ok v) :
    s.replies.head? = some (.response r) := by
  unfold Session.reply at hreply
  cases hreplies : s.replies with
  | cons first rest =>
    rw [hreplies] at hreply
    exact congrArg some hreply
  | nil =>
    rw [hreplies] at hreply
    obtain rfl := Reply.response.inj hreply
    have hfault : (Json.decode (Text.Utf8.encode "not found".toList)).toOption.isSome = false := by
      decide +kernel
    have hsame : Json.decode (Text.Utf8.encode "not found".toList) = .ok v := hdecode
    rw [hsame] at hfault
    cases hfault

namespace Cli

/-- Constants are printed as they are. -/
theorem plainText_constantsText (c : Constants) : plainText (constantsText c) = constantsText c :=
  plainText_of_isEscapeFree
    (.append (Text.isEscapeFree_ofList (Json.escape_notMem_indented 0 _)) (by decide))

/-- A run of the task of constants that succeeds prints the document of the second reply. -/
theorem output_of_constants {l : Launch} (htask : l.task? = some .constants)
    (hexit : (run l).exit = .ok 0) :
    ∃ response v, l.replies[1]? = some (.response response) ∧
      Json.decode response.content = .ok v ∧ (run l).output = v.pretty ++ "\n" := by
  obtain ⟨job, hread, hconstants⟩ := l.exists_job htask
  obtain ⟨url, hrun⟩ := exists_runOf_of_exit hread hexit
  rw [hconstants, Task.runIn_perform_constants] at hrun
  rw [hrun] at hexit ⊢
  -- The result of the bootstrap is known from the code: no failure has the code zero.
  have hbootstrap := Action.bootstrapRun (job.sessionAt l url)
  cases hresult : (Action.bootstrap.runIn (job.sessionAt l url)).1 with
  | error f =>
    rw [hresult] at hexit
    obtain ⟨category, -, hcode⟩ := exitOf_error hexit
    cases category <;> cases hcode
  | ok c =>
    rw [hresult] at hbootstrap
    obtain ⟨_, _, _, response, _, hsuccess⟩ := hbootstrap.success
    have hsecond := Session.head?_replies hsuccess.constantsReply_eq hsuccess.data_eq
    refine ⟨response, c.data, ?_, hsuccess.data_eq, plainText_constantsText c⟩
    rw [← List.head?_tail]
    exact hsecond

end Cli

end TezosNode
