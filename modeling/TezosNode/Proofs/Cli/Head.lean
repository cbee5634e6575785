import TezosNode.Proofs.Cli.ExitCode
import TezosNode.Proofs.Client.Shape
import TezosNode.Proofs.Json.Indentation
import TezosNode.Proofs.Schema.Access

set_option autoImplicit false

/-!
# Command line: the head of the chain

A block is shown, and told of in the log, by what its accessors give.  Here that is taken
literally: `Cli.shown` and `Block.reported` ask the accessors of a document of which nothing is
known, one after another, and fail where one of them fails.  Once the schema has accepted the
document they do not, and what they make of it is what the program prints and logs.
-/

namespace TezosNode

/-! ## Documents from a node -/

/-- Whether the next reply to a session is a success with a document for its body. -/
structure Session.Delivers (s : Session) (v : Json) : Prop where
  clock : s.ClockInRange
  reply : ∃ response, s.reply = .response response ∧
    response.isSuccess s.client.config.strictErrors = true ∧
    Json.decode response.content = .ok v

/-- A block that is delivered is the head, if the request for it is sent. -/
theorem Endpoint.head_of_delivers {s : Session} {v : Json} {b : Block} (h : s.Delivers v)
    (hread : Block.ofJson v = .ok b)
    (hsent : Session.requests (head.runIn s).2.trace ≠ Session.requests s.trace) :
    ∃ t, head.runIn s = (.ok b, t) := by
  obtain ⟨response, hreply, hsuccess, hdecode⟩ := h.reply
  rw [runIn_head] at hsent ⊢
  have hblock : blockOf response.content = .ok b :=
    (decodes_blockOf.ok_iff response.content b).2 ⟨v, hdecode, Block.ofJson_eq_ok_iff.1 hread⟩
  rw [Inquiry.call_of_success h.clock hreply hsuccess hsent]
  exact ⟨_, congrArg (·, _) hblock⟩

/-! ## The log -/

namespace Block

/-- What the log tells of a document as of the head of the chain. -/
def reported (v : Json) : Except Accessor.Fault (List (String × Json)) := do
  let hash ← Accessor.hash.read v
  let level ← Accessor.level.read v
  return [("block_hash", hash), ("level", level)]

/-- Of a block the log tells its hash and its level. -/
theorem reported_data {b : Block} (hread : ofJson b.data = .ok b) :
    reported b.data =
      .ok [("block_hash", .string b.hash), ("level", b.level?.getD .null)] := by
  have hblock := (ofJson_eq_ok_iff.1 hread).2
  have hhash : Accessor.hash.read b.data = .ok (.string b.hash) := by
    have hfield : Json.field? b.fields "hash" = some (.string b.hash) := (of_ofJson hread).2
    have hfound : Accessor.hash.find? b = some (.string b.hash) := hfield
    rw [data, (read_of_isBlock hblock .hash).1, hfound]
    rfl
  have hlevel : Accessor.level.read b.data = .ok (b.level?.getD .null) :=
    (read_of_isBlock hblock .level).1
  rw [reported, hhash, hlevel]
  rfl

end Block

/-- Whether a bootstrap that is sent a document as the head goes on to the constants, and tells of
the head when it has them. -/
def Action.Reports (v : Json) (b : Block) (fields : List (String × Json)) : Prop :=
  ∀ s : Session, s.Delivers v →
    Session.requests (Endpoint.head.runIn s).2.trace ≠ Session.requests s.trace →
    ∃ t, Endpoint.head.runIn s = (.ok b, t) ∧
      ∀ (c : Constants) (u : Session), (Endpoint.constants b.hash).runIn t = (.ok c, u) →
        bootstrap.runIn s =
          (.ok c, (u.setConstants c).note
            [.logged (u.client.recordOf .info "bootstrap_complete" fields)])

theorem Action.reports_of_ofJson {v : Json} {b : Block} (hread : Block.ofJson v = .ok b) :
    Reports v b [("block_hash", .string b.hash), ("level", b.level?.getD .null)] := by
  intro s hdelivers hsent
  obtain ⟨t, hhead⟩ := Endpoint.head_of_delivers hdelivers hread hsent
  refine ⟨t, hhead, fun c u hconstants => ?_⟩
  obtain ⟨hresult, hafter⟩ := (bootstrapRun s).of_constants_ok hhead hconstants
  exact Prod.ext hresult hafter

/-! ## The standard output -/

namespace Cli

/-- A document as text, as a block is shown. -/
def shown (v : Json) : Except Block.Accessor.Fault String := do
  let hash ← Block.Accessor.hash.read v
  let level ← Block.Accessor.level.read v
  let protocol ← Block.Accessor.protocol.read v
  let timestamp ← Block.Accessor.timestamp.read v
  let time := if timestamp.isTruthy then "Time:     " ++ timestamp.bare ++ "\n" else ""
  return "Hash:     " ++ hash.bare ++ "\n" ++ ("Level:    " ++ level.bare ++ "\n")
    ++ ("Protocol: " ++ protocol.bare ++ "\n") ++ time

/-- A time that is left out is null, which is not shown either. -/
theorem timeLine_eq (found : Option Json) :
    (if (found.filter Json.isTruthy).isSome then
        "Time:     " ++ ((found.filter Json.isTruthy).getD .null).bare ++ "\n"
      else "") =
      if (found.getD .null).isTruthy then "Time:     " ++ (found.getD .null).bare ++ "\n"
      else "" := by
  cases found with
  | none => rfl
  | some w =>
    cases htruthy : w.isTruthy with
    | true => simp [Option.filter, htruthy]
    | false => simp [Option.filter, htruthy]

/-- A block is shown as its accessors say. -/
theorem shown_data {b : Block} (hblock : Json.IsBlock b.fields) :
    shown b.data = .ok (blockText b) := by
  have hread (a : Block.Accessor) : a.read b.data = .ok ((a.find? b).getD .null) :=
    (Block.read_of_isBlock hblock a).1
  rw [shown, hread .hash, hread .level, hread .protocol, hread .timestamp]
  unfold blockText
  dsimp only
  rw [timeLine_eq b.timestamp?]
  rfl

/-- The task of the head asks for the head and shows it. -/
theorem Task.runIn_perform_head (s : Session) :
    Task.head.perform.runIn s =
      ((Endpoint.head.runIn s).1.map blockText, (Endpoint.head.runIn s).2) := by
  unfold perform
  rw [Action.runIn_bind]
  rcases Endpoint.head.runIn s with ⟨f | b, t⟩
  · rfl
  · rfl

/-- Whether every run for the head that is sent a document prints a text and ends well. -/
def PrintsHead (v : Json) (text : String) : Prop :=
  ∀ (l : Launch) (job : Job) (url : String),
    Job.read l.environment l.file l.arguments = .ok job → job.task = .head →
    Host.normalize job.host = .ok url → (job.sessionAt l url).Delivers v →
    (run l).requests ≠ [] →
    (run l).exit = .ok 0 ∧ (run l).output = plainText text

theorem printsHead_of_ofJson {v : Json} {b : Block} (hread : Block.ofJson v = .ok b) :
    PrintsHead v (blockText b) := by
  intro l job url hjob htask hurl hdelivers hsent
  rw [run_of_job hjob, Job.run_of_url l hurl, htask, Task.runIn_perform_head] at hsent ⊢
  have hrequests : Session.requests (Endpoint.head.runIn (job.sessionAt l url)).2.trace ≠
      Session.requests (job.sessionAt l url).trace := fun hnone =>
    hsent (List.map_eq_nil_iff.2 hnone)
  obtain ⟨t, hhead⟩ := Endpoint.head_of_delivers hdelivers hread hrequests
  rw [hhead]
  exact ⟨rfl, rfl⟩

end Cli

/-- What the accessors make of any document.  Where it is accepted as a block, every accessor gives
a value: the hash is a text that is not empty, the level a number with the value of an integer and
the others texts, or else null, and that just where the field is left out, be it with the header.
So a block that a node sends as its head is shown, and the log tells of it, without fail.  Where the
document is refused, it is no object or has a header that is none, or else an accessor fails, gives
a value that does not fit, or finds a null as if the field were left out; and every such document is
refused. -/
theorem Block.accessors_of_document (v : Json) :
    (∀ b, ofJson v = .ok b →
      (∀ a : Accessor, ∃ w, a.read v = .ok w ∧ w = (a.find? b).getD .null ∧ a.Fits w ∧
        (w = .null ↔ a.IsLeftOut b.fields)) ∧
      (∃ text, Cli.shown v = .ok text ∧ Cli.PrintsHead v text) ∧
      ∃ fields, reported v = .ok fields ∧ Action.Reports v b fields) ∧
    ((∃ r, ofJson v = .error r) ↔ Unfit v) := by
  refine ⟨fun b hread => ?_, exists_rejection_iff v⟩
  obtain ⟨rfl, hblock⟩ := ofJson_eq_ok_iff.1 hread
  refine ⟨fun a => ?_, ?_, ?_⟩
  · obtain ⟨hgiven, hfits, hnull⟩ := read_of_isBlock hblock a
    exact ⟨_, hgiven, rfl, hfits, hnull⟩
  · exact ⟨_, Cli.shown_data hblock, Cli.printsHead_of_ofJson hread⟩
  · exact ⟨_, reported_data hread, Action.reports_of_ofJson hread⟩

/-- A block of level 3. -/
def Block.atLevelThree : Block :=
  ⟨[("hash", .string "B"), ("header", .object [("level", .integer 3)])]⟩

theorem Block.isBlock_atLevelThree : Json.IsBlock atLevelThree.fields where
  hash := ⟨"B", by decide, rfl⟩
  chainId := nofun
  protocol := nofun
  header := fun v hv => by
    obtain rfl := Option.some.inj hv
    refine ⟨_, rfl, fun w hw => ?_, nofun⟩
    obtain rfl := Option.some.inj hw
    exact .integer 3

/-- The replies of a node that sends the block as its head, and then constants. -/
def Reply.atLevelThree : List Reply :=
  [.success (String.ofList (Json.indented 0 Block.atLevelThree.data)), .success "\x7b\"a\":1\x7d"]

/-- The first of these replies delivers the block. -/
theorem Session.delivers_atLevelThree {s : Session} (hclock : s.ClockInRange)
    (hreplies : s.replies = Reply.atLevelThree) (hstrict : s.client.config.strictErrors = false) :
    s.Delivers Block.atLevelThree.data := by
  have hhash : (Json.string "B").Everywhere Json.IsPlain :=
    Json.everywhere_scalar ⟨trivial, trivial⟩ nofun nofun
  have hlevel : (Json.integer 3).Everywhere Json.IsPlain :=
    Json.everywhere_scalar ⟨(by decide : Numeral.size 3 ≤ Numeral.maxDigits), trivial⟩ nofun nofun
  have hheader : (Json.object [("level", .integer 3)]).Everywhere Json.IsPlain :=
    Json.everywhere_object ⟨(by decide : ["level"].Nodup), trivial⟩
      (List.forall_mem_singleton.2 hlevel)
  have hplain : Block.atLevelThree.data.Everywhere Json.IsPlain :=
    Json.everywhere_object ⟨(by decide : ["hash", "header"].Nodup), trivial⟩
      (List.forall_mem_cons.2 ⟨hhash, List.forall_mem_singleton.2 hheader⟩)
  let text := String.ofList (Json.indented 0 Block.atLevelThree.data)
  refine ⟨hclock, ⟨200, [Text.Utf8.encode text.toList], none⟩, ?_, ?_, ?_⟩
  · rw [Session.reply, hreplies]
    rfl
  · rw [hstrict]
    decide +kernel
  · rw [Response.content, List.flatten_singleton]
    exact Json.decode_indented hplain (by decide +kernel) (by decide +kernel)

/-- The block is told of and shown, and a document without a hash is no block. -/
theorem Block.accessors_of_document_of_level :
    (∃ c u, Action.bootstrap.runIn (.answering [.plain] Reply.atLevelThree) =
      (.ok c, Session.note u [.logged (u.client.recordOf .info "bootstrap_complete"
        [("block_hash", .string "B"), ("level", .integer 3)])])) ∧
    ((Cli.run ⟨["head"], [], none, Reply.atLevelThree, [], ""⟩).exit = .ok 0 ∧
      (Cli.run ⟨["head"], [], none, Reply.atLevelThree, [], ""⟩).output =
        "Hash:     B\nLevel:    3\nProtocol: None\n") ∧
    ∃ r, ofJson (.object []) = .error r := by
  have hread : ofJson atLevelThree.data = .ok atLevelThree :=
    ofJson_eq_ok_iff.2 ⟨rfl, isBlock_atLevelThree⟩
  obtain ⟨-, ⟨text, htext, hprints⟩, fields, hfields, hreports⟩ :=
    (accessors_of_document atLevelThree.data).1 atLevelThree hread
  refine ⟨?_, ?_, ?_⟩
  · obtain rfl : _ = fields := Except.ok.inj hfields
    obtain ⟨t, hhead, hkept⟩ := hreports (.answering [.plain] Reply.atLevelThree)
      (Session.delivers_atLevelThree (by decide) rfl rfl) (by decide +kernel)
    have hok : ((Endpoint.constants atLevelThree.hash).runIn
        (Endpoint.head.runIn (.answering [.plain] Reply.atLevelThree)).2).1.isOk = true := by
      decide +kernel
    rw [hhead] at hok
    rcases hconstants : (Endpoint.constants atLevelThree.hash).runIn t with ⟨_ | c, u⟩
    · rw [hconstants] at hok
      cases hok
    · exact ⟨c, u.setConstants c, hkept c u hconstants⟩
  · obtain rfl : _ = text := Except.ok.inj htext
    obtain ⟨hexit, houtput⟩ := hprints ⟨["head"], [], none, Reply.atLevelThree, [], ""⟩
      ⟨⟨none, .warning, .console⟩, .default, .head⟩ "http://localhost:8732" rfl rfl rfl
      (Session.delivers_atLevelThree (by decide) rfl rfl) (by decide +kernel)
    refine ⟨hexit, ?_⟩
    rw [houtput]
    decide +kernel
  · have hfails : Accessor.hash.read (.object []) = .error (.noField "hash") := rfl
    exact (accessors_of_document (.object [])).2.2 (.failing hfails)

end TezosNode
