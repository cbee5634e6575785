import TezosNode.Proofs.Log.Configuration

set_option autoImplicit false

/-!
# Log: notices

What a reader of the log learns from a record about a call or a bootstrap: the event, and
the class of the error or the step that has failed, if the record names one.  A logger that
has been configured writes every record that reaches its threshold once, so that what its
stream tells is the notices of those records, in order, whatever else the records hold.
-/

namespace TezosNode

/-! ## Values after updates -/

namespace Json

variable {fields changes : List (String × Json)} {name : String}

/-- A name that no member has keeps its value. -/
theorem field?_updateFields_of_notMem (hname : name ∉ changes.map (·.1)) :
    field? (updateFields fields changes) name = field? fields name := by
  induction changes generalizing fields with
  | nil => rfl
  | cons m rest ih =>
    rw [List.map_cons, List.mem_cons, not_or] at hname
    have hstep : updateFields fields (m :: rest) = updateFields (setField fields m.1 m.2) rest :=
      rfl
    rw [hstep, ih hname.2, field?_setField_of_ne _ _ hname.1]

/-- The last member of a name gives its value. -/
theorem field?_updateFields_of_last {before after : List (String × Json)} {value : Json}
    (hchanges : changes = before ++ (name, value) :: after)
    (hlast : name ∉ after.map (·.1)) :
    field? (updateFields fields changes) name = some value := by
  have hsplit : updateFields fields changes =
      updateFields (setField (updateFields fields before) name value) after := by
    rw [hchanges, updateFields, List.foldl_append]
    rfl
  rw [hsplit, field?_updateFields_of_notMem hlast, field?_setField_self]

end Json

namespace Log

/-! ## Notices -/

/-- What a record tells about a call or a bootstrap. -/
structure Notice where
  event : String
  /-- the class of the error, if one is named -/
  errorClass : Option String
  /-- the step that has failed, if one is named -/
  step : Option String
  deriving DecidableEq, Repr, Inhabited

namespace Notice

/-- A request is about to be sent. -/
def request : Notice := ⟨"rpc_request", none, none⟩

/-- A call has returned octets. -/
def completed : Notice := ⟨"rpc_complete", none, none⟩

/-- A call has ended with an error of a class. -/
def failed (errorClass : String) : Notice := ⟨"rpc_failed", some errorClass, none⟩

/-- A bootstrap has returned constants. -/
def ready : Notice := ⟨"bootstrap_complete", none, none⟩

/-- A bootstrap has failed in a step. -/
def stuck (step : String) : Notice := ⟨"bootstrap_failed", none, some step⟩

/-- Whether a notice is about something that has failed. -/
def isFailure (n : Notice) : Bool := n.event == "rpc_failed" || n.event == "bootstrap_failed"

end Notice

/-- The notice of a record. -/
def Record.notice (r : Record) : Notice :=
  ⟨r.event, (r.text? "error_class").join, (r.text? "step").join⟩

/-- Every format can write the record, and it is a warning just if it is about a failure. -/
structure Record.IsRegular (r : Record) : Prop where
  isSome_render : ∀ format time, (r.render? format time).isSome = true
  isFailure_iff : r.notice.isFailure = true ↔ Level.warning.number ≤ r.level.number

/-! ## Texts of records -/

namespace Record

variable {level : Level} {event name : String} {bound call : List (String × Json)}

/-- What the logger is given no order by is written. -/
theorem field?_written (r : Record) (hname : name ∉ orderNames) :
    Json.field? r.written name = Json.field? r.fields name := by
  unfold Json.field? written
  rw [List.find?_filter]
  congr 2
  funext f
  by_cases hf : f.1 = name
  · simp [hf, hname]
  · simp [hf]

/-- A record has no text of a name that neither the logger nor the call gives a value. -/
theorem text?_of_notMem (hname : name ∉ orderNames) (hbound : name ∉ bound.map (·.1))
    (hcall : name ∉ call.map (·.1)) :
    (make level event [] bound call).text? name = some none := by
  have hfield : Json.field? (make level event [] bound call).written name = none := by
    rw [field?_written _ hname]
    unfold make
    rw [Json.field?_updateFields_of_notMem hcall, Json.field?_updateFields_of_notMem hbound]
    rfl
  unfold text?
  rw [hfield]

/-- The last value that a call gives a name is the text of that name. -/
theorem text?_of_last {before after : List (String × Json)} {text : String}
    (hname : name ∉ orderNames) (hcall : call = before ++ (name, .string text) :: after)
    (hlast : name ∉ after.map (·.1)) :
    (make level event [] bound call).text? name = some (some text) := by
  have hfield : Json.field? (make level event [] bound call).written name =
      some (.string text) := by
    rw [field?_written _ hname]
    unfold make
    exact Json.field?_updateFields_of_last hcall hlast
  unfold text?
  rw [hfield]

/-- A record without a stack and an exception can be written in every format. -/
theorem isSome_render_of_text? {r : Record} (hstack : r.text? stackName = some none)
    (hexception : r.text? exceptionName = some none) (format : Format) (time : String) :
    (r.render? format time).isSome = true := by
  cases format with
  | json => rfl
  | console =>
    unfold render? consoleText?
    rw [hstack, hexception]
    rfl

end Record

/-! ## What a stream tells -/

namespace Output

/-- The notices of the lines that a logger writes for records, in order. -/
def tells (o : Output) (time : String) (records : List Record) : List Notice :=
  records.flatMap fun r => (o.emit time loggerName r).map fun _ => r.notice

/-- After a configuration, a record that reaches the threshold is written once, and another
one not at all. -/
theorem length_emit_configure (before : Output) (level : Int) (stream : String)
    (format : Format) (time : String) {r : Record} (hregular : r.IsRegular) :
    ((before.configure level stream format).emit time loggerName r).length =
      if (before.configure level stream format).isEnabled r.level then 1 else 0 := by
  obtain ⟨line, hline⟩ := Option.isSome_iff_exists.1 (hregular.isSome_render format time)
  have hserves := before.serves_configure ⟨level, stream, format⟩
  rw [hserves.emit_eq (by decide), hline]
  split
  case isTrue => rfl
  case isFalse => rfl

variable {before : Output} {level : Int} {stream : String} {format : Format} {time : String}
  {records : List Record}

/-- A configured logger tells the notices of the records that reach its threshold. -/
theorem tells_configure (hregular : ∀ r ∈ records, r.IsRegular) :
    (before.configure level stream format).tells time records =
      (records.filter fun r => (before.configure level stream format).isEnabled r.level).map
        Record.notice := by
  induction records with
  | nil => rfl
  | cons r rest ih =>
    have hrest : ∀ r ∈ rest, r.IsRegular := fun r hmem =>
      hregular r (List.mem_cons_of_mem _ hmem)
    have hlength := length_emit_configure before level stream format time
      (hregular r List.mem_cons_self)
    have hcons : (before.configure level stream format).tells time (r :: rest) =
        (((before.configure level stream format).emit time loggerName r).map fun _ => r.notice) ++
          (before.configure level stream format).tells time rest := by
      unfold tells
      rw [List.flatMap_cons]
    rw [hcons, ih hrest, List.map_const', hlength, List.filter_cons]
    cases (before.configure level stream format).isEnabled r.level with
    | true => rfl
    | false => rfl

/-- A threshold that every level reaches lets everything through. -/
theorem tells_of_debug (hregular : ∀ r ∈ records, r.IsRegular)
    (hthreshold : (before.configure level stream format).threshold ≤ Level.debug.number) :
    (before.configure level stream format).tells time records = records.map Record.notice := by
  have hall : ∀ r ∈ records, (before.configure level stream format).isEnabled r.level = true := by
    intro r _
    unfold isEnabled
    have hleast : Level.debug.number ≤ r.level.number := by cases r.level <;> decide
    exact decide_eq_true (Int.le_trans hthreshold hleast)
  rw [tells_configure hregular, List.filter_eq_self.2 hall]

/-- The threshold for warnings lets the notices of failures through and no other. -/
theorem tells_of_warning (hregular : ∀ r ∈ records, r.IsRegular)
    (hthreshold : (before.configure level stream format).threshold = Level.warning.number) :
    (before.configure level stream format).tells time records =
      (records.map Record.notice).filter Notice.isFailure := by
  rw [tells_configure hregular, List.filter_map]
  congr 1
  refine List.filter_congr ?_
  intro r hmem
  unfold isEnabled
  rw [hthreshold, Function.comp_apply, Bool.eq_iff_iff, decide_eq_true_iff]
  exact (hregular r hmem).isFailure_iff.symm

end Output

end Log

end TezosNode
