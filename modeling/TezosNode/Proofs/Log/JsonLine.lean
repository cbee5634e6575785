import TezosNode.Proofs.Json.Compact
import TezosNode.Proofs.Log.Notice

set_option autoImplicit false

/-!
# Log: records in JSON lines

A record with flat values is one JSON object on one line, whatever texts it holds: all that is
written is visible ASCII, and what is read back is the event, the level and the time, and each
other value under its name.
-/

namespace TezosNode

namespace Json

/-- Visible characters hold no byte order mark. -/
theorem parseString_of_visible {s : String} (hvisible : ∀ c ∈ s.toList, Text.IsVisible c) :
    parseString s = parse s.toList := by
  unfold parseString
  split
  case h_1 heq =>
    have hmark : Text.IsVisible '\uFEFF' := hvisible _ (heq ▸ List.mem_cons_self)
    exact absurd hmark (by decide)
  case h_2 => rfl

/-- What is read of a value that is no double is the value. -/
theorem eq_of_rel_readsAs {v? w? : Option Json} (h : Option.Rel ReadsAs v? w?)
    (hv : ∀ v, v? = some v → IsNoDouble v) : w? = v? := by
  cases h with
  | none => rfl
  | some hreads => rw [hreads.eq_of_isNoDouble (hv _ rfl)]

end Json

namespace Log.Record

/-- The names that a line gives values of its own. -/
def headNames : List String := ["event", "level", "timestamp"]

/-- The name of the value that is a double. -/
def durationName : String := "duration_ms"

/-- Whether a value can stand in a line under its name: it is replaced there, or it is flat, and a
double only if it is a duration. -/
def IsCarried (f : String × Json) : Prop :=
  f.1 ∈ headNames ∨ f.2.IsFlat ∧ (f.1 = durationName ∨ f.2.IsNoDouble)

/-- Whether a record has no name twice and only values that a line can carry. -/
structure IsFlat (r : Record) : Prop where
  nodup : (r.fields.map Prod.fst).Nodup
  carried : ∀ f ∈ r.fields, IsCarried f

section Document

variable (r : Record) (time : String)

/-- The three names that a line gives values of its own have these last. -/
theorem field?_document_head :
    Json.field? (r.document time) "event" = some (.string r.event) ∧
      Json.field? (r.document time) "level" = some (.string r.level.name) ∧
      Json.field? (r.document time) "timestamp" = some (.string time) := by
  unfold document
  refine ⟨?_, ?_, ?_⟩
  · exact Json.field?_updateFields_of_last (List.nil_append _).symm (by simp)
  · exact @Json.field?_updateFields_of_last _ _ _ [("event", .string r.event)] _ _ rfl (by simp)
  · exact @Json.field?_updateFields_of_last _ _ _
      [("event", .string r.event), ("level", .string r.level.name)] _ _ rfl (by simp)

/-- Every other name has the value that is written of the record. -/
theorem field?_document_of_notMem {name : String} (hname : name ∉ headNames) :
    Json.field? (r.document time) name = Json.field? r.written name :=
  Json.field?_updateFields_of_notMem hname

end Document

variable {r : Record}

theorem IsFlat.nodup_written (h : r.IsFlat) : (r.written.map Prod.fst).Nodup :=
  h.nodup.sublist (List.filter_sublist.map Prod.fst)

theorem IsFlat.nodup_document (h : r.IsFlat) (time : String) :
    ((r.document time).map Prod.fst).Nodup :=
  Json.nodup_updateFields h.nodup_written

/-- A value of the document is the text of one of the three, or one that the record carries. -/
theorem IsFlat.of_field?_document (h : r.IsFlat) {time name : String} {v : Json}
    (hfield : Json.field? (r.document time) name = some v) :
    v.IsFlat ∧ (name = durationName ∨ v.IsNoDouble) := by
  by_cases hname : name ∈ headNames
  · obtain ⟨text, htext⟩ :
        ∃ text, Json.field? (r.document time) name = some (.string text) := by
      obtain ⟨hevent, hlevel, htimestamp⟩ := field?_document_head r time
      simp only [headNames, List.mem_cons, List.not_mem_nil, or_false] at hname
      rcases hname with rfl | rfl | rfl
      · exact ⟨_, hevent⟩
      · exact ⟨_, hlevel⟩
      · exact ⟨_, htimestamp⟩
    obtain rfl := Option.some.inj (hfield.symm.trans htext)
    exact ⟨.string text, .inr trivial⟩
  · rw [field?_document_of_notMem r time hname, Json.field?_eq_some_iff h.nodup_written] at hfield
    exact (h.carried _ (List.mem_of_mem_filter hfield)).resolve_left hname

/-- The line of a flat record: all its characters are visible, and it is read as an object with
the event, the name of the level and the time of the record.  Each other name that is no order to
the logger has in it the value that it has in the record, unless that is a duration. -/
theorem IsFlat.exists_parse (h : r.IsFlat) (time : String) :
    (∀ c ∈ (r.jsonLine time).toList, Text.IsVisible c) ∧
      ∃ fields, Json.parseString (r.jsonLine time) = .ok (.object fields) ∧
        Json.field? fields "event" = some (.string r.event) ∧
        Json.field? fields "level" = some (.string r.level.name) ∧
        Json.field? fields "timestamp" = some (.string time) ∧
        ∀ name, name ∉ headNames → name ∉ orderNames → name ≠ durationName →
          Json.field? fields name = Json.field? r.fields name := by
  obtain ⟨hevent, hlevel, htimestamp⟩ := field?_document_head r time
  have hsome : r.document time ≠ [] := by
    intro hnil
    rw [hnil] at hevent
    cases hevent
  have hflat : ∀ f ∈ r.document time, f.2.IsFlat := fun f hmem =>
    (h.of_field?_document ((Json.field?_eq_some_iff (h.nodup_document time) _ _).2 hmem)).1
  obtain ⟨hvisible, fields, hparse, hrel⟩ :=
    Json.exists_parse_compact hsome (h.nodup_document time) hflat
  have htext : (r.jsonLine time).toList =
      Json.compact (Json.sorted (.object (r.document time))) := String.toList_ofList
  rw [← htext] at hvisible hparse
  have hread : ∀ name, name ≠ durationName →
      Json.field? fields name = Json.field? (r.document time) name := fun name hname =>
    Json.eq_of_rel_readsAs (hrel name) fun v hv => (h.of_field?_document hv).2.resolve_left hname
  refine ⟨hvisible, fields, ?_, ?_, ?_, ?_, fun name hhead horder hname => ?_⟩
  · rw [Json.parseString_of_visible hvisible, hparse]
  · rw [hread _ (by decide), hevent]
  · rw [hread _ (by decide), hlevel]
  · rw [hread _ (by decide), htimestamp]
  · rw [hread _ hname, field?_document_of_notMem r time hhead, field?_written r horder]

end Log.Record

end TezosNode
