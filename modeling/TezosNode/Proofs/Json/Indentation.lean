import TezosNode.Proofs.Json.Message
import TezosNode.Proofs.Json.Reading
import TezosNode.Proofs.Json.Sorting

set_option autoImplicit false

/-!
# JSON: the indented form

The indented form of a value is read as the value, at whatever depth it stands: a line break and
its indentation are blanks, empty arrays and objects are written without any, and all else is put
together from the texts of the parts.  What is asked of the value is that it can be read at all
and has no doubles, everywhere.

No value is written with an escape character, doubles or not.
-/

namespace TezosNode.Json

open Text (escapeCharacter)

theorem areBlanks_newline (depth : Nat) : AreBlanks (newline depth) := by
  intro c hmem
  rcases List.mem_cons.1 hmem with rfl | hindent
  · decide
  · obtain rfl := List.eq_of_mem_replicate hindent
    decide

/-! ## Reading -/

section Parts

variable {depth : Nat}

theorem readsItems_indented {items : List Json} (hsome : items ≠ [])
    (hitems : ∀ v ∈ items, Reads v (indented depth v)) :
    ReadsItems items (indentedItems depth items) := by
  induction items with
  | nil => exact absurd rfl hsome
  | cons v rest ih =>
    rw [List.forall_mem_cons] at hitems
    cases rest with
    | nil => exact .one hitems.1
    | cons w more =>
      rw [indentedItems, List.append_assoc, List.cons_append]
      exact .cons hitems.1 (areBlanks_newline depth) (ih (List.cons_ne_nil w more) hitems.2)

theorem readsFields_indented {fields : List (String × Json)} (hsome : fields ≠ [])
    (hfields : ∀ f ∈ fields, Reads f.2 (indented depth f.2)) :
    ReadsFields fields (indentedFields depth fields) := by
  induction fields with
  | nil => exact absurd rfl hsome
  | cons f rest ih =>
    obtain ⟨n, v⟩ := f
    rw [List.forall_mem_cons] at hfields
    cases rest with
    | nil => exact .one n hfields.1
    | cons g more =>
      have htext : indentedFields depth ((n, v) :: g :: more) =
          memberText n (indented depth v) ++
            ',' :: (newline depth ++ indentedFields depth (g :: more)) := by
        rw [indentedFields, memberText, List.append_assoc, List.cons_append]
      rw [htext]
      exact .cons n hfields.1 (areBlanks_newline depth) (ih (List.cons_ne_nil g more) hfields.2)

end Parts

/-- Values that can be read and have no doubles are read from their indented forms. -/
theorem reads_indented {v : Json} (h : v.Everywhere IsPlain) (depth : Nat) :
    Reads v (indented depth v) := by
  induction h generalizing depth with
  | @intro v here within ih =>
    obtain ⟨hreadable, hdouble⟩ := here
    cases v with
    | null => exact reads_null
    | bool b =>
      cases b with
      | true => exact reads_true
      | false => exact reads_false
    | integer n => exact reads_integer hreadable
    | double x => exact hdouble.elim
    | string s => exact reads_string s
    | array items =>
      cases items with
      | nil => exact reads_empty_array
      | cons w rest =>
        have hitems : ReadsItems (w :: rest) (indentedItems (depth + 1) (w :: rest)) :=
          readsItems_indented (List.cons_ne_nil w rest) fun u hmem => ih u (.element hmem) _
        have hreads :=
          Reads.array hitems (areBlanks_newline (depth + 1)) (areBlanks_newline depth)
        simpa only [indented, List.cons_append, List.append_assoc] using hreads
    | object fields =>
      cases fields with
      | nil => exact reads_empty_object
      | cons f rest =>
        have hfields : ReadsFields (f :: rest) (indentedFields (depth + 1) (f :: rest)) :=
          readsFields_indented (List.cons_ne_nil f rest) fun g hmem => ih g.2 (.field hmem) _
        have hreads :=
          Reads.object hreadable hfields (areBlanks_newline (depth + 1)) (areBlanks_newline depth)
        simpa only [indented, List.cons_append, List.append_assoc] using hreads

/-- A body of ASCII that is a value in its indented form is decoded as the value, if there is room
for its parts. -/
theorem decode_indented {v : Json} (h : v.Everywhere IsPlain)
    (hascii : ((indented 0 v).all fun c => 0 < c.toNat && c.toNat < 0x80) = true)
    (hroom : excess? maxDepth (indented 0 v) = none) :
    decode (Text.Utf8.encode (String.ofList (indented 0 v)).toList) = .ok v := by
  have hnone : AreBlanks [] := List.forall_mem_nil _
  have hparse := (reads_indented h 0).parse hnone hnone
  rw [List.nil_append, List.append_nil] at hparse
  rw [String.toList_ofList, decode_encode hascii hroom, hparse]

/-! ## Escape characters -/

theorem escape_notMem_stringText (s : String) : escapeCharacter ∉ stringText s :=
  fun hmem => absurd (visible_stringText hmem).1 (by decide)

theorem escape_notMem_scalarText (v : Json) : escapeCharacter ∉ scalarText v := by
  unfold scalarText
  split
  · decide
  · decide
  · decide
  · exact Text.isEscapeFree_int _
  · exact Binary64.escape_notMem_render (by decide) (by decide) _
  · exact escape_notMem_stringText _
  · exact List.not_mem_nil
  · exact List.not_mem_nil

theorem escape_notMem_newline (depth : Nat) : escapeCharacter ∉ newline depth :=
  fun hmem => absurd (areBlanks_newline depth _ hmem) (by decide)

mutual

/-- Values are written without escape characters in the indented form. -/
theorem escape_notMem_indented (depth : Nat) : ∀ v : Json, escapeCharacter ∉ indented depth v
  | .array [] => by unfold indented; decide
  | .array (v :: rest) => by
    unfold indented
    simp only [List.mem_append, List.mem_cons, not_or]
    exact ⟨⟨⟨⟨by decide, escape_notMem_newline _⟩,
      escape_notMem_indentedItems (depth + 1) (v :: rest)⟩, escape_notMem_newline _⟩, by decide⟩
  | .object [] => by unfold indented; decide
  | .object (f :: rest) => by
    unfold indented
    simp only [List.mem_append, List.mem_cons, not_or]
    exact ⟨⟨⟨⟨by decide, escape_notMem_newline _⟩,
      escape_notMem_indentedFields (depth + 1) (f :: rest)⟩, escape_notMem_newline _⟩, by decide⟩
  | .null => by unfold indented; exact escape_notMem_scalarText _
  | .bool b => by unfold indented; exact escape_notMem_scalarText _
  | .integer n => by unfold indented; exact escape_notMem_scalarText _
  | .double x => by unfold indented; exact escape_notMem_scalarText _
  | .string s => by unfold indented; exact escape_notMem_scalarText _

theorem escape_notMem_indentedItems (depth : Nat) :
    ∀ items : List Json, escapeCharacter ∉ indentedItems depth items
  | [] => by unfold indentedItems; decide
  | [v] => by unfold indentedItems; exact escape_notMem_indented depth v
  | v :: w :: rest => by
    unfold indentedItems
    simp only [List.mem_append, List.mem_cons, not_or]
    exact ⟨⟨escape_notMem_indented depth v, by decide, escape_notMem_newline _⟩,
      escape_notMem_indentedItems depth (w :: rest)⟩

theorem escape_notMem_indentedFields (depth : Nat) :
    ∀ fields : List (String × Json), escapeCharacter ∉ indentedFields depth fields
  | [] => by unfold indentedFields; decide
  | [(n, v)] => by
    unfold indentedFields
    simp only [List.mem_append, List.mem_cons, not_or]
    exact ⟨escape_notMem_stringText n, by decide, by decide, escape_notMem_indented depth v⟩
  | (n, v) :: f :: rest => by
    unfold indentedFields
    simp only [List.mem_append, List.mem_cons, not_or]
    exact ⟨⟨⟨escape_notMem_stringText n, by decide, by decide, escape_notMem_indented depth v⟩,
      by decide, escape_notMem_newline _⟩, escape_notMem_indentedFields depth (f :: rest)⟩

end

end TezosNode.Json
