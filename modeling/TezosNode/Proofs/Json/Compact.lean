import TezosNode.Proofs.Json.Double
import TezosNode.Proofs.Json.Sorting

set_option autoImplicit false

/-!
# JSON: flat objects in one line

An object whose fields have no parts is written in the compact form with visible characters only,
so that it takes one line, and that line is read as the object again: with its names, each of
which has its value.  Of doubles only the kind is told here.
-/

namespace TezosNode.Json

/-! ## Flat values -/

/-- Whether a value has no parts and can be read; an integer has few enough digits then. -/
inductive IsFlat : Json → Prop
  | null : IsFlat .null
  | bool (b : Bool) : IsFlat (.bool b)
  | integer {n : Int} (hfew : Numeral.size n ≤ Numeral.maxDigits) : IsFlat (.integer n)
  | double (x : Binary64) : IsFlat (.double x)
  | string (s : String) : IsFlat (.string s)

/-- What a flat value is read as: itself, or a double if it is a double. -/
inductive ReadsAs : Json → Json → Prop
  | same (v : Json) : ReadsAs v v
  | double (x y : Binary64) : ReadsAs (.double x) (.double y)

theorem ReadsAs.eq_of_isNoDouble {v w : Json} (h : ReadsAs v w) (hv : IsNoDouble v) : w = v := by
  cases h with
  | same => rfl
  | double => exact hv.elim

namespace IsFlat

variable {v : Json}

/-- There is nothing to sort in a flat value. -/
theorem sorted_eq (h : IsFlat v) : v.sorted = v := by
  cases h <;> rfl

theorem exists_reads (h : IsFlat v) : ∃ w, ReadsAs v w ∧ Reads w (compact v) := by
  cases h with
  | null => exact ⟨_, .same _, reads_null⟩
  | bool b =>
    cases b with
    | true => exact ⟨_, .same _, reads_true⟩
    | false => exact ⟨_, .same _, reads_false⟩
  | integer hfew => exact ⟨_, .same _, reads_integer hfew⟩
  | double x =>
    obtain ⟨y, hreads⟩ := exists_reads_render x
    exact ⟨_, .double x y, hreads⟩
  | string s => exact ⟨_, .same _, reads_string s⟩

theorem isVisible_of_mem_compact (h : IsFlat v) {c : Char} (hmem : c ∈ compact v) :
    Text.IsVisible c := by
  cases h with
  | null => exact Text.isVisible_of_all (by decide) hmem
  | bool b =>
    refine Text.isVisible_of_all ?_ hmem
    cases b <;> decide
  | integer =>
    rcases Numeral.isWriting_of_mem_toString hmem with hdigit | rfl
    · exact Numeral.isVisible_of_isDigit hdigit
    · decide
  | double x => exact x.isVisible_of_mem_render hmem
  | string s => exact visible_stringText hmem

end IsFlat

/-! ## Flat fields -/

section Fields

variable {fields others : List (String × Json)}

/-- Whether fields are read as others: name by name, and value by value. -/
def FieldsReadAs (fields others : List (String × Json)) : Prop :=
  List.Forall₂ (fun f g => f.1 = g.1 ∧ ReadsAs f.2 g.2) fields others

theorem FieldsReadAs.names_eq (h : FieldsReadAs fields others) :
    others.map Prod.fst = fields.map Prod.fst := by
  induction h with
  | nil => rfl
  | cons hfield _ ih => rw [List.map_cons, List.map_cons, ih, hfield.1]

/-- A name has a value in both or in none, and what it has in the others is read of it. -/
theorem FieldsReadAs.field? (h : FieldsReadAs fields others) (name : String) :
    Option.Rel ReadsAs (field? fields name) (field? others name) := by
  unfold Json.field?
  induction h with
  | nil => exact .none
  | @cons f g _ _ hfield _ ih =>
    rw [List.find?_cons, List.find?_cons, ← hfield.1]
    cases f.1 == name with
    | true => exact .some hfield.2
    | false => exact ih

theorem compactFields_cons {f : String × Json} {rest : List (String × Json)} (hrest : rest ≠ []) :
    compactFields (f :: rest) =
      memberText f.1 (compact f.2) ++ ',' :: ([' '] ++ compactFields rest) := by
  obtain ⟨g, more, rfl⟩ := List.exists_cons_of_ne_nil hrest
  simp [compactFields, memberText]

/-- Flat fields in the compact form are read as such fields. -/
theorem exists_readsFields (hsome : fields ≠ []) (hflat : ∀ f ∈ fields, IsFlat f.2) :
    ∃ others, FieldsReadAs fields others ∧ ReadsFields others (compactFields fields) := by
  induction fields with
  | nil => exact absurd rfl hsome
  | cons f rest ih =>
    obtain ⟨hfirst, hrest⟩ := List.forall_mem_cons.1 hflat
    obtain ⟨w, hw, hreads⟩ := hfirst.exists_reads
    by_cases hnil : rest = []
    · subst hnil
      exact ⟨[(f.1, w)], .cons ⟨rfl, hw⟩ .nil, .one f.1 hreads⟩
    · obtain ⟨others, hothers, hmore⟩ := ih hnil hrest
      have hgap : AreBlanks [' '] := List.forall_mem_singleton.2 (by decide)
      rw [compactFields_cons hnil]
      exact ⟨(f.1, w) :: others, .cons ⟨rfl, hw⟩ hothers, .cons f.1 hreads hgap hmore⟩

theorem isVisible_of_mem_memberText {name : String} {text : List Char}
    (htext : ∀ c ∈ text, Text.IsVisible c) {c : Char} (hmem : c ∈ memberText name text) :
    Text.IsVisible c := by
  rcases List.mem_append.1 hmem with hname | hmem
  · exact visible_stringText hname
  rcases List.mem_cons.1 hmem with rfl | hmem
  · decide
  rcases List.mem_cons.1 hmem with rfl | hmem
  · decide
  · exact htext c hmem

theorem isVisible_of_mem_compactFields (hflat : ∀ f ∈ fields, IsFlat f.2) {c : Char}
    (hmem : c ∈ compactFields fields) : Text.IsVisible c := by
  induction fields with
  | nil => cases hmem
  | cons f rest ih =>
    obtain ⟨hfirst, hrest⟩ := List.forall_mem_cons.1 hflat
    have hmember : ∀ c ∈ memberText f.1 (compact f.2), Text.IsVisible c := fun _ hmem =>
      isVisible_of_mem_memberText (fun _ => hfirst.isVisible_of_mem_compact) hmem
    by_cases hnil : rest = []
    · subst hnil
      exact hmember c hmem
    · rw [compactFields_cons hnil, List.mem_append, List.mem_cons, List.mem_append] at hmem
      rcases hmem with hmem | rfl | hblank | hmem
      · exact hmember c hmem
      · decide
      · obtain rfl := List.mem_singleton.1 hblank
        decide
      · exact ih hrest hmem

/-! ## Fields in another order -/

/-- Without repeated names a field is the value of its name. -/
theorem field?_eq_some_iff (hnames : (fields.map Prod.fst).Nodup) (name : String) (v : Json) :
    field? fields name = some v ↔ (name, v) ∈ fields := by
  induction fields with
  | nil => exact iff_of_false nofun List.not_mem_nil
  | cons f rest ih =>
    obtain ⟨hnew, hrest⟩ := List.nodup_cons.1 hnames
    rw [List.mem_cons, ← ih hrest, field?, List.find?_cons]
    by_cases hname : f.1 = name
    · subst hname
      have hnone : field? rest f.1 ≠ some v := fun hfield =>
        hnew (List.mem_map.2 ⟨_, (ih hrest).1 hfield, rfl⟩)
      simp [hnone, Prod.ext_iff, eq_comm]
    · have hne : (f.1 == name) = false := beq_false_of_ne hname
      rw [hne]
      refine ⟨.inr, fun h => h.resolve_left ?_⟩
      rintro rfl
      exact hname rfl

/-- Without repeated names the values do not depend on the order. -/
theorem field?_of_perm (hnames : (fields.map Prod.fst).Nodup) (hperm : others.Perm fields)
    (name : String) : field? others name = field? fields name := by
  have hothers : (others.map Prod.fst).Nodup := (hperm.map Prod.fst).nodup_iff.2 hnames
  refine Option.ext fun v => ?_
  rw [field?_eq_some_iff hnames, field?_eq_some_iff hothers, hperm.mem_iff]

/-- Sorting an object with flat fields leaves all its values. -/
theorem sortedFields_of_flat (hflat : ∀ f ∈ fields, IsFlat f.2) : sortedFields fields = fields := by
  rw [sortedFields_eq]
  refine (List.map_congr_left fun f hmem => ?_).trans (List.map_id fields)
  rw [(hflat f hmem).sorted_eq]
  rfl

end Fields

/-! ## Flat objects -/

/-- A sorted flat object in the compact form: all characters are visible, and the text is read as
an object in which each name has the value that it had, or a double if that was one. -/
theorem exists_parse_compact {fields : List (String × Json)} (hsome : fields ≠ [])
    (hnames : (fields.map Prod.fst).Nodup) (hflat : ∀ f ∈ fields, IsFlat f.2) :
    (∀ c ∈ compact (sorted (.object fields)), Text.IsVisible c) ∧
      ∃ others, parse (compact (sorted (.object fields))) = .ok (.object others) ∧
        ∀ name, Option.Rel ReadsAs (field? fields name) (field? others name) := by
  have hperm := sortFields_perm fields
  have hflat' : ∀ f ∈ sortFields fields, IsFlat f.2 := fun f hmem => hflat f (hperm.mem_iff.1 hmem)
  have hsome' : sortFields fields ≠ [] := fun hnil => hsome (hnil ▸ hperm).symm.eq_nil
  obtain ⟨others, hothers, hreads⟩ := exists_readsFields hsome' hflat'
  have hnodup : (others.map Prod.fst).Nodup := by
    rw [hothers.names_eq]
    exact (hperm.map Prod.fst).nodup_iff.2 hnames
  have htext : compact (sorted (.object fields)) =
      '\x7b' :: ([] ++ (compactFields (sortFields fields) ++ ([] ++ ['\x7d']))) := by
    rw [sorted, sortedFields_of_flat hflat]
    rfl
  have hnone : AreBlanks [] := List.forall_mem_nil _
  refine ⟨fun c hmem => ?_, others, ?_, fun name => ?_⟩
  · simp only [htext, List.nil_append, List.mem_cons, List.mem_append, List.not_mem_nil,
      or_false] at hmem
    rcases hmem with rfl | hmem | rfl
    · decide
    · exact isVisible_of_mem_compactFields hflat' hmem
    · decide
  · have hparse := (Reads.object hnodup hreads hnone hnone).parse hnone hnone
    rwa [List.nil_append, List.append_nil, ← htext] at hparse
  · rw [← field?_of_perm hnames hperm name]
    exact hothers.field? name

end TezosNode.Json
