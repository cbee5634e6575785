import Mathlib.Data.List.Forall2
import TezosNode.Json.Printer
import TezosNode.Proofs.Json.Parts

set_option autoImplicit false

/-!
# JSON: sorted fields

Sorting the fields of all objects in a value changes their order and nothing else: the value
keeps all data, its parts are the sorted parts, and whatever it had everywhere it has still, as
long as the order of fields does not matter.  In objects without repeated names the names are in
strictly increasing order afterwards.
-/

namespace TezosNode.Json

/-- Whether two values have the same data: they are equal up to the order of fields, at every
depth. -/
inductive SameData : Json → Json → Prop
  | refl (v : Json) : SameData v v
  | array {items others : List Json} (hitems : List.Forall₂ SameData items others) :
      SameData (.array items) (.array others)
  | object {fields middle others : List (String × Json)}
      (hnames : fields.map Prod.fst = middle.map Prod.fst)
      (hvalues : List.Forall₂ SameData (fields.map Prod.snd) (middle.map Prod.snd))
      (horder : middle.Perm others) : SameData (.object fields) (.object others)

/-- Whether a value is an object only with its names in strictly increasing order. -/
def HasSortedNames : Json → Prop
  | .object fields => (fields.map Prod.fst).Pairwise (· < ·)
  | _ => True

/-- Whether a value is no double. -/
def IsNoDouble : Json → Prop
  | .double _ => False
  | _ => True

/-- Whether a value can be read and is no double, apart from its parts. -/
structure IsPlain (v : Json) : Prop where
  readable : IsReadable v
  noDouble : IsNoDouble v

/-! ## Fields -/

theorem sortFields_perm (fields : List (String × Json)) : (sortFields fields).Perm fields :=
  List.mergeSort_perm _ _

/-- The names of sorted fields do not fall. -/
theorem sortFields_pairwise (fields : List (String × Json)) :
    (sortFields fields).Pairwise fun a b => a.1 ≤ b.1 := by
  have hle : ∀ a b : String × Json, (!decide (b.1 < a.1)) = true ↔ a.1 ≤ b.1 := by
    intro a b
    rw [Bool.not_eq_true', decide_eq_false_iff_not, String.not_lt]
  have htrans : ∀ a b c : String × Json, (!decide (b.1 < a.1)) = true →
      (!decide (c.1 < b.1)) = true → (!decide (c.1 < a.1)) = true :=
    fun a b c hab hbc => (hle a c).2 (String.le_trans ((hle a b).1 hab) ((hle b c).1 hbc))
  have htotal : ∀ a b : String × Json,
      ((!decide (b.1 < a.1)) || (!decide (a.1 < b.1))) = true := by
    intro a b
    rw [Bool.or_eq_true, hle, hle]
    exact String.le_total a.1 b.1
  exact (List.pairwise_mergeSort htrans htotal fields).imp fun hab => (hle _ _).1 hab

/-- Without repeated names they rise from each field to the next. -/
theorem sortFields_names {fields : List (String × Json)} (hnames : (fields.map Prod.fst).Nodup) :
    ((sortFields fields).map Prod.fst).Pairwise (· < ·) := by
  have hnodup : ((sortFields fields).map Prod.fst).Nodup :=
    ((sortFields_perm fields).map Prod.fst).nodup_iff.2 hnames
  have hsorted : ((sortFields fields).map Prod.fst).Pairwise (· ≤ ·) :=
    List.pairwise_map.2 (sortFields_pairwise fields)
  refine hsorted.imp₂ (fun a b hle hne => ?_) hnodup
  exact String.not_le.1 fun hge => hne (String.le_antisymm hle hge)

/-! ## Values -/

theorem sortedItems_eq (items : List Json) : sortedItems items = items.map sorted := by
  induction items with
  | nil => rfl
  | cons v rest ih => rw [sortedItems, ih, List.map_cons]

theorem sortedFields_eq (fields : List (String × Json)) :
    sortedFields fields = fields.map fun f => (f.1, sorted f.2) := by
  induction fields with
  | nil => rfl
  | cons f rest ih => rw [sortedFields, ih, List.map_cons]

theorem names_sortedFields (fields : List (String × Json)) :
    (sortedFields fields).map Prod.fst = fields.map Prod.fst := by
  rw [sortedFields_eq, List.map_map]
  rfl

/-- The parts of a sorted value are sorted parts of the value. -/
theorem exists_of_isPart_sorted {v w : Json} (hpart : IsPart w v.sorted) :
    ∃ u, IsPart u v ∧ u.sorted = w := by
  cases v with
  | array items =>
    rw [sorted, sortedItems_eq] at hpart
    cases hpart with
    | element hmem =>
      obtain ⟨u, hu, rfl⟩ := List.mem_map.1 hmem
      exact ⟨u, .element hu, rfl⟩
  | object fields =>
    rw [sorted, sortedFields_eq] at hpart
    cases hpart with
    | field hmem =>
      obtain ⟨⟨name, u⟩, hu, hsorted⟩ := List.mem_map.1 ((sortFields_perm _).mem_iff.1 hmem)
      exact ⟨u, .field hu, (Prod.mk.inj hsorted).2⟩
  | null => exact nomatch hpart
  | bool b => exact nomatch hpart
  | integer n => exact nomatch hpart
  | double x => exact nomatch hpart
  | string s => exact nomatch hpart

/-- What sorting makes of a property of values, it makes of it everywhere. -/
theorem Everywhere.sorted {p q : Json → Prop} (hstep : ∀ v, p v → q v.sorted) {v : Json}
    (h : v.Everywhere p) : v.sorted.Everywhere q := by
  induction h with
  | intro here within ih =>
    refine .intro (hstep _ here) fun w hpart => ?_
    obtain ⟨u, hu, rfl⟩ := exists_of_isPart_sorted hpart
    exact ih u hu

/-- A value that can be read can be read when it has been sorted. -/
theorem isReadable_sorted (v : Json) (h : IsReadable v) : IsReadable v.sorted := by
  cases v with
  | object fields =>
    change ((sortFields (sortedFields fields)).map Prod.fst).Nodup
    rw [((sortFields_perm _).map Prod.fst).nodup_iff, names_sortedFields]
    exact h
  | _ => exact h

theorem isNoDouble_sorted (v : Json) (h : IsNoDouble v) : IsNoDouble v.sorted := by
  cases v with
  | double x => exact h
  | _ => trivial

theorem isPlain_sorted (v : Json) (h : IsPlain v) : IsPlain v.sorted :=
  ⟨isReadable_sorted v h.readable, isNoDouble_sorted v h.noDouble⟩

/-- A value without repeated names has its names in order when it has been sorted. -/
theorem hasSortedNames_sorted (v : Json) (h : IsReadable v) : HasSortedNames v.sorted := by
  cases v with
  | object fields =>
    refine sortFields_names ?_
    rw [names_sortedFields]
    exact h
  | _ => trivial

/-- A sorted value has the same data. -/
theorem sameData_sorted (v : Json) : SameData v v.sorted := by
  have hparts := everywhere_of_forall (fun _ => trivial) v
  induction hparts with
  | @intro v here within ih =>
    cases v with
    | array items =>
      rw [sorted, sortedItems_eq]
      refine .array (List.forall₂_map_right_iff.2 (List.forall₂_same.2 fun w hmem => ?_))
      exact ih w (.element hmem)
    | object fields =>
      refine .object (names_sortedFields fields).symm ?_ (sortFields_perm _).symm
      rw [sortedFields_eq, List.map_map, List.forall₂_map_left_iff, List.forall₂_map_right_iff]
      exact List.forall₂_same.2 fun f hmem => ih f.2 (.field hmem)
    | null => exact .refl _
    | bool b => exact .refl _
    | integer n => exact .refl _
    | double x => exact .refl _
    | string s => exact .refl _

end TezosNode.Json
