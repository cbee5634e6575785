import TezosNode.Proofs.Schema.Breach
import TezosNode.Proofs.Schema.Validation

set_option autoImplicit false

/-!
# Schema: rejections

A value that does not keep a schema is rejected, and the rejection reports each violation once:
ordered by their places, with those of one place in the order of the rules, in the list of errors
as in the message.  To order them no index is ever compared with a name.
-/

namespace TezosNode.Schema

/-! ## Violations -/

theorem mem_violations_iff (s : Schema) (v : Json) (w : Violation) :
    w ∈ s.violations v ↔ ∃ r ∈ s.rules, Rule.Breaks [] r v w :=
  Rule.mem_allViolations_iff [] s.rules v w

/-- A violation lies in the value. -/
theorem isSome_at?_path {s : Schema} {v : Json} {w : Violation} (hw : w ∈ s.violations v) :
    (v.at? w.path).isSome = true := by
  obtain ⟨r, -, hbreaks⟩ := (mem_violations_iff s v w).1 hw
  obtain ⟨inner, hpath, hsome⟩ := hbreaks.exists_at?
  rwa [hpath, List.nil_append]

/-- The places of two violations of one value can be compared. -/
theorem le?_path_eq {s : Schema} {v : Json} {a b : Violation} (ha : a ∈ s.violations v)
    (hb : b ∈ s.violations v) : a.path.le? b.path = some (a.path.le b.path) :=
  Path.le?_eq_some_le (isSome_at?_path ha) (isSome_at?_path hb)

/-! ## Their order -/

/-- The violations of a value, ordered by their places. -/
def sorted (s : Schema) (v : Json) : List Violation :=
  (s.violations v).mergeSort fun a b => a.path.le b.path

theorem sorted_perm (s : Schema) (v : Json) : (s.sorted v).Perm (s.violations v) :=
  List.mergeSort_perm _ _

theorem path_le_trans (a b c : Violation) (hab : a.path.le b.path = true)
    (hbc : b.path.le c.path = true) : a.path.le c.path = true :=
  Path.le_trans hab hbc

theorem path_le_total (a b : Violation) : (a.path.le b.path || b.path.le a.path) = true := by
  rw [Bool.or_eq_true]
  exact Path.le_total a.path b.path

theorem pairwise_sorted (s : Schema) (v : Json) :
    (s.sorted v).Pairwise fun a b => a.path.le b.path = true :=
  List.pairwise_mergeSort path_le_trans path_le_total _

/-- Violations at one place keep the order that they have among the violations. -/
theorem filter_sorted (s : Schema) (v : Json) (p : Path) :
    (s.sorted v).filter (fun w => w.path = p) = (s.violations v).filter fun w => w.path = p := by
  have hequal : ((s.violations v).filter fun w => w.path = p).Pairwise
      fun a b => a.path.le b.path = true := by
    refine List.pairwise_of_forall_mem_list fun a ha b hb => ?_
    have hpa : a.path = p := by simpa using (List.mem_filter.1 ha).2
    have hpb : b.path = p := by simpa using (List.mem_filter.1 hb).2
    rw [hpa, hpb, Path.le_refl]
  have hsub : ((s.violations v).filter fun w => w.path = p).Sublist (s.sorted v) :=
    List.sublist_mergeSort path_le_trans path_le_total hequal List.filter_sublist
  have hfilter := hsub.filter fun w => decide (w.path = p)
  simp only [List.filter_filter, Bool.and_self] at hfilter
  exact (hfilter.eq_of_length ((s.sorted_perm v).filter _).length_eq.symm).symm

/-! ## Rejections -/

/-- A rejection that reports what in a value breaks a schema. -/
structure Rejection.Reports (s : Schema) (v : Json) (r : Rejection) : Prop where
  /-- there is something to report -/
  errors_ne_nil : r.errors ≠ []
  /-- what breaks a rule is reported, and nothing else -/
  mem_iff : ∀ w, w ∈ r.violations ↔ ∃ rule ∈ s.rules, Rule.Breaks [] rule v w
  /-- nothing is reported twice -/
  nodup : r.violations.Nodup
  /-- places come in order -/
  ordered : r.violations.Pairwise fun a b =>
    a.path = b.path ∨ List.Lex PathStep.Before a.path b.path
  /-- at one place the order is that of the rules -/
  stable : ∀ p : Path,
    r.violations.filter (fun w => w.path = p) = (s.violations v).filter fun w => w.path = p
  /-- the errors are the wordings in this order -/
  errors_eq : r.errors = r.violations.map Violation.message
  /-- the message joins the errors in their order -/
  message_eq :
    r.message = "Schema validation failed for " ++ s.name ++ ": " ++ "; ".intercalate r.errors

/-- What a value of violations is rejected with. -/
theorem validate_eq_error {s : Schema} {v : Json} (hrefused : s.accepts v = false) :
    s.validate v = .error ⟨s.name, s.sorted v⟩ ∧ s.sorted v ≠ [] := by
  have hsome : s.violations v ≠ [] := by
    rw [Ne, violations_eq_nil_iff, hrefused]
    exact Bool.false_ne_true
  have hne : s.sorted v ≠ [] := fun hnil => hsome (hnil ▸ s.sorted_perm v).symm.eq_nil
  refine ⟨?_, hne⟩
  unfold validate
  split
  · next hnil => exact absurd hnil hne
  · rfl

/-- The rejection of a value reports its violations. -/
theorem reports_sorted {s : Schema} (hs : s ∈ catalogue) {v : Json}
    (hne : s.sorted v ≠ []) : Rejection.Reports s v ⟨s.name, s.sorted v⟩ where
  errors_ne_nil := by simpa [Rejection.errors] using hne
  mem_iff w := by rw [(s.sorted_perm v).mem_iff, mem_violations_iff]
  nodup :=
    (s.sorted_perm v).nodup_iff.2
      (Rule.nodup_allViolations [] s.rules v (allSeparate_of_mem_catalogue hs))
  ordered := by
    refine (s.pairwise_sorted v).imp_of_mem fun {a b} ha hb hle => Path.lex_of_le? ?_
    have hmem := fun w => (s.sorted_perm v).mem_iff (a := w)
    rw [le?_path_eq ((hmem a).1 ha) ((hmem b).1 hb), hle]
  stable := s.filter_sorted v
  errors_eq := rfl
  message_eq := rfl

end TezosNode.Schema
