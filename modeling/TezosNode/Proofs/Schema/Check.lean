import TezosNode.Proofs.Json.Showing
import TezosNode.Proofs.Schema.Rejection

set_option autoImplicit false

/-!
# Schema: checks of values of any size

A violation is worded when it is found, and its wording shows the value there.  So a check ends
before its report at the first violation whose value is too long or too deep to be shown, and so
does the question whether a value keeps a schema, if that violation is the first of all.  Of a value
that can be shown every part can be, which makes a check of it the validation; the values of
documents can be shown.
-/

namespace TezosNode

open Json (maxDepth)

/-! ## Wordings -/

/-- A field that is found is one of the fields. -/
theorem Json.isPart_of_field? {members : List (String × Json)} {n : String} {v : Json}
    (hfield : field? members n = some v) : IsPart v (.object members) := by
  obtain ⟨f, hfind, rfl⟩ := Option.map_eq_some_iff.1 hfield
  exact .field (List.mem_of_find?_eq_some hfind)

/-- What breaks a rule in a value that can be shown can be worded. -/
theorem Rule.Breaks.obstacle?_breach {path : Path} {r : Rule} {v : Json} {w : Violation}
    (h : Rule.Breaks path r v w) (hshown : v.obstacle? maxDepth = none) :
    w.breach.obstacle? = none := by
  induction h with
  | kind => exact hshown
  | required => rfl
  | nonEmpty => exact hshown
  | field _ _ hfield _ ih =>
    exact ih (Json.obstacle?_of_isPart hshown (Json.isPart_of_field? hfield))
  | item _ hitem _ ih =>
    exact ih (Json.obstacle?_of_isPart hshown (.element (List.mem_of_getElem? hitem)))

namespace Schema

/-- Whether all violations in a value can be worded. -/
def AreWordable (s : Schema) (v : Json) : Prop := ∀ w ∈ s.violations v, w.breach.obstacle? = none

theorem areWordable_of_obstacle? (s : Schema) {v : Json} (hshown : v.obstacle? maxDepth = none) :
    s.AreWordable v := by
  intro w hmem
  obtain ⟨r, -, hbreaks⟩ := (mem_violations_iff s v w).1 hmem
  exact hbreaks.obstacle?_breach hshown

/-! ## Checks -/

variable {s : Schema} {v : Json}

/-- With all violations worded, a check is the validation. -/
theorem check_of_areWordable (hwordable : s.AreWordable v) :
    s.check v = (s.validate v).mapError .rejected := by
  have hnone : (s.violations v).findSome? (fun w => w.breach.obstacle?) = none :=
    List.findSome?_eq_none_iff.2 hwordable
  unfold check
  rw [hnone]

theorem isValid_of_areWordable (hwordable : s.AreWordable v) : s.isValid v = .ok (s.accepts v) := by
  have hnone : (s.violations v).head?.bind (fun w => w.breach.obstacle?) = none := by
    cases hfirst : (s.violations v).head? with
    | none => rfl
    | some w => exact hwordable w (List.mem_of_head? hfirst)
  unfold isValid
  rw [hnone]

/-- What happens at the first violation that cannot be worded. -/
theorem check_of_obstacle {before after : List Violation} {w : Violation} {obstacle : Json.Obstacle}
    (hviolations : s.violations v = before ++ w :: after)
    (hbefore : ∀ u ∈ before, u.breach.obstacle? = none) (hw : w.breach.obstacle? = some obstacle) :
    s.check v = .error (.obstructed obstacle) ∧
      s.isValid v = if before = [] then .error obstacle else .ok false := by
  have hfound : (s.violations v).findSome? (fun w => w.breach.obstacle?) = some obstacle :=
    List.findSome?_eq_some_iff.2 ⟨before, w, after, hviolations, hw, hbefore⟩
  have hrefused : s.accepts v = false := by
    rw [← Bool.not_eq_true, ← s.violations_eq_nil_iff v, hviolations]
    exact List.append_ne_nil_of_right_ne_nil before (List.cons_ne_nil w after)
  constructor
  · unfold check
    rw [hfound]
  · unfold isValid
    cases before with
    | nil =>
      rw [hviolations, List.nil_append, List.head?_cons, Option.bind_some, hw]
      rfl
    | cons first rest =>
      rw [hviolations, List.cons_append, List.head?_cons, Option.bind_some,
        hbefore first List.mem_cons_self, hrefused]
      rfl

/-- The check of any value against a schema of the documents.  It ends well just when the value is
valid, and the places of any two violations can be compared.  If all violations can be worded, as
they can in every document that is read, a value that is not valid is known not to be and is
rejected with a report of all violations.  Otherwise the check ends at the first violation that
cannot be worded, which is all that is found of a value if there is none before it. -/
theorem check_reports_violations {s : Schema} (hs : s ∈ catalogue) (v : Json) :
    (s.check v = .ok () ↔ s.isValid v = .ok true) ∧
    (∀ a ∈ s.violations v, ∀ b ∈ s.violations v,
      a.path.le? b.path = some (a.path.le b.path)) ∧
    (s.AreWordable v → s.isValid v ≠ .ok true →
      s.isValid v = .ok false ∧
        ∃ rejection, s.check v = .error (.rejected rejection) ∧ rejection.Reports s v) ∧
    (∀ body, Json.decode body = .ok v → s.AreWordable v) ∧
    (¬s.AreWordable v →
      ∃ before w after obstacle, s.violations v = before ++ w :: after ∧
        (∀ u ∈ before, u.breach.obstacle? = none) ∧ w.breach.obstacle? = some obstacle ∧
        s.check v = .error (.obstructed obstacle) ∧
        s.isValid v = if before = [] then .error obstacle else .ok false) := by
  have hobstacle : ¬s.AreWordable v →
      ∃ before w after obstacle, s.violations v = before ++ w :: after ∧
        (∀ u ∈ before, u.breach.obstacle? = none) ∧ w.breach.obstacle? = some obstacle ∧
        s.check v = .error (.obstructed obstacle) ∧
        s.isValid v = if before = [] then .error obstacle else .ok false := by
    intro hnot
    have hsome : (s.violations v).findSome? (fun w => w.breach.obstacle?) ≠ none :=
      fun hnone => hnot (List.findSome?_eq_none_iff.1 hnone)
    obtain ⟨obstacle, hfound⟩ := Option.ne_none_iff_exists'.1 hsome
    obtain ⟨before, w, after, hviolations, hw, hbefore⟩ := List.findSome?_eq_some_iff.1 hfound
    exact ⟨before, w, after, obstacle, hviolations, hbefore, hw,
      check_of_obstacle hviolations hbefore hw⟩
  refine ⟨?_, fun a ha b hb => le?_path_eq ha hb, ?_, ?_, hobstacle⟩
  · by_cases hwordable : s.AreWordable v
    · rw [check_of_areWordable hwordable, isValid_of_areWordable hwordable, Except.ok.injEq,
        ← s.validate_eq_ok_iff v]
      cases s.validate v with
      | ok => simp [Except.mapError]
      | error => simp [Except.mapError]
    · obtain ⟨before, _, _, _, -, -, -, hcheck, hvalid⟩ := hobstacle hwordable
      rw [hcheck, hvalid]
      split
      · simp
      · simp
  · intro hwordable hinvalid
    rw [isValid_of_areWordable hwordable] at hinvalid ⊢
    have hrefused : s.accepts v = false := by
      rw [← Bool.not_eq_true]
      exact fun haccepts => hinvalid (congrArg Except.ok haccepts)
    obtain ⟨herror, hne⟩ := validate_eq_error hrefused
    rw [check_of_areWordable hwordable, herror, hrefused]
    exact ⟨rfl, _, rfl, reports_sorted hs hne⟩
  · intro body hdecode
    exact s.areWordable_of_obstacle? (Json.obstacle?_of_decode hdecode)

/-- A block without a hash and with three parts of wrong kinds. -/
def misshapenBlock : Json :=
  .object [("protocol", .integer 1),
    ("header", .object [("level", .null), ("timestamp", .array [])])]

theorem violations_misshapenBlock :
    block.violations misshapenBlock =
      [⟨[], .missing "hash"⟩, ⟨[.field "protocol"], .wrongKind (.integer 1) .string⟩,
        ⟨[.field "header", .field "level"], .wrongKind .null .integer⟩,
        ⟨[.field "header", .field "timestamp"], .wrongKind (.array []) .string⟩] :=
  rfl

theorem sorted_misshapenBlock :
    block.sorted misshapenBlock =
      [⟨[], .missing "hash"⟩, ⟨[.field "header", .field "level"], .wrongKind .null .integer⟩,
        ⟨[.field "header", .field "timestamp"], .wrongKind (.array []) .string⟩,
        ⟨[.field "protocol"], .wrongKind (.integer 1) .string⟩] := by
  have hnames : PathStep.lt (.field "header") (.field "protocol") = true ∧
      PathStep.lt (.field "protocol") (.field "header") = false ∧
      PathStep.lt (.field "level") (.field "timestamp") = true := by decide +kernel
  rw [sorted, violations_misshapenBlock]
  simp [List.mergeSort, List.MergeSort.Internal.splitInTwo, List.merge, Path.le,
    PathStep.lt_irrefl, hnames]

/-- The rules name the protocol before the header, and the places come the other way. -/
theorem check_reports_violations_of_block :
    ∃ rejection, block.check misshapenBlock = .error (.rejected rejection) ∧
      rejection.Reports block misshapenBlock ∧
      rejection.errors = ["<root>: 'hash' is a required property",
        "header/level: None is not of type 'integer'",
        "header/timestamp: [] is not of type 'string'", "protocol: 1 is not of type 'string'"] := by
  have hblock : block ∈ catalogue := by simp [catalogue]
  have hrefused : block.accepts misshapenBlock = false := rfl
  have hwordable : block.AreWordable misshapenBlock := by
    refine areWordable_of_obstacle? _ ?_
    decide +kernel
  have hinvalid : block.isValid misshapenBlock ≠ .ok true := by
    rw [isValid_of_areWordable hwordable, hrefused]
    simp
  obtain ⟨-, rejection, herror, hreports⟩ :=
    (check_reports_violations hblock _).2.2.1 hwordable hinvalid
  refine ⟨rejection, herror, hreports, ?_⟩
  rw [check_of_areWordable hwordable, (validate_eq_error hrefused).1, sorted_misshapenBlock]
    at herror
  cases herror
  decide +kernel

/-- An integer with too many digits in the place of the hash is all that is found of a block. -/
theorem check_of_long_hash {n : Int} (hlong : ¬n.natAbs < Nat.pow 10 Numeral.maxDigits) :
    block.check (.object [("hash", .integer n)]) = .error (.obstructed .longInteger) ∧
      block.isValid (.object [("hash", .integer n)]) = .error .longInteger := by
  have hviolations : block.violations (.object [("hash", .integer n)]) =
      [] ++ ⟨[.field "hash"], .wrongKind (.integer n) .string⟩ :: [] := rfl
  have hobstacle : Breach.obstacle? (.wrongKind (.integer n) .string) = some .longInteger := by
    rw [Breach.obstacle?, Json.obstacle?_of_long hlong]
  exact check_of_obstacle hviolations (List.forall_mem_nil _) hobstacle

/-- A one and 4300 zeros is such an integer: the check does not end well, and with no rejection
either, nor is there an answer to the question whether the value is valid. -/
theorem check_obstructed_of_long_hash :
    let v : Json := .object [("hash", .integer (Nat.pow 10 Numeral.maxDigits : Nat))]
    block ∈ catalogue ∧ block.check v ≠ .ok () ∧
      (∀ rejection, block.check v ≠ .error (.rejected rejection)) ∧
      ∀ answer, block.isValid v ≠ .ok answer := by
  intro v
  have hlong : ¬((Nat.pow 10 Numeral.maxDigits : Nat) : Int).natAbs <
      Nat.pow 10 Numeral.maxDigits := by
    rw [Int.natAbs_natCast]
    exact Nat.lt_irrefl _
  obtain ⟨hcheck, hvalid⟩ := check_of_long_hash hlong
  refine ⟨by simp [catalogue], ?_, fun rejection => ?_, fun answer => ?_⟩
  · rw [hcheck]
    simp
  · rw [hcheck]
    simp
  · rw [hvalid]
    simp

end Schema

end TezosNode
