import Mathlib.Data.List.Basic
import Mathlib.Data.List.Nodup
import TezosNode.Proofs.Schema.Place

set_option autoImplicit false

/-!
# Schema: what breaks a rule

`Breaks` says when a value at a place breaks a rule, and how, apart from the collecting of
violations: a rule about parts is broken where a part breaks one of its rules.  The violations
that are collected are those that there are.  No violation is collected twice, as long as no rule
stands twice in a list: what a violation is about can be told from its breach, or from the step
after the place where the rule was applied.
-/

namespace TezosNode

namespace Rule

/-! ## Breaches -/

/-- How a value at a place breaks a rule. -/
inductive Breaks : Path → Rule → Json → Violation → Prop
  | kind {path : Path} {k : Kind} {v : Json} (hkind : k.holds v = false) :
      Breaks path (.kind k) v ⟨path, .wrongKind v k⟩
  | required {path : Path} {names : List String} {members : List (String × Json)} {n : String}
      (hname : n ∈ names) (hnone : Json.field? members n = none) :
      Breaks path (.required names) (.object members) ⟨path, .missing n⟩
  | nonEmpty {path : Path} {k : Kind} {v : Json} (hempty : isEmptyOf k v = true) :
      Breaks path (.nonEmpty k) v ⟨path, .empty v⟩
  | field {path : Path} {fieldRules : List (String × List Rule)} {rules : List Rule} {r : Rule}
      {members : List (String × Json)} {n : String} {v : Json} {w : Violation}
      (hrules : (n, rules) ∈ fieldRules) (hrule : r ∈ rules)
      (hfield : Json.field? members n = some v) (h : Breaks (path ++ [.field n]) r v w) :
      Breaks path (.fields fieldRules) (.object members) w
  | item {path : Path} {rules : List Rule} {r : Rule} {elements : List Json} {i : Nat} {v : Json}
      {w : Violation} (hrule : r ∈ rules) (hitem : elements[i]? = some v)
      (h : Breaks (path ++ [.index i]) r v w) : Breaks path (.items rules) (.array elements) w

theorem mem_missing_iff {names : List String} {v : Json} {n : String} :
    n ∈ missing names v ↔
      ∃ members, v = .object members ∧ n ∈ names ∧ Json.field? members n = none := by
  cases v with
  | object members => simp [missing]
  | _ => simp [missing]

mutual

/-- The violations of a rule are those that there are. -/
theorem mem_violations_iff (path : Path) : ∀ (r : Rule) (v : Json) (w : Violation),
    w ∈ violations path r v ↔ Breaks path r v w
  | .kind k, v, w => by
    rw [violations]
    constructor
    · intro hmem
      split at hmem
      case isTrue => cases hmem
      case isFalse hkind =>
        obtain rfl := List.mem_singleton.1 hmem
        exact .kind (Bool.not_eq_true _ ▸ hkind)
    · intro hbreaks
      cases hbreaks with
      | kind hkind => simp [hkind]
  | .required names, v, w => by
    rw [violations, List.mem_map]
    constructor
    · rintro ⟨n, hmem, rfl⟩
      obtain ⟨members, rfl, hname, hnone⟩ := mem_missing_iff.1 hmem
      exact .required hname hnone
    · intro hbreaks
      cases hbreaks with
      | required hname hnone => exact ⟨_, mem_missing_iff.2 ⟨_, rfl, hname, hnone⟩, rfl⟩
  | .nonEmpty k, v, w => by
    rw [violations]
    constructor
    · intro hmem
      split at hmem
      case isTrue hempty =>
        obtain rfl := List.mem_singleton.1 hmem
        exact .nonEmpty hempty
      case isFalse => cases hmem
    · intro hbreaks
      cases hbreaks with
      | nonEmpty hempty => simp [hempty]
  | .fields fieldRules, v, w => by
    cases v with
    | object members =>
      rw [violations, mem_fieldViolations_iff]
      constructor
      · rintro ⟨n, rules, v, r, hrules, hfield, hrule, hbreaks⟩
        exact .field hrules hrule hfield hbreaks
      · intro hbreaks
        cases hbreaks with
        | field hrules hrule hfield h => exact ⟨_, _, _, _, hrules, hfield, hrule, h⟩
    | _ =>
      refine iff_of_false ?_ nofun
      simp [violations]
  | .items rules, v, w => by
    cases v with
    | array elements =>
      rw [violations, List.mem_flatten]
      constructor
      · rintro ⟨found, hfound, hmem⟩
        obtain ⟨⟨u, i⟩, hitem, rfl⟩ := List.mem_map.1 hfound
        obtain ⟨r, hrule, hbreaks⟩ := (mem_allViolations_iff _ rules u w).1 hmem
        exact .item hrule (List.mk_mem_zipIdx_iff_getElem?.1 hitem) hbreaks
      · intro hbreaks
        cases hbreaks with
        | @item _ _ r _ i u _ hrule hitem h =>
          refine ⟨_, List.mem_map.2 ⟨(u, i), List.mk_mem_zipIdx_iff_getElem?.2 hitem, rfl⟩, ?_⟩
          exact (mem_allViolations_iff _ rules u w).2 ⟨r, hrule, h⟩
    | _ =>
      refine iff_of_false ?_ nofun
      simp [violations]

theorem mem_allViolations_iff (path : Path) : ∀ (rules : List Rule) (v : Json) (w : Violation),
    w ∈ allViolations path rules v ↔ ∃ r ∈ rules, Breaks path r v w
  | [], v, w => by simp [allViolations]
  | r :: rest, v, w => by
    rw [allViolations, List.mem_append, mem_violations_iff path r v w,
      mem_allViolations_iff path rest v w, List.exists_mem_cons_iff]

theorem mem_fieldViolations_iff (path : Path) (members : List (String × Json)) :
    ∀ (fieldRules : List (String × List Rule)) (w : Violation),
      w ∈ fieldViolations path members fieldRules ↔
        ∃ n rules v r, (n, rules) ∈ fieldRules ∧ Json.field? members n = some v ∧ r ∈ rules ∧
          Breaks (path ++ [.field n]) r v w
  | [], w => by simp [fieldViolations]
  | (n, rules) :: rest, w => by
    rw [fieldViolations, List.mem_append, mem_fieldViolations_iff path members rest w]
    constructor
    · rintro (hmem | ⟨m, others, v, r, hrules, hfield, hrule, hbreaks⟩)
      · cases hfield : Json.field? members n with
        | none =>
          rw [hfield] at hmem
          cases hmem
        | some v =>
          rw [hfield] at hmem
          obtain ⟨r, hrule, hbreaks⟩ := (mem_allViolations_iff _ rules v w).1 hmem
          exact ⟨n, rules, v, r, List.mem_cons_self, hfield, hrule, hbreaks⟩
      · exact ⟨m, others, v, r, List.mem_cons_of_mem _ hrules, hfield, hrule, hbreaks⟩
    · rintro ⟨m, others, v, r, hrules, hfield, hrule, hbreaks⟩
      rcases List.mem_cons.1 hrules with heq | hrest
      · obtain ⟨rfl, rfl⟩ := Prod.mk.inj heq
        rw [hfield]
        exact .inl ((mem_allViolations_iff _ others v w).2 ⟨r, hrule, hbreaks⟩)
      · exact .inr ⟨m, others, v, r, hrest, hfield, hrule, hbreaks⟩

end

/-- A violation lies in the value whose rule it breaks. -/
theorem Breaks.exists_at? {path : Path} {r : Rule} {v : Json} {w : Violation}
    (h : Breaks path r v w) : ∃ inner, w.path = path ++ inner ∧ (v.at? inner).isSome = true := by
  induction h with
  | kind | required | nonEmpty => exact ⟨[], (List.append_nil _).symm, rfl⟩
  | @field _ _ _ _ _ n u _ _ _ hfield _ ih =>
    obtain ⟨inner, hpath, hsome⟩ := ih
    exact ⟨.field n :: inner, by simpa using hpath,
      by simpa [Json.at?, Json.child?, hfield] using hsome⟩
  | @item _ _ _ _ i u _ _ hitem _ ih =>
    obtain ⟨inner, hpath, hsome⟩ := ih
    exact ⟨.index i :: inner, by simpa using hpath,
      by simpa [Json.at?, Json.child?, hitem] using hsome⟩

/-! ## No violation twice -/

/-- The kinds of rule. -/
inductive Aspect where
  | kind
  | required
  | nonEmpty
  | fields
  | items
  deriving DecidableEq

/-- The kind of a rule. -/
def aspect : Rule → Aspect
  | .kind _ => .kind
  | .required _ => .required
  | .nonEmpty _ => .nonEmpty
  | .fields _ => .fields
  | .items _ => .items

/-- The kind of the rule at a place that a violation is of: the step after the place tells it,
and at the place itself the breach does. -/
def aspectOf (path : Path) (w : Violation) : Aspect :=
  match w.path.drop path.length, w.breach with
  | .field _ :: _, _ => .fields
  | .index _ :: _, _ => .items
  | [], .wrongKind _ _ => .kind
  | [], .missing _ => .required
  | [], .empty _ => .nonEmpty

theorem Breaks.aspectOf_eq {path : Path} {r : Rule} {v : Json} {w : Violation}
    (h : Breaks path r v w) : aspectOf path w = r.aspect := by
  cases h with
  | kind | required | nonEmpty => simp [aspectOf, aspect]
  | field _ _ _ h | item _ _ h =>
    obtain ⟨inner, hpath, -⟩ := h.exists_at?
    simp [aspectOf, aspect, hpath]

mutual

/-- Whether a rule names nothing twice, and no list of rules in it has two of one kind. -/
def isSeparate : Rule → Bool
  | .kind _ => true
  | .required names => decide names.Nodup
  | .nonEmpty _ => true
  | .fields rules => fieldsSeparate rules
  | .items rules => allSeparate rules

/-- Whether no two rules of a list are of one kind, and each is separate. -/
def allSeparate : List Rule → Bool
  | [] => true
  | r :: rest => isSeparate r && decide (r.aspect ∉ rest.map aspect) && allSeparate rest

/-- Whether no two fields of a list have one name, and the rules of each are separate. -/
def fieldsSeparate : List (String × List Rule) → Bool
  | [] => true
  | (n, rules) :: rest =>
    allSeparate rules && decide (n ∉ rest.map Prod.fst) && fieldsSeparate rest

end

/-- Violations found after different steps from a place differ. -/
theorem ne_of_mem_allViolations {path : Path} {a b : PathStep} (hne : a ≠ b)
    {rules others : List Rule} {u v : Json} {w x : Violation}
    (hw : w ∈ allViolations (path ++ [a]) rules u)
    (hx : x ∈ allViolations (path ++ [b]) others v) : w ≠ x := by
  obtain ⟨_, -, hbreaks⟩ := (mem_allViolations_iff _ rules u w).1 hw
  obtain ⟨_, -, hother⟩ := (mem_allViolations_iff _ others v x).1 hx
  obtain ⟨inner, hpath, -⟩ := hbreaks.exists_at?
  obtain ⟨outer, hpath', -⟩ := hother.exists_at?
  rintro rfl
  rw [hpath, List.append_assoc, List.append_assoc] at hpath'
  exact hne (List.cons.inj (List.append_cancel_left hpath')).1

mutual

theorem nodup_violations (path : Path) : ∀ (r : Rule) (v : Json), isSeparate r = true →
    (violations path r v).Nodup
  | .kind k, v, _ => by
    rw [violations]
    split
    case isTrue => exact List.nodup_nil
    case isFalse => exact List.nodup_singleton _
  | .required names, v, hseparate => by
    rw [isSeparate, decide_eq_true_iff] at hseparate
    rw [violations]
    refine List.Nodup.map (fun _ _ heq => by simpa using heq) ?_
    cases v with
    | object members => exact hseparate.filter _
    | _ => exact List.nodup_nil
  | .nonEmpty k, v, _ => by
    rw [violations]
    split
    case isTrue => exact List.nodup_singleton _
    case isFalse => exact List.nodup_nil
  | .fields fieldRules, v, hseparate => by
    rw [isSeparate] at hseparate
    cases v with
    | object members =>
      rw [violations]
      exact nodup_fieldViolations path members fieldRules hseparate
    | _ => simp [violations]
  | .items rules, v, hseparate => by
    rw [isSeparate] at hseparate
    cases v with
    | array elements =>
      rw [violations, List.nodup_flatten, List.forall_mem_map, List.pairwise_map]
      refine ⟨fun p _ => nodup_allViolations _ rules p.1 hseparate, ?_⟩
      have hindices : elements.zipIdx.Pairwise fun p q => p.2 ≠ q.2 := by
        rw [← List.pairwise_map, List.zipIdx_map_snd]
        exact List.nodup_range'
      refine hindices.imp fun hne w hw hx => ?_
      exact ne_of_mem_allViolations (by simpa using hne) hw hx rfl
    | _ => simp [violations]

theorem nodup_allViolations (path : Path) : ∀ (rules : List Rule) (v : Json),
    allSeparate rules = true → (allViolations path rules v).Nodup
  | [], v, _ => by simp [allViolations]
  | r :: rest, v, hseparate => by
    rw [allSeparate, Bool.and_eq_true, Bool.and_eq_true, decide_eq_true_iff] at hseparate
    obtain ⟨⟨hr, hnew⟩, hrest⟩ := hseparate
    rw [allViolations, List.nodup_append']
    refine ⟨nodup_violations path r v hr, nodup_allViolations path rest v hrest, ?_⟩
    intro w hw hother
    obtain ⟨s, hs, hbreaks⟩ := (mem_allViolations_iff path rest v w).1 hother
    refine hnew (List.mem_map.2 ⟨s, hs, ?_⟩)
    rw [← hbreaks.aspectOf_eq, ((mem_violations_iff path r v w).1 hw).aspectOf_eq]

theorem nodup_fieldViolations (path : Path) (members : List (String × Json)) :
    ∀ fieldRules : List (String × List Rule), fieldsSeparate fieldRules = true →
      (fieldViolations path members fieldRules).Nodup
  | [], _ => by simp [fieldViolations]
  | (n, rules) :: rest, hseparate => by
    rw [fieldsSeparate, Bool.and_eq_true, Bool.and_eq_true, decide_eq_true_iff] at hseparate
    obtain ⟨⟨hrules, hnew⟩, hrest⟩ := hseparate
    rw [fieldViolations, List.nodup_append']
    refine ⟨?_, nodup_fieldViolations path members rest hrest, ?_⟩
    · cases Json.field? members n with
      | none => exact List.nodup_nil
      | some v => exact nodup_allViolations _ rules v hrules
    · intro w hw hother
      obtain ⟨m, others, u, r, hmem, -, hrule, hbreaks⟩ :=
        (mem_fieldViolations_iff path members rest w).1 hother
      have hne : (PathStep.field n) ≠ .field m := by
        rintro ⟨⟩
        exact hnew (List.mem_map.2 ⟨_, hmem, rfl⟩)
      cases hfield : Json.field? members n with
      | none =>
        rw [hfield] at hw
        cases hw
      | some v =>
        rw [hfield] at hw
        exact ne_of_mem_allViolations hne hw
          ((mem_allViolations_iff _ others u w).2 ⟨r, hrule, hbreaks⟩) rfl

end

end Rule

/-- The schemas of the documents of a node are separate. -/
theorem Schema.allSeparate_of_mem_catalogue {s : Schema} (hs : s ∈ Schema.catalogue) :
    Rule.allSeparate s.rules = true := by
  revert s
  decide

end TezosNode
