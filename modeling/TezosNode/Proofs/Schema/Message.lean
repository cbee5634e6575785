import TezosNode.Proofs.Json.Message
import TezosNode.Schema.Catalogue

set_option autoImplicit false

/-!
# Schema: messages without escape characters

A rejection names the places of its violations and shows the values there.  Places are made
of indices and of names that the schema itself has, never of names in the value, so that a
rejection by any schema of the catalogue is worded without escape characters.
-/

namespace TezosNode

open Text (escapeCharacter IsEscapeFree)

/-! ## Places -/

namespace Rule

mutual

/-- The names of the fields that a rule leads to. -/
def fieldNames : Rule → List String
  | .fields rules => namesOfFields rules
  | .items rules => namesOfAll rules
  | .kind _ | .required _ | .nonEmpty _ => []

/-- The names of the fields that a list of rules leads to. -/
def namesOfAll : List Rule → List String
  | [] => []
  | r :: rest => fieldNames r ++ namesOfAll rest

/-- The names of fields and of those inside them. -/
def namesOfFields : List (String × List Rule) → List String
  | [] => []
  | (n, rules) :: rest => n :: namesOfAll rules ++ namesOfFields rest

end

/-- A place inside another one, reached by indices and some names. -/
def Within (path : Path) (names : List String) (inner : Path) : Prop :=
  ∀ step ∈ inner, step ∈ path ∨ (∃ n, step = .index n) ∨ ∃ name ∈ names, step = .field name

theorem Within.refl (path : Path) (names : List String) : Within path names path :=
  fun _ hmem => .inl hmem

theorem Within.mono {path inner : Path} {names more : List String} (h : Within path names inner)
    (hsub : ∀ n ∈ names, n ∈ more) : Within path more inner := by
  intro step hmem
  rcases h step hmem with hpath | hindex | ⟨name, hname, rfl⟩
  · exact .inl hpath
  · exact .inr (.inl hindex)
  · exact .inr (.inr ⟨name, hsub name hname, rfl⟩)

/-- A step by an index adds no name. -/
theorem Within.of_index {path inner : Path} {names : List String} {n : Nat}
    (h : Within (path ++ [.index n]) names inner) : Within path names inner := by
  intro step hmem
  rcases h step hmem with hpath | hrest
  · rcases List.mem_append.1 hpath with hpath | hlast
    · exact .inl hpath
    · exact .inr (.inl ⟨n, List.mem_singleton.1 hlast⟩)
  · exact .inr hrest

/-- A step to a field adds its name. -/
theorem Within.of_field {path inner : Path} {names : List String} {name : String}
    (h : Within (path ++ [.field name]) names inner) : Within path (name :: names) inner := by
  intro step hmem
  rcases h step hmem with hpath | hindex | ⟨other, hother, rfl⟩
  · rcases List.mem_append.1 hpath with hpath | hlast
    · exact .inl hpath
    · exact .inr (.inr ⟨name, List.mem_cons_self, List.mem_singleton.1 hlast⟩)
  · exact .inr (.inl hindex)
  · exact .inr (.inr ⟨other, List.mem_cons_of_mem name hother, rfl⟩)

mutual

/-- A breach of a rule is found at a place that the rule leads to. -/
theorem within_of_violations (path : Path) : ∀ (r : Rule) (v : Json),
    ∀ violation ∈ violations path r v, Within path (fieldNames r) violation.path
  | .kind k, v => by
    intro violation hmem
    unfold violations at hmem
    split at hmem
    · cases hmem
    · rw [List.mem_singleton.1 hmem]
      exact .refl path _
  | .required names, v => by
    intro violation hmem
    unfold violations at hmem
    obtain ⟨name, _, rfl⟩ := List.mem_map.1 hmem
    exact .refl path _
  | .nonEmpty k, v => by
    intro violation hmem
    unfold violations at hmem
    split at hmem
    · rw [List.mem_singleton.1 hmem]
      exact .refl path _
    · cases hmem
  | .fields rules, v => by
    intro violation hmem
    cases v with
    | object members =>
      unfold violations at hmem
      unfold fieldNames
      exact within_of_fieldViolations path members rules violation hmem
    | _ => simp [violations] at hmem
  | .items rules, v => by
    intro violation hmem
    cases v with
    -- An element is reached by its index, which is no name.
    | array elements =>
      unfold violations at hmem
      obtain ⟨found, hfound, hviolation⟩ := List.mem_flatten.1 hmem
      obtain ⟨⟨w, n⟩, _, rfl⟩ := List.mem_map.1 hfound
      unfold fieldNames
      exact (within_of_allViolations (path ++ [.index n]) rules w violation hviolation).of_index
    | _ => simp [violations] at hmem

theorem within_of_allViolations (path : Path) : ∀ (rules : List Rule) (v : Json),
    ∀ violation ∈ allViolations path rules v, Within path (namesOfAll rules) violation.path
  | [], v => by
    intro violation hmem
    simp [allViolations] at hmem
  | r :: rest, v => by
    intro violation hmem
    unfold allViolations at hmem
    unfold namesOfAll
    rcases List.mem_append.1 hmem with hmem | hmem
    · exact (within_of_violations path r v violation hmem).mono fun _ => List.mem_append_left _
    · exact (within_of_allViolations path rest v violation hmem).mono
        fun _ => List.mem_append_right _

theorem within_of_fieldViolations (path : Path) (members : List (String × Json)) :
    ∀ rules : List (String × List Rule), ∀ violation ∈ fieldViolations path members rules,
      Within path (namesOfFields rules) violation.path
  | [] => by
    intro violation hmem
    simp [fieldViolations] at hmem
  | (n, rules) :: rest => by
    intro violation hmem
    unfold fieldViolations at hmem
    unfold namesOfFields
    rcases List.mem_append.1 hmem with hmem | hmem
    · cases hfield : Json.field? members n with
      | none =>
        rw [hfield] at hmem
        cases hmem
      | some v =>
        rw [hfield] at hmem
        exact (within_of_allViolations (path ++ [.field n]) rules v violation hmem).of_field.mono
          fun _ => List.mem_append_left _
    · exact (within_of_fieldViolations path members rest violation hmem).mono
        fun _ => List.mem_append_right _

end

end Rule

/-! ## Messages -/

/-- A place is worded without escape characters if its names are. -/
theorem Path.isEscapeFree_text {p : Path} {names : List String} (hwithin : Rule.Within [] names p)
    (hnames : ∀ n ∈ names, IsEscapeFree n) : IsEscapeFree p.text := by
  have hjoined : IsEscapeFree ("/".intercalate (p.map PathStep.text)) := by
    refine .intercalate (by decide) ?_
    intro s hmem
    obtain ⟨step, hstep, rfl⟩ := List.mem_map.1 hmem
    rcases hwithin step hstep with hnone | ⟨n, rfl⟩ | ⟨name, hname, rfl⟩
    · cases hnone
    · exact Text.isEscapeFree_nat n
    · exact hnames name hname
  unfold Path.text
  dsimp only
  split
  · decide
  · exact hjoined

theorem Breach.isEscapeFree_message (b : Breach) : IsEscapeFree b.message := by
  cases b with
  | wrongKind value k =>
    have hkind : IsEscapeFree k.name := by cases k <;> decide
    exact .append (.append (.append (Json.isEscapeFree_shown value) (by decide)) hkind) (by decide)
  | missing name => exact .append (Text.Quoted.isEscapeFree_quote name) (by decide)
  | empty value => exact .append (Json.isEscapeFree_shown value) (by decide)

namespace Schema

/-- A schema whose own texts have no escape characters words its rejections without them,
whatever the value is. -/
theorem isEscapeFree_of_validate {s : Schema} (hname : IsEscapeFree s.name)
    (hnames : ∀ n ∈ Rule.namesOfAll s.rules, IsEscapeFree n) {v : Json} {rejection : Rejection}
    (hreject : s.validate v = .error rejection) : IsEscapeFree rejection.message := by
  have hperm := List.mergeSort_perm (s.violations v) fun a b => a.path.le b.path
  unfold validate at hreject
  split at hreject
  · cases hreject
  · obtain rfl := Except.error.inj hreject
    refine .append (.append (.append (by decide) hname) (by decide)) (.intercalate (by decide) ?_)
    intro message hmem
    obtain ⟨violation, hviolation, rfl⟩ := List.mem_map.1 hmem
    have hwithin := Rule.within_of_allViolations [] s.rules v violation
      (hperm.mem_iff.1 hviolation)
    exact .append (.append (Path.isEscapeFree_text hwithin hnames) (by decide))
      violation.breach.isEscapeFree_message

/-- All schemas of the catalogue have such texts. -/
theorem isEscapeFree_of_mem_catalogue :
    ∀ s ∈ catalogue, IsEscapeFree s.name ∧ ∀ n ∈ Rule.namesOfAll s.rules, IsEscapeFree n := by
  decide

end Schema

end TezosNode
