import Mathlib.Data.List.Basic
import TezosNode.Schema.Catalogue

set_option autoImplicit false

/-!
# Schema: the order of places

Places are compared step by step up to the first two steps that differ.  Of these the order of
steps knows every two, but an index and a name are nothing that one would compare.  It does not
come to this for places in one value: where they part there is an array, and both go on by an
index, or an object, and both go on by a name.
-/

namespace TezosNode

/-! ## Steps -/

namespace PathStep

/-- An index before a greater one, and a name before a later one by its code points. -/
inductive Before : PathStep → PathStep → Prop
  | index {m n : Nat} (h : m < n) : Before (.index m) (.index n)
  | field {a b : String} (h : a < b) : Before (.field a) (.field b)

/-- Whether a step comes before another; there is no answer for an index and a name. -/
def lt? : PathStep → PathStep → Option Bool
  | .index m, .index n => some (lt (.index m) (.index n))
  | .field a, .field b => some (lt (.field a) (.field b))
  | _, _ => none

theorem lt_index_iff (m n : Nat) : lt (.index m) (.index n) = true ↔ m < n := decide_eq_true_iff

theorem lt_field_iff (a b : String) : lt (.field a) (.field b) = true ↔ a < b := decide_eq_true_iff

theorem before_of_lt? {a b : PathStep} (h : lt? a b = some true) : Before a b := by
  cases a with
  | index m =>
    cases b with
    | index n => exact .index ((lt_index_iff m n).1 (Option.some.inj h))
    | field _ => cases h
  | field m =>
    cases b with
    | index _ => cases h
    | field n => exact .field ((lt_field_iff m n).1 (Option.some.inj h))

theorem lt_irrefl (a : PathStep) : a.lt a = false := by
  rw [← Bool.not_eq_true]
  cases a with
  | index n =>
    rw [lt_index_iff]
    exact Nat.lt_irrefl n
  | field name =>
    rw [lt_field_iff]
    exact String.lt_irrefl name

theorem lt_trans {a b c : PathStep} (hab : a.lt b = true) (hbc : b.lt c = true) :
    a.lt c = true := by
  match a, b, c with
  | .index m, .index n, .index k =>
    rw [lt_index_iff] at *
    exact Nat.lt_trans hab hbc
  | .field m, .field n, .field k =>
    rw [lt_field_iff] at *
    exact String.lt_trans hab hbc
  | .index _, _, .field _ => rfl
  | .field _, .index _, _ => cases hab
  | _, .field _, .index _ => cases hbc

theorem eq_of_not_lt {a b : PathStep} (hab : a.lt b = false) (hba : b.lt a = false) : a = b := by
  rw [← Bool.not_eq_true] at hab hba
  match a, b with
  | .index m, .index n =>
    rw [lt_index_iff, Nat.not_lt] at hab hba
    rw [Nat.le_antisymm hba hab]
  | .field m, .field n =>
    rw [lt_field_iff, String.not_lt] at hab hba
    rw [String.le_antisymm hba hab]
  | .index _, .field _ => exact absurd rfl hab
  | .field _, .index _ => exact absurd rfl hba

end PathStep

/-! ## Places -/

namespace Path

theorem le_cons_cons_iff (a b : PathStep) (p q : Path) :
    le (a :: p) (b :: q) = true ↔ a.lt b = true ∨ a = b ∧ le p q = true := by
  rw [le, Bool.or_eq_true, Bool.and_eq_true, Bool.not_eq_true']
  constructor
  · rintro (hlt | ⟨hge, hle⟩)
    · exact .inl hlt
    · cases hlt : a.lt b with
      | true => exact .inl rfl
      | false => exact .inr ⟨PathStep.eq_of_not_lt hlt hge, hle⟩
  · rintro (hlt | ⟨rfl, hle⟩)
    · exact .inl hlt
    · exact .inr ⟨a.lt_irrefl, hle⟩

theorem le_refl (p : Path) : le p p = true := by
  induction p with
  | nil => rfl
  | cons a p ih => exact (le_cons_cons_iff a a p p).2 (.inr ⟨rfl, ih⟩)

theorem le_trans {p q r : Path} (hpq : le p q = true) (hqr : le q r = true) : le p r = true := by
  induction p generalizing q r with
  | nil => rfl
  | cons a p ih =>
    match q, r with
    | [], _ => cases hpq
    | _ :: _, [] => cases hqr
    | b :: q, c :: r =>
      rw [le_cons_cons_iff] at *
      rcases hpq with hab | ⟨rfl, hpq⟩
      · rcases hqr with hbc | ⟨rfl, -⟩
        · exact .inl (PathStep.lt_trans hab hbc)
        · exact .inl hab
      · rcases hqr with hbc | ⟨rfl, hqr⟩
        · exact .inl hbc
        · exact .inr ⟨rfl, ih hpq hqr⟩

theorem le_total (p q : Path) : le p q = true ∨ le q p = true := by
  induction p generalizing q with
  | nil => exact .inl rfl
  | cons a p ih =>
    cases q with
    | nil => exact .inr rfl
    | cons b q =>
      rw [le_cons_cons_iff, le_cons_cons_iff]
      cases hab : a.lt b with
      | true => exact .inl (.inl rfl)
      | false =>
        cases hba : b.lt a with
        | true => exact .inr (.inl rfl)
        | false =>
          obtain rfl := PathStep.eq_of_not_lt hab hba
          exact (ih q).imp (fun h => .inr ⟨rfl, h⟩) (fun h => .inr ⟨rfl, h⟩)

/-- Whether a place is another or comes before it; there is no answer if an index is to be
compared with a name. -/
def le? : Path → Path → Option Bool
  | [], _ => some true
  | _ :: _, [] => some false
  | a :: p, b :: q => if a = b then le? p q else a.lt? b

/-- Places that come in order are the same, or their first steps that differ do. -/
theorem lex_of_le? {p q : Path} (h : le? p q = some true) :
    p = q ∨ List.Lex PathStep.Before p q := by
  induction p generalizing q with
  | nil =>
    cases q with
    | nil => exact .inl rfl
    | cons b q => exact .inr .nil
  | cons a p ih =>
    cases q with
    | nil => cases h
    | cons b q =>
      rw [le?] at h
      split at h
      case isTrue heq =>
        subst heq
        exact (ih h).imp (congrArg _) .cons
      case isFalse => exact .inr (.rel (PathStep.before_of_lt? h))

end Path

/-! ## Places in a value -/

/-- The part of a value that a step leads to. -/
def Json.child? : Json → PathStep → Option Json
  | .array elements, .index n => elements[n]?
  | .object members, .field n => field? members n
  | _, _ => none

/-- The part of a value at a place. -/
def Json.at? (v : Json) (p : Path) : Option Json := p.foldlM Json.child? v

theorem Json.isSome_at?_cons {v : Json} {a : PathStep} {p : Path}
    (h : (v.at? (a :: p)).isSome = true) : ∃ u, v.child? a = some u ∧ (u.at? p).isSome = true := by
  rw [at?, List.foldlM_cons] at h
  cases hchild : v.child? a with
  | none =>
    rw [hchild] at h
    cases h
  | some u =>
    rw [hchild] at h
    exact ⟨u, rfl, h⟩

/-- The steps that lead on from one value can be compared. -/
theorem PathStep.lt?_eq_some_lt {v u w : Json} {a b : PathStep} (ha : v.child? a = some u)
    (hb : v.child? b = some w) : a.lt? b = some (a.lt b) := by
  cases v with
  | array elements =>
    cases a with
    | index m =>
      cases b with
      | index n => rfl
      | field _ => cases hb
    | field _ => cases ha
  | object members =>
    cases a with
    | index _ => cases ha
    | field m =>
      cases b with
      | index _ => cases hb
      | field n => rfl
  | _ => cases ha

/-- Places in one value can be compared. -/
theorem Path.le?_eq_some_le {v : Json} {p q : Path} (hp : (v.at? p).isSome = true)
    (hq : (v.at? q).isSome = true) : p.le? q = some (p.le q) := by
  induction p generalizing v q with
  | nil => rfl
  | cons a p ih =>
    cases q with
    | nil => rfl
    | cons b q =>
      obtain ⟨u, hu, hp⟩ := Json.isSome_at?_cons hp
      obtain ⟨w, hw, hq⟩ := Json.isSome_at?_cons hq
      rw [le?]
      split
      case isTrue heq =>
        subst heq
        obtain rfl := Option.some.inj (hu.symm.trans hw)
        rw [ih hp hq, le, a.lt_irrefl]
        rfl
      case isFalse hne =>
        rw [PathStep.lt?_eq_some_lt hu hw, le]
        cases hab : a.lt b with
        | true => rfl
        | false =>
          cases hba : b.lt a with
          | true => rfl
          | false => exact absurd (PathStep.eq_of_not_lt hab hba) hne

end TezosNode
