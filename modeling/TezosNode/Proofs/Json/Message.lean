import TezosNode.Json.Literal
import TezosNode.Json.Parser
import TezosNode.Proofs.Text.ControlSequence

set_option autoImplicit false

/-!
# JSON: messages without escape characters

A value is shown in messages with its strings and names quoted, and a fault of a document is
worded by places and numbers.  So neither has an escape character, whatever the document
holds.  A text that is taken from a document as it is can have one, even if the octets of the
document have none.
-/

namespace TezosNode

open Text (escapeCharacter IsEscapeFree)

/-! ## Doubles -/

namespace Binary64

theorem escape_notMem_shortest (m : Nat) (e : Int) :
    escapeCharacter ∉ (shortest m e).digits := by
  unfold shortest
  dsimp only
  rw [List.mem_reverse]
  intro hmem
  exact Text.escape_notMem_toDigits _ (List.mem_reverse.1 ((List.dropWhile_sublist _).mem hmem))

theorem escape_notMem_plainText {d : Digits} (hd : escapeCharacter ∉ d.digits) :
    escapeCharacter ∉ plainText d := by
  have hzeros : ∀ n, escapeCharacter ∉ List.replicate n '0' := by
    intro n hmem
    exact absurd (List.eq_of_mem_replicate hmem) (by decide)
  unfold plainText
  split
  · rw [List.cons_append, List.cons_append, List.mem_cons, List.mem_cons, List.mem_append]
    rintro (hmem | hmem | hmem | hmem)
    · exact absurd hmem (by decide)
    · exact absurd hmem (by decide)
    · exact hzeros _ hmem
    · exact hd hmem
  · dsimp only
    generalize hpadded : d.digits ++ List.replicate _ '0' = padded
    have hnone : escapeCharacter ∉ padded := by
      rw [← hpadded, List.mem_append, not_or]
      exact ⟨hd, hzeros _⟩
    rw [List.mem_append, List.mem_cons]
    rintro (hmem | hmem | hmem)
    · exact hnone (List.mem_of_mem_take hmem)
    · exact absurd hmem (by decide)
    · split at hmem
      · exact absurd hmem (by decide)
      · exact hnone (List.mem_of_mem_drop hmem)

theorem escape_notMem_exponentText (width : Nat) (power : Int) :
    escapeCharacter ∉ exponentText width power := by
  unfold exponentText
  dsimp only
  rw [List.cons_append, List.mem_cons, List.mem_append]
  rintro (hmem | hmem | hmem)
  · split at hmem
    · exact absurd hmem (by decide)
    · exact absurd hmem (by decide)
  · exact absurd (List.eq_of_mem_replicate hmem) (by decide)
  · exact Text.escape_notMem_toDigits _ hmem

theorem escape_notMem_scientificText (layout : Layout) {d : Digits}
    (hd : escapeCharacter ∉ d.digits) : escapeCharacter ∉ scientificText layout d := by
  unfold scientificText
  rw [List.mem_append, List.mem_cons]
  rintro (hmem | hmem | hmem)
  · split at hmem
    · rename_i first rest hdigits
      rw [hdigits, List.mem_cons, not_or] at hd
      split at hmem
      · exact hd.1 (List.mem_singleton.1 hmem)
      · rw [List.mem_cons, List.mem_cons] at hmem
        rcases hmem with hmem | hmem | hmem
        · exact hd.1 hmem
        · exact absurd hmem (by decide)
        · exact hd.2 hmem
    · exact List.not_mem_nil hmem
  · exact absurd hmem (by decide)
  · exact escape_notMem_exponentText _ _ hmem

/-- Doubles are written with digits, a few marks and the words of their layout. -/
theorem escape_notMem_render {layout : Layout} (hnan : IsEscapeFree layout.nan)
    (hinfinity : IsEscapeFree layout.infinity) (x : Binary64) :
    escapeCharacter ∉ x.render layout := by
  have hsign : ∀ negative : Bool, escapeCharacter ∉ if negative then ['-'] else [] := by decide
  cases x with
  | nan => exact hnan
  | infinite negative =>
    unfold render
    rw [List.mem_append, not_or]
    exact ⟨hsign negative, hinfinity⟩
  | finite negative m e =>
    unfold render
    dsimp only
    have hdigits :
        escapeCharacter ∉ (if m = 0 then ⟨['0'], 0⟩ else shortest m e : Digits).digits := by
      split
      · decide
      · exact escape_notMem_shortest m e
    generalize (if m = 0 then ⟨['0'], 0⟩ else shortest m e : Digits) = d at hdigits ⊢
    rw [List.mem_append, not_or]
    refine ⟨hsign negative, ?_⟩
    split
    · exact escape_notMem_plainText hdigits
    · exact escape_notMem_scientificText layout hdigits

end Binary64

/-! ## Values -/

namespace Json

mutual

/-- Values are shown without escape characters. -/
theorem escape_notMem_literal : ∀ v : Json, escapeCharacter ∉ literal v
  | .null => by unfold literal; decide
  | .bool true => by unfold literal; decide
  | .bool false => by unfold literal; decide
  | .integer n => by
    unfold literal
    exact Text.isEscapeFree_int n
  | .double x => by
    unfold literal
    exact Binary64.escape_notMem_render (by decide) (by decide) x
  | .string s => by
    unfold literal
    exact Text.Quoted.escape_notMem_render s.toList
  | .array items => by
    unfold literal
    rw [List.cons_append, List.mem_cons, List.mem_append, List.mem_singleton]
    rintro (hmem | hmem | hmem)
    · exact absurd hmem (by decide)
    · exact escape_notMem_literalItems items hmem
    · exact absurd hmem (by decide)
  | .object fields => by
    unfold literal
    rw [List.cons_append, List.mem_cons, List.mem_append, List.mem_singleton]
    rintro (hmem | hmem | hmem)
    · exact absurd hmem (by decide)
    · exact escape_notMem_literalFields fields hmem
    · exact absurd hmem (by decide)

theorem escape_notMem_literalItems : ∀ items : List Json, escapeCharacter ∉ literalItems items
  | [] => by unfold literalItems; decide
  | [v] => by
    unfold literalItems
    exact escape_notMem_literal v
  | v :: w :: rest => by
    unfold literalItems
    rw [List.mem_append, List.mem_cons, List.mem_cons]
    rintro (hmem | hmem | hmem | hmem)
    · exact escape_notMem_literal v hmem
    · exact absurd hmem (by decide)
    · exact absurd hmem (by decide)
    · exact escape_notMem_literalItems (w :: rest) hmem

theorem escape_notMem_literalFields :
    ∀ fields : List (String × Json), escapeCharacter ∉ literalFields fields
  | [] => by unfold literalFields; decide
  | [(n, v)] => by
    unfold literalFields
    rw [List.mem_append, List.mem_cons, List.mem_cons]
    rintro (hmem | hmem | hmem | hmem)
    · exact Text.Quoted.escape_notMem_render n.toList hmem
    · exact absurd hmem (by decide)
    · exact absurd hmem (by decide)
    · exact escape_notMem_literal v hmem
  | (n, v) :: f :: rest => by
    unfold literalFields
    rw [List.append_assoc, List.mem_append, List.cons_append, List.cons_append, List.mem_cons,
      List.mem_cons, List.mem_append, List.mem_cons, List.mem_cons]
    rintro (hmem | hmem | hmem | hmem | hmem | hmem | hmem)
    · exact Text.Quoted.escape_notMem_render n.toList hmem
    · exact absurd hmem (by decide)
    · exact absurd hmem (by decide)
    · exact escape_notMem_literal v hmem
    · exact absurd hmem (by decide)
    · exact absurd hmem (by decide)
    · exact escape_notMem_literalFields (f :: rest) hmem

end

theorem isEscapeFree_shown (v : Json) : IsEscapeFree v.shown :=
  Text.isEscapeFree_ofList (escape_notMem_literal v)

end Json

/-! ## Characters of documents -/

/-- A value has a character in a text or in a name, however it was written there. -/
inductive Json.Holds (c : Char) : Json → Prop
  | text {s : String} (hmem : c ∈ s.toList) : Holds c (.string s)
  | element {items : List Json} {v : Json} (hmem : v ∈ items) (h : Holds c v) :
      Holds c (.array items)
  | name {fields : List (String × Json)} {n : String} {v : Json} (hmem : (n, v) ∈ fields)
      (hname : c ∈ n.toList) : Holds c (.object fields)
  | member {fields : List (String × Json)} {n : String} {v : Json} (hmem : (n, v) ∈ fields)
      (h : Holds c v) : Holds c (.object fields)

/-- What a field of a value has, the value has. -/
theorem Json.Holds.of_get? {c : Char} {v w : Json} {name : String} (hget : v.get? name = some w)
    (h : w.Holds c) : v.Holds c := by
  cases v with
  | object fields =>
    obtain ⟨⟨n, w'⟩, hfind, rfl⟩ := Option.map_eq_some_iff.1 hget
    exact .member (List.mem_of_find?_eq_some hfind) h
  | _ => cases hget

/-! ## Faults of documents -/

theorem Text.DecodeFault.isEscapeFree_message (fault : Text.DecodeFault) :
    IsEscapeFree fault.message := by
  have hencoding : IsEscapeFree fault.encoding.name := by
    cases fault.encoding with
    | utf8 => decide
    | utf16 order => cases order <;> decide
    | utf32 order => cases order <;> decide
  have hproblem : IsEscapeFree fault.problem.message := by
    cases fault.problem with
    | illFormed reason => cases reason <;> decide
    | truncated => decide
    | outOfRange => decide
  have hpart : IsEscapeFree
      (if fault.size = 1 then
        "byte 0x" ++ String.ofList (Text.hexDigits 2 fault.first.toNat) ++ " in position "
          ++ toString fault.start
      else
        "bytes in position " ++ toString fault.start ++ "-"
          ++ toString (fault.start + fault.size - 1)) := by
    split
    · refine .append (.append (.append (by decide) ?_) (by decide)) (Text.isEscapeFree_nat _)
      exact Text.isEscapeFree_ofList (Text.escape_notMem_hexDigits 2 _)
    · exact .append (.append (.append (by decide) (Text.isEscapeFree_nat _)) (by decide))
        (Text.isEscapeFree_nat _)
  exact .append (.append (.append (.append (.append (by decide) hencoding) (by decide)) hpart)
    (by decide)) hproblem

theorem Json.Fault.isEscapeFree_message (fault : Json.Fault) : IsEscapeFree fault.message := by
  cases fault with
  | undecodable fault => exact fault.isEscapeFree_message
  | malformed problem offset line column =>
    have hproblem : IsEscapeFree problem.message := by cases problem <;> decide
    exact .append (.append (.append (.append (.append (.append (.append hproblem (by decide))
      (Text.isEscapeFree_nat line)) (by decide)) (Text.isEscapeFree_nat column)) (by decide))
      (Text.isEscapeFree_nat offset)) (by decide)
  | longInteger digits =>
    exact .append (.append (.append (.append (by decide) (Text.isEscapeFree_nat _)) (by decide))
      (Text.isEscapeFree_nat digits)) (by decide)
  | tooDeep part => cases part <;> decide

end TezosNode
