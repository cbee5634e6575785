import TezosNode.Proofs.Schema.Shape

set_option autoImplicit false

/-!
# Schema: access to blocks

The accessors of a block look their fields up without a check of their own.  `Accessor.read` does so
in any document, and so can fail: at a value that has no fields, or where there is no hash.  The
schema of blocks is what makes them safe.  Of a document that it accepts, every accessor gives a
value of its kind, and null just where its field is left out.  A document that it refuses is one of
those of `Unfit`: an accessor gets into trouble with it, or it has a null that an accessor cannot
tell from a field that is left out.
-/

namespace TezosNode.Block

/-! ## Accessors -/

/-- The accessors of a block. -/
inductive Accessor where
  | hash
  | chainId
  | protocol
  | level
  | timestamp
  deriving DecidableEq, Repr, Inhabited

namespace Accessor

/-- The name of the field that an accessor gives. -/
def field : Accessor → String
  | .hash => "hash"
  | .chainId => "chain_id"
  | .protocol => "protocol"
  | .level => "level"
  | .timestamp => "timestamp"

/-- Whether the field is one of the header. -/
def inHeader : Accessor → Bool
  | .level | .timestamp => true
  | .hash | .chainId | .protocol => false

/-- Whether the field may be left out. -/
def isOptional : Accessor → Bool
  | .hash => false
  | .chainId | .protocol | .level | .timestamp => true

/-- What an accessor finds in a block. -/
def find? : Accessor → Block → Option Json
  | .hash => hash?
  | .chainId => chainId?
  | .protocol => protocol?
  | .level => level?
  | .timestamp => timestamp?

/-- Why an accessor fails. -/
inductive Fault where
  /-- only objects have fields -/
  | noObject (v : Json)
  /-- a field is missing that may not be left out -/
  | noField (name : String)
  deriving Repr, Inhabited

/-- A field of a value, if the value has it. -/
def lookup (v : Json) (name : String) : Except Fault (Option Json) :=
  match v with
  | .object fields => .ok (Json.field? fields name)
  | _ => .error (.noObject v)

/-- The value whose field an accessor gives: a document or its header.  Without a header it is an
empty object. -/
def owner (a : Accessor) (v : Json) : Except Fault Json :=
  if a.inHeader then (lookup v "header").map (·.getD (.object [])) else .ok v

/-- What an accessor makes of what it finds. -/
def given (a : Accessor) : Option Json → Except Fault Json
  | some w => .ok w
  | none => if a.isOptional then .ok .null else .error (.noField a.field)

/-- What an accessor gives of a document that nothing is known of. -/
def read (a : Accessor) (v : Json) : Except Fault Json := do
  let w ← a.owner v
  let found ← lookup w a.field
  a.given found

/-! ## Kinds of values -/

/-- Whether a value is of the kind of an accessor's field. -/
def Allows : Accessor → Json → Prop
  | .hash, w => ∃ s, s ≠ "" ∧ w = .string s
  | .level, w => w.IsInteger
  | .chainId, w | .protocol, w | .timestamp, w => ∃ s, w = .string s

/-- Whether an accessor may give a value: it is of the kind of the field, or null if the field can
be left out. -/
def Fits (a : Accessor) (w : Json) : Prop := a.Allows w ∨ a.isOptional = true ∧ w = .null

/-- Whether what an accessor finds is as it has to be. -/
def Admits (a : Accessor) : Option Json → Prop
  | some w => a.Allows w
  | none => a.isOptional = true

theorem not_allows_null (a : Accessor) : ¬a.Allows .null := by
  cases a with
  | level => nofun
  | hash => exact fun ⟨_, _, hnull⟩ => Json.noConfusion hnull
  | chainId | protocol | timestamp => exact fun ⟨_, hnull⟩ => Json.noConfusion hnull

/-- A field that may be left out is only looked at where it is there. -/
theorem admits_iff_of_isOptional {a : Accessor} (ha : a.isOptional = true) {found : Option Json} :
    a.Admits found ↔ ∀ w, found = some w → a.Allows w := by
  cases found with
  | some w => exact ⟨fun h _ hw => Option.some.inj hw ▸ h, fun h => h w rfl⟩
  | none => exact iff_of_true ha nofun

/-- An accessor that finds what it has to find gives a value that fits, and null only where it has
found nothing. -/
theorem given_of_admits {a : Accessor} {found : Option Json} (h : a.Admits found) :
    a.given found = .ok (found.getD .null) ∧ a.Fits (found.getD .null) ∧
      (found.getD .null = .null ↔ found = none) := by
  cases found with
  | some w =>
    have hw : a.Allows w := h
    refine ⟨rfl, .inl hw, iff_of_false ?_ (Option.some_ne_none w)⟩
    rintro rfl
    exact a.not_allows_null hw
  | none => exact ⟨if_pos h, .inr ⟨h, rfl⟩, iff_of_true rfl rfl⟩

/-- An accessor that gives a value that fits has found what it has to find, or a null, which looks
like a field that is left out. -/
theorem admits_or_null {a : Accessor} {found : Option Json} {w : Json}
    (hgiven : a.given found = .ok w) (hfits : a.Fits w) :
    a.Admits found ∨ found = some .null := by
  cases found with
  | none =>
    unfold given at hgiven
    by_cases hoptional : a.isOptional = true
    · exact .inl hoptional
    · rw [if_neg hoptional] at hgiven
      cases hgiven
  | some v =>
    obtain rfl : v = w := Except.ok.inj hgiven
    rcases hfits with hallows | ⟨-, rfl⟩
    · exact .inl hallows
    · exact .inr rfl

end Accessor

/-! ## Documents -/

/-- Whether the header among some fields is an object, if there is one. -/
def HeaderIsObject (fields : List (String × Json)) : Prop :=
  ∀ w, Json.field? fields "header" = some w → ∃ members, w = .object members

namespace Accessor

variable {fields : List (String × Json)}

/-- Whether an accessor's field is left out, be it with the header. -/
def IsLeftOut (a : Accessor) (fields : List (String × Json)) : Prop :=
  if a.inHeader then
    Json.field? fields "header" = none ∨
      ∃ members, Json.field? fields "header" = some (.object members) ∧
        Json.field? members a.field = none
  else Json.field? fields a.field = none

/-- What an accessor finds in the header. -/
theorem find?_of_header {a : Accessor} (ha : a.inHeader = true) :
    a.find? ⟨fields⟩ = (Json.field? fields "header").bind (·.get? a.field) := by
  cases a with
  | level | timestamp => rfl
  | hash | chainId | protocol => cases ha

/-- What an accessor finds outside the header. -/
theorem find?_of_document {a : Accessor} (ha : a.inHeader = false) :
    a.find? ⟨fields⟩ = Json.field? fields a.field := by
  cases a with
  | hash | chainId | protocol => rfl
  | level | timestamp => cases ha

/-- With a header that is an object, if there is one, an accessor gives what it finds. -/
theorem read_object (a : Accessor) (h : HeaderIsObject fields) :
    a.read (.object fields) = a.given (a.find? ⟨fields⟩) := by
  unfold read owner
  cases ha : a.inHeader with
  | false =>
    rw [find?_of_document ha]
    rfl
  | true =>
    rw [find?_of_header ha, if_pos rfl, lookup]
    cases hheader : Json.field? fields "header" with
    | none => rfl
    | some w =>
      obtain ⟨members, rfl⟩ := h w hheader
      rfl

/-- With such a header, an accessor finds nothing just where its field is left out. -/
theorem find?_eq_none_iff (a : Accessor) (h : HeaderIsObject fields) :
    a.find? ⟨fields⟩ = none ↔ a.IsLeftOut fields := by
  unfold IsLeftOut
  cases ha : a.inHeader with
  | false => rw [find?_of_document ha, if_neg Bool.false_ne_true]
  | true =>
    rw [find?_of_header ha, if_pos rfl]
    cases hheader : Json.field? fields "header" with
    | none => simp
    | some w =>
      obtain ⟨members, rfl⟩ := h w hheader
      simp [Json.get?]

end Accessor

/-- Fields are those of a block just where the header is an object, if there is one, and every
accessor finds what it has to find. -/
theorem isBlock_iff {fields : List (String × Json)} :
    Json.IsBlock fields ↔ HeaderIsObject fields ∧ ∀ a : Accessor, a.Admits (a.find? ⟨fields⟩) := by
  constructor
  · rintro ⟨⟨s, hs, hhash⟩, hchain, hprotocol, hheader⟩
    have hobject : HeaderIsObject fields := fun w hw => by
      obtain ⟨members, hmembers, -⟩ := hheader w hw
      exact ⟨members, hmembers⟩
    -- What is found in a header is a field of an object that is a header.
    have hfound : ∀ (name : String) (w : Json), headerField? ⟨fields⟩ name = some w →
        ∃ members, Json.IsHeader members ∧ Json.field? members name = some w := by
      intro name w hw
      obtain ⟨header, hfield, hget⟩ := Option.bind_eq_some_iff.1 hw
      obtain ⟨members, rfl, hmembers⟩ := hheader header hfield
      exact ⟨members, hmembers, hget⟩
    refine ⟨hobject, fun a => ?_⟩
    cases a with
    | hash =>
      change Accessor.hash.Admits (Json.field? fields "hash")
      rw [hhash]
      exact ⟨s, hs, rfl⟩
    | chainId => exact (Accessor.admits_iff_of_isOptional rfl).2 hchain
    | protocol => exact (Accessor.admits_iff_of_isOptional rfl).2 hprotocol
    | level =>
      refine (Accessor.admits_iff_of_isOptional rfl).2 fun w hw => ?_
      obtain ⟨members, hmembers, hlevel⟩ := hfound "level" w hw
      exact hmembers.level w hlevel
    | timestamp =>
      refine (Accessor.admits_iff_of_isOptional rfl).2 fun w hw => ?_
      obtain ⟨members, hmembers, htimestamp⟩ := hfound "timestamp" w hw
      exact hmembers.timestamp w htimestamp
  · rintro ⟨hobject, hadmits⟩
    have hhash : ∃ s, s ≠ "" ∧ Json.field? fields "hash" = some (.string s) := by
      have hadmitted : Accessor.hash.Admits (Json.field? fields "hash") := hadmits .hash
      cases hfield : Json.field? fields "hash" with
      | none =>
        rw [hfield] at hadmitted
        cases hadmitted
      | some w =>
        rw [hfield] at hadmitted
        obtain ⟨s, hs, rfl⟩ := hadmitted
        exact ⟨s, hs, rfl⟩
    refine ⟨hhash, (Accessor.admits_iff_of_isOptional rfl).1 (hadmits .chainId),
      (Accessor.admits_iff_of_isOptional rfl).1 (hadmits .protocol), fun v hv => ?_⟩
    obtain ⟨members, rfl⟩ := hobject v hv
    refine ⟨members, rfl, fun w hw => ?_, fun w hw => ?_⟩
    · refine (Accessor.admits_iff_of_isOptional rfl).1 (hadmits .level) w ?_
      exact Option.bind_eq_some_iff.2 ⟨_, hv, hw⟩
    · refine (Accessor.admits_iff_of_isOptional rfl).1 (hadmits .timestamp) w ?_
      exact Option.bind_eq_some_iff.2 ⟨_, hv, hw⟩

/-- What is wrong with a document that is no block. -/
inductive Unfit : Json → Prop
  /-- it is no object -/
  | noObject {v : Json} (hv : ∀ fields, v ≠ .object fields) : Unfit v
  /-- it has a header that is no object -/
  | header {fields : List (String × Json)} {w : Json}
      (hheader : Json.field? fields "header" = some w) (hw : ∀ members, w ≠ .object members) :
      Unfit (.object fields)
  /-- an accessor fails -/
  | failing {v : Json} {a : Accessor} {fault : Accessor.Fault} (hread : a.read v = .error fault) :
      Unfit v
  /-- an accessor gives a value that is of another kind -/
  | misfit {v : Json} {a : Accessor} {w : Json} (hread : a.read v = .ok w) (hw : ¬a.Fits w) :
      Unfit v
  /-- an accessor finds a null, as if a field were left out -/
  | null {fields : List (String × Json)} {a : Accessor} (hnull : a.find? ⟨fields⟩ = some .null) :
      Unfit (.object fields)

/-- What an accessor gives of a block. -/
theorem read_of_isBlock {fields : List (String × Json)} (h : Json.IsBlock fields) (a : Accessor) :
    a.read (.object fields) = .ok ((a.find? ⟨fields⟩).getD .null) ∧
      a.Fits ((a.find? ⟨fields⟩).getD .null) ∧
      ((a.find? ⟨fields⟩).getD .null = .null ↔ a.IsLeftOut fields) := by
  obtain ⟨hobject, hadmits⟩ := isBlock_iff.1 h
  obtain ⟨hgiven, hfits, hnull⟩ := Accessor.given_of_admits (hadmits a)
  rw [a.read_object hobject, ← a.find?_eq_none_iff hobject]
  exact ⟨hgiven, hfits, hnull⟩

/-- Nothing is wrong with a block. -/
theorem not_unfit_of_isBlock {fields : List (String × Json)} (h : Json.IsBlock fields) :
    ¬Unfit (.object fields) := by
  obtain ⟨hobject, hadmits⟩ := isBlock_iff.1 h
  intro hunfit
  cases hunfit with
  | noObject hv => exact hv fields rfl
  | header hheader hw =>
    obtain ⟨members, hmembers⟩ := hobject _ hheader
    exact hw members hmembers
  | @failing _ a fault hread =>
    rw [(read_of_isBlock h a).1] at hread
    cases hread
  | @misfit _ a w hread hw =>
    obtain ⟨hgiven, hfits, -⟩ := read_of_isBlock h a
    obtain rfl := Except.ok.inj (hgiven.symm.trans hread)
    exact hw hfits
  | @null _ a hnull =>
    have hadmitted := hadmits a
    rw [hnull] at hadmitted
    exact a.not_allows_null hadmitted

/-- What nothing is wrong with is a block. -/
theorem isBlock_of_not_unfit {v : Json} (h : ¬Unfit v) :
    ∃ fields, v = .object fields ∧ Json.IsBlock fields := by
  cases v with
  | object fields =>
    have hobject : HeaderIsObject fields := fun w hw =>
      Classical.byContradiction fun hnone =>
        h (.header hw fun members hmembers => hnone ⟨members, hmembers⟩)
    refine ⟨fields, rfl, isBlock_iff.2 ⟨hobject, fun a => ?_⟩⟩
    cases hread : a.read (.object fields) with
    | error fault => exact absurd (.failing hread) h
    | ok w =>
      have hfits : a.Fits w := Classical.byContradiction fun hw => h (.misfit hread hw)
      rw [a.read_object hobject] at hread
      rcases Accessor.admits_or_null hread hfits with hadmits | hnull
      · exact hadmits
      · exact absurd (.null hnull) h
  | _ => exact absurd (.noObject nofun) h

/-- A document is refused just where something is wrong with it. -/
theorem exists_rejection_iff (v : Json) : (∃ r, ofJson v = .error r) ↔ Unfit v := by
  constructor
  · rintro ⟨r, hr⟩
    refine Classical.byContradiction fun hfit => ?_
    obtain ⟨fields, rfl, hfields⟩ := isBlock_of_not_unfit hfit
    have hread : ofJson (.object fields) = .ok ⟨fields⟩ := ofJson_eq_ok_iff.2 ⟨rfl, hfields⟩
    rw [hread] at hr
    cases hr
  · intro hunfit
    cases hread : ofJson v with
    | error r => exact ⟨r, rfl⟩
    | ok b =>
      obtain ⟨rfl, hfields⟩ := ofJson_eq_ok_iff.1 hread
      exact absurd hunfit (not_unfit_of_isBlock hfields)

/-- A block whose chain is null is refused, although it has no header and every accessor gives a
value that fits. -/
theorem refused_of_null_chain :
    let v : Json := .object [("hash", .string "B"), ("chain_id", .null)]
    (∃ r, ofJson v = .error r) ∧ v.get? "header" = none ∧
      ∀ a : Accessor, ∃ w, a.read v = .ok w ∧ a.Fits w := by
  intro v
  have hnull : Accessor.chainId.find? ⟨[("hash", .string "B"), ("chain_id", .null)]⟩ = some .null :=
    rfl
  refine ⟨(exists_rejection_iff v).2 (.null hnull), rfl, fun a => ?_⟩
  cases a with
  | hash => exact ⟨.string "B", rfl, .inl ⟨"B", by decide, rfl⟩⟩
  | chainId | protocol | level | timestamp => exact ⟨.null, rfl, .inr ⟨rfl, rfl⟩⟩

end TezosNode.Block
