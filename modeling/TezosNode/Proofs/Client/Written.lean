import TezosNode.Proofs.Client.Integer
import TezosNode.Proofs.Client.Lenient
import TezosNode.Proofs.Json.Writing

set_option autoImplicit false

/-!
# Client: integers as they are written

The same integer may come as a number or as a string, and as the first element of a list
among the constants.  It is returned as it was written, whatever its size, as long as its
numeral has no more digits than a numeral may have.
-/

namespace TezosNode

/-! ## Bodies -/

namespace Endpoint

variable {document : Document} {form : Json.IntegerForm} {n : Int} {body : Bytes}

/-- An integer of few digits is what its body reads as. -/
theorem integerOf_of_isWritten (hbody : Json.IsWritten form n body)
    (hfew : Numeral.size n ≤ Numeral.maxDigits) : integerOf document body = .ok n := by
  have hdecode : Json.decode body = .ok (form.value n) := by
    rw [Json.decode_of_isWritten hbody, if_neg fun hlong => Nat.not_lt.2 hfew hlong.2]
  exact integerOf_of_toInteger hdecode (Json.toInteger_value_of_le form n hfew)

/-- An integer of too many digits is not the document asked for. -/
theorem integerOf_of_isWritten_of_lt (hbody : Json.IsWritten form n body)
    (hmany : Numeral.maxDigits < Numeral.size n) :
    ∃ mismatch, integerOf document body = .error (.undecodable document mismatch body) := by
  have hdecode := Json.decode_of_isWritten hbody
  have hinteger := Json.toInteger_value form n
  cases form with
  | number =>
    rw [if_pos ⟨rfl, hmany⟩] at hdecode
    exact ⟨_, integerOf_of_decode_error (Json.tooDeep?_of_isWritten hbody) hdecode⟩
  | string =>
    rw [if_neg (by simp)] at hdecode
    rw [if_pos ⟨rfl, hmany⟩] at hinteger
    exact ⟨_, integerOf_of_toInteger_error hdecode hinteger (by simp)⟩

end Endpoint

/-- A body that is an integer is no error payload. -/
theorem Response.isSuccess_of_isWritten {form : Json.IntegerForm} {n : Int} {response : Response}
    (hstatus : response.status = 200) (hwhole : response.broken = none)
    (hbody : Json.IsWritten form n response.content) (strict : Bool) :
    response.isSuccess strict = true := by
  rw [Response.isSuccess_iff hwhole, hstatus]
  have hclass : ErrorPayload.classify strict response.content = .ok none := by
    cases strict with
    | false =>
      obtain ⟨before, after, hbefore, hafter, htext⟩ := hbody
      refine ErrorPayload.classifyLenient_of_not_mark
        (ErrorPayload.not_mark_of_forall htext fun c hmem => ?_)
      exact Nat.lt_trans (Json.bounds_of_mem_text hbefore hafter hmem).2 (by decide)
    | true =>
      refine congrArg Except.ok (Option.eq_none_iff_forall_ne_some.2 fun records hfound => ?_)
      obtain ⟨items, hcarries, -⟩ := (ErrorPayload.classifyStrict_eq_some_iff _ records).1 hfound
      exact Json.decode_ne_array_of_isWritten hbody items hcarries.decode_eq
  have hroom := ErrorPayload.tooDeep?_of_room (Json.tooDeep?_of_isWritten hbody) strict
  simp [Response.verdict, Response.success, ErrorPayload.inspect_of_room hroom, hclass,
    Except.mapError]

/-! ## Constants -/

namespace Constants

/-- The constants that have an integer and an accessor. -/
inductive Parameter where
  | blockTime
  | blocksPerCycle
  | hardGasLimitPerOperation
  | hardGasLimitPerBlock
  | hardStorageLimitPerOperation
  | costPerByte
  | originationSize
  deriving DecidableEq, Repr, Inhabited

namespace Parameter

/-- What the accessor of a parameter makes of constants. -/
def read (c : Constants) : Parameter → Except Json.IntegerFault (Option Int)
  | blockTime => c.blockTime
  | blocksPerCycle => c.blocksPerCycle
  | hardGasLimitPerOperation => c.hardGasLimitPerOperation
  | hardGasLimitPerBlock => c.hardGasLimitPerBlock
  | hardStorageLimitPerOperation => c.hardStorageLimitPerOperation
  | costPerByte => c.costPerByte
  | originationSize => c.originationSize

/-- The name of the field that holds a parameter.  The delay between blocks has an older name,
which counts where the newer one is missing. -/
def field (c : Constants) : Parameter → String
  | blockTime =>
    if (Json.field? c.fields "minimal_block_delay").isSome then "minimal_block_delay"
    else "time_between_blocks"
  | blocksPerCycle => "blocks_per_cycle"
  | hardGasLimitPerOperation => "hard_gas_limit_per_operation"
  | hardGasLimitPerBlock => "hard_gas_limit_per_block"
  | hardStorageLimitPerOperation => "hard_storage_limit_per_operation"
  | costPerByte => "cost_per_byte"
  | originationSize => "origination_size"

/-- Every accessor reads the integer of its field. -/
theorem read_of_field {c : Constants} {p : Parameter} {v : Json}
    (hfield : Json.field? c.fields (p.field c) = some v) : p.read c = integerOf v := by
  have hinteger : ∀ name, Json.field? c.fields name = some v → c.integer name = integerOf v := by
    intro name hname
    rw [integer, get, hname]
    rfl
  cases p with
  | blockTime =>
    unfold field at hfield
    change c.blockTime = _
    unfold Constants.blockTime
    cases hdelay : Json.field? c.fields "minimal_block_delay" with
    | some w =>
      rw [hdelay, Option.isSome_some, if_pos rfl, hdelay] at hfield
      rw [Option.some.inj hfield]
    | none =>
      rw [hdelay] at hfield
      exact hinteger _ hfield
  | _ => exact hinteger _ hfield

end Parameter

/-- The integer of a field that holds an integer, or a list that begins with one. -/
theorem integerOf_of_value {form : Json.IntegerForm} {n : Int} {v : Json}
    (hfew : Numeral.size n ≤ Numeral.maxDigits)
    (hv : v = form.value n ∨ ∃ rest, v = .array (form.value n :: rest)) :
    integerOf v = .ok (some n) := by
  have hmap : (form.value n).toInteger.map some = .ok (some n) := by
    rw [Json.toInteger_value_of_le form n hfew]
    rfl
  rcases hv with rfl | ⟨rest, rfl⟩
  · cases form with
    | number => exact hmap
    | string => exact hmap
  · cases form with
    | number => exact hmap
    | string => exact hmap

end Constants

/-! ## Both -/

/-- An integer is returned as it was written, as a number or as a string with its numeral.  With
a clock of 64 bits, an operation for an integer returns the one that a whole response with
the status of success has for its body, if its numeral has 4300 digits at most, and otherwise
fails in a document that cannot be decoded; and the accessors of the constants return the
integer of their field, which may stand at the head of a list. -/
theorem Session.integer_as_written (form : Json.IntegerForm) (n : Int) :
    (∀ (op : Operation) (document : Document) (s : Session) (response : Response),
      op.integerDocument? = some document → s.ClockInRange → s.reply = .response response →
      response.status = 200 → response.broken = none →
      requests (s.perform op).2.trace ≠ requests s.trace →
      Json.IsWritten form n response.content →
      (Numeral.size n ≤ 4300 → (s.perform op).1 = .ok (.integer n)) ∧
      (4300 < Numeral.size n → ∃ mismatch,
        (s.perform op).1 = .error (.undecodable document mismatch response.content))) ∧
    ∀ (c : Constants) (p : Constants.Parameter) (v : Json), Numeral.size n ≤ 4300 →
      Json.field? c.fields (p.field c) = some v →
      (v = form.value n ∨ ∃ rest, v = .array (form.value n :: rest)) →
      p.read c = .ok (some n) := by
  refine ⟨?_, ?_⟩
  · intro op document s response hop hclock hreply hstatus hwhole hsent hbody
    obtain ⟨⟨path, hinquiry⟩, hread⟩ := op.exists_of_integerDocument hop
    have hsuccess := Response.isSuccess_of_isWritten hstatus hwhole hbody
      s.client.config.strictErrors
    rw [perform_of_success hinquiry hclock hreply hsuccess hsent, hread]
    refine ⟨fun hfew => ?_, fun hmany => ?_⟩
    · rw [Endpoint.integerOf_of_isWritten hbody hfew]
      rfl
    · have hread : ∃ mismatch, Endpoint.integerOf document response.content =
          .error (.undecodable document mismatch response.content) :=
        Endpoint.integerOf_of_isWritten_of_lt hbody hmany
      obtain ⟨mismatch, hundecodable⟩ := hread
      rw [hundecodable]
      exact ⟨mismatch, rfl⟩
  · intro c p v hfew hfield hv
    rw [Constants.Parameter.read_of_field hfield, Constants.integerOf_of_value hfew hv]

/-- A balance beyond 64 bits in a string, and the same delay between blocks at the head of a
list. -/
theorem Session.integer_as_written_of_large_string :
    let s : Session := answering [.plain] [.success "\"18446744073709551616\""]
    let c : Constants := ⟨[("time_between_blocks", .array [.string "18446744073709551616"])], none⟩
    (s.perform (.balance "head" "tz1abc")).1 = .ok (.integer 18446744073709551616) ∧
      c.blockTime = .ok (some 18446744073709551616) := by
  intro s c
  let response : Response :=
    ⟨200, [Text.Utf8.encode (Json.IntegerForm.string.text 18446744073709551616)], none⟩
  have hreply : s.reply = .response response := rfl
  have hwritten := integer_as_written .string 18446744073709551616
  have hfew : Numeral.size 18446744073709551616 ≤ 4300 := by decide
  refine ⟨?_, hwritten.2 c .blockTime _ hfew rfl (.inr ⟨[], rfl⟩)⟩
  have hsent : requests (s.perform (.balance "head" "tz1abc")).2.trace ≠ requests s.trace := by
    decide +kernel
  exact (hwritten.1 (.balance "head" "tz1abc") .balance s response rfl (by decide) hreply rfl rfl
    hsent (Json.isWritten_encode _ _)).1 hfew

end TezosNode
