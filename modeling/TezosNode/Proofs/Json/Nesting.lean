import Mathlib.Data.List.Induction
import TezosNode.Json.Parser
import TezosNode.Proofs.Text.Document

set_option autoImplicit false

/-!
# JSON: documents with room for them

A document is read if its text is one and there is room for its parts.  Whether there is room is
found from all brackets of the text or, where the text is no document, from those before the
fault; with room for all brackets, reading is the same as if there were room for anything.
Brackets that open one array after another run out of room before anything is missed.
-/

namespace TezosNode

/-! ## Hexadecimal digits -/

namespace Text

theorem hexNumber?_append (digits : List Char) (c : Char) :
    hexNumber? (digits ++ [c]) =
      (hexNumber? digits).bind fun n => (hexValue? c).map (16 * n + ·) := by
  simp [hexNumber?, List.foldl_append]

/-- The digits of a number that is read are digits. -/
theorem isSome_hexValue?_of_hexNumber? {digits : List Char} {n : Nat}
    (hread : hexNumber? digits = some n) {c : Char} (hmem : c ∈ digits) :
    (hexValue? c).isSome = true := by
  induction digits using List.reverseRecOn generalizing n with
  | nil => cases hmem
  | append_singleton digits d ih =>
    rw [hexNumber?_append] at hread
    obtain ⟨m, hbefore, hlast⟩ := Option.bind_eq_some_iff.1 hread
    rcases List.mem_append.1 hmem with hmem | hmem
    · exact ih hbefore hmem
    · obtain ⟨digit, hdigit, -⟩ := Option.map_eq_some_iff.1 hlast
      rw [List.mem_singleton.1 hmem, hdigit]
      rfl

end Text

namespace Json

/-! ## Looks -/

namespace Look

theorem through_cons (look : Look) (c : Char) (text : List Char) :
    look.through (c :: text) = (look.step c).bind fun next => next.through text :=
  rfl

/-- A look through two texts is one after the other. -/
theorem through_append (look : Look) (text more : List Char) :
    look.through (text ++ more) = (look.through text).bind fun next => next.through more :=
  List.foldlM_append

/-- A look that gets through a text gets through what the text begins with. -/
theorem exists_through_of_append {look next : Look} {text more : List Char}
    (h : look.through (text ++ more) = .ok next) : ∃ between, look.through text = .ok between := by
  rw [through_append] at h
  cases htext : look.through text with
  | ok between => exact ⟨between, rfl⟩
  | error part =>
    rw [htext] at h
    cases h

/-- A character that opens nothing is no obstacle. -/
theorem exists_step (look : Look) {c : Char} (harray : c ≠ '[') (hobject : c ≠ '\x7b') :
    ∃ next, look.step c = .ok next := by
  cases look with
  | outside room =>
    rw [step, if_neg harray, if_neg hobject]
    split
    · exact ⟨_, rfl⟩
    · split
      · exact ⟨_, rfl⟩
      · exact ⟨_, rfl⟩
  | inString room =>
    rw [step]
    split
    · exact ⟨_, rfl⟩
    · split
      · exact ⟨_, rfl⟩
      · exact ⟨_, rfl⟩
  | escaped room => exact ⟨_, rfl⟩

/-- Nothing is opened in a text without opening brackets. -/
theorem exists_through {text : List Char} (hnone : ∀ c ∈ text, c ≠ '[' ∧ c ≠ '\x7b')
    (look : Look) : ∃ next, look.through text = .ok next := by
  induction text generalizing look with
  | nil => exact ⟨look, rfl⟩
  | cons c rest ih =>
    obtain ⟨⟨harray, hobject⟩, hrest⟩ := List.forall_mem_cons.1 hnone
    obtain ⟨next, hstep⟩ := look.exists_step harray hobject
    rw [through_cons, hstep]
    exact ih hrest next

end Look

/-! ## Strings -/

theorem Look.step_inString (room : Nat) {c : Char} (hquote : c ≠ '"') (hbackslash : c ≠ '\\') :
    (Look.inString room).step c = .ok (.inString room) := by
  rw [step, if_neg hquote, if_neg hbackslash]

/-- Digits leave a look in the string where it stands. -/
theorem Look.through_hexDigits (room : Nat) {digits : List Char} {n : Nat}
    (hread : Text.hexNumber? digits = some n) :
    (Look.inString room).through digits = .ok (.inString room) := by
  have hplain : ∀ c ∈ digits, c ≠ '"' ∧ c ≠ '\\' := by
    intro c hmem
    have hdigit := Text.isSome_hexValue?_of_hexNumber? hread hmem
    constructor <;> rintro rfl <;> exact absurd hdigit (by decide)
  clear hread
  induction digits with
  | nil => rfl
  | cons c rest ih =>
    obtain ⟨⟨hquote, hbackslash⟩, hrest⟩ := List.forall_mem_cons.1 hplain
    rw [through_cons, step_inString room hquote hbackslash]
    exact ih hrest

/-- The escape of a code leads a look back into the string. -/
theorem Look.through_unit (room : Nat) {a b c d : Char} {u : Nat}
    (hread : Text.hexNumber? [a, b, c, d] = some u) :
    (Look.escaped room).through ['u', a, b, c, d] = .ok (.inString room) :=
  through_hexDigits room hread

/-- An escape that is read leads a look back into the string. -/
theorem Look.through_escape {start text : List Char} {c : Char} {n : Nat}
    (hescape : escape start text = .ok (c, n)) (room : Nat) :
    (Look.escaped room).through (text.take n) = .ok (.inString room) := by
  unfold escape at hescape
  split at hescape
  case h_1 => cases hescape
  case h_2 a b c d next rest =>
    split at hescape
    case h_1 => cases hescape
    case h_2 u hfirst =>
      have hunit := through_unit room hfirst
      split at hescape
      · split at hescape
        case h_1 => cases hescape
        case h_2 v hsecond =>
          unfold secondEscape? at hsecond
          split at hsecond
          case h_1 a' b' c' d' _ _ heq =>
            obtain ⟨rfl, rfl⟩ := List.cons.inj heq
            split at hsecond
            case h_2 => cases hsecond
            case h_1 w hlow =>
              have hpair : (Look.escaped room).through
                  (['u', a, b, c, d] ++ ['\\', 'u', a', b', c', d']) = .ok (.inString room) := by
                rw [through_append, hunit]
                exact through_unit room hlow
              split at hescape
              · obtain ⟨-, rfl⟩ := Prod.mk.inj (Except.ok.inj hescape)
                exact hpair
              · obtain ⟨-, rfl⟩ := Prod.mk.inj (Except.ok.inj hescape)
                exact hunit
          case h_2 => cases hsecond
        case h_3 =>
          obtain ⟨-, rfl⟩ := Prod.mk.inj (Except.ok.inj hescape)
          exact hunit
      · obtain ⟨-, rfl⟩ := Prod.mk.inj (Except.ok.inj hescape)
        exact hunit
  case h_3 => cases hescape
  case h_4 =>
    split at hescape
    · obtain ⟨-, rfl⟩ := Prod.mk.inj (Except.ok.inj hescape)
      rfl
    · cases hescape

/-- The rest of a string that is read leads a look out of the string, with the room that was
there before. -/
theorem Look.exists_of_stringFrom {start read text rest : List Char} {skip : Nat} {s : String}
    (hread : stringFrom start read skip text = .ok (s, rest)) :
    ∃ used, text.drop skip = used ++ rest ∧
      ∀ room, (Look.inString room).through used = .ok (.outside room) := by
  induction text generalizing read skip with
  | nil => cases skip <;> cases hread
  | cons c tail ih =>
    cases skip with
    | succ skip => exact ih hread
    | zero =>
      rw [stringFrom] at hread
      split at hread
      case isTrue hquote =>
        obtain ⟨-, rfl⟩ := Prod.mk.inj (Except.ok.inj hread)
        subst hquote
        exact ⟨['"'], rfl, fun _ => rfl⟩
      case isFalse hquote =>
        split at hread
        case isTrue hbackslash =>
          subst hbackslash
          split at hread
          case h_1 => cases hread
          case h_2 e n hescape =>
            obtain ⟨used, htail, hthrough⟩ := ih hread
            refine ⟨'\\' :: (tail.take n ++ used), ?_, fun room => ?_⟩
            · rw [List.cons_append, List.append_assoc, ← htail, List.take_append_drop]
              rfl
            · have hstep : (Look.inString room).step '\\' = .ok (.escaped room) := rfl
              rw [through_cons, hstep]
              change (Look.escaped room).through (tail.take n ++ used) = _
              rw [through_append, through_escape hescape room]
              exact hthrough room
        case isFalse hbackslash =>
          split at hread
          · cases hread
          · obtain ⟨used, htail, hthrough⟩ := ih hread
            refine ⟨c :: used, by rw [List.cons_append, ← htail]; rfl, fun room => ?_⟩
            rw [through_cons, step_inString room hquote hbackslash]
            exact hthrough room

/-! ## Room -/

variable {room : Nat} {text : List Char}

theorem excess?_eq_none_iff :
    excess? room text = none ↔ ∃ next, (Look.outside room).through text = .ok next := by
  unfold excess?
  cases (Look.outside room).through text with
  | error part => simp
  | ok next => simp

/-- There is room for what a text begins with if there is room for the text. -/
theorem excess?_of_append {more : List Char} (hroom : excess? room (text ++ more) = none) :
    excess? room text = none := by
  obtain ⟨next, hthrough⟩ := excess?_eq_none_iff.1 hroom
  exact excess?_eq_none_iff.2 (Look.exists_through_of_append hthrough)

/-- There is always room for a text without opening brackets. -/
theorem excess?_of_forall (hnone : ∀ c ∈ text, c ≠ '[' ∧ c ≠ '\x7b') (room : Nat) :
    excess? room text = none :=
  excess?_eq_none_iff.2 (Look.exists_through hnone _)

/-! ## Reading with room -/

/-- With room for a text, it is read as if there were room for anything. -/
theorem parseWithin_of_room (hroom : excess? room text = none) :
    parseWithin room text = parse text := by
  have hread : excess? room (readPart text) = none := by
    unfold readPart
    split
    · exact hroom
    · rename_i stop _
      have hwhole := hroom
      rw [← List.take_append_drop (text.length - stop.rest.length) text] at hwhole
      exact excess?_of_append hwhole
  unfold parseWithin
  rw [hread]

/-- What is read with some room is a document that there is room for. -/
theorem parseWithin_eq_ok_iff {v : Json} :
    parseWithin room text = .ok v ↔ parse text = .ok v ∧ excess? room text = none := by
  constructor
  · intro hread
    have hparse : parse text = .ok v := by
      unfold parseWithin at hread
      split at hread
      · cases hread
      · exact hread
    have hall : readPart text = text := by
      unfold parse at hparse
      unfold readPart
      cases hvalue : readText text with
      | error stop =>
        rw [hvalue] at hparse
        cases hparse
      | ok _ => rfl
    refine ⟨hparse, ?_⟩
    unfold parseWithin at hread
    rw [hall] at hread
    split at hread
    · cases hread
    · assumption
  · rintro ⟨hparse, hroom⟩
    rw [parseWithin_of_room hroom, hparse]

/-! ## Octets -/

variable {body : Bytes}

/-- Octets of a text that there is room for are read as the text is. -/
theorem decode_eq_parse (htext : Text.decodeDocument body = .ok text)
    (hroom : excess? maxDepth text = none) : decode body = parse text := by
  unfold decode
  rw [htext]
  exact parseWithin_of_room hroom

/-- Octets that are read are a text that is a document with room for it. -/
theorem exists_text_of_decode {v : Json} (hdecode : decode body = .ok v) :
    ∃ text, Text.decodeDocument body = .ok text ∧ parse text = .ok v ∧
      excess? maxDepth text = none := by
  unfold decode at hdecode
  split at hdecode
  case h_1 => cases hdecode
  case h_2 text htext =>
    obtain ⟨hparse, hroom⟩ := parseWithin_eq_ok_iff.1 hdecode
    exact ⟨text, htext, hparse, hroom⟩

/-- Octets that are read hold the value of a text. -/
theorem exists_value_of_decode {v : Json} (hdecode : decode body = .ok v) :
    ∃ fuel text rest, value fuel text = .ok (v, rest) := by
  obtain ⟨text, -, hparse, -⟩ := exists_text_of_decode hdecode
  unfold parse readText at hparse
  cases hvalue : value (2 * text.length + 2) (skipBlanks text) with
  | error stop =>
    rw [hvalue] at hparse
    cases hparse
  | ok read =>
    obtain ⟨w, rest⟩ := read
    rw [hvalue] at hparse
    dsimp only at hparse
    split at hparse
    · obtain rfl := Except.ok.inj hparse
      exact ⟨_, _, _, hvalue⟩
    · cases hparse

/-- What is nested too deep is not read. -/
theorem tooDeep?_eq_some_iff {part : Part} :
    tooDeep? body = some part ↔ decode body = .error (.tooDeep part) := by
  unfold tooDeep?
  constructor
  · intro hdeep
    split at hdeep
    case h_1 hdecode =>
      rw [hdecode, Option.some.inj hdeep]
    case h_2 => cases hdeep
  · intro hdecode
    rw [hdecode]

/-- Octets that are read are not nested too deep. -/
theorem tooDeep?_of_decode {v : Json} (hdecode : decode body = .ok v) : tooDeep? body = none := by
  unfold tooDeep?
  rw [hdecode]

/-! ## Arrays that are never closed -/

/-- The fault of arrays in each other is that of the text in the innermost, which can be no
value and is not the end of an array either. -/
theorem value_replicate {rest : List Char} (hblank : skipBlanks rest = rest)
    (hend : ∀ more, rest ≠ ']' :: more)
    (hrest : ∀ fuel, value (fuel + 1) rest = .error (.malformed .expectedValue rest))
    (n fuel : Nat) (hfuel : 2 * n < fuel) :
    value fuel (List.replicate n '[' ++ rest) = .error (.malformed .expectedValue rest) := by
  induction n generalizing fuel with
  | zero =>
    obtain ⟨fuel, rfl⟩ := Nat.exists_eq_add_of_lt hfuel
    exact hrest _
  | succ n ih =>
    obtain ⟨fuel, rfl⟩ := Nat.exists_eq_add_of_lt hfuel
    have hinner : skipBlanks (List.replicate n '[' ++ rest) = List.replicate n '[' ++ rest := by
      cases n with
      | zero => exact hblank
      | succ n => rfl
    have hopen : ∀ more, List.replicate n '[' ++ rest ≠ ']' :: more := by
      intro more heq
      cases n with
      | zero => exact hend more heq
      | succ n => cases heq
    have hread : value (2 * (n + 1) + fuel + 1) (List.replicate (n + 1) '[' ++ rest) =
        elements (2 * (n + 1) + fuel) [] (List.replicate n '[' ++ rest) := by
      rw [List.replicate_succ, List.cons_append, value, hinner]
      split
      · rename_i more heq
        exact absurd heq (hopen more)
      · rfl
    rw [hread, show 2 * (n + 1) + fuel = (2 * n + fuel + 1) + 1 from by omega, elements,
      ih _ (by omega)]

/-- There is no room for more arrays in each other than that. -/
theorem excess?_replicate {n : Nat} (hroom : room < n) :
    excess? room (List.replicate n '[') = some .array := by
  have hthrough : (Look.outside room).through (List.replicate n '[') = .error .array := by
    induction n generalizing room with
    | zero => cases hroom
    | succ n ih =>
      rw [List.replicate_succ, Look.through_cons]
      cases room with
      | zero => rfl
      | succ room => exact ih (Nat.lt_of_succ_lt_succ hroom)
  unfold excess?
  rw [hthrough]

/-- Arrays in each other are nested too deep for there to be another fault. -/
theorem parseWithin_replicate {rest : List Char} (hblank : skipBlanks rest = rest)
    (hend : ∀ more, rest ≠ ']' :: more)
    (hrest : ∀ fuel, value (fuel + 1) rest = .error (.malformed .expectedValue rest))
    {n : Nat} (hroom : room < n) :
    parseWithin room (List.replicate n '[' ++ rest) = .error (.tooDeep .array) := by
  have hskip : skipBlanks (List.replicate n '[' ++ rest) = List.replicate n '[' ++ rest := by
    cases n with
    | zero => cases hroom
    | succ n => rfl
  have hread : readPart (List.replicate n '[' ++ rest) = List.replicate n '[' := by
    unfold readPart readText
    rw [hskip, value_replicate hblank hend hrest n _ (by simp; omega)]
    simp [Stop.rest]
  unfold parseWithin
  rw [hread, excess?_replicate hroom]

/-- The octets of arrays in each other are nested too deep as well. -/
theorem decode_replicate {rest : List Char}
    (hascii : (rest.all fun c => 0 < c.toNat && c.toNat < 0x80) = true)
    (hblank : skipBlanks rest = rest) (hend : ∀ more, rest ≠ ']' :: more)
    (hrest : ∀ fuel, value (fuel + 1) rest = .error (.malformed .expectedValue rest))
    {n : Nat} (hdeep : maxDepth < n) :
    decode (Text.Utf8.encode (List.replicate n '[' ++ rest)) = .error (.tooDeep .array) := by
  have htext : Text.decodeDocument (Text.Utf8.encode (List.replicate n '[' ++ rest)) =
      .ok (List.replicate n '[' ++ rest) := by
    refine Text.decodeDocument_encode fun c hmem => ?_
    rcases List.mem_append.1 hmem with hmem | hmem
    · rw [List.eq_of_mem_replicate hmem]
      decide
    · simpa using List.all_eq_true.1 hascii c hmem
  unfold decode
  rw [htext]
  exact parseWithin_replicate hblank hend hrest hdeep

/-- Nothing need come after the brackets. -/
theorem decode_brackets {n : Nat} (hdeep : maxDepth < n) :
    decode (Text.Utf8.encode (List.replicate n '[')) = .error (.tooDeep .array) := by
  have hread := @decode_replicate [] rfl rfl (by simp) (fun _ => rfl) n hdeep
  rwa [List.append_nil] at hread

/-- Nor does a word after the brackets make a difference. -/
theorem decode_brackets_error {n : Nat} (hdeep : maxDepth < n) :
    decode (Text.Utf8.encode (List.replicate n '[' ++ "error".toList)) =
      .error (.tooDeep .array) :=
  decode_replicate rfl rfl (by simp) (fun _ => rfl) hdeep

end Json

end TezosNode
