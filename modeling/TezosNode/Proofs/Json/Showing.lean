import TezosNode.Json.Literal
import TezosNode.Proofs.Json.Parts

set_option autoImplicit false

/-!
# JSON: documents can be shown

The values of documents can all be shown in messages.  Their integers are short, since a longer one
is not read, and their parts are nested no deeper than the room that was found in the text.  The
latter goes along with the reading: what is read of a text as a value takes a look through the
brackets back to the room it began with, and the room in between was enough for the parts.
-/

namespace TezosNode.Json

/-! ## Characters without meaning -/

/-- Whether a character opens and closes nothing. -/
def IsInert (c : Char) : Prop := c ≠ '"' ∧ c ≠ '[' ∧ c ≠ '\x7b' ∧ c ≠ ']' ∧ c ≠ '\x7d'

theorem isInert_of_isDigit {c : Char} (hc : Numeral.isDigit c = true) : IsInert c := by
  refine ⟨?_, ?_, ?_, ?_, ?_⟩ <;> rintro rfl <;> cases hc

theorem isInert_of_isBlank {c : Char} (hc : isBlank c = true) : IsInert c := by
  refine ⟨?_, ?_, ?_, ?_, ?_⟩ <;> rintro rfl <;> cases hc

/-- A look stays where it is at characters without meaning. -/
theorem Look.through_of_inert {used : List Char} (hinert : ∀ c ∈ used, IsInert c) (room : Nat) :
    (Look.outside room).through used = .ok (.outside room) := by
  induction used with
  | nil => rfl
  | cons c rest ih =>
    obtain ⟨⟨hquote, harray, hobject, hnoarray, hnoobject⟩, hrest⟩ := List.forall_mem_cons.1 hinert
    rw [through_cons, step, if_neg hquote, if_neg harray, if_neg hobject,
      if_neg (not_or.2 ⟨hnoarray, hnoobject⟩)]
    exact ih hrest

/-! ## Looks beside the reader -/

/-- Whether a look from one place of a text to a later one closes as many parts as that, if there
is room for those that it opens, and some has been shown of the room then. -/
def Spans (text rest : List Char) (closed : Nat) (p : Nat → Prop) : Prop :=
  ∃ used, text = used ++ rest ∧ ∀ room next, (Look.outside room).through used = .ok next →
    next = .outside (room + closed) ∧ p room

section Spans

variable {text between rest : List Char} {closed more : Nat} {p q : Nat → Prop}

theorem Spans.trans (h : Spans text between closed p) (hmore : Spans between rest more q) :
    Spans text rest (closed + more) fun room => p room ∧ q (room + closed) := by
  obtain ⟨used, rfl, hused⟩ := h
  obtain ⟨after, rfl, hafter⟩ := hmore
  refine ⟨used ++ after, (List.append_assoc used after rest).symm, fun room next hthrough => ?_⟩
  rw [Look.through_append] at hthrough
  cases hfirst : (Look.outside room).through used with
  | error part =>
    rw [hfirst] at hthrough
    cases hthrough
  | ok between =>
    rw [hfirst] at hthrough
    obtain ⟨rfl, hp⟩ := hused room between hfirst
    obtain ⟨rfl, hq⟩ := hafter (room + closed) next hthrough
    exact ⟨by rw [Nat.add_assoc], hp, hq⟩

theorem Spans.imp (h : Spans text rest closed p) (himp : ∀ room, p room → q room) :
    Spans text rest closed q := by
  obtain ⟨used, htext, hused⟩ := h
  exact ⟨used, htext, fun room next hthrough => (hused room next hthrough).imp_right (himp room)⟩

theorem spans_of_inert {used : List Char} (htext : text = used ++ rest)
    (hinert : ∀ c ∈ used, IsInert c) : Spans text rest 0 fun _ => True := by
  refine ⟨used, htext, fun room next hthrough => ⟨?_, trivial⟩⟩
  rw [Look.through_of_inert hinert room] at hthrough
  exact (Except.ok.inj hthrough).symm

theorem spans_refl (text : List Char) : Spans text text 0 fun _ => True :=
  spans_of_inert rfl (List.forall_mem_nil _)

theorem spans_cons {c : Char} (hc : IsInert c) (rest : List Char) :
    Spans (c :: rest) rest 0 fun _ => True :=
  @spans_of_inert _ rest [c] rfl (List.forall_mem_singleton.2 hc)

theorem spans_skipBlanks (text : List Char) : Spans text (skipBlanks text) 0 fun _ => True := by
  obtain ⟨blanks, hblanks, htext⟩ := exists_of_skipBlanks text
  exact spans_of_inert htext fun c hmem => isInert_of_isBlank (hblanks c hmem)

theorem spans_digits (text : List Char) :
    Spans text (text.dropWhile Numeral.isDigit) 0 fun _ => True :=
  spans_of_inert List.takeWhile_append_dropWhile.symm fun _ hmem =>
    isInert_of_isDigit (List.mem_takeWhile_imp hmem)

/-- The end of a part gives back its room. -/
theorem spans_close {c : Char} (hc : c = ']' ∨ c = '\x7d') (rest : List Char) :
    Spans (c :: rest) rest 1 fun _ => True := by
  refine ⟨[c], rfl, fun room next hthrough => ⟨?_, trivial⟩⟩
  rcases hc with rfl | rfl <;> exact (Except.ok.inj hthrough).symm

/-- The beginning of a part takes some of the room, and there is some to take. -/
theorem spans_open {c : Char} (hc : c = '[' ∨ c = '\x7b')
    (h : Spans text rest 1 p) :
    Spans (c :: text) rest 0 fun room => ∃ inner, room = inner + 1 ∧ p inner := by
  obtain ⟨used, rfl, hused⟩ := h
  refine ⟨c :: used, rfl, fun room next hthrough => ?_⟩
  cases room with
  | zero => rcases hc with rfl | rfl <;> cases hthrough
  | succ inner =>
    have hinner : (Look.outside inner).through used = .ok next := by
      rcases hc with rfl | rfl <;> exact hthrough
    obtain ⟨rfl, hp⟩ := hused inner next hinner
    exact ⟨rfl, inner, rfl, hp⟩

end Spans

/-! ## Words, numbers and names -/

theorem spans_fraction (text : List Char) :
    Spans text ((fraction? text).getD ([], text)).2 0 fun _ => True := by
  unfold fraction?
  split
  case h_1 rest =>
    dsimp only
    split
    · exact spans_refl _
    · exact ((spans_cons (c := '.') (by unfold IsInert; decide) rest).trans
        (spans_digits rest)).imp fun _ _ => trivial
  case h_2 => exact spans_refl _

theorem spans_sign (text : List Char) :
    Spans text (Numeral.splitSign text).2 0 fun _ => True := by
  unfold Numeral.splitSign
  split
  · exact spans_cons (by unfold IsInert; decide) _
  · exact spans_cons (by unfold IsInert; decide) _
  · exact spans_refl _

theorem spans_exponent (text : List Char) :
    Spans text ((exponent? text).getD (0, text)).2 0 fun _ => True := by
  unfold exponent?
  split
  case h_1 c rest =>
    split
    case isTrue hletter =>
      dsimp only
      split
      · exact spans_refl _
      · have hinert : IsInert c := by
          rcases hletter with rfl | rfl <;> unfold IsInert <;> decide
        exact ((spans_cons hinert rest).trans ((spans_sign rest).trans (spans_digits _))).imp
          fun _ _ => trivial
    case isFalse => exact spans_refl _
  case h_2 => exact spans_refl _

theorem spans_wholeDigits (text : List Char) :
    Spans text (text.drop (wholeDigits text).length) 0 fun _ => True := by
  have hprefix : wholeDigits text <+: text := by
    unfold wholeDigits
    split
    · exact ⟨_, rfl⟩
    · exact List.takeWhile_prefix _
  exact spans_of_inert (List.prefix_iff_eq_append.1 hprefix).symm fun c hmem =>
    isInert_of_isDigit (areDigits_wholeDigits text c hmem)

/-- A number is read with its digits, its fraction and its exponent. -/
theorem spans_number {text rest : List Char} {v : Json} (hread : number text = .ok (v, rest)) :
    Spans text rest 0 fun _ => True := by
  have hbody : ∀ body, Spans body
      ((exponent? ((fraction? (body.drop (wholeDigits body).length)).getD
        ([], body.drop (wholeDigits body).length)).2).getD
          (0, ((fraction? (body.drop (wholeDigits body).length)).getD
            ([], body.drop (wholeDigits body).length)).2)).2 0 fun _ => True := fun body =>
    ((spans_wholeDigits body).trans ((spans_fraction _).trans (spans_exponent _))).imp
      fun _ _ => trivial
  unfold number at hread
  dsimp only at hread
  split at hread
  case h_1 body =>
    have hsigned := (spans_cons (c := '-') (by unfold IsInert; decide) body).trans (hbody body)
    split at hread
    · cases hread
    · split at hread
      · split at hread
        · cases hread
        · obtain ⟨-, rfl⟩ := Prod.mk.inj (Except.ok.inj hread)
          exact hsigned.imp fun _ _ => trivial
      · obtain ⟨-, rfl⟩ := Prod.mk.inj (Except.ok.inj hread)
        exact hsigned.imp fun _ _ => trivial
  case h_2 =>
    split at hread
    · cases hread
    · split at hread
      · split at hread
        · cases hread
        · obtain ⟨-, rfl⟩ := Prod.mk.inj (Except.ok.inj hread)
          exact hbody text
      · obtain ⟨-, rfl⟩ := Prod.mk.inj (Except.ok.inj hread)
        exact hbody text

/-- The letters of words have no meaning. -/
theorem spans_word (word rest : List Char)
    (hletters : (word.all fun c => c.isAlpha || c == '-') = true) :
    Spans (word ++ rest) rest 0 fun _ => True := by
  refine spans_of_inert rfl fun c hmem => ?_
  have hletter := List.all_eq_true.1 hletters c hmem
  refine ⟨?_, ?_, ?_, ?_, ?_⟩ <;> rintro rfl <;> exact absurd hletter (by decide)

theorem spans_scalar {text rest : List Char} {v : Json} (hread : scalar text = .ok (v, rest)) :
    Spans text rest 0 fun _ => True := by
  unfold scalar at hread
  split at hread
  case h_1 =>
    obtain ⟨-, rfl⟩ := Prod.mk.inj (Except.ok.inj hread)
    exact spans_word "null".toList _ rfl
  case h_2 =>
    obtain ⟨-, rfl⟩ := Prod.mk.inj (Except.ok.inj hread)
    exact spans_word "true".toList _ rfl
  case h_3 =>
    obtain ⟨-, rfl⟩ := Prod.mk.inj (Except.ok.inj hread)
    exact spans_word "false".toList _ rfl
  case h_4 =>
    obtain ⟨-, rfl⟩ := Prod.mk.inj (Except.ok.inj hread)
    exact spans_word "NaN".toList _ rfl
  case h_5 =>
    obtain ⟨-, rfl⟩ := Prod.mk.inj (Except.ok.inj hread)
    exact spans_word "Infinity".toList _ rfl
  case h_6 =>
    obtain ⟨-, rfl⟩ := Prod.mk.inj (Except.ok.inj hread)
    exact spans_word "-Infinity".toList _ rfl
  case h_7 => exact spans_number hread

/-- A string is read with both quotes. -/
theorem spans_string {start read text rest : List Char} {s : String}
    (hread : stringFrom start read 0 text = .ok (s, rest)) :
    Spans ('"' :: text) rest 0 fun _ => True := by
  obtain ⟨used, htext, hused⟩ := Look.exists_of_stringFrom hread
  rw [List.drop_zero] at htext
  refine ⟨'"' :: used, by rw [htext]; rfl, fun room next hthrough => ⟨?_, trivial⟩⟩
  have hstring : (Look.outside room).through ('"' :: used) = .ok (.outside room) := hused room
  rw [hstring] at hthrough
  exact (Except.ok.inj hthrough).symm

theorem spans_name {text rest : List Char} {s : String} (hread : name text = .ok (s, rest)) :
    Spans text rest 0 fun _ => True := by
  unfold name at hread
  split at hread
  case h_1 body =>
    split at hread
    case h_1 => cases hread
    case h_2 s after hstring =>
      split at hread
      case h_1 more hcolon =>
        obtain ⟨-, rfl⟩ := Prod.mk.inj (Except.ok.inj hread)
        have hblanks := spans_skipBlanks after
        rw [hcolon] at hblanks
        exact ((spans_string hstring).trans (hblanks.trans
          ((spans_cons (by unfold IsInert; decide) more).trans (spans_skipBlanks more)))).imp
            fun _ _ => trivial
      case h_2 => cases hread
  case h_2 => cases hread

/-! ## Values -/

theorem obstacleOfItems?_eq_none_iff {room : Nat} {items : List Json} :
    obstacleOfItems? room items = none ↔ ∀ v ∈ items, v.obstacle? room = none := by
  induction items with
  | nil => simp [obstacleOfItems?]
  | cons v rest ih => rw [obstacleOfItems?, Option.or_eq_none_iff, ih, List.forall_mem_cons]

theorem obstacleOfFields?_eq_none_iff {room : Nat} {fields : List (String × Json)} :
    obstacleOfFields? room fields = none ↔ ∀ f ∈ fields, f.2.obstacle? room = none := by
  induction fields with
  | nil => simp [obstacleOfFields?]
  | cons f rest ih => rw [obstacleOfFields?, Option.or_eq_none_iff, ih, List.forall_mem_cons]

theorem obstacle?_of_long {room : Nat} {n : Int}
    (hlong : ¬n.natAbs < Nat.pow 10 Numeral.maxDigits) :
    (integer n).obstacle? room = some .longInteger := by
  rw [obstacle?, if_neg hlong]

mutual

/-- More room is no obstacle. -/
theorem obstacle?_of_le {room more : Nat} (hle : room ≤ more) :
    ∀ v : Json, v.obstacle? room = none → v.obstacle? more = none
  | .null | .bool _ | .double _ | .string _ => fun _ => rfl
  | .integer n => by
    intro hshown
    rw [obstacle?] at hshown ⊢
    exact hshown
  | .array items => by
    intro hshown
    cases room with
    | zero => cases hshown
    | succ room =>
      obtain ⟨more, rfl⟩ := Nat.exists_eq_add_of_lt hle
      exact obstacleOfItems?_of_le (by omega) items hshown
  | .object fields => by
    intro hshown
    cases room with
    | zero => cases hshown
    | succ room =>
      obtain ⟨more, rfl⟩ := Nat.exists_eq_add_of_lt hle
      exact obstacleOfFields?_of_le (by omega) fields hshown

theorem obstacleOfItems?_of_le {room more : Nat} (hle : room ≤ more) :
    ∀ items : List Json, obstacleOfItems? room items = none → obstacleOfItems? more items = none
  | [], _ => rfl
  | v :: rest, hshown => by
    rw [obstacleOfItems?, Option.or_eq_none_iff] at hshown ⊢
    exact ⟨obstacle?_of_le hle v hshown.1, obstacleOfItems?_of_le hle rest hshown.2⟩

theorem obstacleOfFields?_of_le {room more : Nat} (hle : room ≤ more) :
    ∀ fields : List (String × Json),
      obstacleOfFields? room fields = none → obstacleOfFields? more fields = none
  | [], _ => rfl
  | (_, v) :: rest, hshown => by
    rw [obstacleOfFields?, Option.or_eq_none_iff] at hshown ⊢
    exact ⟨obstacle?_of_le hle v hshown.1, obstacleOfFields?_of_le hle rest hshown.2⟩

end

/-- With a value its parts can be shown. -/
theorem obstacle?_of_isPart {room : Nat} {v w : Json} (hshown : v.obstacle? room = none)
    (hpart : IsPart w v) : w.obstacle? room = none := by
  cases hpart with
  | element hmem =>
    cases room with
    | zero => cases hshown
    | succ room =>
      exact obstacle?_of_le (Nat.le_succ room) w (obstacleOfItems?_eq_none_iff.1 hshown w hmem)
  | field hmem =>
    cases room with
    | zero => cases hshown
    | succ room =>
      exact obstacle?_of_le (Nat.le_succ room) w (obstacleOfFields?_eq_none_iff.1 hshown _ hmem)

/-- A word or a number that is read can be shown anywhere. -/
theorem obstacle?_of_scalar {text rest : List Char} {v : Json}
    (hread : scalar text = .ok (v, rest)) (room : Nat) : v.obstacle? room = none := by
  rcases of_scalar hread with rfl | ⟨b, rfl⟩ | rfl | ⟨negative, rfl⟩ | hnumber
  · rfl
  · rfl
  · rfl
  · rfl
  · have hshort := hasShortInteger_of_number hnumber
    rcases of_number hnumber with ⟨negative, digits, -, -, rfl⟩ | ⟨_, _, _, rfl⟩
    · rw [obstacle?, if_pos (hshort _ rfl)]
    · rfl

/-- What is read can be shown with the room that a look has where the reading begins; an array or
an object takes some of it, if what has been read of it before can be shown with the rest. -/
theorem spans_of_fuel (fuel : Nat) :
    (∀ {text rest : List Char} {v : Json}, value fuel text = .ok (v, rest) →
      Spans text rest 0 fun room => v.obstacle? room = none) ∧
    (∀ {read : List Json} {text rest : List Char} {v : Json},
      elements fuel read text = .ok (v, rest) →
        Spans text rest 1 fun room => (∀ w ∈ read, w.obstacle? room = none) →
          v.obstacle? (room + 1) = none) ∧
    (∀ {read : List (String × Json)} {text rest : List Char} {v : Json},
      members fuel read text = .ok (v, rest) →
        Spans text rest 1 fun room => (∀ m ∈ read, m.2.obstacle? room = none) →
          v.obstacle? (room + 1) = none) := by
  induction fuel with
  | zero => exact ⟨nofun, nofun, nofun⟩
  | succ fuel ih =>
    obtain ⟨ihValue, ihElements, ihMembers⟩ := ih
    refine ⟨?_, ?_, ?_⟩
    · intro text rest v hread
      cases valueStep_of_value hread with
      | string htext hstring =>
        subst htext
        exact (spans_string hstring).imp fun _ _ => rfl
      | @emptyObject body htext hclosed =>
        subst htext
        have hblanks := spans_skipBlanks body
        rw [hclosed] at hblanks
        refine (spans_open (.inr rfl) (hblanks.trans (spans_close (.inr rfl) rest))).imp ?_
        rintro _ ⟨room, rfl, -⟩
        rfl
      | @object body _ htext hmembers =>
        subst htext
        refine (spans_open (.inr rfl) ((spans_skipBlanks body).trans (ihMembers hmembers))).imp ?_
        rintro _ ⟨room, rfl, -, hshown⟩
        exact hshown (List.forall_mem_nil _)
      | @emptyArray body htext hclosed =>
        subst htext
        have hblanks := spans_skipBlanks body
        rw [hclosed] at hblanks
        refine (spans_open (.inl rfl) (hblanks.trans (spans_close (.inl rfl) rest))).imp ?_
        rintro _ ⟨room, rfl, -⟩
        rfl
      | @array body _ htext helements =>
        subst htext
        refine (spans_open (.inl rfl) ((spans_skipBlanks body).trans (ihElements helements))).imp ?_
        rintro _ ⟨room, rfl, -, hshown⟩
        exact hshown (List.forall_mem_nil _)
      | scalar hscalar =>
        exact (spans_scalar hscalar).imp fun room _ => obstacle?_of_scalar hscalar room
    · intro read text rest v hread
      cases elementsStep_of_elements hread with
      | @last w after hvalue hclosed =>
        have hblanks := spans_skipBlanks after
        rw [hclosed] at hblanks
        refine ((ihValue hvalue).trans (hblanks.trans (spans_close (.inl rfl) rest))).imp ?_
        rintro room ⟨hfirst, -⟩ hbefore
        have hall : ∀ u ∈ w :: read, u.obstacle? room = none :=
          List.forall_mem_cons.2 ⟨hfirst, hbefore⟩
        exact obstacleOfItems?_eq_none_iff.2 fun u hmem => hall u (List.mem_reverse.1 hmem)
      | @next w _ after more hvalue hcomma hmore =>
        have hblanks := spans_skipBlanks after
        rw [hcomma] at hblanks
        refine ((ihValue hvalue).trans (hblanks.trans
          ((spans_cons (by unfold IsInert; decide) more).trans ((spans_skipBlanks more).trans
            (ihElements hmore))))).imp ?_
        rintro room ⟨hfirst, -, -, -, hrest⟩ hbefore
        exact hrest (List.forall_mem_cons.2 ⟨hfirst, hbefore⟩)
    · intro read text rest v hread
      cases membersStep_of_members hread with
      | @last n w body after hname hvalue hclosed =>
        have hblanks := spans_skipBlanks after
        rw [hclosed] at hblanks
        refine ((spans_name hname).trans ((ihValue hvalue).trans
          (hblanks.trans (spans_close (.inr rfl) rest)))).imp ?_
        rintro room ⟨-, hfirst, -⟩ hbefore
        have hall : ∀ m ∈ (n, w) :: read, m.2.obstacle? room = none :=
          List.forall_mem_cons.2 ⟨hfirst, hbefore⟩
        refine obstacleOfFields?_eq_none_iff.2 fun f hmem => hall f ?_
        exact List.mem_reverse.1 (mem_of_mem_fieldsOf hmem)
      | @next n w _ body after more hname hvalue hcomma hmore =>
        have hblanks := spans_skipBlanks after
        rw [hcomma] at hblanks
        refine ((spans_name hname).trans ((ihValue hvalue).trans (hblanks.trans
          ((spans_cons (by unfold IsInert; decide) more).trans ((spans_skipBlanks more).trans
            (ihMembers hmore)))))).imp ?_
        rintro room ⟨-, hfirst, -, -, -, hrest⟩ hbefore
        exact hrest (List.forall_mem_cons.2 ⟨hfirst, hbefore⟩)

/-! ## Documents -/

/-- The value of a document can be shown. -/
theorem obstacle?_of_decode {body : Bytes} {v : Json} (hdecode : decode body = .ok v) :
    v.obstacle? maxDepth = none := by
  obtain ⟨text, -, hparse, hroom⟩ := exists_text_of_decode hdecode
  obtain ⟨before, content, after, hbefore, -, rfl, hvalue⟩ := exists_of_parse hparse
  obtain ⟨used, rfl, hused⟩ := (spans_of_fuel _).1 hvalue
  obtain ⟨next, hthrough⟩ := excess?_eq_none_iff.1 hroom
  rw [Look.through_append,
    Look.through_of_inert (fun c hmem => isInert_of_isBlank (hbefore c hmem))] at hthrough
  obtain ⟨between, hcontent⟩ := Look.exists_through_of_append hthrough
  exact (hused maxDepth between hcontent).2

end TezosNode.Json
