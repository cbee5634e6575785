import TezosNode.Proofs.Json.Escaping
import TezosNode.Proofs.Json.Parts
import TezosNode.Proofs.Json.Writing

set_option autoImplicit false

/-!
# JSON: texts of values

A text is read as a value wherever it stands, if nothing follows it that continues a number.
`Reads` says so of a text, and `ReadsItems` and `ReadsFields` of what stands between the brackets
of an array and of an object.  They are put together as texts are: elements with a comma and any
blanks between them, brackets with any blanks inside.  So every layout of a value that uses blanks
only is read as the value.

The fuel for a text is twice its length; what stands between brackets needs one more, for the step
to its first part.
-/

namespace TezosNode.Json

/-! ## Texts -/

/-- Whether a text begins as a value does: with no blank, and not with the bracket that ends an
array. -/
def BeginsValue (text : List Char) : Prop :=
  ∃ c rest, text = c :: rest ∧ isBlank c = false ∧ c ≠ ']'

namespace BeginsValue

variable {text : List Char}

theorem append (h : BeginsValue text) (rest : List Char) : BeginsValue (text ++ rest) := by
  obtain ⟨c, more, rfl, hblank, hbracket⟩ := h
  exact ⟨c, more ++ rest, rfl, hblank, hbracket⟩

theorem skipBlanks_eq (h : BeginsValue text) : skipBlanks text = text := by
  obtain ⟨c, more, rfl, hblank, -⟩ := h
  exact skipBlanks_cons hblank more

theorem ne_bracket (h : BeginsValue text) (more : List Char) : text ≠ ']' :: more := by
  obtain ⟨c, rest, rfl, -, hbracket⟩ := h
  exact fun heq => hbracket (List.cons.inj heq).1

theorem length_pos (h : BeginsValue text) : 0 < text.length := by
  obtain ⟨c, rest, rfl, -, -⟩ := h
  exact Nat.succ_pos _

end BeginsValue

/-- A numeral begins as a value does. -/
theorem beginsValue_of_isWriting {c : Char} (hc : Numeral.IsWriting c) (more : List Char) :
    BeginsValue (c :: more) := by
  refine ⟨c, more, rfl, isBlank_of_isWriting hc, ?_⟩
  rintro rfl
  rcases hc with hdigit | hsign
  · exact absurd hdigit (by decide)
  · exact absurd hsign (by decide)

/-- Whether a text is read as a value wherever it stands. -/
structure Reads (v : Json) (text : List Char) : Prop where
  begins : BeginsValue text
  value_eq {fuel : Nat} {rest : List Char} (hfuel : 2 * text.length ≤ fuel)
    (hrest : EndsNumber rest) : value fuel (text ++ rest) = .ok (v, rest)

/-- Whether a text is read as the elements of an array up to the bracket that ends it. -/
structure ReadsItems (items : List Json) (text : List Char) : Prop where
  begins : BeginsValue text
  elements_eq {fuel : Nat} {blanks : List Char} (hfuel : 2 * text.length + 1 ≤ fuel)
    (hblanks : AreBlanks blanks) (read : List Json) (rest : List Char) :
    elements fuel read (text ++ (blanks ++ ']' :: rest)) =
      .ok (.array (read.reverse ++ items), rest)

/-- Whether a text is read as the members of an object up to the brace that ends it. -/
structure ReadsFields (fields : List (String × Json)) (text : List Char) : Prop where
  begins : ∃ more, text = '"' :: more
  members_eq {fuel : Nat} {blanks : List Char} (hfuel : 2 * text.length + 1 ≤ fuel)
    (hblanks : AreBlanks blanks) (read : List (String × Json)) (rest : List Char) :
    members fuel read (text ++ (blanks ++ '\x7d' :: rest)) =
      .ok (.object (fieldsOf (read.reverse ++ fields)), rest)

/-- It is enough to look at a text with fuel for its first step. -/
theorem Reads.of_succ {v : Json} {text : List Char} (hbegins : BeginsValue text)
    (hvalue : ∀ {fuel rest}, 2 * text.length ≤ fuel + 1 → EndsNumber rest →
      value (fuel + 1) (text ++ rest) = .ok (v, rest)) : Reads v text where
  begins := hbegins
  value_eq {fuel rest} hfuel hrest := by
    have hsome := hbegins.length_pos
    obtain ⟨less, rfl⟩ : ∃ less, fuel = less + 1 := ⟨fuel - 1, by omega⟩
    exact hvalue hfuel hrest

/-- Blanks before a bracket or a brace end a number, too. -/
theorem endsNumber_close {blanks : List Char} (hblanks : AreBlanks blanks) {c : Char}
    (hc : c = ']' ∨ c = '\x7d') (rest : List Char) : EndsNumber (blanks ++ c :: rest) := by
  refine .append_areBlanks hblanks (endsNumber_cons rest ?_)
  rcases hc with rfl | rfl <;> decide

/-! ## Words, numbers and strings -/

theorem reads_null : Reads .null "null".toList :=
  .of_succ ⟨'n', "ull".toList, rfl, by decide, by decide⟩ fun _ _ => rfl

theorem reads_true : Reads (.bool true) "true".toList :=
  .of_succ ⟨'t', "rue".toList, rfl, by decide, by decide⟩ fun _ _ => rfl

theorem reads_false : Reads (.bool false) "false".toList :=
  .of_succ ⟨'f', "alse".toList, rfl, by decide, by decide⟩ fun _ _ => rfl

/-- A numeral is read as its integer, if it does not have too many digits. -/
theorem reads_integer {n : Int} (hfew : Numeral.size n ≤ Numeral.maxDigits) :
    Reads (.integer n) (toString n).toList := by
  obtain ⟨c, more, htext⟩ := List.exists_cons_of_ne_nil (Numeral.toList_toString_ne_nil n)
  have hwriting : Numeral.IsWriting c := by
    apply Numeral.isWriting_of_mem_toString (n := n)
    rw [htext]
    exact List.mem_cons_self
  refine .of_succ (htext ▸ beginsValue_of_isWriting hwriting more) fun _ hrest => ?_
  rw [value_toString, number_toString n hrest, if_neg (Nat.not_lt.2 hfew)]

theorem reads_string (s : String) : Reads (.string s) (stringText s) :=
  .of_succ ⟨'"', _, rfl, by decide, by decide⟩ fun _ _ => value_stringText _ s _

/-! ## Arrays -/

/-- A last element. -/
theorem ReadsItems.one {v : Json} {text : List Char} (h : Reads v text) : ReadsItems [v] text where
  begins := h.begins
  elements_eq {fuel blanks} hfuel hblanks read rest := by
    obtain ⟨less, rfl⟩ : ∃ less, fuel = less + 1 := ⟨fuel - 1, by omega⟩
    have hvalue := h.value_eq (by omega : 2 * text.length ≤ less)
      (endsNumber_close hblanks (.inl rfl) rest)
    rw [elements_last read hvalue, List.reverse_cons]
    rw [skipBlanks_append hblanks, skipBlanks_cons (by decide)]

/-- An element with others after it. -/
theorem ReadsItems.cons {v : Json} {items : List Json} {text gap more : List Char}
    (h : Reads v text) (hgap : AreBlanks gap) (hmore : ReadsItems items more) :
    ReadsItems (v :: items) (text ++ ',' :: (gap ++ more)) where
  begins := h.begins.append _
  elements_eq {fuel blanks} hfuel hblanks read rest := by
    obtain ⟨less, rfl⟩ : ∃ less, fuel = less + 1 := ⟨fuel - 1, by omega⟩
    rw [List.length_append, List.length_cons, List.length_append] at hfuel
    have hvalue := h.value_eq (by omega : 2 * text.length ≤ less)
      (endsNumber_cons (gap ++ (more ++ (blanks ++ ']' :: rest))) (by decide : _ ∧ ',' ≠ _ ∧ _))
    have hskip : skipBlanks (gap ++ (more ++ (blanks ++ ']' :: rest))) =
        more ++ (blanks ++ ']' :: rest) := by
      rw [skipBlanks_append hgap, (hmore.begins.append _).skipBlanks_eq]
    rw [List.append_assoc, List.cons_append, List.append_assoc,
      elements_next read hvalue (skipBlanks_cons (by decide) _), hskip,
      hmore.elements_eq (by omega) hblanks, List.reverse_cons, List.append_assoc,
      List.singleton_append]

/-- An array in its brackets. -/
theorem Reads.array {items : List Json} {text before after : List Char}
    (h : ReadsItems items text) (hbefore : AreBlanks before) (hafter : AreBlanks after) :
    Reads (.array items) ('[' :: (before ++ (text ++ (after ++ [']'])))) := by
  refine .of_succ ⟨'[', _, rfl, by decide, by decide⟩ fun {fuel rest} hfuel _ => ?_
  simp only [List.length_cons, List.length_append] at hfuel
  simp only [List.cons_append, List.append_assoc, List.nil_append]
  have hbegins := h.begins.append (after ++ ']' :: rest)
  rw [value_array (by rw [skipBlanks_append hbefore, hbegins.skipBlanks_eq]) hbegins.ne_bracket,
    h.elements_eq (by omega) hafter, List.reverse_nil, List.nil_append]

theorem reads_empty_array : Reads (.array []) ['[', ']'] :=
  .of_succ ⟨'[', _, rfl, by decide, by decide⟩ fun _ _ => by
    simp only [List.cons_append, List.nil_append, value,
      skipBlanks_cons (by decide : isBlank ']' = false)]

/-! ## Objects -/

section Fields

variable {n : String} {v : Json} {text : List Char}

/-- The text of a member. -/
def memberText (n : String) (text : List Char) : List Char := stringText n ++ ':' :: ' ' :: text

theorem memberText_append (n : String) (text rest : List Char) :
    memberText n text ++ rest = memberText n (text ++ rest) := by
  simp [memberText]

theorem length_memberText (n : String) (text : List Char) :
    text.length + 2 ≤ (memberText n text).length := by
  simp only [memberText, List.length_append, List.length_cons]
  omega

theorem name_memberText (n : String) (h : BeginsValue text) :
    name (memberText n text) = .ok (n, text) :=
  name_stringText n h.skipBlanks_eq

/-- A last member. -/
theorem ReadsFields.one (n : String) (h : Reads v text) :
    ReadsFields [(n, v)] (memberText n text) where
  begins := ⟨_, rfl⟩
  members_eq {fuel blanks} hfuel hblanks read rest := by
    obtain ⟨less, rfl⟩ : ∃ less, fuel = less + 1 := ⟨fuel - 1, by omega⟩
    have hlength := length_memberText n text
    have hvalue := h.value_eq (by omega : 2 * text.length ≤ less)
      (endsNumber_close hblanks (.inr rfl) rest)
    rw [memberText_append, members_last read (name_memberText n (h.begins.append _)) hvalue,
      List.reverse_cons]
    rw [skipBlanks_append hblanks, skipBlanks_cons (by decide)]

/-- A member with others after it. -/
theorem ReadsFields.cons (n : String) {fields : List (String × Json)} {gap more : List Char}
    (h : Reads v text) (hgap : AreBlanks gap) (hmore : ReadsFields fields more) :
    ReadsFields ((n, v) :: fields) (memberText n text ++ ',' :: (gap ++ more)) where
  begins := ⟨_, rfl⟩
  members_eq {fuel blanks} hfuel hblanks read rest := by
    obtain ⟨less, rfl⟩ : ∃ less, fuel = less + 1 := ⟨fuel - 1, by omega⟩
    have hlength := length_memberText n text
    rw [List.length_append, List.length_cons, List.length_append] at hfuel
    have hvalue := h.value_eq (by omega : 2 * text.length ≤ less)
      (endsNumber_cons (gap ++ (more ++ (blanks ++ '\x7d' :: rest))) (by decide : _ ∧ ',' ≠ _ ∧ _))
    have hskip : skipBlanks (gap ++ (more ++ (blanks ++ '\x7d' :: rest))) =
        more ++ (blanks ++ '\x7d' :: rest) := by
      obtain ⟨first, hfirst⟩ := hmore.begins
      rw [skipBlanks_append hgap, hfirst]
      exact skipBlanks_cons (by decide) _
    rw [List.append_assoc, List.cons_append, List.append_assoc, memberText_append,
      members_next read (name_memberText n (h.begins.append _)) hvalue
        (skipBlanks_cons (by decide) _), hskip,
      hmore.members_eq (by omega) hblanks, List.reverse_cons, List.append_assoc,
      List.singleton_append]

/-- An object in its braces, if no name comes twice. -/
theorem Reads.object {fields : List (String × Json)} {before after : List Char}
    (hnames : (fields.map Prod.fst).Nodup) (h : ReadsFields fields text)
    (hbefore : AreBlanks before) (hafter : AreBlanks after) :
    Reads (.object fields) ('\x7b' :: (before ++ (text ++ (after ++ ['\x7d'])))) := by
  refine .of_succ ⟨'\x7b', _, rfl, by decide, by decide⟩ fun {fuel rest} hfuel _ => ?_
  simp only [List.length_cons, List.length_append] at hfuel
  simp only [List.cons_append, List.append_assoc, List.nil_append]
  have hopen : skipBlanks (before ++ (text ++ (after ++ '\x7d' :: rest))) =
      text ++ (after ++ '\x7d' :: rest) := by
    obtain ⟨first, hfirst⟩ := h.begins
    rw [skipBlanks_append hbefore, hfirst]
    exact skipBlanks_cons (by decide) _
  have hbrace : ∀ more, text ++ (after ++ '\x7d' :: rest) ≠ '\x7d' :: more := by
    obtain ⟨first, hfirst⟩ := h.begins
    rw [hfirst]
    exact fun more heq => absurd (List.cons.inj heq).1 (by decide)
  rw [value_object hopen hbrace, h.members_eq (by omega) hafter, List.reverse_nil,
    List.nil_append, fieldsOf_of_nodup hnames]

theorem reads_empty_object : Reads (.object []) ['\x7b', '\x7d'] :=
  .of_succ ⟨'\x7b', _, rfl, by decide, by decide⟩ fun _ _ => by
    simp only [List.cons_append, List.nil_append, value,
      skipBlanks_cons (by decide : isBlank '\x7d' = false)]

end Fields

/-! ## Documents -/

/-- A text of a value is a document that is the value, with any blanks around it. -/
theorem Reads.parse {v : Json} {text before after : List Char} (h : Reads v text)
    (hbefore : AreBlanks before) (hafter : AreBlanks after) :
    Json.parse (before ++ (text ++ after)) = .ok v := by
  have hlength : (before ++ (text ++ after)).length = before.length + (text.length + after.length) := by
    rw [List.length_append, List.length_append]
  unfold Json.parse readText
  rw [skipBlanks_append hbefore, (h.begins.append after).skipBlanks_eq,
    h.value_eq (by omega) (endsNumber_of_areBlanks hafter)]
  dsimp only
  rw [skipBlanks_eq_nil_iff.2 hafter]
  rfl

end TezosNode.Json
