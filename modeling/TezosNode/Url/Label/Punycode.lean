set_option autoImplicit false

/-!
# Labels: the form in ASCII

A label with code points beyond ASCII is sent in ASCII: its characters of ASCII come
first, then a hyphen if there are any, and then digits that say which other code points
are inserted where.  The digits make numbers of any size, each of which is the way from
one insertion to the next, where the code points are visited in ascending order and for
each of them every place of the label.

`decode?` reads that form and `encode` writes it.  A number ends with its first digit below a
threshold, and the thresholds are adapted to the numbers before.
-/

namespace TezosNode.Url.Label.Punycode

/-! ## Digits -/

/-- The number of the digits. -/
def base : Nat := 36

/-- The value of a digit: a letter of lower case, or one of the decimal digits, which come
after the letters. -/
def digit? (c : Char) : Option Nat :=
  if 'a' ≤ c ∧ c ≤ 'z' then some (c.toNat - 'a'.toNat)
  else if c.isDigit then some (c.toNat - '0'.toNat + 26)
  else none

/-- The value below which the digit at a place is the last of its number. -/
def threshold (bias place : Nat) : Nat := max 1 (min 26 (base * (place + 1) - bias))

/-- Reads a number, lowest digit first, from a place on, where a digit counts `weight`
times; returns the text after it. -/
def number? (bias place weight : Nat) : List Char → Option (Nat × List Char)
  | [] => none
  | c :: rest =>
    match digit? c with
    | none => none
    | some d =>
      let t := threshold bias place
      if d < t then some (d * weight, rest)
      else (number? bias (place + 1) (weight * (base - t)) rest).map fun r =>
        (d * weight + r.1, r.2)

/-- A number has a digit, so the text after it is shorter. -/
theorem length_lt_of_number? {bias place weight n : Nat} {text rest : List Char}
    (h : number? bias place weight text = some (n, rest)) : rest.length < text.length := by
  induction text generalizing place weight n rest with
  | nil => simp [number?] at h
  | cons c cs ih =>
    unfold number? at h
    split at h
    · simp at h
    · dsimp only at h
      split at h
      · simp_all
      · obtain ⟨r, hr, he⟩ := Option.map_eq_some_iff.1 h
        have hlt : r.2.length < cs.length := ih hr
        simp only [Prod.mk.injEq] at he
        simp only [List.length_cons, ← he.2]
        omega

/-! ## Adapting the thresholds -/

/-- The bias that a reduced number gives, after the higher places have been counted. -/
def biasFrom (places delta : Nat) : Nat :=
  if 455 < delta then biasFrom (places + base) (delta / 35)
  else places + base * delta / (delta + 38)
termination_by delta

/-- The bias for the next number after one that has led to an insertion. -/
def adapt (damp size delta : Nat) : Nat :=
  let reduced := delta / damp
  biasFrom 0 (reduced + reduced / size)

/-! ## Insertions -/

/-- Where the next insertion is counted from, and how its number is read. -/
structure Cursor where
  code : Nat
  place : Nat
  bias : Nat
  /-- what the number is divided by before the bias is adapted to it -/
  damp : Nat
  deriving DecidableEq, Repr, Inhabited

/-- The cursor before all insertions. -/
def Cursor.start : Cursor := ⟨0x80, 0, 72, 700⟩

/-- The greatest code point. -/
def maxCode : Nat := 0x10FFFF

/-- Makes the insertions that a text of digits gives. -/
def insertAll? (cursor : Cursor) (codes : List Nat) (digits : List Char) : Option (List Nat) :=
  if digits.isEmpty then some codes
  else
    match h : number? cursor.bias 0 1 digits with
    | none => none
    | some (delta, rest) =>
      let size := codes.length + 1
      let way := cursor.place + delta
      let code := cursor.code + way / size
      let place := way % size
      if maxCode < code then none
      else
        insertAll? ⟨code, place + 1, adapt cursor.damp size delta, 2⟩
          (codes.insertIdx place code) rest
termination_by digits.length
decreasing_by exact length_lt_of_number? h

/-- The label of a form in ASCII. -/
def decode? (text : List Char) : Option (List Nat) :=
  let digits := (text.reverse.takeWhile (· != '-')).reverse
  let plain := (text.take (text.length - digits.length)).dropLast
  insertAll? .start (plain.map Char.toNat) digits

/-! ## Writing -/

/-- The digit of a value below the base. -/
def digit (value : Nat) : Char :=
  if value < 26 then Char.ofNat ('a'.toNat + value) else Char.ofNat ('0'.toNat + (value - 26))

theorem threshold_pos (bias place : Nat) : 0 < threshold bias place :=
  Nat.lt_of_lt_of_le Nat.zero_lt_one (Nat.le_max_left _ _)

/-- The digits of a number from a place on, lowest first. -/
def digits (bias place n : Nat) : List Char :=
  let t := threshold bias place
  if n < t then [digit n]
  else digit (t + (n - t) % (base - t)) :: digits bias (place + 1) ((n - t) / (base - t))
termination_by n
decreasing_by
  have hpos := threshold_pos bias place
  have hle : (n - threshold bias place) / (base - threshold bias place) ≤
      n - threshold bias place := Nat.div_le_self _ _
  omega

/-- The code points of a label beyond ASCII with their positions, in the order in which they are
inserted. -/
def insertions (label : List Nat) : List (Nat × Nat) :=
  (label.zipIdx.filter fun p => 0x80 ≤ p.1).mergeSort fun p q => p.1 ≤ q.1

/-- The digits of insertions into a label of which `size - 1` code points are there. -/
def writeAll (label : List Nat) (cursor : Cursor) (size : Nat) : List (Nat × Nat) → List Char
  | [] => []
  | (code, position) :: rest =>
    -- what is there before it are the code points that are not greater
    let place := (label.take position).countP (· ≤ code)
    let delta := (code - cursor.code) * size + place - cursor.place
    digits cursor.bias 0 delta
      ++ writeAll label ⟨code, place + 1, adapt cursor.damp size delta, 2⟩ (size + 1) rest

/-- The form in ASCII of a label. -/
def encode (label : List Nat) : List Char :=
  let plain := (label.filter (· < 0x80)).map Char.ofNat
  (if plain.isEmpty then [] else plain ++ ['-'])
    ++ writeAll label .start (plain.length + 1) (insertions label)

end TezosNode.Url.Label.Punycode
