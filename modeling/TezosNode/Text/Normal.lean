import TezosNode.Text.Composition
import TezosNode.Text.Mark

set_option autoImplicit false

/-!
# Text: the composed normal form

Whether a text is in the normal form C.  A text is brought into it in three steps: each
code point is taken apart, marks are put in the order of their combining classes, and
each starter is composed with the marks after it, as far as no mark between them stands
in the way.
-/

namespace TezosNode.Text

/-! ## Taking apart -/

/-- The code points that a code point stands for, where it may stand for pairs whose
first code point stands for a pair again, `depth` times. -/
def decomposeFrom : (depth : Nat) → Nat → List Nat
  | 0, code => [code]
  | depth + 1, code =>
    match decomposition? code with
    | some (first, second) => decomposeFrom depth first ++ [second]
    | none => [code]

/-- The code points that a code point stands for.  No pair is more than three deep. -/
def decompose (code : Nat) : List Nat := decomposeFrom 3 code

/-! ## The order of marks -/

/-- Puts a code point before others, a mark after those of a lower class. -/
def insertMark (code : Nat) : List Nat → List Nat
  | [] => [code]
  | other :: rest =>
    if combiningClass other ≠ 0 ∧ combiningClass other < combiningClass code then
      other :: insertMark code rest
    else code :: other :: rest

/-- Code points with the marks after each starter in the order of their classes; those
of one class keep their order. -/
def orderMarks (codes : List Nat) : List Nat := codes.foldr insertMark []

/-! ## Composing -/

/-- Whether the marks since a starter, latest first, keep a code point from it. -/
def isBlocked (marks : List Nat) (code : Nat) : Bool :=
  match marks with
  | [] => false
  | last :: _ => combiningClass code ≤ combiningClass last

/-- Composes a starter with what comes after it and after the marks that have not been
composed with it, latest first. -/
def composeFrom (starter : Nat) (marks : List Nat) : List Nat → List Nat
  | [] => starter :: marks.reverse
  | code :: rest =>
    match if isBlocked marks code then none else compose? starter code with
    | some composed => composeFrom composed marks rest
    | none =>
      if combiningClass code = 0 then starter :: marks.reverse ++ composeFrom code [] rest
      else composeFrom starter (code :: marks) rest

/-- Composes code points whose marks are in order. -/
def compose : List Nat → List Nat
  | [] => []
  | code :: rest => composeFrom code [] rest

/-! ## The form -/

/-- Whether code points are in the composed normal form. -/
def isComposed (codes : List Nat) : Bool :=
  codes.all (!inRanges uncomposedRanges ·)
    && compose (orderMarks (codes.flatMap decompose)) == codes

end TezosNode.Text
