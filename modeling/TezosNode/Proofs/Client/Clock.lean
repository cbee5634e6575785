import TezosNode.Proofs.Client.Run

set_option autoImplicit false

/-!
# Client: the clock

A call tells the time that it has taken in milliseconds, as a double.  The clock of a
machine shows signed words of 64 bits, and the time between any two of those is a finite
double, so that with such a clock no call fails for its measurement.
-/

namespace TezosNode

/-! ## Finite quotients -/

namespace Binary64

/-- The exponent for a quotient is no more than the numerator asks for. -/
theorem exponentFor_le (num den : Nat) :
    exponentFor num den ≤ max ((num.log2 : Int) - 53) leastExponent + 1 := by
  have hbase : max ((num.log2 : Int) - (den.log2 : Int) - 53) leastExponent ≤
      max ((num.log2 : Int) - 53) leastExponent := by
    omega
  unfold exponentFor
  dsimp only
  split
  · omega
  · omega

/-- A numerator far below the greatest double makes no infinite quotient. -/
theorem ofRatio_ne_infinite {num : Nat} (hnum : num.log2 ≤ 1000) (negative : Bool) (den : Nat)
    (sign : Bool) : ofRatio negative num den ≠ .infinite sign := by
  have hexponent : exponentFor num den + 1 ≤ greatestExponent := by
    have hle := exponentFor_le num den
    simp only [leastExponent, greatestExponent] at hle ⊢
    omega
  unfold ofRatio
  split
  · simp [zero]
  · dsimp only
    split
    · rw [if_neg (by omega)]
      simp
    · rw [if_neg (by omega)]
      simp

end Binary64

/-! ## Readings of the clock -/

/-- The first number that is too great for a reading of the clock, `2 ^ 63`. -/
def clockBound : Int := 0x8000000000000000

namespace Session

/-- Every reading of the clock is a signed word of 64 bits. -/
def ClockInRange (s : Session) : Prop := ∀ t ∈ s.clock, -clockBound ≤ t ∧ t < clockBound

instance (s : Session) : Decidable s.ClockInRange :=
  inferInstanceAs (Decidable (∀ t ∈ s.clock, -clockBound ≤ t ∧ t < clockBound))

theorem mem_of_mem_laterReadings {t : Int} {clock : List Int}
    (hmem : t ∈ laterReadings clock) : t ∈ clock := by
  match clock, hmem with
  | [_], hmem => exact hmem
  | _ :: _ :: _, hmem => exact List.mem_cons_of_mem _ hmem

theorem ClockInRange.tick {s : Session} (hclock : s.ClockInRange) : s.tick.ClockInRange :=
  fun t hmem => hclock t (mem_of_mem_laterReadings hmem)

theorem ClockInRange.time {s : Session} (hclock : s.ClockInRange) :
    -clockBound ≤ s.time ∧ s.time < clockBound := by
  unfold Session.time
  cases hreadings : s.clock with
  | nil => decide
  | cons t rest =>
    exact hclock t (by simp [hreadings])

/-- The time between two looks at the clock can be told. -/
theorem ClockInRange.exists_milliseconds {s : Session} (hclock : s.ClockInRange) :
    ∃ duration, milliseconds? s.time s.tick.time = some duration := by
  obtain ⟨hstartLow, hstartHigh⟩ := hclock.time
  obtain ⟨hstopLow, hstopHigh⟩ := hclock.tick.time
  have hspan : (s.tick.time - s.time).natAbs < 0x10000000000000000 := by
    simp only [clockBound] at hstartLow hstartHigh hstopLow hstopHigh
    omega
  have hlog : (s.tick.time - s.time).natAbs.log2 ≤ 1000 := by
    by_cases hzero : (s.tick.time - s.time).natAbs = 0
    · rw [hzero]
      decide
    · have hlt := (Nat.log2_lt (k := 64) hzero).2 (by simpa using hspan)
      omega
  unfold milliseconds?
  split
  · rename_i sign hinfinite
    exact absurd hinfinite (Binary64.ofRatio_ne_infinite hlog _ _ sign)
  · exact ⟨_, rfl⟩

end Session

end TezosNode
