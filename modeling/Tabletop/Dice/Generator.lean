import Tabletop.Dice.Source

/-!
# Pseudo-random draws

A source whose draws look random (`Source.ofSeed`). Each draw is worked out from its number and a
seed alone, by mixing the bits of a word of 64 bits.
-/

namespace Tabletop

/-- A word of 64 bits with its bits mixed. -/
def mixBits (z : UInt64) : UInt64 :=
  let z := (z ^^^ (z >>> 30)) * 0xBF58476D1CE4E5B9
  let z := (z ^^^ (z >>> 27)) * 0x94D049BB133111EB
  z ^^^ (z >>> 31)

/-- The word for the draw with a number, counted from zero. -/
def drawBits (seed : UInt64) (k : Nat) : UInt64 :=
  mixBits (seed + (UInt64.ofNat k + 1) * 0x9E3779B97F4A7C15)

/-- A source of draws that look random, as many as its limit. -/
def Source.ofSeed (limit : Nat) (seed : UInt64) : Source :=
  { answer := fun k faces => some (1 + ((drawBits seed k).toNat : Int) % max 1 faces), limit }

theorem Source.ofSeed_answer_mem (limit : Nat) (seed : UInt64) (k : Nat) {faces : Int}
    (h : 1 ≤ faces) :
    ∃ v, (Source.ofSeed limit seed).answer k faces = some v ∧ 1 ≤ v ∧ v ≤ faces := by
  have hm : max 1 faces = faces := by omega
  refine ⟨_, rfl, ?_, ?_⟩
  · have := Int.emod_nonneg ((drawBits seed k).toNat : Int) (by omega : max 1 faces ≠ 0)
    omega
  · have := Int.emod_lt_of_pos ((drawBits seed k).toNat : Int) (by omega : 0 < max 1 faces)
    omega

end Tabletop
