/-!
Contract: the generator behind seeded trials.

The generator is a xorshift over one 64-bit word with a multiplication on the
way out. Zero, from which the shifts would never leave, is replaced as a seed.

Owns:
- the generator's state, its step and the numbers that it gives.

Does not own: what the numbers decide.
-/

namespace ContextCache.Trial

/-- A generator by the word that it will step from. -/
structure Random where
  word : UInt64
deriving DecidableEq, Repr

namespace Random

def ofSeed (seed : UInt64) : Random :=
  ⟨if seed = 0 then 0x9e3779b97f4a7c15 else seed⟩

/-- The step of the generator's word: three xorshifts. -/
def step (word : UInt64) : UInt64 :=
  let first := word ^^^ (word >>> 12)
  let second := first ^^^ (first <<< 25)
  second ^^^ (second >>> 27)

def next (random : Random) : UInt64 × Random :=
  let word := step random.word
  (word * 0x2545f4914f6cdd1d, ⟨word⟩)

/-- The next number below `bound`; without a remainder there is none below zero. -/
def below (random : Random) (bound : UInt64) : Option UInt64 × Random :=
  let (number, stepped) := random.next
  (if bound = 0 then none else some (number % bound), stepped)

end Random

inductive Draw where
  | word
  | below (bound : UInt64)
deriving DecidableEq, Repr

/-- Serves draws one after the other, or nothing if one of them has bound zero. -/
def Random.serve : Random → List Draw → Option (List UInt64)
  | _, [] => some []
  | random, .word :: draws =>
    let (number, stepped) := random.next
    (stepped.serve draws).map (number :: ·)
  | random, .below bound :: draws =>
    match random.below bound with
    | (none, _) => none
    | (some number, stepped) => (stepped.serve draws).map (number :: ·)

end ContextCache.Trial
