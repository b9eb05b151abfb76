/-!
Contract: the sequence from which every definition draws its cache hash.

A definition keeps one hash for its whole life. Hashes come from one counter
that advances by the golden ratio of the word size, so consecutive definitions
land far apart in every table whose length is a power of two. The two top bits
are cleared, which bounds the longest table that hashes can tell apart.

Owns:
- the counter, one draw from it and the position after any number of draws.

Does not own: which definition receives which hash, or how a table turns a hash
into a slot.
-/

namespace ContextCache

/-- The golden ratio scaled to a 32-bit word. It is odd, hence any `2 ^ m`
consecutive multiples of it differ modulo `2 ^ m`. -/
def hashIncrement : UInt32 := 0x61c88647

/-- The bits that a cache hash may have: thirty of them. -/
def hashMask : UInt32 := 0x3fffffff

/-- The counter behind the hashes. It wraps around the 32-bit word. -/
structure HashCounter where
  position : UInt32
deriving DecidableEq, Repr

namespace HashCounter

/-- The counter as a program finds it at its start. -/
def initial : HashCounter := ⟨0⟩

/-- The counter after `draws` further draws. -/
def advance (counter : HashCounter) (draws : Nat) : HashCounter :=
  ⟨counter.position + UInt32.ofNat draws * hashIncrement⟩

/-- The hash that the next draw returns. -/
def hash (counter : HashCounter) : UInt32 :=
  counter.position &&& hashMask

/-- Draws one hash. -/
def draw (counter : HashCounter) : UInt32 × HashCounter :=
  (counter.hash, counter.advance 1)

/-- The next `count` hashes in the order in which they are drawn. -/
def drawMany (counter : HashCounter) (count : Nat) : List UInt32 :=
  (List.range count).map fun index => (counter.advance index).hash

theorem advance_zero (counter : HashCounter) : counter.advance 0 = counter := by
  simp [advance]

theorem advance_advance (counter : HashCounter) (first second : Nat) :
    (counter.advance first).advance second = counter.advance (first + second) := by
  simp only [advance, UInt32.ofNat_add]
  rw [UInt32.add_mul, UInt32.add_assoc]

/-- Many draws are one draw after the other. -/
theorem drawMany_succ (counter : HashCounter) (count : Nat) :
    counter.drawMany (count + 1) = counter.draw.1 :: counter.draw.2.drawMany count := by
  unfold drawMany draw
  rw [List.range_succ_eq_map, List.map_cons, List.map_map, advance_zero]
  refine congrArg (List.cons _) (List.map_congr_left ?_)
  intro index _
  rw [advance_advance, Nat.add_comm 1 index]
  rfl

end HashCounter

end ContextCache
