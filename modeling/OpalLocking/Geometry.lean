/-
The addressing of a drive, and the conversion between sectors and its own blocks.

Callers count in sectors of 512 bytes, drives in logical blocks of their own size. A sector count is
converted only if it is a whole number of blocks; the way back rounds down and stops at the largest
64-bit byte count. Products are taken without a bound and compared with 2^64 afterwards.
-/
import OpalLocking.Block

namespace OpalLocking

/-- Bytes in a sector. -/
def sectorSize : Nat := 512

/-- The addressing constraints of a drive. -/
structure Geometry where
  alignmentRequired : Bool
  blockSize : UInt32
  granularity : UInt64
  lowestAligned : UInt64
deriving DecidableEq, Repr

namespace Geometry

/-- Only the value one asks for alignment. -/
def ofReading (r : GeometryReading) : Geometry :=
  { alignmentRequired := r.align = 1
    blockSize := r.blockSize
    granularity := r.granularity
    lowestAligned := r.lowest }

/-- The number of blocks that `sectors` fill, if their bytes fit in 64 bits and fill whole blocks. -/
def sectorsToBlocks (g : Geometry) (sectors : UInt64) : Option UInt64 :=
  let bytes := sectors.toNat * sectorSize
  let size := g.blockSize.toNat
  if bytes < UInt64.size ∧ size ≠ 0 ∧ bytes % size = 0 then some (UInt64.ofNat (bytes / size))
  else none

/-- The number of whole sectors in `blocks`, whose bytes are counted up to 2^64 - 1. -/
def blocksToSectors (g : Geometry) (blocks : UInt64) : UInt64 :=
  UInt64.ofNat (min (blocks.toNat * g.blockSize.toNat) (UInt64.size - 1) / sectorSize)

/-- Whole blocks convert back to the sectors they came from. -/
theorem blocksToSectors_of_sectorsToBlocks {g : Geometry} {sectors blocks : UInt64}
    (h : g.sectorsToBlocks sectors = some blocks) : g.blocksToSectors blocks = sectors := by
  unfold sectorsToBlocks at h
  dsimp only at h
  split at h
  · next whole =>
    obtain ⟨fits, sized, divides⟩ := whole
    cases h
    have back : sectors.toNat * sectorSize / g.blockSize.toNat * g.blockSize.toNat = sectors.toNat * sectorSize :=
      Nat.div_mul_cancel (Nat.dvd_of_mod_eq_zero divides)
    have small : sectors.toNat * sectorSize / g.blockSize.toNat < UInt64.size :=
      Nat.lt_of_le_of_lt (Nat.div_le_self _ _) fits
    have most : min (sectors.toNat * sectorSize) (UInt64.size - 1) = sectors.toNat * sectorSize :=
      Nat.min_eq_left (by omega)
    unfold blocksToSectors
    rw [UInt64.toNat_ofNat_of_lt' small, back, most, Nat.mul_div_cancel _ (by decide), UInt64.ofNat_toNat]
  · cases h

end Geometry

end OpalLocking
