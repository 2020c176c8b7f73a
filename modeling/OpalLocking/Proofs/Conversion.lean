/-
Bounds in sectors and in blocks, there and back.

Sectors are converted to blocks exactly or not at all (`Geometry.sectorsToBlocks_eq_some_iff`). Blocks are always converted
to sectors: their bytes are counted without a bound, cut off at the largest 64-bit count and rounded down to whole
sectors. So the way back undoes the way there, and the other way round only if neither the cut nor the rounding took
anything away.
-/
import OpalLocking.Proofs.Rounding

namespace OpalLocking.Geometry

variable {g : Geometry} {blocks fewer more : UInt64}

/-- Blocks whose bytes can be counted are rounded down to whole sectors, and nothing else is done to them. -/
theorem toNat_blocksToSectors_of_lt (countable : blocks.toNat * g.blockSize.toNat < UInt64.size) :
    (g.blocksToSectors blocks).toNat = blocks.toNat * g.blockSize.toNat / sectorSize := by
  rw [toNat_blocksToSectors, Nat.min_eq_left (Nat.le_sub_one_of_lt countable)]

theorem blocksToSectors_mono (le : fewer ≤ more) : g.blocksToSectors fewer ≤ g.blocksToSectors more := by
  have bytes := Nat.mul_le_mul_right g.blockSize.toNat (UInt64.le_iff_toNat_le.1 le)
  rw [UInt64.le_iff_toNat_le, toNat_blocksToSectors, toNat_blocksToSectors]
  refine Nat.div_le_div_right ?_
  omega

/-- Blocks survive the way to sectors and back exactly if their bytes can be counted and fill whole sectors. -/
theorem sectorsToBlocks_blocksToSectors_iff :
    g.sectorsToBlocks (g.blocksToSectors blocks) = some blocks ↔
      g.blockSize ≠ 0 ∧ blocks.toNat * g.blockSize.toNat < UInt64.size ∧
        sectorSize ∣ blocks.toNat * g.blockSize.toNat := by
  rw [sectorsToBlocks_eq_some_iff]
  constructor
  · rintro ⟨sized, fits, same⟩
    exact ⟨sized, same ▸ fits, same ▸ Nat.dvd_mul_left _ _⟩
  · rintro ⟨sized, countable, whole⟩
    rw [toNat_blocksToSectors_of_lt countable, Nat.div_mul_cancel whole]
    exact ⟨sized, countable, rfl⟩

/-- For every block size, zero included: sectors are converted exactly if their bytes can be counted and fill whole blocks,
and such blocks are converted to the sectors they came from. Blocks are converted without wrapping around, whatever their
number; more of them never come to fewer sectors, and as long as their bytes can be counted these are rounded down.
Blocks that go to sectors and back never become more, and stay as many exactly if their bytes can be counted and fill whole
sectors. -/
theorem conversions_inverse (g : Geometry) :
    (∀ sectors blocks, g.sectorsToBlocks sectors = some blocks ↔
      g.blockSize ≠ 0 ∧ sectors.toNat * sectorSize < UInt64.size ∧
        blocks.toNat * g.blockSize.toNat = sectors.toNat * sectorSize) ∧
    (∀ sectors blocks, g.sectorsToBlocks sectors = some blocks → g.blocksToSectors blocks = sectors) ∧
    (∀ blocks, (g.blocksToSectors blocks).toNat =
      min (blocks.toNat * g.blockSize.toNat) (UInt64.size - 1) / sectorSize) ∧
    (∀ fewer more, fewer ≤ more → g.blocksToSectors fewer ≤ g.blocksToSectors more) ∧
    (∀ blocks, blocks.toNat * g.blockSize.toNat < UInt64.size →
      (g.blocksToSectors blocks).toNat = blocks.toNat * g.blockSize.toNat / sectorSize) ∧
    ∀ blocks back, g.sectorsToBlocks (g.blocksToSectors blocks) = some back →
      back ≤ blocks ∧
        (back = blocks ↔
          blocks.toNat * g.blockSize.toNat < UInt64.size ∧ sectorSize ∣ blocks.toNat * g.blockSize.toNat) := by
  refine ⟨fun _ _ => sectorsToBlocks_eq_some_iff, fun _ _ => blocksToSectors_of_sectorsToBlocks,
    g.toNat_blocksToSectors, fun _ _ => blocksToSectors_mono, fun _ => toNat_blocksToSectors_of_lt, ?_⟩
  intro blocks back whole
  have sized := (sectorsToBlocks_eq_some_iff.1 whole).1
  refine ⟨le_of_blocksToSectors whole rfl, ?_⟩
  constructor
  · rintro rfl
    exact (sectorsToBlocks_blocksToSectors_iff.1 whole).2
  · intro exactly
    have survives := sectorsToBlocks_blocksToSectors_iff.2 ⟨sized, exactly⟩
    exact Option.some.inj (whole.symm.trans survives)

/-- Five blocks of 256 bytes come back as four. With blocks of 4096 bytes the largest number of sectors that is converted
comes back as it was, and twice as many blocks are cut off. -/
theorem conversions_inverse_small :
    let small : Geometry := ⟨false, 256, 0, 0⟩
    let large : Geometry := ⟨false, 4096, 0, 0⟩
    small.sectorsToBlocks (small.blocksToSectors 5) = some 4 ∧ (4 : UInt64) ≤ 5 ∧ ¬ sectorSize ∣ 5 * 256 ∧
      large.sectorsToBlocks 36028797018963960 = some 4503599627370495 ∧
      large.blocksToSectors 4503599627370495 = 36028797018963960 ∧
      large.blocksToSectors 4503599627370495 ≤ large.blocksToSectors 9007199254740990 ∧
      (large.blocksToSectors 9007199254740990).toNat = 36028797018963967 := by
  intro small large
  obtain ⟨-, -, -, -, -, back⟩ := conversions_inverse small
  obtain ⟨-, inverse, bytes, mono, -, -⟩ := conversions_inverse large
  have four : small.sectorsToBlocks (small.blocksToSectors 5) = some 4 := by decide
  have largest : large.sectorsToBlocks 36028797018963960 = some 4503599627370495 := by decide
  obtain ⟨fewer, same⟩ := back 5 4 four
  have partly : ¬ sectorSize ∣ 5 * 256 := fun whole => absurd (same.2 ⟨by decide, whole⟩) (by decide)
  exact ⟨four, fewer, partly, largest, inverse _ _ largest, mono _ _ (by decide),
    (bytes _).trans (by decide)⟩

end OpalLocking.Geometry
