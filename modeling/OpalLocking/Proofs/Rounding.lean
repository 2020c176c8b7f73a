/-
Whether provisioning notices that a drive rounded the bounds of a range.

Bounds are submitted in blocks and compared in sectors. A drive that rounds down is always found out
(`Geometry.le_of_blocksToSectors`). The way back from blocks rounds down itself and stops at the largest byte count, so
a drive that reports more blocks than it was given may go unnoticed, and `rounding_caught_iff` says exactly when.
-/
import OpalLocking.Proofs.ProvisioningCalls
import OpalLocking.Proofs.Sharing

namespace OpalLocking

/-! ## The way back from blocks -/

namespace Geometry

variable {g : Geometry} {sectors blocks reported : UInt64}

theorem sectorsToBlocks_eq_some_iff :
    g.sectorsToBlocks sectors = some blocks ↔
      g.blockSize ≠ 0 ∧ sectors.toNat * sectorSize < UInt64.size ∧
        blocks.toNat * g.blockSize.toNat = sectors.toNat * sectorSize := by
  have sized : g.blockSize.toNat ≠ 0 ↔ g.blockSize ≠ 0 := not_congr (UInt32.toNat_inj (b := 0))
  unfold sectorsToBlocks
  dsimp only
  constructor
  · intro h
    split at h
    · next whole =>
      obtain ⟨fits, size, divides⟩ := whole
      cases h
      have small : sectors.toNat * sectorSize / g.blockSize.toNat < UInt64.size :=
        Nat.lt_of_le_of_lt (Nat.div_le_self _ _) fits
      rw [UInt64.toNat_ofNat_of_lt' small]
      exact ⟨sized.1 size, fits, Nat.div_mul_cancel (Nat.dvd_of_mod_eq_zero divides)⟩
    · cases h
  · rintro ⟨size, fits, same⟩
    have positive : 0 < g.blockSize.toNat := Nat.pos_of_ne_zero (sized.2 size)
    rw [if_pos ⟨fits, sized.2 size, by rw [← same, Nat.mul_mod_left]⟩, ← same, Nat.mul_div_cancel _ positive,
      UInt64.ofNat_toNat]

theorem toNat_blocksToSectors (g : Geometry) (blocks : UInt64) :
    (g.blocksToSectors blocks).toNat =
      min (blocks.toNat * g.blockSize.toNat) (UInt64.size - 1) / sectorSize := by
  refine UInt64.toNat_ofNat_of_lt' (Nat.lt_of_le_of_lt (Nat.div_le_self _ _) ?_)
  exact Nat.lt_of_le_of_lt (Nat.min_le_right _ _) (by decide)

/-- Blocks read back as the sectors whose bytes they begin in, if their own bytes can be counted. -/
theorem blocksToSectors_eq_iff :
    g.blocksToSectors reported = sectors ↔
      sectors.toNat * sectorSize ≤ min (reported.toNat * g.blockSize.toNat) (UInt64.size - 1) ∧
        min (reported.toNat * g.blockSize.toNat) (UInt64.size - 1) < (sectors.toNat + 1) * sectorSize := by
  rw [← UInt64.toNat_inj, toNat_blocksToSectors, Nat.div_eq_iff (by decide)]
  have step : (sectors.toNat + 1) * sectorSize = sectors.toNat * sectorSize + sectorSize := Nat.succ_mul _ _
  have sector : sectorSize = 512 := rfl
  omega

/-- No fewer blocks than those of a whole number of sectors read back as these sectors. -/
theorem le_of_blocksToSectors (whole : g.sectorsToBlocks sectors = some blocks)
    (reads : g.blocksToSectors reported = sectors) : blocks ≤ reported := by
  obtain ⟨size, -, same⟩ := sectorsToBlocks_eq_some_iff.1 whole
  have least := Nat.le_trans (blocksToSectors_eq_iff.1 reads).1 (Nat.min_le_left _ _)
  have positive : 0 < g.blockSize.toNat := Nat.pos_of_ne_zero fun none => size (UInt32.toNat_inj.1 none)
  rw [← same] at least
  exact UInt64.le_iff_toNat_le.2 (Nat.le_of_mul_le_mul_right least positive)

/-- A block is no smaller than a sector, and these sectors are not the last ones whose bytes can be counted. -/
def Unambiguous (g : Geometry) (sectors : UInt64) : Prop :=
  sectorSize ≤ g.blockSize.toNat ∧ (sectors.toNat + 1) * sectorSize < UInt64.size

instance : Decidable (g.Unambiguous sectors) :=
  inferInstanceAs (Decidable (_ ∧ _))

theorem eq_of_unambiguous (clear : g.Unambiguous sectors) (whole : g.sectorsToBlocks sectors = some blocks)
    (reads : g.blocksToSectors reported = sectors) : reported = blocks := by
  obtain ⟨-, -, same⟩ := sectorsToBlocks_eq_some_iff.1 whole
  obtain ⟨-, most⟩ := blocksToSectors_eq_iff.1 reads
  obtain ⟨wide, countable⟩ := clear
  have counted : reported.toNat * g.blockSize.toNat < (sectors.toNat + 1) * sectorSize := by omega
  -- The next block begins behind the last byte of these sectors.
  have next : (sectors.toNat + 1) * sectorSize ≤ (blocks.toNat + 1) * g.blockSize.toNat := by
    rw [Nat.succ_mul, Nat.succ_mul, same]
    omega
  have upper := Nat.lt_of_mul_lt_mul_right (Nat.lt_of_lt_of_le counted next)
  have lower := UInt64.le_iff_toNat_le.1 (le_of_blocksToSectors whole reads)
  exact UInt64.toNat_inj.1 (by omega)

/-- One block more reads back as the same sectors, if blocks are small or the sectors are the last ones. -/
theorem blocksToSectors_succ (vague : ¬ g.Unambiguous sectors) (whole : g.sectorsToBlocks sectors = some blocks) :
    blocks + 1 ≠ blocks ∧ g.blocksToSectors (blocks + 1) = sectors := by
  obtain ⟨size, fits, same⟩ := sectorsToBlocks_eq_some_iff.1 whole
  have positive : 0 < g.blockSize.toNat := Nat.pos_of_ne_zero fun none => size (UInt32.toNat_inj.1 none)
  have fewer : blocks.toNat ≤ sectors.toNat * sectorSize := same ▸ Nat.le_mul_of_pos_right _ positive
  have room : sectors.toNat * sectorSize + sectorSize ≤ UInt64.size := by
    simp only [sectorSize, UInt64.size] at fits ⊢
    omega
  have sector : sectorSize = 512 := rfl
  have next : (blocks + 1).toNat = blocks.toNat + 1 := by
    rw [UInt64.toNat_add]
    refine Nat.mod_eq_of_lt (Nat.lt_of_lt_of_le ?_ room)
    show blocks.toNat + 1 < _
    omega
  refine ⟨fun h => ?_, blocksToSectors_eq_iff.2 ?_⟩
  · rw [h] at next
    omega
  · have vague : g.blockSize.toNat < sectorSize ∨ UInt64.size ≤ (sectors.toNat + 1) * sectorSize :=
      (Decidable.not_and_iff_or_not.1 vague).imp Nat.not_le.1 Nat.not_lt.1
    rw [next, Nat.succ_mul, Nat.succ_mul, same]
    rw [Nat.succ_mul] at vague
    omega

/-- Sectors are read back from no other blocks than their own exactly if nothing is ambiguous about them. -/
theorem unique_iff_unambiguous (whole : g.sectorsToBlocks sectors = some blocks) :
    (∀ reported, g.blocksToSectors reported = sectors → reported = blocks) ↔ g.Unambiguous sectors := by
  constructor
  · intro unique
    refine Decidable.by_contra fun vague => ?_
    obtain ⟨other, reads⟩ := blocksToSectors_succ vague whole
    exact other (unique _ reads)
  · exact fun clear reported reads => eq_of_unambiguous clear whole reads

end Geometry

/-! ## Whole blocks -/

/-- Both bounds can be counted in bytes and fill whole blocks of this size. -/
structure Provision.WholeBlocks (p : Provision) (size : UInt32) : Prop where
  sized : size ≠ 0
  startFits : p.start.toNat * sectorSize < UInt64.size
  lengthFits : p.length.toNat * sectorSize < UInt64.size
  start : size.toNat ∣ p.start.toNat * sectorSize
  length : size.toNat ∣ p.length.toNat * sectorSize

/-- The blocks that sectors fill, if these are whole blocks. -/
def blocksOf (size : UInt32) (sectors : UInt64) : UInt64 :=
  .ofNat (sectors.toNat * sectorSize / size.toNat)

/-- The bounds in blocks of this size. -/
def Provision.inBlocks (p : Provision) (size : UInt32) : BlockBounds where
  start := blocksOf size p.start
  length := blocksOf size p.length

theorem Geometry.sectorsToBlocks_eq (g : Geometry) (sectors : UInt64) :
    g.sectorsToBlocks sectors =
      if g.blockSize ≠ 0 ∧ sectors.toNat * sectorSize < UInt64.size ∧ g.blockSize.toNat ∣ sectors.toNat * sectorSize
      then some (blocksOf g.blockSize sectors) else none := by
  have sized : g.blockSize.toNat ≠ 0 ↔ g.blockSize ≠ 0 := not_congr (UInt32.toNat_inj (b := 0))
  unfold sectorsToBlocks
  simp only [sized, Nat.dvd_iff_mod_eq_zero, and_left_comm]
  rfl

/-- Provisioning can be carried out with these bounds in blocks, and no others. -/
theorem Provision.wholeBlocks_iff {p : Provision} {g : Geometry} :
    (∃ bounds : BlockBounds, g.sectorsToBlocks p.start = some bounds.start ∧
        g.sectorsToBlocks p.length = some bounds.length) ↔ p.WholeBlocks g.blockSize := by
  simp only [Geometry.sectorsToBlocks_eq]
  constructor
  · rintro ⟨bounds, start, length⟩
    split at start
    · next startWhole =>
      split at length
      · next lengthWhole =>
        exact ⟨startWhole.1, startWhole.2.1, lengthWhole.2.1, startWhole.2.2, lengthWhole.2.2⟩
      · cases length
    · cases start
  · rintro ⟨sized, startFits, lengthFits, start, length⟩
    exact ⟨p.inBlocks g.blockSize, if_pos ⟨sized, startFits, start⟩, if_pos ⟨sized, lengthFits, length⟩⟩

/-! ## What was submitted and what is reported -/

/-- The bounds in blocks that a call asks a range to be configured with. -/
def Request.submittedBounds? : Request → Option BlockBounds
  | .setupRange setup => some ⟨setup.start, setup.length⟩
  | _ => none

namespace Exchange

/-- The bounds in blocks that a range is reported to have. -/
def reportedBounds? : Exchange → Option BlockBounds
  | ⟨.getRangeStatus _ _, a⟩ => some ⟨a.reading.start, a.reading.length⟩
  | _ => none

/-- The geometry that a query is answered with. -/
def reportedGeometry? : Exchange → Option Geometry
  | ⟨.getGeometry _, a⟩ => some (.ofReading a.reading)
  | _ => none

end Exchange

/-- Every geometry query is answered with this geometry. -/
def Reports (g : Geometry) (xs : List Exchange) : Prop :=
  ∀ other ∈ xs.filterMap Exchange.reportedGeometry?, other = g

instance (g : Geometry) (xs : List Exchange) : Decidable (Reports g xs) :=
  inferInstanceAs (Decidable (∀ other ∈ _, other = g))

/-- A range is configured once, and is reported last of all with the bounds that were submitted for it. -/
def ReportedAsSubmitted (xs : List Exchange) : Prop :=
  ∃ bounds, (xs.map (·.request)).filterMap Request.submittedBounds? = [bounds] ∧
    xs.getLast?.bind Exchange.reportedBounds? = some bounds

variable {p : Provision} {g : Geometry} {bounds reported : BlockBounds} {x : Exchange} {xs : List Exchange}

theorem Reports.of_mem (reports : Reports g xs) {a : Answer (.getGeometry default)} (mem : ⟨_, a⟩ ∈ xs) :
    Geometry.ofReading a.reading = g :=
  reports _ (List.mem_filterMap.2 ⟨_, mem, rfl⟩)

namespace Provision

theorem submittedBounds?_calls (enabled : Bool) (erasure : Erasure) :
    (p.calls enabled erasure bounds).filterMap Request.submittedBounds? = [bounds] := by
  cases enabled <;> cases erasure <;> rfl

/-- On a drive with one geometry, provisioning that succeeds has submitted the bounds in blocks once, and has read back
bounds in blocks last that are the same in sectors. -/
theorem Course.reported_of_ok (course : p.Course xs (.ok ())) (reports : Reports g xs) :
    ∃ bounds reported : BlockBounds,
      g.sectorsToBlocks p.start = some bounds.start ∧ g.sectorsToBlocks p.length = some bounds.length ∧
      (xs.map (·.request)).filterMap Request.submittedBounds? = [bounds] ∧
      xs.getLast?.bind Exchange.reportedBounds? = some reported ∧
      g.blocksToSectors reported.start = p.start ∧ g.blocksToSectors reported.length = p.length := by
  cases course with
  | unreadable _ fails | unfit _ _ fails => exact absurd fails not_failsAs_ok
  | @planned a first bounds erasure ys _ _ fits run =>
    obtain ⟨passes, before, second, b, rfl, start, length, -⟩ := run.ok_iff.1 rfl
    have sameFirst : Geometry.ofReading first.reading = g := reports.of_mem (by simp)
    have sameSecond : Geometry.ofReading second.reading = g := reports.of_mem (by simp)
    obtain ⟨-, startFits, lengthFits⟩ := fits
    rw [sameFirst] at startFits lengthFits
    rw [sameSecond] at start length
    refine ⟨bounds, ⟨b.reading.start, b.reading.length⟩, startFits, lengthFits, ?_, ?_, start, length⟩
    · rw [List.map_cons, List.map_cons, run.complete passes]
      exact submittedBounds?_calls _ _
    · simp [List.getLast?_cons, Exchange.reportedBounds?]

end Provision

/-! ## Drives that always answer the same -/

/-- A drive that gives each request an answer of its own, at any time. -/
def Drive.constant (answers : (r : Request) → Answer r) : Drive Unit where
  opening s := (.ok (), s)
  answer s r := (answers r, s)

theorem Drive.Path.answers_of_constant {answers : (r : Request) → Answer r} {s s' : Unit} {t : Trace}
    (path : (Drive.constant answers).Path s t s') : ∀ x ∈ t.exchanges, x.answer = answers x.request := by
  induction path with
  | nil => nofun
  | called _ ih => exact List.forall_mem_cons.2 ⟨rfl, ih⟩
  | opened _ ih | logged _ ih | acquired _ ih | released _ ih => exact ih

/-- The reading of a geometry. -/
def Geometry.reading (g : Geometry) : GeometryReading :=
  { align := if g.alignmentRequired then 1 else 0
    blockSize := g.blockSize
    granularity := g.granularity
    lowest := g.lowestAligned }

theorem Geometry.ofReading_reading (g : Geometry) : Geometry.ofReading g.reading = g := by
  obtain ⟨aligned, size, granularity, lowest⟩ := g
  cases aligned <;> rfl

/-- Everything is granted, the geometry is the given one, and every range lies at the given bounds and is locked. -/
def obliging (g : Geometry) (reported : BlockBounds) : (r : Request) → Answer r
  | .getStatus submitted => ⟨.success, submitted⟩
  | .getGeometry _ => ⟨.success, g.reading⟩
  | .getRangeStatus _ _ => ⟨.success, ⟨reported.start, reported.length, 1, 1, LockState.locked.word⟩⟩
  | .takeOwnership _ | .activateLsp _ | .setPassword _ | .activateUser _ | .setupRange _ | .addUserToRange _
  | .eraseRange _ | .secureEraseRange _ | .psidRevert _ | .lockUnlock _ | .saveForResume _ => ⟨.success, ()⟩

namespace Exchange

theorem passes_of_obliging (granted : x.answer = obliging g reported x.request) (sized : g.blockSize ≠ 0) :
    x.Passes := by
  obtain ⟨request, a⟩ := x
  dsimp only at granted
  subst granted
  cases request with
  | eraseRange => trivial
  | getGeometry => exact ⟨rfl, sized⟩
  | _ => rfl

theorem reportedBounds?_of_obliging {other : BlockBounds} (granted : x.answer = obliging g reported x.request)
    (reports : x.reportedBounds? = some other) : other = reported := by
  obtain ⟨request, a⟩ := x
  dsimp only at granted
  subst granted
  cases request with
  | getRangeStatus => exact (Option.some.inj reports).symm
  | _ => cases reports

theorem reportedGeometry?_of_obliging {other : Geometry} (granted : x.answer = obliging g reported x.request)
    (reports : x.reportedGeometry? = some other) : other = g := by
  obtain ⟨request, a⟩ := x
  dsimp only at granted
  subst granted
  cases request with
  | getGeometry => exact (Option.some.inj reports).symm.trans g.ofReading_reading
  | _ => cases reports

end Exchange

/-- A plan that was carried out to its end ends with the two answers that it is judged by. -/
theorem Provision.exists_readBack {enabled : Bool} {erasure : Erasure}
    (calls : xs.map (·.request) = p.calls enabled erasure bounds) :
    ∃ (before : List Exchange) (geometry : Answer (.getGeometry default))
      (a : Answer (readRequest p.segment p.volumeKey)), xs = before ++ [⟨_, geometry⟩, ⟨_, a⟩] := by
  rw [calls_eq] at calls
  obtain ⟨before, last, rfl, -, two⟩ := List.map_eq_append_iff.1 calls
  match last, two with
  | [⟨_, geometry⟩, ⟨_, a⟩], rfl => exact ⟨before, geometry, a, rfl⟩

/-- On such a drive provisioning succeeds if the bounds read back as the sectors they were asked for. -/
theorem Provision.Course.ok_of_obliging {r : Except Error Unit} (course : p.Course xs r)
    (granted : ∀ x ∈ xs, x.answer = obliging g reported x.request)
    (start : g.sectorsToBlocks p.start = some bounds.start) (length : g.sectorsToBlocks p.length = some bounds.length)
    (startReads : g.blocksToSectors reported.start = p.start)
    (lengthReads : g.blocksToSectors reported.length = p.length) : r = .ok () := by
  have sized := (Geometry.sectorsToBlocks_eq_some_iff.1 start).1
  have geometry : ∀ a : Answer (.getGeometry default), ⟨_, a⟩ ∈ xs → a = ⟨.success, g.reading⟩ :=
    fun a mem => granted ⟨_, a⟩ mem
  cases course with
  | @unreadable a _ why =>
    obtain rfl : a = ⟨.success, default⟩ := granted ⟨_, a⟩ (by simp)
    cases why
  | @unfit a first _ _ why =>
    obtain rfl := geometry first (by simp)
    rw [← g.ofReading_reading] at start length
    exact absurd ⟨⟨rfl, sized⟩, start, length⟩ (why bounds)
  | @planned a first _ erasure ys _ _ _ run =>
    have passes : ∀ x ∈ ys, x.Passes := fun x mem =>
      Exchange.passes_of_obliging (granted x (.tail _ (.tail _ mem))) sized
    obtain ⟨before, second, b, rfl⟩ := exists_readBack (run.complete passes)
    obtain rfl := geometry second (by simp)
    obtain rfl : b = ⟨.success, ⟨reported.start, reported.length, 1, 1, LockState.locked.word⟩⟩ :=
      granted ⟨_, b⟩ (by simp)
    rw [← g.ofReading_reading] at startReads lengthReads
    have enabled : (1 : UInt32) ≠ 0 := by decide
    exact run.ok_iff.2 ⟨passes, before, _, _, rfl, startReads, lengthReads, enabled, enabled, rfl⟩

/-! ## Whether rounding is caught -/

/-- On every drive that reports this geometry, provisioning that succeeds has left the range with the bounds in blocks
that were submitted, as the drive reports it. -/
def RoundingCaught (p : Provision) (g : Geometry) : Prop :=
  ∀ {σ : Type} (d : Drive σ) (s : σ) (device : String),
    let run := ((Operation.setup p).procedure device).run d s
    Reports g run.trace.exchanges → run.result = .ok .nothing → ReportedAsSubmitted run.trace.exchanges

theorem RoundingCaught.unique (caught : RoundingCaught p g) (valid : p.check = .ok ())
    (start : g.sectorsToBlocks p.start = some bounds.start) (length : g.sectorsToBlocks p.length = some bounds.length)
    (startReads : g.blocksToSectors reported.start = p.start)
    (lengthReads : g.blocksToSectors reported.length = p.length) : reported = bounds := by
  let run := ((Operation.setup p).procedure "").run (.constant (obliging g reported)) ()
  have caught : Reports g run.trace.exchanges → run.result = .ok .nothing →
      ReportedAsSubmitted run.trace.exchanges := caught _ _ _
  have path : (Drive.constant (obliging g reported)).Path () run.trace run.drive := Procedure.run_path _ _ _
  have amid : (Drive.constant (obliging g reported)).Amid nobody () run.trace run.drive := path.amid
  have course : (Operation.setup p).Course run.trace.exchanges run.result :=
    Operation.course_of_amid (P := fun _ => True) _ valid (fun _ _ => rfl) (fun _ _ _ _ => trivial) trivial
      (Procedure.run_yields _ _ _) amid
  have granted := path.answers_of_constant
  generalize run.trace.exchanges = xs at caught course granted
  generalize run.result = r at caught course
  have reports : Reports g xs := fun other mem => by
    obtain ⟨x, there, shown⟩ := List.mem_filterMap.1 mem
    exact Exchange.reportedGeometry?_of_obliging (granted x there) shown
  cases course with
  | setup course =>
    obtain rfl := course.ok_of_obliging granted start length startReads lengthReads
    obtain ⟨submitted, once, last⟩ := caught reports rfl
    obtain ⟨own, -, ownStart, ownLength, also, -⟩ := course.reported_of_ok reports
    obtain rfl : submitted = own := by
      rw [once] at also
      exact List.head_eq_of_cons_eq also
    obtain ⟨x, there, shown⟩ := Option.bind_eq_some_iff.1 last
    rw [← Exchange.reportedBounds?_of_obliging (granted x (List.mem_of_getLast? there)) shown]
    exact BlockBounds.ext (Option.some.inj (ownStart.symm.trans start)) (Option.some.inj (ownLength.symm.trans length))

/-- Rounding is caught for arguments that provisioning refuses anyway, and otherwise exactly if neither bound is
ambiguous in blocks of the drive. -/
theorem rounding_caught_iff (p : Provision) (g : Geometry) :
    RoundingCaught p g ↔
      (p.check = .ok () → ∀ bounds, p.blockBounds g = .ok bounds → g.Unambiguous p.start ∧ g.Unambiguous p.length) := by
  constructor
  · intro caught valid bounds fits
    obtain ⟨_, same, start, length⟩ | ⟨-, _, failed, -⟩ := Provision.blockBounds_cases fits
    · cases same
      have startBack := Geometry.blocksToSectors_of_sectorsToBlocks start
      have lengthBack := Geometry.blocksToSectors_of_sectorsToBlocks length
      constructor
      · refine (Geometry.unique_iff_unambiguous start).1 fun reported reads => ?_
        have same : (⟨reported, bounds.length⟩ : BlockBounds) = bounds :=
          caught.unique valid start length reads lengthBack
        exact congrArg BlockBounds.start same
      · refine (Geometry.unique_iff_unambiguous length).1 fun reported reads => ?_
        have same : (⟨bounds.start, reported⟩ : BlockBounds) = bounds :=
          caught.unique valid start length startBack reads
        exact congrArg BlockBounds.length same
    · cases failed
  · intro clear σ d s device run reports ok
    have yields : ((Operation.setup p).procedure device).Yields run.trace run.result := Procedure.run_yields _ _ _
    have course := Operation.procedure_course yields
    generalize run.trace.exchanges = xs at *
    generalize run.result = r at *
    rcases course with ⟨-, _, rfl⟩ | ⟨valid, course⟩
    · cases ok
    · cases course with
      | @setup _ _ r course =>
        cases r with
        | error => cases ok
        | ok =>
          obtain ⟨bounds, reported, start, length, once, last, startReads, lengthReads⟩ := course.reported_of_ok reports
          have fits : p.blockBounds g = .ok bounds := by simp [Provision.blockBounds, start, length]
          obtain ⟨startClear, lengthClear⟩ := clear valid bounds fits
          obtain rfl : reported = bounds :=
            BlockBounds.ext (Geometry.eq_of_unambiguous startClear start startReads)
              (Geometry.eq_of_unambiguous lengthClear length lengthReads)
          exact ⟨reported, once, last⟩

/-- Four blocks of 512 bytes behind the boot sectors of a scripted drive, reported as they were submitted. -/
theorem rounding_caught_iff_sectors :
    let p : Provision := ⟨1, 64, 4, [1], [2]⟩
    let s : Script := {
      answers := [(.getGeometry, [{ status := .success, blockSize := some 512 }]),
        (.getRangeStatus, [{
          status := .success, start := some 64, length := some 4, readLock := some 1, writeLock := some 1,
          state := some 4 }])] }
    let run := ((Operation.setup p).procedure "d").run Script.drive s
    run.result = .ok .nothing ∧ RoundingCaught p ⟨false, 512, 0, 0⟩ ∧ ReportedAsSubmitted run.trace.exchanges := by
  intro p s run
  have ok : run.result = .ok .nothing := eq_ok_of_toOption (by decide +kernel)
  have reports : Reports ⟨false, 512, 0, 0⟩ run.trace.exchanges := by decide +kernel
  have caught : RoundingCaught p ⟨false, 512, 0, 0⟩ :=
    (rounding_caught_iff p ⟨false, 512, 0, 0⟩).2 fun _ _ _ => by decide +kernel
  exact ⟨ok, caught, caught Script.drive s "d" reports ok⟩

/-- A range whose first sector is the last one that a drive can have, at a block size of one sector. The drive puts it
one block further, where the byte counts end, and nobody notices. -/
theorem rounding_missed :
    let p : Provision := ⟨1, 36028797018963967, 8, [1], [2]⟩
    let s : Script := {
      answers := [(.getGeometry, [{ status := .success, blockSize := some 512 }]),
        (.getRangeStatus, [{
          status := .success, start := some 36028797018963968, length := some 8, readLock := some 1,
          writeLock := some 1, state := some 4 }])] }
    let run := ((Operation.setup p).procedure "d").run Script.drive s
    Reports ⟨false, 512, 0, 0⟩ run.trace.exchanges ∧ run.result = .ok .nothing ∧
      ¬ ReportedAsSubmitted run.trace.exchanges := by
  intro p s run
  refine ⟨by decide +kernel, eq_ok_of_toOption (by decide +kernel), ?_⟩
  rintro ⟨bounds, once, last⟩
  have submitted : (run.trace.exchanges.map (·.request)).filterMap Request.submittedBounds? =
      [⟨36028797018963967, 8⟩] := by decide +kernel
  have reported : run.trace.exchanges.getLast?.bind Exchange.reportedBounds? = some ⟨36028797018963968, 8⟩ := by
    decide +kernel
  rw [submitted] at once
  rw [reported, ← List.head_eq_of_cons_eq once] at last
  revert last
  decide

end OpalLocking
