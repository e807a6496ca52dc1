import Mathlib.Data.List.Pairwise
import Mathlib.Data.Nat.Digits

/-!
# The RO ranges of `futility gscvd`

`in_range`, `range_fits`, `range_overlaps` and `verify_ranges` of `futility/cmd_gscvd.c`,
which decide whether the ranges hashed into the GSC verification data may be trusted.
`FmapAreaHeader` (`fmap.h`) and `struct gscvd_ro_range` (`gscvd.h`) are not in the tree;
their offsets and sizes are `uint32_t`, so the sums in `in_range`, in `range_fits` and in
the first test of `range_overlaps` wrap at `2^32`, while the second test of
`range_overlaps` adds in `size_t` (64 bits on the hosts futility runs on).
-/
namespace Vboot

/-- The two fields of `FmapAreaHeader` the range checks read. -/
structure FmapAreaHeader where
  areaOffset : BitVec 32
  areaSize : BitVec 32
  deriving DecidableEq, Repr

/-- `struct gscvd_ro_range`. -/
structure GscvdRoRange where
  offset : BitVec 32
  size : BitVec 32
  deriving DecidableEq, Repr

/-- `MAX_RANGES`. -/
def maxRanges : Nat := 32

/-- `struct gscvd_ro_ranges`: the first `range_count` entries of `ranges`, never more than
the array holds. -/
structure GscvdRoRanges where
  ranges : List GscvdRoRange
  rangeCount_le : ranges.length ≤ maxRanges
  deriving DecidableEq

section Model

def inRange (offset : BitVec 32) (ah : FmapAreaHeader) : Bool :=
  offset ≥ ah.areaOffset && offset ≤ ah.areaOffset + ah.areaSize

def rangeFits (range : GscvdRoRange) (ah : FmapAreaHeader) : Bool :=
  inRange range.offset ah && inRange (range.offset + range.size) ah

/-- `range_overlaps`, whose `size` is a `size_t`. -/
def rangeOverlaps (range : GscvdRoRange) (offset : BitVec 32) (size : BitVec 64) : Bool :=
  if range.offset + range.size ≤ offset ∨ offset.setWidth 64 + size ≤ range.offset.setWidth 64
  then false else true

/-- The inner loop of `verify_ranges`: the errors counted for `range` against the ranges
after it. -/
def overlapErrors (range : GscvdRoRange) : List GscvdRoRange → Nat
  | [] => 0
  | next :: rest =>
    (if rangeOverlaps range next.offset (next.size.setWidth 64) then 1 else 0) +
      overlapErrors range rest

/-- The outer loop of `verify_ranges`, from `ranges->ranges + i` on: `range :: rest` is
`ranges[i..range_count)`, and `rest = []` is the `break` at `i == range_count - 1`. -/
def verifyRangesLoop (wpRo roGscvd : FmapAreaHeader) (errorcount : Nat) :
    List GscvdRoRange → Nat
  | [] => errorcount
  | range :: rest =>
    let errorcount := if !rangeFits range wpRo then errorcount + 1 else errorcount
    let errorcount :=
      if rangeOverlaps range roGscvd.areaOffset (roGscvd.areaSize.setWidth 64) then errorcount + 1
      else errorcount
    if rest = [] then errorcount
    else verifyRangesLoop wpRo roGscvd (errorcount + overlapErrors range rest) rest

/-- `verify_ranges`; `wpRo` is what `fmap_find_by_name` finds for `WP_RO`, and `roGscvd`
is `file->ro_gscvd`. -/
def verifyRanges (ranges : GscvdRoRanges) (wpRo : Option FmapAreaHeader)
    (roGscvd : FmapAreaHeader) : Int :=
  match wpRo with
  | none => 1
  | some wpRo =>
    let errorcount := verifyRangesLoop wpRo roGscvd 0 ranges.ranges
    if errorcount ≠ 0 then -1 else 0

end Model

section Spec

/-- The half-open ranges `[a, a + s)` and `[b, b + t)` share no point. -/
def RangesDisjoint (a s b t : Nat) : Prop := s = 0 ∨ t = 0 ∨ a + s ≤ b ∨ b + t ≤ a

instance (a s b t : Nat) : Decidable (RangesDisjoint a s b t) :=
  inferInstanceAs (Decidable (_ ∨ _ ∨ _ ∨ _))

theorem rangesDisjoint_iff {a s b t : Nat} :
    RangesDisjoint a s b t ↔ ∀ x, ¬ (a ≤ x ∧ x < a + s ∧ b ≤ x ∧ x < b + t) := by
  refine ⟨fun h x hx => by unfold RangesDisjoint at h; omega, fun h => ?_⟩
  have := h (max a b)
  unfold RangesDisjoint
  omega

/-- The range lies inside the area, read as unbounded naturals. -/
def RangeInside (ah : FmapAreaHeader) (r : GscvdRoRange) : Prop :=
  ah.areaOffset.toNat ≤ r.offset.toNat ∧
    r.offset.toNat + r.size.toNat ≤ ah.areaOffset.toNat + ah.areaSize.toNat

instance (ah : FmapAreaHeader) (r : GscvdRoRange) : Decidable (RangeInside ah r) :=
  inferInstanceAs (Decidable (_ ∧ _))

def RangeOutside (ah : FmapAreaHeader) (r : GscvdRoRange) : Prop :=
  RangesDisjoint r.offset.toNat r.size.toNat ah.areaOffset.toNat ah.areaSize.toNat

instance (ah : FmapAreaHeader) (r : GscvdRoRange) : Decidable (RangeOutside ah r) :=
  inferInstanceAs (Decidable (RangesDisjoint _ _ _ _))

def RangePairDisjoint (r r' : GscvdRoRange) : Prop :=
  RangesDisjoint r.offset.toNat r.size.toNat r'.offset.toNat r'.size.toNat

instance (r r' : GscvdRoRange) : Decidable (RangePairDisjoint r r') :=
  inferInstanceAs (Decidable (RangesDisjoint _ _ _ _))

/-- What `verify_ranges` is meant to establish: every range inside `WP_RO`, none
touching `RO_GSCVD`, no two overlapping. -/
def RangesValid (wpRo roGscvd : FmapAreaHeader) (ranges : List GscvdRoRange) : Prop :=
  (∀ r ∈ ranges, RangeInside wpRo r) ∧ (∀ r ∈ ranges, RangeOutside roGscvd r) ∧
    ranges.Pairwise RangePairDisjoint

end Spec

section Loop

variable {wpRo roGscvd : FmapAreaHeader}

/-- What the loops of `verify_ranges` accept: every range fits in `WP_RO` and misses
`RO_GSCVD`, and no range overlaps a later one, each by the code's own tests. -/
def LoopAccepts (wpRo roGscvd : FmapAreaHeader) (ranges : List GscvdRoRange) : Prop :=
  (∀ r ∈ ranges, rangeFits r wpRo = true ∧
    rangeOverlaps r roGscvd.areaOffset (roGscvd.areaSize.setWidth 64) = false) ∧
  ranges.Pairwise fun r r' => rangeOverlaps r r'.offset (r'.size.setWidth 64) = false

theorem overlapErrors_eq_zero {r : GscvdRoRange} {rs : List GscvdRoRange} :
    overlapErrors r rs = 0 ↔ ∀ r' ∈ rs, rangeOverlaps r r'.offset (r'.size.setWidth 64) = false := by
  induction rs with
  | nil => simp [overlapErrors]
  | cons r' rs ih => simp [overlapErrors, ← ih]

theorem le_verifyRangesLoop (e : Nat) (rs : List GscvdRoRange) :
    e ≤ verifyRangesLoop wpRo roGscvd e rs := by
  induction rs generalizing e with
  | nil => exact Nat.le_refl e
  | cons r rs ih =>
    simp only [verifyRangesLoop]
    split_ifs <;> first | omega | exact Nat.le_trans (by omega) (ih _)

theorem verifyRangesLoop_eq_zero_start {e : Nat} {rs : List GscvdRoRange} :
    verifyRangesLoop wpRo roGscvd e rs = 0 ↔ e = 0 ∧ verifyRangesLoop wpRo roGscvd 0 rs = 0 := by
  refine ⟨fun h => ?_, fun ⟨he, h⟩ => he ▸ h⟩
  have he : e = 0 := Nat.eq_zero_of_le_zero (h ▸ le_verifyRangesLoop e rs)
  exact ⟨he, he ▸ h⟩

/-- One round of the outer loop adds no error exactly when its range passes every test. -/
theorem verifyRangesLoop_cons_eq_zero {e : Nat} {r : GscvdRoRange} {rs : List GscvdRoRange} :
    verifyRangesLoop wpRo roGscvd e (r :: rs) = 0 ↔
      e = 0 ∧ rangeFits r wpRo = true ∧
        rangeOverlaps r roGscvd.areaOffset (roGscvd.areaSize.setWidth 64) = false ∧
        overlapErrors r rs = 0 ∧ verifyRangesLoop wpRo roGscvd 0 rs = 0 := by
  by_cases hrs : rs = []
  · subst hrs
    simp only [verifyRangesLoop, overlapErrors, if_true]
    split_ifs <;> simp_all
  · simp only [verifyRangesLoop, if_neg hrs]
    rw [verifyRangesLoop_eq_zero_start]
    split_ifs <;> simp_all [and_assoc]

/-- `verify_ranges`' loops count no error exactly when they accept every range. -/
theorem verifyRangesLoop_eq_zero_iff {rs : List GscvdRoRange} :
    verifyRangesLoop wpRo roGscvd 0 rs = 0 ↔ LoopAccepts wpRo roGscvd rs := by
  induction rs with
  | nil => simp [verifyRangesLoop, LoopAccepts]
  | cons r rs ih =>
    rw [verifyRangesLoop_cons_eq_zero, ih, overlapErrors_eq_zero]
    simp only [LoopAccepts, List.mem_cons, forall_eq_or_imp, List.pairwise_cons]
    tauto

theorem verifyRanges_eq_zero_iff {ranges : GscvdRoRanges} {wpRo : Option FmapAreaHeader} :
    verifyRanges ranges wpRo roGscvd = 0 ↔
      ∃ wp, wpRo = some wp ∧ LoopAccepts wp roGscvd ranges.ranges := by
  cases wpRo with
  | none => simp [verifyRanges]
  | some wp => simp [verifyRanges, verifyRangesLoop_eq_zero_iff]

end Loop

section Checks

variable {r : GscvdRoRange} {ah : FmapAreaHeader}

/-- `range_fits` reads the range's end modulo `2^32`; a range whose end does not wrap
that passes it lies inside the area. -/
theorem rangeFits_inside (h : rangeFits r ah = true)
    (hnw : r.offset.toNat + r.size.toNat < 2 ^ 32) : RangeInside ah r := by
  simp only [rangeFits, inRange, Bool.and_eq_true, decide_eq_true_eq, ge_iff_le, BitVec.le_def,
    BitVec.toNat_add] at h
  unfold RangeInside
  omega

theorem rangeOverlaps_eq_false_disjoint {offset size : BitVec 32}
    (h : rangeOverlaps r offset (size.setWidth 64) = false)
    (hnw : r.offset.toNat + r.size.toNat < 2 ^ 32) :
    RangesDisjoint r.offset.toNat r.size.toNat offset.toNat size.toNat := by
  unfold rangeOverlaps at h
  split_ifs at h with hc
  simp only [BitVec.le_def, BitVec.toNat_add, BitVec.toNat_setWidth] at hc
  unfold RangesDisjoint
  omega

end Checks

section Soundness

/-- `verify_ranges` is sound for ranges whose ends do not wrap at `2^32`: when it returns 0,
`WP_RO` was found, every range lies inside it, none touches `RO_GSCVD` and no two
overlap. -/
theorem verifyRanges_sound_of_no_wrap (ranges : GscvdRoRanges) (wpRo : Option FmapAreaHeader)
    (roGscvd : FmapAreaHeader) (h : verifyRanges ranges wpRo roGscvd = 0)
    (hnw : ∀ r ∈ ranges.ranges, r.offset.toNat + r.size.toNat < 2 ^ 32) :
    ∃ wp, wpRo = some wp ∧ RangesValid wp roGscvd ranges.ranges := by
  obtain ⟨wp, rfl, hchecks, hpair⟩ := verifyRanges_eq_zero_iff.mp h
  refine ⟨wp, rfl, fun r hr => rangeFits_inside (hchecks r hr).1 (hnw r hr),
    fun r hr => rangeOverlaps_eq_false_disjoint (hchecks r hr).2 (hnw r hr), ?_⟩
  exact hpair.imp_of_mem fun hr _ hov => rangeOverlaps_eq_false_disjoint hov (hnw _ hr)

theorem verifyRanges_sound_of_no_wrap_sample :
    verifyRanges ⟨[⟨0x100, 0x100⟩, ⟨0x300, 0x10⟩], by decide⟩ (some ⟨0, 0x1000⟩) ⟨0x800, 0x100⟩ = 0 ∧
      ∃ wp, some ⟨0, 0x1000⟩ = some wp ∧
        RangesValid wp ⟨0x800, 0x100⟩ [⟨0x100, 0x100⟩, ⟨0x300, 0x10⟩] :=
  ⟨by decide, verifyRanges_sound_of_no_wrap ⟨[⟨0x100, 0x100⟩, ⟨0x300, 0x10⟩], by decide⟩
    (some ⟨0, 0x1000⟩) ⟨0x800, 0x100⟩ (by decide) (by decide)⟩

/-- A first range whose end wraps at `2^32` passes every test of `verify_ranges`, yet it
leaves `WP_RO`, covers `RO_GSCVD` and covers the second range. -/
theorem verifyRanges_accepts_wrapping_range :
    verifyRanges ⟨[⟨0x10, 0xfffffff8⟩, ⟨0x900, 0x10⟩], by decide⟩ (some ⟨0, 0x1000⟩)
        ⟨0x800, 0x100⟩ = 0 ∧
      ¬ (∀ r ∈ [⟨0x10, 0xfffffff8⟩, ⟨0x900, 0x10⟩], RangeInside ⟨0, 0x1000⟩ r) ∧
      ¬ (∀ r ∈ [⟨0x10, 0xfffffff8⟩, ⟨0x900, 0x10⟩], RangeOutside ⟨0x800, 0x100⟩ r) ∧
      ¬ [(⟨0x10, 0xfffffff8⟩ : GscvdRoRange), ⟨0x900, 0x10⟩].Pairwise RangePairDisjoint := by
  decide

end Soundness

end Vboot
