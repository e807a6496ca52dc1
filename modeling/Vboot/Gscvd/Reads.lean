import Vboot.Gscvd.Validate

/-!
# The regions `validate_gscvd` reads

`validate_gscvd` reads the header at the `RO_GSCVD` offset field by field, and none of its
checks compares `ro_gscvd->area_size`, `gvd->size` or `file->len` with the regions it reads.
What `verify_ranges` does bound are the ranges handed to `vb2_digest_extend`: each lies
inside `WP_RO` and misses `RO_GSCVD`, unless its end passes `2^32` (`range_fits` adds in
`uint32_t`).
-/
namespace Vboot

theorem Region.Within.trans {r s t : Region} (h₁ : r.Within s) (h₂ : s.Within t) : r.Within t := by
  unfold Region.Within at *
  omega

section Reads

variable (L : GvdLayout) (K : Vb2Constants) (E : GscvdEnv)

/-- A run starts with the fields `validate_gvd` reads from the header at the `RO_GSCVD`
offset. -/
theorem validateGscvd_reads_validateGvd (img : ApImage) (hash : Option (Nat → BitVec 8))
    {a : FmapAreaHeader} (ha : img.roGscvd = some a) :
    (validateGvd L E img (img.gvdAt a.areaOffset.toNat)).2.map (L.fieldRead a.areaOffset.toNat) <+:
      (validateGscvd L K E img hash).2 := by
  rw [validateGscvd, ha]
  dsimp only
  by_cases hv : (validateGvd L E img (img.gvdAt a.areaOffset.toNat)).1 ≠ 0
  · rw [dif_pos hv]
  rw [dif_neg hv]
  split_ifs <;> simp only [List.append_assoc] <;> exact List.prefix_append _ _

/-- Once `gv_magic` matched, `validate_gvd` reads `range_count`. -/
theorem rangeCount_mem_validateGvd {img : ApImage} {gvd : GvdHeader} (h : gvd.gvMagic = L.magic) :
    .rangeCount ∈ (validateGvd L E img gvd).2 := by
  unfold validateGvd
  rw [if_neg (not_not.mpr h)]
  split_ifs <;> decide

theorem digestExtendLoop_regions (handed : List Region) (rs : List GscvdRoRange) :
    ∀ x ∈ (digestExtendLoop E handed rs).2, x ∈ handed ∨ ∃ r ∈ rs, x = r.region := by
  induction rs generalizing handed with
  | nil => exact fun x hx => .inl hx
  | cons r rs ih =>
    intro x hx
    simp only [digestExtendLoop] at hx
    split_ifs at hx
    · simp only [List.mem_append, List.mem_singleton] at hx
      rcases hx with hx | rfl
      exacts [.inl hx, .inr ⟨r, List.mem_cons_self _ _, rfl⟩]
    · rcases ih _ x hx with hx | ⟨q, hq, rfl⟩
      · simp only [List.mem_append, List.mem_singleton] at hx
        rcases hx with hx | rfl
        exacts [.inl hx, .inr ⟨r, List.mem_cons_self _ _, rfl⟩]
      · exact .inr ⟨q, List.mem_cons_of_mem _ hq, rfl⟩

theorem calculateRangesDigest_regions (ranges : GscvdRoRanges) (alg : BitVec 32) :
    ∀ x ∈ (calculateRangesDigest E ranges alg).2.1, ∃ r ∈ ranges.ranges, x = r.region := by
  intro x hx
  unfold calculateRangesDigest at hx
  have h := digestExtendLoop_regions E [] ranges.ranges
  generalize digestExtendLoop E [] ranges.ranges = res at h hx
  obtain ⟨ok, handed⟩ := res
  dsimp only at hx
  split_ifs at hx
  · simp at hx
  · simpa using h x hx
  · split at hx <;> simpa using h x hx

/-- `validate_pubk_signature` reads `keyblock_size`, then the keyblock. -/
theorem validatePubkSignature_kinds (img : ApImage) (kblock : Nat) :
    ∀ x ∈ (validatePubkSignature L K E img kblock).2, x.1 = .keyblockSize ∨ x.1 = .keyblock := by
  unfold validatePubkSignature
  dsimp only
  split
  · simp
  split
  · simp
  split
  · simp
  · split <;> simp

theorem validateGvdSignature_kinds (off : Nat) (gvd : GvdHeader) :
    ∀ x ∈ (validateGvdSignature L E off gvd).2, x.1 = .signedData := by
  unfold validateGvdSignature
  split_ifs <;> simp

theorem validateGscvdKeys_kinds (img : ApImage) (hash : Option (Nat → BitVec 8))
    (off : Nat) (gvd : GvdHeader) :
    ∀ x ∈ (validateGscvdKeys L K E img hash off gvd).2,
      x.1 = .rootKeyBody ∨ x.1 = .keyblockSize ∨ x.1 = .keyblock ∨ x.1 = .signedData := by
  have hp := validatePubkSignature_kinds L K E img (off + gvd.size.toNat)
  have hs := validateGvdSignature_kinds L E off gvd
  unfold validateGscvdKeys
  dsimp only
  generalize validatePubkSignature L K E img (off + gvd.size.toNat) = p at hp
  generalize validateGvdSignature L E off gvd = q at hs
  intro x hx
  have hx : x.1 = .rootKeyBody ∨ x ∈ p.2 ∨ x ∈ q.2 := by
    cases hash <;> dsimp only at hx <;> split_ifs at hx <;>
      simp only [List.mem_append, List.nil_append, List.mem_singleton, List.not_mem_nil] at hx
    all_goals first
      | exact .inr (.inl hx)
      | exact .inr hx
      | exact .inl (congrArg Prod.fst hx)
      | exact hx.imp (congrArg Prod.fst) .inl
      | exact (or_assoc.mp hx).imp (congrArg Prod.fst) id
  rcases hx with h | h | h
  exacts [.inl h, .inr ((hp x h).imp_right .inl), .inr (.inr (.inr (hs x h)))]

/-- A read of range data in a list of reads that holds range data only in the middle. -/
theorem mem_of_rangeData {x : GscvdRead × Region} (pre rest : List (GscvdRead × Region))
    {handed : List Region} (hx : x ∈ pre ++ handed.map (GscvdRead.rangeData, ·) ++ rest)
    (hk : x.1 = .rangeData) (hpre : ∀ y ∈ pre, y.1 ≠ .rangeData)
    (hrest : ∀ y ∈ rest, y.1 ≠ .rangeData) : x.2 ∈ handed := by
  rcases List.mem_append.mp hx with hx | hx
  · rcases List.mem_append.mp hx with hx | hx
    · exact absurd hk (hpre x hx)
    · obtain ⟨y, hy, rfl⟩ := List.mem_map.mp hx
      exact hy
  · exact absurd hk (hrest x hx)

theorem validateGscvd_rangeData_source (img : ApImage) (hash : Option (Nat → BitVec 8)) :
    ∀ x ∈ (validateGscvd L K E img hash).2, x.1 = .rangeData →
      ∃ a, img.roGscvd = some a ∧ ∃ h : (validateGvd L E img (img.gvdAt a.areaOffset.toNat)).1 = 0,
        verifyRanges (copyRanges L img a.areaOffset.toNat _ (rangeCount_le_of_validateGvd L E h))
          img.wpRo a = 0 ∧
        ∃ q ∈ (copyRanges L img a.areaOffset.toNat _ (rangeCount_le_of_validateGvd L E h)).ranges,
          x.2 = q.region := by
  intro x hx hk
  cases ha : img.roGscvd with
  | none => simp [validateGscvd, ha] at hx
  | some a =>
    refine ⟨a, rfl, ?_⟩
    unfold validateGscvd at hx
    rw [ha] at hx
    dsimp only at hx
    have hpre : ∀ y ∈ (validateGvd L E img (img.gvdAt a.areaOffset.toNat)).2.map
        (L.fieldRead a.areaOffset.toNat) ++ [(GscvdRead.ranges, Region.mk
          (a.areaOffset.toNat + L.hdrSize) (8 * (img.gvdAt a.areaOffset.toNat).rangeCount.toNat)),
          L.fieldRead a.areaOffset.toNat .hashAlg], y.1 ≠ .rangeData := by
      simp only [List.mem_append, List.mem_map, List.mem_cons, List.not_mem_nil, or_false]
      rintro y (⟨f, -, rfl⟩ | rfl | rfl) <;> simp [GvdLayout.fieldRead]
    have hkeys : ∀ y ∈ L.fieldRead a.areaOffset.toNat .rangesDigest ::
        (validateGscvdKeys L K E img hash a.areaOffset.toNat (img.gvdAt a.areaOffset.toNat)).2,
          y.1 ≠ .rangeData := by
      rintro y (_ | ⟨_, hy⟩)
      · simp [GvdLayout.fieldRead]
      rcases validateGscvdKeys_kinds L K E img hash _ _ y hy with h | h | h | h <;> simp [h]
    by_cases hv : (validateGvd L E img (img.gvdAt a.areaOffset.toNat)).1 ≠ 0
    · rw [dif_pos hv] at hx
      exact absurd hk (hpre x (List.mem_append_left _ hx))
    rw [dif_neg hv] at hx
    split_ifs at hx with hr hrv hdg
    · exact absurd hk (hpre x (by simp only [List.mem_append, List.mem_cons] at hx ⊢; tauto))
    all_goals refine ⟨not_not.mp hv, not_not.mp hr, calculateRangesDigest_regions E _
      (img.gvdAt a.areaOffset.toNat).hashAlg x.2 ?_⟩
    · exact mem_of_rangeData _ [] (by simpa only [List.append_assoc, List.cons_append,
        List.nil_append, List.append_nil] using hx) hk hpre nofun
    · exact mem_of_rangeData _ _ (by simpa only [List.append_assoc, List.cons_append,
        List.nil_append] using hx) hk hpre hkeys
    · exact mem_of_rangeData _ [_] (by simpa only [List.append_assoc, List.cons_append,
        List.nil_append] using hx) hk hpre fun y hy => hkeys y (List.mem_cons.mpr (.inl
          (List.mem_singleton.mp hy)))

/-- Once `gv_magic` matched, `validate_gvd` reads `range_count` from the header at the
`RO_GSCVD` offset, and no check compares the area's size with the header's: from an area that
ends before `range_count` does, that read goes past the area, and from such an area at the end
of the image, past the image. -/
theorem validateGscvd_reads_header_past_area (img : ApImage) (hash : Option (Nat → BitVec 8))
    {a : FmapAreaHeader} (ha : img.roGscvd = some a)
    (hmagic : (img.gvdAt a.areaOffset.toNat).gvMagic = L.magic)
    (hshort : a.areaSize.toNat < (L.fieldAt .rangeCount).offset + (L.fieldAt .rangeCount).size) :
    (GscvdRead.field .rangeCount, L.fieldRegion a.areaOffset.toNat .rangeCount) ∈
        (validateGscvd L K E img hash).2 ∧
      (L.fieldRegion a.areaOffset.toNat .rangeCount).Within ⟨a.areaOffset.toNat, L.hdrSize⟩ ∧
      ¬ (L.fieldRegion a.areaOffset.toNat .rangeCount).Within a.region ∧
      (a.areaOffset.toNat + a.areaSize.toNat = img.len.toNat →
        ¬ (L.fieldRegion a.areaOffset.toNat .rangeCount).Within img.whole) := by
  have hin := L.fieldAt_inside .rangeCount
  refine ⟨(validateGscvd_reads_validateGvd L K E img hash ha).subset
    (List.mem_map_of_mem _ (rangeCount_mem_validateGvd L E hmagic)), ?_, ?_, fun hend => ?_⟩ <;>
    simp only [Region.Within, GvdLayout.fieldRegion, FmapAreaHeader.region, ApImage.whole] <;> omega

/-- A 4 KiB image whose `RO_GSCVD` area is its last 16 bytes, holding the start of a header
with the right magic. -/
def ApImage.shortGscvd : ApImage where
  len := 0x1000
  roGscvd := some ⟨0xff0, 0x10⟩
  wpRo := some ⟨0, 0x1000⟩
  fmapOffset := 0
  gvdAt _ := ⟨0x5253564f, 0, 0, 0, ⟨0, 0⟩, fun _ => 0, 0⟩
  rangeAt _ := ⟨0, 0⟩
  keyblockSizeAt _ := 0

theorem validateGscvd_reads_header_past_area_sample :
    ApImage.shortGscvd.AreasInside ∧
      (GscvdRead.field .rangeCount, Region.mk 0x1080 4) ∈
        (validateGscvd .sample .sample .accepting ApImage.shortGscvd none).2 ∧
      ¬ (Region.mk 0x1080 4).Within ApImage.shortGscvd.whole :=
  have h := validateGscvd_reads_header_past_area .sample .sample .accepting ApImage.shortGscvd none
    rfl rfl (by decide)
  ⟨by decide, h.1, h.2.2.2 rfl⟩

/-- Every region that `validate_gscvd` hands to `vb2_digest_extend` and whose end stays
below `2^32` lies inside `WP_RO` and shares no byte with `RO_GSCVD`, so lies inside an
image whose FMAP areas do. -/
theorem validateGscvd_digest_regions_inside (img : ApImage) (hash : Option (Nat → BitVec 8)) :
    ∀ x ∈ (validateGscvd L K E img hash).2, x.1 = .rangeData →
      x.2.offset + x.2.size < 2 ^ 32 →
      ∃ wp a, img.wpRo = some wp ∧ img.roGscvd = some a ∧ x.2.Within wp.region ∧
        RangesDisjoint x.2.offset x.2.size a.areaOffset.toNat a.areaSize.toNat ∧
        (img.AreasInside → x.2.Within img.whole) := by
  intro x hx hk hnw
  obtain ⟨a, ha, _, hr, q, hq, hxq⟩ := validateGscvd_rangeData_source L K E img hash x hx hk
  obtain ⟨wp, hwp, hchecks, -⟩ := verifyRanges_eq_zero_iff.mp hr
  rw [hxq] at hnw ⊢
  have hin : q.region.Within wp.region := rangeFits_inside (hchecks q hq).1 hnw
  refine ⟨wp, a, hwp, ha, hin, rangeOverlaps_eq_false_disjoint (hchecks q hq).2 hnw,
    fun hai => hin.trans (hai.2 wp hwp)⟩

end Reads

/-- An image of 0x1000 bytes whose second half is `RO_GSCVD`, holding a header of one range
`[0x100, 0x200)` and a digest that the accepting callbacks match. -/
def ApImage.oneRange : ApImage where
  len := 0x1000
  roGscvd := some ⟨0x800, 0x800⟩
  wpRo := some ⟨0, 0x1000⟩
  fmapOffset := 0
  gvdAt _ := ⟨0x5253564f, 0, 0, 0, ⟨0, 0⟩, fun _ => 0, 1⟩
  rangeAt _ := ⟨0x100, 0x100⟩
  keyblockSizeAt _ := 0

example : (validateGscvd .sample .sample .accepting ApImage.oneRange none).1 = 0 := by decide

theorem validateGscvd_digest_regions_inside_sample :
    (GscvdRead.rangeData, Region.mk 0x100 0x100) ∈
        (validateGscvd .sample .sample .accepting ApImage.oneRange none).2 ∧
      ∃ wp a, ApImage.oneRange.wpRo = some wp ∧ ApImage.oneRange.roGscvd = some a ∧
        (Region.mk 0x100 0x100).Within wp.region ∧
        RangesDisjoint 0x100 0x100 a.areaOffset.toNat a.areaSize.toNat ∧
        (ApImage.oneRange.AreasInside → (Region.mk 0x100 0x100).Within ApImage.oneRange.whole) :=
  have hm : (GscvdRead.rangeData, Region.mk 0x100 0x100) ∈
      (validateGscvd .sample .sample .accepting ApImage.oneRange none).2 := by decide
  ⟨hm, validateGscvd_digest_regions_inside .sample .sample .accepting _ none _ hm rfl (by decide)⟩

end Vboot
