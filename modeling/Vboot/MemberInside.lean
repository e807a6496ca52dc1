import Vboot.Basic

/-!
# Bounds of a member inside its parent

`vb2_offset_of` and `vb2_verify_member_inside` of `2common.c` on a 64-bit machine. A
pointer, a `size_t` and a `ptrdiff_t` are all 64-bit words; every addition wraps, a
comparison of two `ptrdiff_t` is signed, and a comparison of a `ptrdiff_t` with a
`size_t` is unsigned, by the usual arithmetic conversions.
-/
namespace Vboot

section Model

variable (K : Vb2Constants)

/-- `vb2_offset_of`. -/
def vb2OffsetOf (base ptr : BitVec 64) : BitVec 64 := ptr - base

/-- `vb2_verify_member_inside`. -/
def vb2VerifyMemberInside (parent parentSize member memberSize memberDataOffset
    memberDataSize : BitVec 64) : BitVec 32 :=
  let parentEnd := parent + parentSize
  let memberOffs := vb2OffsetOf parent member
  let memberEndOffs := memberOffs + memberSize
  let dataOffs := memberOffs + memberDataOffset
  let dataEndOffs := dataOffs + memberDataSize
  if parentEnd < parent then K.error .insideParentWraps
  else if memberEndOffs.slt memberOffs then K.error .insideMemberWraps
  else if memberOffs.slt 0 ∨ memberOffs > parentSize ∨ memberEndOffs > parentSize then
    K.error .insideMemberOutside
  else if memberDataSize > 0 ∧ dataOffs.slt memberEndOffs then K.error .insideDataOverlap
  else if dataEndOffs.slt dataOffs then K.error .insideDataWraps
  else if dataOffs.slt 0 ∨ dataOffs > parentSize ∨ dataEndOffs > parentSize then
    K.error .insideDataOutside
  else vb2Success

/-- The containment the check stands for, over unbounded integers: the parent does not
wrap, the member and its data lie inside the parent, and nonempty data starts after the
member's header. `memberDataOffset` is read as the signed `ptrdiff_t` it is. -/
def MemberInside (parent parentSize member memberSize memberDataOffset
    memberDataSize : BitVec 64) : Prop :=
  parent.toNat + parentSize.toNat < 2 ^ 64 ∧
    parent.toNat ≤ member.toNat ∧
    member.toNat + memberSize.toNat ≤ parent.toNat + parentSize.toNat ∧
    (parent.toNat : Int) ≤ member.toNat + memberDataOffset.toInt ∧
    member.toNat + memberDataOffset.toInt + memberDataSize.toNat ≤
      (parent.toNat + parentSize.toNat : Nat) ∧
    (memberDataSize.toNat = 0 ∨ (memberSize.toNat : Int) ≤ memberDataOffset.toInt)

instance (parent parentSize member memberSize memberDataOffset memberDataSize : BitVec 64) :
    Decidable (MemberInside parent parentSize member memberSize memberDataOffset
      memberDataSize) :=
  inferInstanceAs (Decidable (_ ∧ _ ∧ _ ∧ _ ∧ _ ∧ _))

end Model

section Words

variable {x y : BitVec 64}

/-- A 64-bit word read as a signed number, in the two cases `omega` works with. -/
theorem toInt_cases (x : BitVec 64) :
    (x.toNat < 2 ^ 63 ∧ x.toInt = x.toNat) ∨ (2 ^ 63 ≤ x.toNat ∧ x.toInt = x.toNat - 2 ^ 64) := by
  rw [BitVec.toInt_eq_toNat_cond]
  by_cases h : 2 * x.toNat < 2 ^ 64
  · exact .inl ⟨by omega, if_pos h⟩
  · exact .inr ⟨by omega, if_neg h⟩

theorem toInt_of_lt (h : x.toNat < 2 ^ 63) : x.toInt = x.toNat := by
  rcases toInt_cases x with ⟨-, hx⟩ | ⟨h', -⟩
  · exact hx
  · omega

theorem slt_iff : x.slt y ↔ x.toInt < y.toInt := by
  simp [BitVec.slt]

theorem slt_zero_iff : x.slt 0 ↔ 2 ^ 63 ≤ x.toNat := by
  rw [slt_iff, show (0 : BitVec 64).toInt = 0 from rfl]
  rcases toInt_cases x with ⟨h1, h2⟩ | ⟨h1, h2⟩ <;> omega

/-- A nonnegative word plus a size that does not drop below the word, in signed order,
neither wraps nor leaves the nonnegative half. -/
theorem add_of_not_slt (hx : x.toNat < 2 ^ 63) (h : ¬ (x + y).slt x) :
    (x + y).toNat = x.toNat + y.toNat ∧ x.toNat + y.toNat < 2 ^ 63 := by
  rw [slt_iff, toInt_of_lt hx] at h
  have hs := BitVec.toNat_add x y
  have := y.isLt
  rcases toInt_cases (x + y) with ⟨h1, h2⟩ | ⟨h1, h2⟩ <;> omega

/-- A nonnegative word plus a signed offset whose sum is nonnegative, in signed order,
is the integer sum. -/
theorem add_of_not_slt_zero (hx : x.toNat < 2 ^ 63) (h : ¬ (x + y).slt 0) :
    ((x + y).toNat : Int) = x.toNat + y.toInt ∧ (x + y).toNat < 2 ^ 63 := by
  rw [slt_zero_iff] at h
  have hs := BitVec.toNat_add x y
  rcases toInt_cases y with ⟨h1, h2⟩ | ⟨h1, h2⟩ <;> omega

/-- Conversely, sums that stay in the nonnegative half need no wrap. -/
theorem add_of_lt (h : x.toNat + y.toNat < 2 ^ 63) :
    (x + y).toNat = x.toNat + y.toNat := by
  rw [BitVec.toNat_add]; exact Nat.mod_eq_of_lt (by omega)

theorem add_of_int_lt (hx : x.toNat < 2 ^ 63) (h0 : 0 ≤ (x.toNat : Int) + y.toInt)
    (h1 : (x.toNat : Int) + y.toInt < 2 ^ 63) : ((x + y).toNat : Int) = x.toNat + y.toInt := by
  have hs := BitVec.toNat_add x y
  rcases toInt_cases y with ⟨h2, h3⟩ | ⟨h2, h3⟩ <;> omega

end Words

section Spec

variable (K : Vb2Constants) (P ps M ms mdo mds : BitVec 64)

/-- Each check of `vb2_verify_member_inside`, passed. -/
theorem vb2VerifyMemberInside_eq_success_iff :
    vb2VerifyMemberInside K P ps M ms mdo mds = vb2Success ↔
      P ≤ P + ps ∧ ¬ (vb2OffsetOf P M + ms).slt (vb2OffsetOf P M) ∧
      ¬ ((vb2OffsetOf P M).slt 0 ∨ vb2OffsetOf P M > ps ∨ vb2OffsetOf P M + ms > ps) ∧
      ¬ (mds > 0 ∧ (vb2OffsetOf P M + mdo).slt (vb2OffsetOf P M + ms)) ∧
      ¬ (vb2OffsetOf P M + mdo + mds).slt (vb2OffsetOf P M + mdo) ∧
      ¬ ((vb2OffsetOf P M + mdo).slt 0 ∨ vb2OffsetOf P M + mdo > ps ∨
        vb2OffsetOf P M + mdo + mds > ps) := by
  simp only [vb2VerifyMemberInside, ite_eq_success_iff (K.error_ne_success _), BitVec.not_lt,
    and_true]

/-- The member's offset from a parent that does not wrap, when the check reads it as a
nonnegative `ptrdiff_t` no larger than the parent. -/
theorem offsetOf_of_le (hp : P.toNat + ps.toNat < 2 ^ 64)
    (h0 : ¬ (vb2OffsetOf P M).slt 0) (hle : (vb2OffsetOf P M).toNat ≤ ps.toNat) :
    P.toNat ≤ M.toNat ∧ (vb2OffsetOf P M).toNat = M.toNat - P.toNat := by
  rw [slt_zero_iff] at h0
  have hs : (vb2OffsetOf P M).toNat = (2 ^ 64 - P.toNat + M.toNat) % 2 ^ 64 :=
    BitVec.toNat_sub M P
  have := M.isLt
  omega

theorem vb2VerifyMemberInside_sound
    (h : vb2VerifyMemberInside K P ps M ms mdo mds = vb2Success) : MemberInside P ps M ms mdo mds := by
  obtain ⟨hpe, hmw, hmo, hov, hdw, hdo⟩ := (vb2VerifyMemberInside_eq_success_iff K ..).mp h
  simp only [not_or, not_and, BitVec.not_lt] at hmo hov hdo
  obtain ⟨hmo0, hmole, hmele⟩ := hmo
  obtain ⟨hdo0, hdole, hdele⟩ := hdo
  rw [BitVec.le_def] at hpe hmole hmele hdole hdele
  have hpn : P.toNat + ps.toNat < 2 ^ 64 := by
    rw [BitVec.toNat_add] at hpe; have := ps.isLt; omega
  obtain ⟨hPM, hoff⟩ := offsetOf_of_le P ps M hpn hmo0 hmole
  have hmo63 : (vb2OffsetOf P M).toNat < 2 ^ 63 := by rw [slt_zero_iff] at hmo0; omega
  obtain ⟨hme, hme63⟩ := add_of_not_slt hmo63 hmw
  obtain ⟨hd, hd63⟩ := add_of_not_slt_zero hmo63 hdo0
  obtain ⟨hde, -⟩ := add_of_not_slt hd63 hdw
  refine ⟨hpn, hPM, by omega, by omega, by omega, ?_⟩
  by_cases hz : mds.toNat = 0
  · exact .inl hz
  · have hov := hov (BitVec.lt_def.mpr (by show 0 < mds.toNat; omega))
    rw [slt_iff, toInt_of_lt hd63, toInt_of_lt (by omega)] at hov
    omega

theorem vb2VerifyMemberInside_complete (h : MemberInside P ps M ms mdo mds)
    (hsmall : ps.toNat < 2 ^ 63) : vb2VerifyMemberInside K P ps M ms mdo mds = vb2Success := by
  obtain ⟨hpn, hPM, hme, hd0, hde, hov⟩ := h
  have hoff : (vb2OffsetOf P M).toNat = M.toNat - P.toNat := by
    rw [vb2OffsetOf, BitVec.toNat_sub_of_le (BitVec.le_def.mpr hPM)]
  have hmeo := @add_of_lt (vb2OffsetOf P M) ms (by omega)
  have hdo := @add_of_int_lt (vb2OffsetOf P M) mdo (by omega) (by omega) (by omega)
  have hdeo := @add_of_lt (vb2OffsetOf P M + mdo) mds (by omega)
  rw [vb2VerifyMemberInside_eq_success_iff]
  simp only [slt_iff, not_or, not_and, BitVec.not_lt, BitVec.le_def, BitVec.lt_def]
  rw [@toInt_of_lt (vb2OffsetOf P M) (by omega),
    @toInt_of_lt (vb2OffsetOf P M + ms) (by omega),
    @toInt_of_lt (vb2OffsetOf P M + mdo) (by omega),
    @toInt_of_lt (vb2OffsetOf P M + mdo + mds) (by omega),
    show (0 : BitVec 64).toInt = 0 from rfl, BitVec.toNat_add P ps]
  refine ⟨by omega, by omega, ⟨by omega, by omega, by omega⟩, fun hpos => ?_, by omega,
    ⟨by omega, by omega, by omega⟩⟩
  rcases hov with hz | hle
  · simp only [BitVec.toNat_ofNat] at hpos; omega
  · omega

/-- `vb2_verify_member_inside` accepts only members that lie inside their parent, over
unbounded integers; and it accepts every such member of a parent smaller than `2^63`. -/
theorem vb2VerifyMemberInside_spec :
    (vb2VerifyMemberInside K P ps M ms mdo mds = vb2Success → MemberInside P ps M ms mdo mds) ∧
      (MemberInside P ps M ms mdo mds → ps.toNat < 2 ^ 63 →
        vb2VerifyMemberInside K P ps M ms mdo mds = vb2Success) :=
  ⟨vb2VerifyMemberInside_sound K P ps M ms mdo mds,
    vb2VerifyMemberInside_complete K P ps M ms mdo mds⟩

/- `MemberInside ok 2` and `MemberInside data overlaps member` of `vb2_common_tests.c`. -/
example : vb2VerifyMemberInside .sample 0x1000 20 0x1004 4 8 4 = vb2Success ∧
    vb2VerifyMemberInside .sample 0x1000 20 0x1000 8 4 8 =
      Vb2Constants.sample.error .insideDataOverlap := by
  decide

end Spec

end Vboot
