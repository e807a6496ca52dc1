import Mathlib.Data.Fin.Basic
import Mathlib.Data.Nat.Digits

/-!
# Return codes and recovery reasons

A `uint32_t` is a `BitVec 32` throughout. `vb2_error_t` is a `uint32_t` and `VB2_SUCCESS`
is zero: every caller tests a result with `if (rv)`. The values of the named codes live in `2return_codes.h`,
`2recovery_reasons.h`, `2constants.h` and the status enum of `2struct.h`, none of which
is in the tree with them, so they are parameters here, each with exactly the property
the code relies on.
-/
namespace Vboot

/-- `VB2_SUCCESS`. -/
def vb2Success : BitVec 32 := 0

/-- The named error codes of `2return_codes.h` that the modelled functions return. -/
inductive Vb2ErrorName
  | alignBiggerThanSize | alignSize
  | insideParentWraps | insideMemberWraps | insideMemberOutside
  | insideDataOverlap | insideDataWraps | insideDataOutside
  | vdataNotEnoughData | vdataDigestSize | vdataWorkbufDigest | vdataSigSize
  | exHwcryptoUnsupported
  | ecHashImage | ecHashExpected | ecHashSize
  | ecRebootToRoRequired | ecRebootToSwitchRw | rebootRequired
  deriving DecidableEq, Repr

/-- The recovery reasons of `2recovery_reasons.h` that EC software sync requests. -/
inductive Vb2RecoveryName
  | ecSoftwareSync | ecUnknownImage | ecHashFailed | ecExpectedHash | ecHashSize
  | ecUpdate | ecJumpRw | ecProtect
  deriving DecidableEq, Repr

/-- The constants whose definitions are outside the tree. An error code is never
`VB2_SUCCESS`, a recovery reason is never `VB2_RECOVERY_NOT_REQUESTED` (zero),
`VB2_WORKBUF_ALIGN` is a power of two of at least 8 that fits a `uint32_t`, and
`VB2_SD_STATUS_EC_SYNC_COMPLETE` is one bit `1 << n` of a 32-bit word. -/
structure Vb2Constants where
  error : Vb2ErrorName → BitVec 32
  error_ne_zero : ∀ e, error e ≠ 0
  recovery : Vb2RecoveryName → BitVec 32
  recovery_ne_zero : ∀ r, recovery r ≠ 0
  workbufAlignLog2 : Nat
  three_le_workbufAlignLog2 : 3 ≤ workbufAlignLog2
  workbufAlignLog2_lt : workbufAlignLog2 < 32
  statusEcSyncCompleteBit : Fin 32
  screenWait : BitVec 32

namespace Vb2Constants

variable (K : Vb2Constants)

/-- `VB2_WORKBUF_ALIGN`. -/
def workbufAlign : Nat := 2 ^ K.workbufAlignLog2

@[simp] theorem error_ne_success (e : Vb2ErrorName) : K.error e ≠ vb2Success :=
  K.error_ne_zero e

theorem ne_success_of_eq_error {x : BitVec 32} {e : Vb2ErrorName} (h : x = K.error e) :
    x ≠ vb2Success :=
  h ▸ K.error_ne_success e

theorem eight_le_workbufAlign : 8 ≤ K.workbufAlign :=
  calc 8 = 2 ^ 3 := rfl
    _ ≤ 2 ^ K.workbufAlignLog2 := Nat.pow_le_pow_right (by decide) K.three_le_workbufAlignLog2

theorem workbufAlign_dvd : K.workbufAlign ∣ 2 ^ 32 :=
  Nat.pow_dvd_pow 2 (Nat.le_of_lt K.workbufAlignLog2_lt)

theorem workbufAlign_lt : K.workbufAlign < 2 ^ 32 :=
  Nat.pow_lt_pow_right (by decide) K.workbufAlignLog2_lt

/-- One admissible choice of the constants, used to instantiate the theorems on concrete
inputs: each code is its constructor's position plus one and the alignment is 16. -/
def sample : Vb2Constants where
  error e := BitVec.ofNat 32 (e.toCtorIdx + 1)
  error_ne_zero e := by cases e <;> decide
  recovery r := BitVec.ofNat 32 (r.toCtorIdx + 1)
  recovery_ne_zero r := by cases r <;> decide
  workbufAlignLog2 := 4
  three_le_workbufAlignLog2 := by decide
  workbufAlignLog2_lt := by decide
  statusEcSyncCompleteBit := 9
  screenWait := 1

end Vb2Constants

/-- A test that returns an error code when it fails passes exactly when it does not fail
and the rest of the function succeeds. -/
theorem ite_eq_success_iff {c : Prop} [Decidable c] {e r : BitVec 32} (he : e ≠ vb2Success) :
    (if c then e else r) = vb2Success ↔ ¬ c ∧ r = vb2Success := by
  by_cases hc : c <;> simp [hc, he]

end Vboot
