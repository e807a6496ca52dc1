import Vboot.SafeMemcmp

/-!
# EC software sync

`2ec_sync.c`: `vb2api_ec_sync` and the static functions it calls, over explicit state.
The state is the part of `vb2_shared_data` and of the NV record that EC sync reads or
writes, and the log of every `vb2ex_ec_*` callback and `VbDisplayScreen` call with its
arguments and its answer. The callbacks are platform code, outside the tree: each
answers with any value, and may depend on the calls made before it, so a run with
`EcReplies` covers every sequence of replies.

The NV record (`2nvstorage.c`) is not in the tree either: its fields are modelled from
the spec, as values that `vb2_nv_get` reads back as `vb2_nv_set` wrote them. The
context and GBB flags that EC sync tests are one `Bool` each. The `VB2_DEBUG` output and
`print_hash` have no effect on the state and are left out.
-/
namespace Vboot

/-- `enum vb2_firmware_selection`, the three images EC sync names. -/
inductive Vb2FirmwareSelection
  | readonly
  | ecActive
  | ecUpdate
  deriving DecidableEq, Repr

/-- The `ctx->flags` bits and the `gbb->flags` bit that EC sync tests. -/
structure Vb2Context where
  ecSyncSupported : Bool
  recoveryMode : Bool
  ecEfs : Bool
  ecSyncSlow : Bool
  gbbDisableEcSoftwareSync : Bool
  deriving DecidableEq, Repr

/-- The fields of `struct vb2_shared_data` that EC sync reads or writes. -/
structure Vb2SharedData where
  flags : BitVec 32
  recoveryReason : BitVec 32
  status : BitVec 32
  deriving DecidableEq, Repr

/-- The NV fields EC sync reads or writes: `VB2_NV_RECOVERY_REQUEST`,
`VB2_NV_TRY_RO_SYNC` and `VB2_NV_DISPLAY_REQUEST`. -/
structure Vb2Nv where
  recoveryRequest : BitVec 32
  tryRoSync : Bool
  displayRequest : Bool
  deriving DecidableEq, Repr

/-- A hash handed back by `vb2ex_ec_hash_image` or `vb2ex_ec_get_expected_image_hash`:
the bytes at the returned pointer and the returned `int` size. -/
structure EcHash where
  bytes : Nat → BitVec 8
  size : BitVec 32

/-- A call of a `vb2ex_ec_*` callback or of `VbDisplayScreen`, with its answer. -/
inductive EcEvent
  | runningRw (rv : BitVec 32) (inRw : Bool)
  | hashImage (select : Vb2FirmwareSelection) (rv : BitVec 32) (hash : EcHash)
  | expectedImageHash (select : Vb2FirmwareSelection) (rv : BitVec 32) (hash : EcHash)
  | updateImage (select : Vb2FirmwareSelection) (rv : BitVec 32)
  | jumpToRw (rv : BitVec 32)
  | protect (select : Vb2FirmwareSelection) (rv : BitVec 32)
  | disableJump (rv : BitVec 32)
  | vbootDone (rv : BitVec 32)
  | displayScreen (screen : BitVec 32)

/-- The answers of the callbacks, each a function of the calls made before it. -/
structure EcReplies where
  runningRw : List EcEvent → BitVec 32 × Bool
  hashImage : List EcEvent → Vb2FirmwareSelection → BitVec 32 × EcHash
  expectedImageHash : List EcEvent → Vb2FirmwareSelection → BitVec 32 × EcHash
  updateImage : List EcEvent → Vb2FirmwareSelection → BitVec 32
  jumpToRw : List EcEvent → BitVec 32
  protect : List EcEvent → Vb2FirmwareSelection → BitVec 32
  disableJump : List EcEvent → BitVec 32
  vbootDone : List EcEvent → BitVec 32

/-- The replies of an EC that runs RO with both images as expected, every callback succeeding. -/
def EcReplies.sample : EcReplies where
  runningRw _ := (0, false)
  hashImage _ _ := (0, ⟨fun _ => 0, 32⟩)
  expectedImageHash _ _ := (0, ⟨fun _ => 0, 32⟩)
  updateImage _ _ := 0
  jumpToRw _ := 0
  protect _ _ := 0
  disableJump _ := 0
  vbootDone _ := 0

/-- What EC sync changes: shared data, NV and the calls made so far. -/
structure EcWorld where
  sd : Vb2SharedData
  nv : Vb2Nv
  log : List EcEvent

namespace EcWorld

def logEvent (s : EcWorld) (e : EcEvent) : EcWorld := { s with log := s.log ++ [e] }

def setFlags (s : EcWorld) (flags : BitVec 32) : EcWorld := { s with sd := { s.sd with flags } }

@[simp] theorem logEvent_sd (s : EcWorld) (e : EcEvent) : (s.logEvent e).sd = s.sd := rfl
@[simp] theorem logEvent_nv (s : EcWorld) (e : EcEvent) : (s.logEvent e).nv = s.nv := rfl
@[simp] theorem logEvent_log (s : EcWorld) (e : EcEvent) : (s.logEvent e).log = s.log ++ [e] :=
  rfl
@[simp] theorem setFlags_sd (s : EcWorld) (f : BitVec 32) :
    (s.setFlags f).sd = { s.sd with flags := f } := rfl
@[simp] theorem setFlags_nv (s : EcWorld) (f : BitVec 32) : (s.setFlags f).nv = s.nv := rfl
@[simp] theorem setFlags_log (s : EcWorld) (f : BitVec 32) : (s.setFlags f).log = s.log := rfl
@[simp] theorem setFlags_self (s : EcWorld) : s.setFlags s.sd.flags = s := rfl

end EcWorld

def vb2SdFlagEcsyncEcRo : BitVec 32 := (1 : BitVec 32) <<< 3

def vb2SdFlagEcsyncEcRw : BitVec 32 := (1 : BitVec 32) <<< 4

def vb2SdFlagEcsyncEcInRw : BitVec 32 := (1 : BitVec 32) <<< 6

def vb2SdFlagDisplayAvailable : BitVec 32 := (1 : BitVec 32) <<< 8

def vb2SdStatusEcSyncComplete (K : Vb2Constants) : BitVec 32 :=
  (1 : BitVec 32) <<< K.statusEcSyncCompleteBit.val

def roRetries : Nat := 2

section Flags

theorem and_shiftLeft_ne_zero (x : BitVec 32) {i : Nat} (hi : i < 32) :
    x &&& (1 : BitVec 32) <<< i ≠ 0 ↔ x.getLsbD i = true := by
  show x &&& BitVec.twoPow 32 i ≠ 0 ↔ _
  rw [BitVec.and_twoPow]
  split
  · refine iff_of_true (fun h => ?_) ‹_›
    simpa [BitVec.getLsbD_twoPow, hi] using congrArg (BitVec.getLsbD · i) h
  · simp_all

theorem and_shiftLeft_eq_zero (x : BitVec 32) {i : Nat} (hi : i < 32) :
    x &&& (1 : BitVec 32) <<< i = 0 ↔ x.getLsbD i = false := by
  simpa using (and_shiftLeft_ne_zero x hi).not

theorem getLsbD_one_shiftLeft {n : Nat} (hn : n < 32) (i : Nat) :
    ((1 : BitVec 32) <<< n).getLsbD i = decide (i = n) := by
  rw [BitVec.getLsbD_shiftLeft]
  by_cases h : i = n
  · subst h; simp [hn]
  · simp [h]
    omega

@[simp] theorem getLsbD_vb2SdFlagEcsyncEcRo (i : Nat) :
    vb2SdFlagEcsyncEcRo.getLsbD i = decide (i = 3) := getLsbD_one_shiftLeft (by decide) i
@[simp] theorem getLsbD_vb2SdFlagEcsyncEcRw (i : Nat) :
    vb2SdFlagEcsyncEcRw.getLsbD i = decide (i = 4) := getLsbD_one_shiftLeft (by decide) i
@[simp] theorem getLsbD_vb2SdFlagEcsyncEcInRw (i : Nat) :
    vb2SdFlagEcsyncEcInRw.getLsbD i = decide (i = 6) := getLsbD_one_shiftLeft (by decide) i

@[simp] theorem and_vb2SdFlagEcsyncEcRo_eq_zero (x : BitVec 32) :
    x &&& vb2SdFlagEcsyncEcRo = 0#32 ↔ x.getLsbD 3 = false := and_shiftLeft_eq_zero x (by decide)
@[simp] theorem and_vb2SdFlagEcsyncEcRw_eq_zero (x : BitVec 32) :
    x &&& vb2SdFlagEcsyncEcRw = 0#32 ↔ x.getLsbD 4 = false := and_shiftLeft_eq_zero x (by decide)
@[simp] theorem and_vb2SdFlagEcsyncEcInRw_eq_zero (x : BitVec 32) :
    x &&& vb2SdFlagEcsyncEcInRw = 0#32 ↔ x.getLsbD 6 = false := and_shiftLeft_eq_zero x (by decide)
@[simp] theorem and_vb2SdFlagDisplayAvailable_eq_zero (x : BitVec 32) :
    x &&& vb2SdFlagDisplayAvailable = 0#32 ↔ x.getLsbD 8 = false :=
  and_shiftLeft_eq_zero x (by decide)

theorem or_and_self_ne_zero {x c : BitVec 32} (hc : c ≠ 0#32) : (x ||| c) &&& c ≠ 0#32 := by
  have : (x ||| c) &&& c = c := by
    ext i
    simp only [BitVec.getLsbD_and, BitVec.getLsbD_or]
    cases x.getLsbD i <;> cases c.getLsbD i <;> rfl
  rwa [this]

@[simp] theorem and_not_and_self (x c : BitVec 32) : x &&& ~~~c &&& c = 0#32 := by
  ext i
  simp only [BitVec.getLsbD_and, BitVec.getLsbD_not, BitVec.getLsbD_zero]
  cases c.getLsbD i <;> simp

theorem vb2SdStatusEcSyncComplete_ne_zero (K : Vb2Constants) :
    vb2SdStatusEcSyncComplete K ≠ 0#32 := by
  intro h
  simpa [vb2SdStatusEcSyncComplete] using
    congrArg (BitVec.getLsbD · K.statusEcSyncCompleteBit.val) h

end Flags

def syncFlag (select : Vb2FirmwareSelection) : BitVec 32 :=
  if select = .readonly then vb2SdFlagEcsyncEcRo else vb2SdFlagEcsyncEcRw

@[simp] theorem syncFlag_readonly : syncFlag .readonly = vb2SdFlagEcsyncEcRo := rfl
@[simp] theorem syncFlag_ecActive : syncFlag .ecActive = vb2SdFlagEcsyncEcRw := rfl
@[simp] theorem syncFlag_ecUpdate : syncFlag .ecUpdate = vb2SdFlagEcsyncEcRw := rfl

theorem syncFlag_ne_zero (select : Vb2FirmwareSelection) : syncFlag select ≠ 0#32 := by
  cases select <;> decide

section Model

variable (K : Vb2Constants) (ctx : Vb2Context) (R : EcReplies)

def checkRebootForDisplay (s : EcWorld) : Bool × EcWorld :=
  if s.sd.flags &&& vb2SdFlagDisplayAvailable = 0 then
    (true, { s with nv := { s.nv with displayRequest := true } })
  else (false, s)

/-- `display_wait_screen`: `VbDisplayScreen(ctx, VB_SCREEN_WAIT, 0, NULL)`, whose answer
is not looked at. -/
def displayWaitScreen (s : EcWorld) : EcWorld := s.logEvent (.displayScreen K.screenWait)

def requestRecovery (recoveryRequest : BitVec 32) (s : EcWorld) : EcWorld :=
  { s with nv := { s.nv with recoveryRequest } }

def protectEc (select : Vb2FirmwareSelection) (s : EcWorld) : BitVec 32 × EcWorld :=
  let rv := R.protect s.log select
  let s := s.logEvent (.protect select rv)
  if rv = K.error .ecRebootToRoRequired then (rv, s)
  else if rv ≠ vb2Success then (rv, requestRecovery (K.recovery .ecProtect) s)
  else (rv, s)

/-- `check_ec_hash`; `vb2_safe_memcmp` gets the `int` `hash_size` as a `size_t`. -/
def checkEcHash (select : Vb2FirmwareSelection) (s : EcWorld) : BitVec 32 × EcWorld :=
  let (rv, ecHash) := R.hashImage s.log select
  let s := s.logEvent (.hashImage select rv ecHash)
  if rv ≠ vb2Success then (K.error .ecHashImage, requestRecovery (K.recovery .ecHashFailed) s)
  else
    let (rv, hash) := R.expectedImageHash s.log select
    let s := s.logEvent (.expectedImageHash select rv hash)
    if rv ≠ vb2Success then
      (K.error .ecHashExpected, requestRecovery (K.recovery .ecExpectedHash) s)
    else if ecHash.size ≠ hash.size then
      (K.error .ecHashSize, requestRecovery (K.recovery .ecHashSize) s)
    else if vb2SafeMemcmp ecHash.bytes hash.bytes (hash.size.signExtend 64).toNat ≠ 0 then
      (vb2Success, s.setFlags (s.sd.flags ||| syncFlag select))
    else (vb2Success, s)

def updateEc (select : Vb2FirmwareSelection) (s : EcWorld) : BitVec 32 × EcWorld :=
  let rv := R.updateImage s.log select
  let s := s.logEvent (.updateImage select rv)
  if rv ≠ vb2Success then
    if rv ≠ K.error .ecRebootToRoRequired then (rv, requestRecovery (K.recovery .ecUpdate) s)
    else (rv, s)
  else
    let s := s.setFlags (s.sd.flags &&& ~~~(syncFlag select))
    let (rv, s) := checkEcHash K R select s
    if rv ≠ vb2Success then (K.error .ecRebootToRoRequired, s)
    else if s.sd.flags &&& syncFlag select ≠ 0 then
      (K.error .ecRebootToRoRequired, requestRecovery (K.recovery .ecUpdate) s)
    else (vb2Success, s)

def checkEcActive (s : EcWorld) : BitVec 32 × EcWorld :=
  let (rv, inRw) := R.runningRw s.log
  let s := s.logEvent (.runningRw rv inRw)
  if rv ≠ vb2Success then
    (K.error .ecRebootToRoRequired, requestRecovery (K.recovery .ecUnknownImage) s)
  else if inRw then (vb2Success, s.setFlags (s.sd.flags ||| vb2SdFlagEcsyncEcInRw))
  else (vb2Success, s)

/-- The `select_rw` of `sync_ec`. -/
def selectRw : Vb2FirmwareSelection := if ctx.ecEfs then .ecUpdate else .ecActive

/-- The RO update loop of `sync_ec`, `for (num_tries = 0; num_tries < RO_RETRIES;
num_tries++)` with a `break` on the first successful `update_ec`, entered at try
`numTries` with `fuel` tries left. -/
def updateRoTries : (fuel numTries : Nat) → EcWorld → Nat × EcWorld
  | 0, numTries, s => (numTries, s)
  | fuel + 1, numTries, s =>
    let (rv, s) := updateEc K R .readonly s
    if rv = vb2Success then (numTries, s) else updateRoTries fuel (numTries + 1) s

/-- `sync_ec` from "Protect RO flash" on. -/
def syncEcProtect (s : EcWorld) : BitVec 32 × EcWorld :=
  let (rv, s) := protectEc K R .readonly s
  if rv ≠ vb2Success then (rv, s)
  else
    let (rv, s) := protectEc K R (selectRw ctx) s
    if rv ≠ vb2Success then (rv, s)
    else
      let rv := R.disableJump s.log
      let s := s.logEvent (.disableJump rv)
      if rv ≠ vb2Success then
        (K.error .ecRebootToRoRequired, requestRecovery (K.recovery .ecSoftwareSync) s)
      else (rv, s)

/-- `sync_ec` from "Might need to update EC-RO" on. -/
def syncEcRo (s : EcWorld) : BitVec 32 × EcWorld :=
  if s.sd.flags &&& vb2SdFlagEcsyncEcRo ≠ 0 then
    let s := { s with nv := { s.nv with tryRoSync := false } }
    let recoveryRequest := s.nv.recoveryRequest
    let (numTries, s) := updateRoTries K R roRetries 0 s
    if numTries = roRetries then (K.error .ecRebootToRoRequired, s)
    else if numTries ≠ 0 then syncEcProtect K ctx R (requestRecovery recoveryRequest s)
    else syncEcProtect K ctx R s
  else syncEcProtect K ctx R s

/-- `sync_ec` from "Tell EC to jump to its RW image" on. -/
def syncEcJump (s : EcWorld) : BitVec 32 × EcWorld :=
  if s.sd.flags &&& vb2SdFlagEcsyncEcInRw = 0 then
    let rv := R.jumpToRw s.log
    let s := s.logEvent (.jumpToRw rv)
    if rv ≠ vb2Success then
      if rv ≠ K.error .ecRebootToRoRequired then
        (K.error .ecRebootToRoRequired, requestRecovery (K.recovery .ecJumpRw) s)
      else (K.error .ecRebootToRoRequired, s)
    else syncEcRo K ctx R s
  else syncEcRo K ctx R s

def syncEc (s : EcWorld) : BitVec 32 × EcWorld :=
  if s.sd.flags &&& syncFlag (selectRw ctx) ≠ 0 then
    let (rv, s) := updateEc K R (selectRw ctx) s
    if vb2Success ≠ rv then (K.error .ecRebootToRoRequired, s)
    else if ctx.ecEfs then (K.error .ecRebootToSwitchRw, s)
    else syncEcJump K ctx R s
  else syncEcJump K ctx R s

def ecSyncPhase1 (s : EcWorld) : BitVec 32 × EcWorld :=
  if !ctx.ecSyncSupported then (vb2Success, s)
  else if ctx.gbbDisableEcSoftwareSync then (vb2Success, s)
  else
    let (rv, s) := checkEcActive K R s
    if rv ≠ vb2Success then (K.error .ecRebootToRoRequired, s)
    else
      let (rv, s) := checkEcHash K R .ecActive s
      if rv ≠ vb2Success then (K.error .ecRebootToRoRequired, s)
      else
        let (roFailed, s) :=
          if s.nv.tryRoSync then
            let (rv, s) := checkEcHash K R .readonly s
            (decide (rv ≠ vb2Success), s)
          else (false, s)
        if roFailed then (K.error .ecRebootToRoRequired, s)
        else if s.sd.flags &&& vb2SdFlagEcsyncEcRw ≠ 0 ∧
            s.sd.flags &&& vb2SdFlagEcsyncEcInRw ≠ 0 ∧ !ctx.ecEfs then
          (K.error .ecRebootToRoRequired, s)
        else (vb2Success, s)

def ecWillUpdateSlowly (s : EcWorld) : Bool :=
  (s.sd.flags &&& vb2SdFlagEcsyncEcRo ≠ 0 ∨ s.sd.flags &&& vb2SdFlagEcsyncEcRw ≠ 0) ∧
    ctx.ecSyncSlow

def ecSyncAllowed (s : EcWorld) : Bool :=
  if !ctx.ecSyncSupported then false
  else if ctx.gbbDisableEcSoftwareSync then false
  else if s.sd.recoveryReason ≠ 0 then false
  else true

def ecSyncPhase2 (s : EcWorld) : BitVec 32 × EcWorld :=
  if !ecSyncAllowed ctx s then (vb2Success, s) else syncEc K ctx R s

def vb2apiEcSync (s : EcWorld) : BitVec 32 × EcWorld :=
  if s.sd.flags &&& vb2SdStatusEcSyncComplete K ≠ 0 then (vb2Success, s)
  else if ctx.recoveryMode then (vb2Success, s)
  else
    let (phase1Rv, s) := ecSyncPhase1 K ctx R s
    let needWaitScreen := ecWillUpdateSlowly ctx s
    let (reboot, s) := if needWaitScreen then checkRebootForDisplay s else (false, s)
    if reboot then (K.error .rebootRequired, s)
    else if phase1Rv ≠ vb2Success then (phase1Rv, s)
    else
      let s := if needWaitScreen then displayWaitScreen K s else s
      let (rv, s) := ecSyncPhase2 K ctx R s
      if rv ≠ vb2Success then (rv, s)
      else
        let rv := R.vbootDone s.log
        let s := s.logEvent (.vbootDone rv)
        if rv ≠ vb2Success then (rv, s)
        else (vb2Success, s.setFlags (s.sd.flags ||| vb2SdStatusEcSyncComplete K))

end Model

end Vboot
