import Vboot.EcSync.Trace

/-!
# What each step of EC sync can do

One lemma per function of `2ec_sync.c` below `sync_ec`, listing every way a call can end:
the calls it makes, what it returns and what it leaves in `sd` and NV. The lemmas about
whole runs cite these and never unfold the functions again.
-/
namespace Vboot

section Steps

variable (K : Vb2Constants) (R : EcReplies)

/-- `check_ec_active` either fails, asking for recovery, or records where the EC runs. -/
theorem checkEcActive_cases (s : EcWorld) :
    (∃ rv b, rv ≠ vb2Success ∧ checkEcActive K R s =
      (K.error .ecRebootToRoRequired,
        requestRecovery (K.recovery .ecUnknownImage) (s.logEvent (.runningRw rv b)))) ∨
    ∃ b, checkEcActive K R s = (vb2Success, (s.logEvent (.runningRw 0 b)).setFlags
      (if b then s.sd.flags ||| vb2SdFlagEcsyncEcInRw else s.sd.flags)) := by
  unfold checkEcActive
  obtain ⟨rv, b⟩ := R.runningRw s.log
  by_cases hrv : rv = vb2Success
  · subst hrv
    exact .inr ⟨b, by cases b <;> rfl⟩
  · exact .inl ⟨rv, b, hrv, if_pos hrv⟩

/-- `check_ec_hash` either fails after one or two queries, asking for recovery, or gets
two hashes of one size and sets `SYNC_FLAG(select)` when they differ. -/
theorem checkEcHash_cases (select : Vb2FirmwareSelection) (s : EcWorld) :
    (∃ h h', h.size = h'.size ∧ checkEcHash K R select s = (vb2Success,
      ⟨{ s.sd with flags := if HashesMatch h h' then s.sd.flags
          else s.sd.flags ||| syncFlag select },
        s.nv, s.log ++ [.hashImage select 0 h, .expectedImageHash select 0 h']⟩)) ∨
    ((checkEcHash K R select s).1 ≠ vb2Success ∧ ∃ evs rr, rr ≠ 0 ∧
      (∀ e ∈ evs, e.IsCheck select) ∧
      (checkEcHash K R select s).2 = ⟨s.sd, { s.nv with recoveryRequest := rr }, s.log ++ evs⟩) := by
  rcases hr : R.hashImage s.log select with ⟨rv, h⟩
  rcases hr' : R.expectedImageHash (s.logEvent (.hashImage select rv h)).log select with ⟨rv', h'⟩
  simp only [checkEcHash, hr, hr']
  by_cases hrv : rv = vb2Success
  · subst hrv
    by_cases hrv' : rv' = vb2Success
    · subst hrv'
      by_cases hs : h.size = h'.size
      · refine .inl ⟨h, h', hs, ?_⟩
        simp only [ne_eq, not_true_eq_false, if_false, hs, HashesMatch, true_and]
        split_ifs <;>
          simp only [EcWorld.logEvent, EcWorld.setFlags, List.append_assoc, List.singleton_append] <;>
          rfl
      · simp only [ne_eq, not_true_eq_false, if_false, hs, not_false_eq_true, if_true]
        exact .inr ⟨K.error_ne_zero _, [.hashImage select 0 h, .expectedImageHash select 0 h'], _,
          K.recovery_ne_zero .ecHashSize, List.forall_iff_forall_mem.mp ⟨rfl, rfl⟩,
          by simp [requestRecovery, EcWorld.logEvent]; rfl⟩
    · simp only [ne_eq, not_true_eq_false, if_false, hrv', not_false_eq_true, if_true]
      exact .inr ⟨K.error_ne_zero _, [.hashImage select 0 h, .expectedImageHash select rv' h'], _,
        K.recovery_ne_zero .ecExpectedHash, List.forall_iff_forall_mem.mp ⟨rfl, rfl⟩,
        by simp [requestRecovery, EcWorld.logEvent]; rfl⟩
  · simp only [ne_eq, hrv, not_false_eq_true, if_true]
    exact .inr ⟨K.error_ne_zero _, [_], _, K.recovery_ne_zero _,
      by exact List.forall_iff_forall_mem.mp rfl, rfl⟩

/-- `update_ec` either reflashes the image and verifies it, or fails, asking for recovery unless
the update answered `VBERROR_EC_REBOOT_TO_RO_REQUIRED`. -/
theorem updateEc_cases (select : Vb2FirmwareSelection) (s : EcWorld) :
    (∃ h h', HashesMatch h h' ∧ updateEc K R select s = (vb2Success,
      ⟨{ s.sd with flags := s.sd.flags &&& ~~~syncFlag select }, s.nv,
        s.log ++ [.updateImage select 0, .hashImage select 0 h, .expectedImageHash select 0 h']⟩)) ∨
    ((updateEc K R select s).1 ≠ vb2Success ∧ ∃ rv rest flags rr,
      (updateEc K R select s).2 = ⟨{ s.sd with flags }, { s.nv with recoveryRequest := rr },
        s.log ++ .updateImage select rv :: rest⟩ ∧ (∀ e ∈ rest, e.IsCheck select) ∧
      RecoveryAsked K s.nv.recoveryRequest rr (.updateImage select rv :: rest)) := by
  unfold updateEc
  by_cases hrv : R.updateImage s.log select = vb2Success
  · simp only [hrv, ne_eq, not_true_eq_false, if_false]
    have hcases := checkEcHash_cases K R select ((s.logEvent (.updateImage select vb2Success)).setFlags
      ((s.logEvent (.updateImage select vb2Success)).sd.flags &&& ~~~syncFlag select))
    rcases hc : checkEcHash K R select ((s.logEvent (.updateImage select vb2Success)).setFlags
      ((s.logEvent (.updateImage select vb2Success)).sd.flags &&& ~~~syncFlag select)) with ⟨rv, t⟩
    rw [hc] at hcases
    rcases hcases with ⟨h, h', hs, heq⟩ | ⟨hne, evs, rr, hrr, hev, heq⟩
    · obtain ⟨rfl, rfl⟩ := Prod.mk.inj heq
      by_cases hm : HashesMatch h h'
      · refine .inl ⟨h, h', hm, ?_⟩
        simp [hm, EcWorld.logEvent, EcWorld.setFlags, vb2Success]
      · right
        simp only [not_true_eq_false, if_false, hm, EcWorld.setFlags, EcWorld.logEvent,
          BitVec.ofNat_eq_ofNat, or_and_self_ne_zero (syncFlag_ne_zero select), not_false_eq_true,
          if_true, requestRecovery, List.append_assoc, List.singleton_append,
          Vb2Constants.error_ne_success, EcWorld.mk.injEq, Vb2SharedData.mk.injEq, and_self, and_true,
          Vb2Nv.mk.injEq, List.append_cancel_left_eq, List.cons.injEq, EcEvent.updateImage.injEq,
          true_and]
        exact ⟨_, _, _, _, ⟨rfl, rfl, rfl, rfl⟩, by exact List.forall_iff_forall_mem.mp ⟨rfl, rfl⟩,
          .inl (K.recovery_ne_zero _)⟩
    · dsimp only at hne heq
      subst heq
      simp only [hne, not_false_eq_true, if_true]
      refine .inr ⟨K.error_ne_zero _, 0, evs, s.sd.flags &&& ~~~syncFlag select, rr, ?_, hev, .inl hrr⟩
      simp [EcWorld.logEvent, EcWorld.setFlags]
      rfl
  · simp only [hrv, ne_eq, not_false_eq_true, if_true]
    by_cases hrtr : R.updateImage s.log select = K.error .ecRebootToRoRequired
    · simp only [hrtr, not_true_eq_false, if_false]
      refine .inr ⟨K.error_ne_zero _, _, [], _, _, rfl, by simp, .inr ⟨rfl, ?_⟩⟩
      exact errorsRecovered_of_not_fails (List.forall_iff_forall_mem.mp ⟨fun h => h.2 rfl, id⟩)
    · simp only [hrtr, not_false_eq_true, if_true]
      exact .inr ⟨hrv, _, [], _, _, rfl, by simp, .inl (K.recovery_ne_zero _)⟩

/-- `protect_ec` succeeds, or fails with the callback's answer, asking for recovery
unless that answer is `VBERROR_EC_REBOOT_TO_RO_REQUIRED`. -/
theorem protectEc_cases (select : Vb2FirmwareSelection) (s : EcWorld) :
    protectEc K R select s = (vb2Success, s.logEvent (.protect select 0)) ∨
    ∃ rv rr, rv ≠ vb2Success ∧ protectEc K R select s =
      (rv, ⟨s.sd, { s.nv with recoveryRequest := rr }, s.log ++ [.protect select rv]⟩) ∧
      RecoveryAsked K s.nv.recoveryRequest rr [.protect select rv] := by
  unfold protectEc
  generalize R.protect s.log select = rv
  by_cases hrtr : rv = K.error .ecRebootToRoRequired
  · subst hrtr
    refine .inr ⟨_, _, K.error_ne_zero _, if_pos rfl, .of_recovered ?_⟩
    exact errorsRecovered_of_not_fails (List.forall_iff_forall_mem.mp ⟨fun h => h.2 rfl, id⟩)
  by_cases hrv : rv = vb2Success
  · subst hrv
    exact .inl (by rw [if_neg hrtr, if_neg (not_not_intro rfl)]; rfl)
  · exact .inr ⟨rv, _, hrv, by rw [if_neg hrtr, if_pos hrv]; rfl, .inl (K.recovery_ne_zero _)⟩

/-- The RO update loop makes calls of `update_ec(RO)` only. It uses up its tries, or stops at a
try that verified: at the first, NV as it was; at the second, the first's errors recovered. -/
theorem updateRoTries_cases (fuel n : Nat) (s : EcWorld) :
    ∃ evs, (updateRoTries K R fuel n s).2.log = s.log ++ evs ∧
      (∀ e ∈ evs, e.IsUpdateStep .readonly) ∧ evs.countP (·.isUpdate .readonly) ≤ fuel ∧
      n ≤ (updateRoTries K R fuel n s).1 ∧
      ((updateRoTries K R fuel n s).1 = n + fuel ∧ RecoveryAsked K s.nv.recoveryRequest
          (updateRoTries K R fuel n s).2.nv.recoveryRequest evs ∨
        (updateRoTries K R fuel n s).1 < n + fuel ∧ RoUpdateVerified evs ∧
          ((updateRoTries K R fuel n s).1 ≤ n + 1 → ErrorsRecovered K evs) ∧
          ((updateRoTries K R fuel n s).1 = n → (updateRoTries K R fuel n s).2.nv = s.nv ∧
            ∃ h h', HashesMatch h h' ∧ evs = [.updateImage .readonly 0, .hashImage .readonly 0 h,
              .expectedImageHash .readonly 0 h'])) := by
  induction fuel generalizing n s with
  | zero => exact ⟨[], by simp [updateRoTries], by simp, by simp, Nat.le_refl n,
      .inl ⟨rfl, .of_recovered errorsRecovered_nil⟩⟩
  | succ fuel ih =>
    rcases updateEc_cases K R .readonly s with
      ⟨h, h', hm, heq⟩ | ⟨hne, rv, rest, flags, rr, heq, hrest, hrr⟩
    · have hrun : updateRoTries K R (fuel + 1) n s = (n, ⟨{ s.sd with
          flags := s.sd.flags &&& ~~~syncFlag .readonly }, s.nv,
          s.log ++ [.updateImage .readonly 0, .hashImage .readonly 0 h,
            .expectedImageHash .readonly 0 h']⟩) := by
        simp only [updateRoTries, heq, if_true]
      rw [hrun]
      exact ⟨_, rfl, List.forall_iff_forall_mem.mp ⟨rfl, rfl, rfl⟩, by simp [EcEvent.isUpdate],
        Nat.le_refl n, .inr ⟨by omega, roUpdateVerified_update hm, fun _ => errorsRecovered_update hm,
          fun _ => ⟨rfl, h, h', hm, rfl⟩⟩⟩
    · have hrun : updateRoTries K R (fuel + 1) n s =
          updateRoTries K R fuel (n + 1) (updateEc K R .readonly s).2 := by
        rcases hu : updateEc K R .readonly s with ⟨rv', s'⟩
        rw [hu] at hne
        simp only [updateRoTries, hu]
        exact if_neg hne
      obtain ⟨evs, hlog, halph, hcount, hle, hcase⟩ := ih (n + 1) (updateEc K R .readonly s).2
      rw [hrun]
      refine ⟨(.updateImage .readonly rv :: rest) ++ evs, by rw [hlog, heq]; simp, ?_, ?_, by omega,
        ?_⟩
      · simp only [List.mem_append, List.mem_cons]
        rintro e ((rfl | he) | he)
        exacts [rfl, (hrest e he).isUpdateStep, halph e he]
      · have : rest.countP (·.isUpdate .readonly) = 0 :=
          List.countP_eq_zero.mpr fun e he => by simp [(hrest e he).isUpdate_eq_false]
        have hu : (EcEvent.updateImage .readonly rv).isUpdate .readonly = true := rfl
        rw [List.cons_append, List.countP_cons, List.countP_append, this, if_pos hu]
        omega
      · rcases hcase with ⟨hm, hra⟩ | ⟨hlt, hv, -, hfirst⟩
        · have hrr' : (updateEc K R .readonly s).2.nv.recoveryRequest = rr := by rw [heq]
          rw [hrr'] at hra
          exact .inl ⟨by omega, hrr.trans hra⟩
        · refine .inr ⟨by omega, hv.append_left, fun h1 => ?_, fun h => by omega⟩
          obtain ⟨-, h, h', hm, rfl⟩ := hfirst (by omega)
          exact ErrorsRecovered.retry ⟨rv, rest, rfl, hrest⟩ hm

variable (ctx : Vb2Context)

/-- The protect stage of `sync_ec` either makes its three calls, all successful, or fails
after one of them. -/
theorem syncEcProtect_cases (s : EcWorld) :
    syncEcProtect K ctx R s = (vb2Success, ⟨s.sd, s.nv,
      s.log ++ [.protect .readonly 0, .protect (selectRw ctx) 0, .disableJump 0]⟩) ∨
    ((syncEcProtect K ctx R s).1 ≠ vb2Success ∧ ∃ evs rr,
      (syncEcProtect K ctx R s).2 = ⟨s.sd, { s.nv with recoveryRequest := rr }, s.log ++ evs⟩ ∧
      (∀ e ∈ evs, e.IsProtectStep) ∧ RecoveryAsked K s.nv.recoveryRequest rr evs) := by
  unfold syncEcProtect
  rcases protectEc_cases K R .readonly s with h₁ | ⟨rv, rr, hrv, h₁, hrr⟩
  · have hok : RecoveryAsked K s.nv.recoveryRequest s.nv.recoveryRequest [.protect .readonly 0] :=
      .of_recovered (errorsRecovered_of_not_fails (List.forall_iff_forall_mem.mp ⟨fun h => h.1 rfl, id⟩))
    simp only [h₁, ne_eq, not_true_eq_false, if_false]
    rcases protectEc_cases K R (selectRw ctx) (s.logEvent (.protect .readonly 0)) with
      h₂ | ⟨rv, rr, hrv, h₂, hrr⟩
    · simp only [h₂, ne_eq, not_true_eq_false, if_false]
      generalize R.disableJump _ = rv
      by_cases h₃ : rv = vb2Success
      · subst h₃
        left
        simp [EcWorld.logEvent, vb2Success]
      · right
        simp only [h₃, not_false_eq_true, if_true]
        exact ⟨K.error_ne_zero _, [.protect .readonly 0, .protect (selectRw ctx) 0, .disableJump rv],
          K.recovery .ecSoftwareSync, by simp [requestRecovery, EcWorld.logEvent],
          List.forall_iff_forall_mem.mp ⟨trivial, trivial, trivial⟩, .inl (K.recovery_ne_zero _)⟩
    · right
      simp only [h₂, hrv, not_false_eq_true, if_true]
      exact ⟨trivial, _, rr, by simp [EcWorld.logEvent], by exact List.forall_iff_forall_mem.mp ⟨trivial, trivial⟩,
        hok.trans hrr⟩
  · right
    simp only [h₁, hrv, ne_eq, not_false_eq_true, if_true]
    exact ⟨trivial, _, rr, rfl, by exact List.forall_iff_forall_mem.mp trivial, hrr⟩

/-- RO sync gives up after failing every try, or goes on to protect the images with the
recovery request from before it. -/
theorem syncEcRo_cases (t : EcWorld) :
    ((syncEcRo K ctx R t).1 = K.error .ecRebootToRoRequired ∧ ∃ evs,
        (syncEcRo K ctx R t).2.log = t.log ++ evs ∧ (∀ e ∈ evs, e.IsUpdateStep .readonly) ∧
        RecoveryAsked K t.nv.recoveryRequest (syncEcRo K ctx R t).2.nv.recoveryRequest evs) ∨
    ∃ t' evs, syncEcRo K ctx R t = syncEcProtect K ctx R t' ∧
      t'.nv.recoveryRequest = t.nv.recoveryRequest ∧ t'.log = t.log ++ evs ∧
      (∀ e ∈ evs, e.IsUpdateStep .readonly) ∧ evs.countP (·.isUpdate .readonly) ≤ roRetries ∧
      ErrorsRecovered K evs ∧ (t.sd.flags.getLsbD 3 = false ∧ evs = [] ∨ RoUpdateVerified evs) := by
  unfold syncEcRo
  by_cases hro : t.sd.flags &&& vb2SdFlagEcsyncEcRo ≠ 0
  · rw [if_pos hro]
    dsimp only
    obtain ⟨evs, hlog, halph, hcount, -, hcase⟩ :=
      updateRoTries_cases K R roRetries 0 { t with nv := { t.nv with tryRoSync := false } }
    rcases hu : updateRoTries K R roRetries 0 { t with nv := { t.nv with tryRoSync := false } } with
      ⟨m, t''⟩
    rw [hu] at hlog hcase
    dsimp only at hlog hcase
    rcases hcase with ⟨hm, hra⟩ | ⟨hlt, hv, her, hnv⟩
    · rw [if_pos (by omega)]
      exact .inl ⟨rfl, evs, hlog, halph, hra⟩
    · rw [if_neg (by omega)]
      have her := her (by unfold roRetries at hlt; omega)
      refine .inr ?_
      by_cases h0 : m = 0
      · rw [if_neg (not_not_intro h0)]
        exact ⟨t'', evs, rfl, by rw [(hnv h0).1], hlog, halph, hcount, her, .inr hv⟩
      · rw [if_pos h0]
        exact ⟨_, evs, rfl, rfl, hlog, halph, hcount, her, .inr hv⟩
  · rw [if_neg hro]
    exact .inr ⟨t, [], rfl, rfl, by simp, by simp, by simp, errorsRecovered_nil,
      .inl ⟨by simpa using hro, rfl⟩⟩

/-- The jump stage of `sync_ec`: with the EC in RO it asks the EC to jump, and goes on to
RO sync only if the jump succeeded. -/
theorem syncEcJump_cases (t : EcWorld) :
    (t.sd.flags.getLsbD 6 = true ∧ syncEcJump K ctx R t = syncEcRo K ctx R t) ∨
    (t.sd.flags.getLsbD 6 = false ∧
      syncEcJump K ctx R t = syncEcRo K ctx R (t.logEvent (.jumpToRw 0))) ∨
    (t.sd.flags.getLsbD 6 = false ∧
      (syncEcJump K ctx R t).1 = K.error .ecRebootToRoRequired ∧ ∃ rv,
      (syncEcJump K ctx R t).2.log = t.log ++ [.jumpToRw rv] ∧
      RecoveryAsked K t.nv.recoveryRequest (syncEcJump K ctx R t).2.nv.recoveryRequest
        [.jumpToRw rv]) := by
  unfold syncEcJump
  by_cases hin : t.sd.flags &&& vb2SdFlagEcsyncEcInRw = 0
  · have h6 : t.sd.flags.getLsbD 6 = false := by simpa using hin
    rw [if_pos hin]
    generalize R.jumpToRw t.log = rv
    by_cases hrv : rv = vb2Success
    · subst hrv
      exact .inr (.inl ⟨h6, if_neg (not_not_intro rfl)⟩)
    right; right
    rw [if_pos hrv]
    by_cases hrtr : rv = K.error .ecRebootToRoRequired
    · rw [if_neg (not_not_intro hrtr)]
      refine ⟨h6, rfl, rv, rfl, .of_recovered (errorsRecovered_of_not_fails ?_)⟩
      simp [hrtr, EcEvent.Fails, EcEvent.IsQuery]
    · rw [if_pos hrtr]
      exact ⟨h6, rfl, rv, rfl, .inl (K.recovery_ne_zero _)⟩
  · rw [if_neg hin]
    exact .inl ⟨by simpa using hin, rfl⟩

theorem syncFlag_selectRw : syncFlag (selectRw ctx) = vb2SdFlagEcsyncEcRw := by
  unfold selectRw
  split <;> rfl

/-- The RW update stage of `sync_ec`: with `EC_RW` set it updates `select_rw`; after a
verified update it stops for the EFS reboot or, without EFS, goes on to the jump stage. -/
theorem syncEc_cases (t : EcWorld) :
    (t.sd.flags.getLsbD 4 = false ∧ syncEc K ctx R t = syncEcJump K ctx R t) ∨
    (t.sd.flags.getLsbD 4 = true ∧ ∃ h h', HashesMatch h h' ∧ ∃ t' : EcWorld,
      t' = ⟨{ t.sd with flags := t.sd.flags &&& ~~~vb2SdFlagEcsyncEcRw }, t.nv,
        t.log ++ [.updateImage (selectRw ctx) 0, .hashImage (selectRw ctx) 0 h,
          .expectedImageHash (selectRw ctx) 0 h']⟩ ∧
      (ctx.ecEfs = true ∧ syncEc K ctx R t = (K.error .ecRebootToSwitchRw, t') ∨
        ctx.ecEfs = false ∧ syncEc K ctx R t = syncEcJump K ctx R t')) ∨
    (t.sd.flags.getLsbD 4 = true ∧
      (syncEc K ctx R t).1 = K.error .ecRebootToRoRequired ∧ ∃ rv rest,
      (syncEc K ctx R t).2.log = t.log ++ .updateImage (selectRw ctx) rv :: rest ∧
      (∀ e ∈ rest, e.IsCheck (selectRw ctx)) ∧
      RecoveryAsked K t.nv.recoveryRequest (syncEc K ctx R t).2.nv.recoveryRequest
        (.updateImage (selectRw ctx) rv :: rest)) := by
  unfold syncEc
  rw [syncFlag_selectRw]
  by_cases hrw : t.sd.flags &&& vb2SdFlagEcsyncEcRw ≠ 0
  · have h4 : t.sd.flags.getLsbD 4 = true := by simpa using hrw
    rw [if_pos hrw]
    have hcases := updateEc_cases K R (selectRw ctx) t
    rw [syncFlag_selectRw] at hcases
    rcases hu : updateEc K R (selectRw ctx) t with ⟨rv', t'⟩
    rw [hu] at hcases
    rcases hcases with ⟨h, h', hm, heq⟩ | ⟨hne, rv, rest, flags, rr, heq, hrest, hrr⟩
    · obtain ⟨rfl, rfl⟩ := Prod.mk.inj heq
      refine .inr (.inl ⟨h4, h, h', hm, _, rfl, ?_⟩)
      dsimp only
      rw [if_neg (not_not_intro rfl)]
      cases ctx.ecEfs
      · exact .inr ⟨rfl, if_neg Bool.false_ne_true⟩
      · exact .inl ⟨rfl, if_pos rfl⟩
    · dsimp only at hne heq ⊢
      subst heq
      rw [if_pos (Ne.symm hne)]
      exact .inr (.inr ⟨h4, rfl, rv, rest, rfl, hrest, hrr⟩)
  · rw [if_neg hrw]
    exact .inl ⟨by simpa using hrw, rfl⟩

end Steps

end Vboot
