import Vboot.EcSync.Phases

/-!
# Errors in EC sync end in recovery

Every error a callback of phases 1 and 2 shows (an error answer other than
`VBERROR_EC_REBOOT_TO_RO_REQUIRED`, hashes of different sizes, an image still wrong after
its update) makes `vb2api_ec_sync` fail with NV asking for recovery, unless it belongs to a
failed try of the RO update that the retry right after it put right: RO sync then goes on
with the recovery request it had before it started.
-/
namespace Vboot

/-- A step that made the calls `evs` and returned `rv`, leaving the recovery request `rr`,
failed asking for recovery, or every error among `evs` was recovered. -/
def ErrorsHandled (K : Vb2Constants) (rv rr : BitVec 32) (evs : List EcEvent) : Prop :=
  rv ≠ vb2Success ∧ rr ≠ 0 ∨ ErrorsRecovered K evs

section Handled

variable {K : Vb2Constants} {rv rr old : BitVec 32} {xs ys : List EcEvent}

theorem RecoveryAsked.errorsHandled (h : RecoveryAsked K old rr xs) (hrv : rv ≠ vb2Success) :
    ErrorsHandled K rv rr xs := by
  rcases h with h | ⟨-, h⟩
  exacts [.inl ⟨hrv, h⟩, .inr h]

theorem ErrorsHandled.append_left (hx : ErrorsRecovered K xs) (h : ErrorsHandled K rv rr ys) :
    ErrorsHandled K rv rr (xs ++ ys) :=
  h.imp id hx.append

end Handled

section Stages

variable (K : Vb2Constants) (ctx : Vb2Context) (R : EcReplies) (t : EcWorld)

theorem syncEcProtect_errorsHandled :
    ∃ evs, (syncEcProtect K ctx R t).2.log = t.log ++ evs ∧
      ErrorsHandled K (syncEcProtect K ctx R t).1
        (syncEcProtect K ctx R t).2.nv.recoveryRequest evs := by
  rcases syncEcProtect_cases K R ctx t with h | ⟨hne, evs, rr, h, -, hra⟩
  · refine ⟨_, by rw [h], .inr (errorsRecovered_of_not_fails ?_)⟩
    simp [EcEvent.Fails, EcEvent.IsQuery]
  · exact ⟨evs, by rw [h], by rw [h]; exact hra.errorsHandled hne⟩

theorem syncEcRo_errorsHandled :
    ∃ evs, (syncEcRo K ctx R t).2.log = t.log ++ evs ∧
      ErrorsHandled K (syncEcRo K ctx R t).1 (syncEcRo K ctx R t).2.nv.recoveryRequest evs := by
  rcases syncEcRo_cases K R ctx t with ⟨hr, evs, hlog, -, hra⟩ |
    ⟨t', evs, heq, -, hlog, -, -, her, -⟩
  · exact ⟨evs, hlog, hra.errorsHandled (hr ▸ Vb2Constants.error_ne_success _ _)⟩
  · obtain ⟨evs', hlog', hh⟩ := syncEcProtect_errorsHandled K ctx R t'
    rw [heq]
    exact ⟨evs ++ evs', by rw [hlog', hlog, List.append_assoc], hh.append_left her⟩

theorem syncEcJump_errorsHandled :
    ∃ evs, (syncEcJump K ctx R t).2.log = t.log ++ evs ∧
      ErrorsHandled K (syncEcJump K ctx R t).1 (syncEcJump K ctx R t).2.nv.recoveryRequest evs := by
  rcases syncEcJump_cases K R ctx t with ⟨-, heq⟩ | ⟨-, heq⟩ | ⟨-, hr, rv, hlog, hra⟩
  · rw [heq]
    exact syncEcRo_errorsHandled K ctx R t
  · obtain ⟨evs, hlog, hh⟩ := syncEcRo_errorsHandled K ctx R (t.logEvent (.jumpToRw 0))
    have hj : ErrorsRecovered K [.jumpToRw 0] :=
      errorsRecovered_of_not_fails (by simp [EcEvent.Fails, EcEvent.IsQuery])
    rw [heq]
    exact ⟨.jumpToRw 0 :: evs, by rw [hlog]; simp, hh.append_left hj⟩
  · exact ⟨_, hlog, hra.errorsHandled (K.ne_success_of_eq_error hr)⟩

theorem syncEc_errorsHandled :
    ∃ evs, (syncEc K ctx R t).2.log = t.log ++ evs ∧
      ErrorsHandled K (syncEc K ctx R t).1 (syncEc K ctx R t).2.nv.recoveryRequest evs := by
  rcases syncEc_cases K R ctx t with ⟨-, heq⟩ | ⟨-, h, h', hm, t', ht', hres⟩ |
    ⟨-, hr, rv, rest, hlog, -, hra⟩
  · rw [heq]
    exact syncEcJump_errorsHandled K ctx R t
  · have hu : ErrorsRecovered K [.updateImage (selectRw ctx) 0, .hashImage (selectRw ctx) 0 h,
        .expectedImageHash (selectRw ctx) 0 h'] := errorsRecovered_update hm
    rcases hres with ⟨-, hres⟩ | ⟨-, hres⟩
    · rw [hres]
      exact ⟨_, by rw [ht'], .inr hu⟩
    · obtain ⟨evs, hlog, hh⟩ := syncEcJump_errorsHandled K ctx R t'
      rw [hres]
      exact ⟨_ ++ evs, by rw [hlog, ht']; simp, hh.append_left hu⟩
  · exact ⟨_, hlog, hra.errorsHandled (K.ne_success_of_eq_error hr)⟩

theorem ecSyncPhase2_errorsHandled :
    ∃ evs, (ecSyncPhase2 K ctx R t).2.log = t.log ++ evs ∧
      ErrorsHandled K (ecSyncPhase2 K ctx R t).1
        (ecSyncPhase2 K ctx R t).2.nv.recoveryRequest evs := by
  rcases ecSyncPhase2_cases K ctx R t with ⟨h, -⟩ | ⟨h, -⟩ <;> rw [h]
  · exact ⟨[], by simp, .inr errorsRecovered_nil⟩
  · exact syncEc_errorsHandled K ctx R t

/-- Phase 1 leaves the recovery request as it was, every error among its calls recovered,
or asks for recovery, and only after failing. -/
theorem ecSyncPhase1_recoveryAsked :
    ∃ evs, (ecSyncPhase1 K ctx R t).2.log = t.log ++ evs ∧
      RecoveryAsked K t.nv.recoveryRequest (ecSyncPhase1 K ctx R t).2.nv.recoveryRequest evs ∧
      ((ecSyncPhase1 K ctx R t).1 = vb2Success → ErrorsRecovered K evs) := by
  by_cases h : ctx.ecSyncSupported = true ∧ ctx.gbbDisableEcSoftwareSync = false
  · rcases ecSyncPhase1_cases K ctx R h.1 h.2 t with ⟨-, evs, hc, -⟩ | ⟨hr, evs, hlog, -, hra⟩
    · exact ⟨evs, hc.log, .inr ⟨by rw [hc.nv], hc.recovered⟩, fun _ => hc.recovered⟩
    · exact ⟨evs, hlog, hra, fun h => absurd h (K.ne_success_of_eq_error hr)⟩
  · rw [ecSyncPhase1_skipped K ctx R t (by cases hs : ctx.ecSyncSupported <;> simp_all)]
    exact ⟨[], by simp, .of_recovered errorsRecovered_nil, fun _ => errorsRecovered_nil⟩

end Stages

section Run

variable (K : Vb2Constants) (ctx : Vb2Context) (R : EcReplies)

theorem vb2apiEcSync_errorsHandled (s : EcWorld) :
    ∃ evs, (vb2apiEcSync K ctx R s).2.log = s.log ++ evs ∧
      ErrorsHandled K (vb2apiEcSync K ctx R s).1
        (vb2apiEcSync K ctx R s).2.nv.recoveryRequest evs := by
  by_cases hc : s.sd.flags &&& vb2SdStatusEcSyncComplete K = 0
  swap
  · rw [vb2apiEcSync, if_pos hc]
    exact ⟨[], by simp, .inr errorsRecovered_nil⟩
  cases hrec : ctx.recoveryMode
  swap
  · rw [vb2apiEcSync, if_neg (not_not_intro hc), if_pos hrec]
    exact ⟨[], by simp, .inr errorsRecovered_nil⟩
  obtain ⟨evs₁, hlog₁, hra₁, her₁⟩ := ecSyncPhase1_recoveryAsked K ctx R s
  rcases vb2apiEcSync_phases K ctx R s hc hrec with ⟨hne, -, hlog, hrr⟩ |
    ⟨h₁, ds, s₂, hds, hs₂, hcase⟩
  · rw [← hrr] at hra₁
    exact ⟨evs₁, by rw [hlog, hlog₁], hra₁.errorsHandled hne⟩
  have hds' : ErrorsRecovered K ds :=
    errorsRecovered_of_not_fails (by rcases hds with rfl | rfl <;> simp [EcEvent.Fails, EcEvent.IsQuery])
  obtain ⟨evs₂, hlog₂, hh₂⟩ := ecSyncPhase2_errorsHandled K ctx R s₂
  have hpre : s₂.log = s.log ++ (evs₁ ++ ds) := by rw [hs₂, hlog₁, List.append_assoc]
  rcases hcase with ⟨-, heq⟩ | ⟨hok, rv, -, hlog, -⟩
  · rw [heq]
    exact ⟨_, by rw [hlog₂, hpre, List.append_assoc], hh₂.append_left ((her₁ h₁).append hds')⟩
  · have hv : ErrorsRecovered K [.vbootDone rv] :=
      errorsRecovered_of_not_fails (by simp [EcEvent.Fails, EcEvent.IsQuery])
    refine ⟨evs₁ ++ ds ++ evs₂ ++ [.vbootDone rv], by rw [hlog, hlog₂, hpre]; simp, .inr ?_⟩
    rcases hh₂ with ⟨hne, -⟩ | her₂
    · exact absurd hok hne
    · exact (((her₁ h₁).append hds').append her₂).append hv

/-- Every error shown in a run of `vb2api_ec_sync`, by a callback of phases 1 and 2 or by
the hashes it compared, makes the call fail with NV asking for recovery, unless it belongs
to a failed try of the RO update followed by a retry that verified; and RO sync either gives
up with `VBERROR_EC_REBOOT_TO_RO_REQUIRED` or goes on to protect the images with the
recovery request it had before it started. -/
theorem vb2apiEcSync_error_requests_recovery (s : EcWorld) :
    (∃ evs, (vb2apiEcSync K ctx R s).2.log = s.log ++ evs ∧
      ∀ pre e post, evs = pre ++ e :: post → ErrorAt K pre e → ¬ RoRetried pre e post →
        (vb2apiEcSync K ctx R s).1 ≠ vb2Success ∧
          (vb2apiEcSync K ctx R s).2.nv.recoveryRequest ≠ 0) ∧
    ∀ t, (syncEcRo K ctx R t).1 = K.error .ecRebootToRoRequired ∨
      ∃ t', t'.nv.recoveryRequest = t.nv.recoveryRequest ∧
        syncEcRo K ctx R t = syncEcProtect K ctx R t' := by
  refine ⟨?_, fun t => ?_⟩
  · obtain ⟨evs, hlog, hh⟩ := vb2apiEcSync_errorsHandled K ctx R s
    refine ⟨evs, hlog, fun pre e post he herr hv => ?_⟩
    rcases hh with h | her
    exacts [h, absurd (her [] pre e post he herr) hv]
  · rcases syncEcRo_cases K R ctx t with ⟨hr, -⟩ | ⟨t', -, heq, hrr, -⟩
    exacts [.inl hr, .inr ⟨t', hrr, heq⟩]

end Run

end Vboot
