import Vboot.EcSync.Model

/-!
# The completion marker of EC sync

`vb2api_ec_sync` skips when `sd->flags` has `VB2_SD_STATUS_EC_SYNC_COMPLETE`, and marks
completion by setting that bit in `sd->flags`: a status bit kept in the flags word. So a
call after a successful one is a no-op, but so is a call whose flags word has that bit
for another reason, whatever `sd->status` says.
-/
namespace Vboot

section Completion

variable {K : Vb2Constants} {ctx : Vb2Context} {R : EcReplies} {s : EcWorld}

/-- Every call either takes one of the two early exits, changing nothing, or fails, or
sets the completion marker in `sd->flags` and succeeds. -/
theorem vb2apiEcSync_cases (K : Vb2Constants) (ctx : Vb2Context) (R : EcReplies) (s : EcWorld) :
    (s.sd.flags &&& vb2SdStatusEcSyncComplete K ≠ 0 ∧ vb2apiEcSync K ctx R s = (vb2Success, s)) ∨
    (ctx.recoveryMode = true ∧ vb2apiEcSync K ctx R s = (vb2Success, s)) ∨
    (vb2apiEcSync K ctx R s).1 ≠ vb2Success ∨
    ∃ s' : EcWorld, vb2apiEcSync K ctx R s =
      (vb2Success, s'.setFlags (s'.sd.flags ||| vb2SdStatusEcSyncComplete K)) := by
  unfold vb2apiEcSync
  by_cases h₁ : s.sd.flags &&& vb2SdStatusEcSyncComplete K ≠ 0
  · exact .inl ⟨h₁, if_pos h₁⟩
  by_cases h₂ : ctx.recoveryMode = true
  · exact .inr (.inl ⟨h₂, by rw [if_neg h₁, if_pos h₂]⟩)
  rw [if_neg h₁, if_neg h₂]
  rcases ecSyncPhase1 K ctx R s with ⟨rv₁, s₁⟩
  dsimp only
  generalize (if ecWillUpdateSlowly ctx s₁ = true then checkRebootForDisplay s₁ else (false, s₁)) = wr
  rcases wr with ⟨_ | _, s₂⟩
  swap
  · exact .inr (.inr (.inl (K.error_ne_zero _)))
  simp only [Bool.false_eq_true, if_false]
  by_cases hrv₁ : rv₁ = vb2Success
  swap
  · exact .inr (.inr (.inl (by rw [if_pos hrv₁]; exact hrv₁)))
  rw [if_neg (not_not_intro hrv₁)]
  rcases ecSyncPhase2 K ctx R _ with ⟨rv₂, s₃⟩
  dsimp only
  by_cases hrv₂ : rv₂ = vb2Success
  swap
  · exact .inr (.inr (.inl (by rw [if_pos hrv₂]; exact hrv₂)))
  rw [if_neg (not_not_intro hrv₂)]
  by_cases hrv : R.vbootDone s₃.log = vb2Success
  · exact .inr (.inr (.inr ⟨_, by rw [if_neg (not_not_intro hrv)]⟩))
  · exact .inr (.inr (.inl (by rw [if_pos hrv]; exact hrv)))

/-- EC sync is idempotent within a boot: once a call has returned `VB2_SUCCESS`, a second
call from the state it left, with any replies, returns `VB2_SUCCESS` and changes nothing:
no callback, no screen, no NV write, `sd` as it was. -/
theorem vb2apiEcSync_idempotent (R' : EcReplies)
    (h : (vb2apiEcSync K ctx R s).1 = vb2Success) :
    vb2apiEcSync K ctx R' (vb2apiEcSync K ctx R s).2 =
      (vb2Success, (vb2apiEcSync K ctx R s).2) := by
  rcases vb2apiEcSync_cases K ctx R s with
    ⟨hc, hs⟩ | ⟨hr, hs⟩ | hne | ⟨s', hs⟩
  · rw [hs, vb2apiEcSync, if_pos hc]
  · rw [hs, vb2apiEcSync]
    by_cases hc : s.sd.flags &&& vb2SdStatusEcSyncComplete K ≠ 0
    exacts [if_pos hc, by rw [if_neg hc, if_pos hr]]
  · exact absurd h hne
  · rw [hs, vb2apiEcSync]
    exact if_pos (or_and_self_ne_zero (vb2SdStatusEcSyncComplete_ne_zero K))

theorem vb2apiEcSync_idempotent_sample :
    (vb2apiEcSync .sample ⟨true, false, false, false, false⟩ .sample
        ⟨⟨0, 0, 0⟩, ⟨0, false, false⟩, []⟩).1 = vb2Success ∧
      vb2apiEcSync .sample ⟨true, false, false, false, false⟩ .sample
          (vb2apiEcSync .sample ⟨true, false, false, false, false⟩ .sample
            ⟨⟨0, 0, 0⟩, ⟨0, false, false⟩, []⟩).2 =
        (vb2Success, (vb2apiEcSync .sample ⟨true, false, false, false, false⟩ .sample
          ⟨⟨0, 0, 0⟩, ⟨0, false, false⟩, []⟩).2) :=
  ⟨by decide, vb2apiEcSync_idempotent .sample (by decide)⟩

/-- For every value of `VB2_SD_STATUS_EC_SYNC_COMPLETE`: with that bit in `sd->flags` and
`sd->status` clear, an applicable sync is skipped as "already performed", calling nothing;
and a successful sync from clear flags and status leaves `sd->status` clear and sets the
bit in `sd->flags`. -/
theorem vb2apiEcSync_marker_in_flags (K : Vb2Constants) (R : EcReplies) :
    vb2apiEcSync K ⟨true, false, false, false, false⟩ R
        ⟨⟨vb2SdStatusEcSyncComplete K, 0, 0⟩, ⟨0, false, false⟩, []⟩ =
      (vb2Success, ⟨⟨vb2SdStatusEcSyncComplete K, 0, 0⟩, ⟨0, false, false⟩, []⟩) ∧
    vb2apiEcSync K ⟨false, false, false, false, false⟩ .sample
        ⟨⟨0, 0, 0⟩, ⟨0, false, false⟩, []⟩ =
      (vb2Success, ⟨⟨vb2SdStatusEcSyncComplete K, 0, 0⟩, ⟨0, false, false⟩, [.vbootDone 0]⟩) := by
  constructor
  · rw [vb2apiEcSync, if_pos]
    simpa only [BitVec.and_self] using vb2SdStatusEcSyncComplete_ne_zero K
  · simp [vb2apiEcSync, ecSyncPhase1, ecWillUpdateSlowly, ecSyncPhase2, ecSyncAllowed,
      EcReplies.sample, EcWorld.logEvent, EcWorld.setFlags, vb2Success]

end Completion

end Vboot
