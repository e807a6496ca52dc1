import Vboot.EcSync.Writes

/-!
# The wait screen of a slow EC update

`vb2api_ec_sync` asks `ec_will_update_slowly` once, after phase 1, whether phase 2 will
rewrite the EC, and shows `VB_SCREEN_WAIT` before phase 2 when it will, or asks for a
reboot with the display on when no display is available. The answer is right because
`sync_ec` rewrites an image only when `EC_RO` or `EC_RW` is set, and nothing between
phase 1 and `sync_ec` changes the flags.
-/
namespace Vboot

namespace EcEvent

/-- `vb2ex_ec_update_image`, for any image. -/
def IsUpdateImage : EcEvent → Prop
  | updateImage _ _ => True
  | _ => False

end EcEvent

theorem NoUpdates.not_isUpdateImage {xs : List EcEvent} (h : NoUpdates xs) :
    ∀ e ∈ xs, ¬ e.IsUpdateImage := by
  rintro (_ | _ | _ | ⟨sel, rv⟩ | _ | _ | _ | _ | _) he hu <;> try exact hu
  simpa [EcEvent.isUpdate] using h _ he sel

theorem noUpdates_of_counts {xs : List EcEvent} (hro : xs.countP (·.isUpdate .readonly) = 0)
    (hrw : rwUpdates xs = 0) : NoUpdates xs := by
  have hA : xs.countP (·.isUpdate .ecActive) = 0 := by unfold rwUpdates at hrw; omega
  have hU : xs.countP (·.isUpdate .ecUpdate) = 0 := by unfold rwUpdates at hrw; omega
  intro e he sel
  have h0 : xs.countP (·.isUpdate sel) = 0 := by cases sel <;> assumption
  simpa using List.countP_eq_zero.mp h0 e he

section Stages

variable (K : Vb2Constants) (ctx : Vb2Context) (R : EcReplies)

/-- `sync_ec` rewrites no image when neither `EC_RO` nor `EC_RW` is set. -/
theorem syncEc_noUpdates (t : EcWorld) (h3 : t.sd.flags.getLsbD 3 = false)
    (h4 : t.sd.flags.getLsbD 4 = false) :
    ∃ evs, (syncEc K ctx R t).2.log = t.log ++ evs ∧ NoUpdates evs := by
  rcases syncEc_cases K R ctx t with ⟨-, heq⟩ | ⟨h4', -⟩ | ⟨h4', -⟩
  · obtain ⟨evs, hlog, -, hrw, hro⟩ := syncEcJump_writes K ctx R t
    rw [heq]
    refine ⟨evs, hlog, noUpdates_of_counts ?_ hrw⟩
    by_contra hc
    exact absurd (hro hc).1 (by simp [h3])
  all_goals exact absurd h4' (by simp [h4])

/-- Phase 2 rewrites no image when neither `EC_RO` nor `EC_RW` is set. -/
theorem ecSyncPhase2_noUpdates (t : EcWorld) (h3 : t.sd.flags.getLsbD 3 = false)
    (h4 : t.sd.flags.getLsbD 4 = false) :
    ∃ evs, (ecSyncPhase2 K ctx R t).2.log = t.log ++ evs ∧ NoUpdates evs := by
  rcases ecSyncPhase2_cases K ctx R t with ⟨h, -⟩ | ⟨h, -⟩ <;> rw [h]
  · exact ⟨[], by simp, by simp [NoUpdates]⟩
  · exact syncEc_noUpdates K ctx R t h3 h4

end Stages

section Preceded

variable {Q : List EcEvent → Prop} {xs ys : List EcEvent}

theorem preceded_of_noUpdates (h : NoUpdates xs) : Preceded EcEvent.IsUpdateImage Q xs :=
  AtEach.of_forall_mem fun e he _ _ hu => absurd hu (h.not_isUpdateImage e he)

theorem preceded_after {d : EcEvent} (hx : NoUpdates xs) (hd : ¬ d.IsUpdateImage) :
    Preceded EcEvent.IsUpdateImage (d ∈ ·) (xs ++ d :: ys) := by
  refine atEach_append.mpr ⟨AtEach.of_forall_mem fun e he _ _ hu =>
    absurd hu (hx.not_isUpdateImage e he), ?_⟩
  rw [atEach_cons]
  exact ⟨fun hu => absurd hu hd, AtEach.of_forall_mem fun _ _ _ _ _ => by simp⟩

end Preceded

section Run

variable (K : Vb2Constants) (ctx : Vb2Context) (R : EcReplies)

/-- `vb2api_ec_sync` from "Phase 2" on. -/
def ecSyncFromPhase2 (s : EcWorld) : BitVec 32 × EcWorld :=
  let (rv, s) := ecSyncPhase2 K ctx R s
  if rv ≠ vb2Success then (rv, s)
  else
    let rv := R.vbootDone s.log
    let s := s.logEvent (.vbootDone rv)
    if rv ≠ vb2Success then (rv, s)
    else (vb2Success, s.setFlags (s.sd.flags ||| vb2SdStatusEcSyncComplete K))

/-- Past its two early exits, `vb2api_ec_sync` asks for a reboot, stops on a phase-1 failure, or
goes on to phase 2, after the wait screen when it will update slowly. -/
theorem vb2apiEcSync_eq (s : EcWorld) (hc : s.sd.flags &&& vb2SdStatusEcSyncComplete K = 0)
    (hrec : ctx.recoveryMode = false) :
    vb2apiEcSync K ctx R s =
      if ecWillUpdateSlowly ctx (ecSyncPhase1 K ctx R s).2 = true ∧
          (ecSyncPhase1 K ctx R s).2.sd.flags.getLsbD 8 = false then
        (K.error .rebootRequired, { (ecSyncPhase1 K ctx R s).2 with
          nv := { (ecSyncPhase1 K ctx R s).2.nv with displayRequest := true } })
      else if (ecSyncPhase1 K ctx R s).1 ≠ vb2Success then
        ((ecSyncPhase1 K ctx R s).1, (ecSyncPhase1 K ctx R s).2)
      else
        ecSyncFromPhase2 K ctx R (if ecWillUpdateSlowly ctx (ecSyncPhase1 K ctx R s).2 = true then
          displayWaitScreen K (ecSyncPhase1 K ctx R s).2 else (ecSyncPhase1 K ctx R s).2) := by
  rw [vb2apiEcSync, if_neg (not_not_intro hc), if_neg (by simp [hrec])]
  rcases ecSyncPhase1 K ctx R s with ⟨rv₁, s₁⟩
  dsimp only
  have hreboot : checkRebootForDisplay s₁ = if s₁.sd.flags.getLsbD 8 = false then
      (true, { s₁ with nv := { s₁.nv with displayRequest := true } }) else (false, s₁) := by
    rw [checkRebootForDisplay]
    simp
  by_cases hw : ecWillUpdateSlowly ctx s₁ = true <;> by_cases hd : s₁.sd.flags.getLsbD 8 = false <;>
    simp only [hw, hd, hreboot, if_true, if_false, true_and, false_and, and_false,
      Bool.false_eq_true] <;> rfl

theorem ecSyncPhase2_log (t : EcWorld) :
    ∃ evs, (ecSyncPhase2 K ctx R t).2.log = t.log ++ evs := by
  rcases ecSyncPhase2_cases K ctx R t with ⟨h, -⟩ | ⟨h, -⟩ <;> rw [h]
  · exact ⟨[], by simp⟩
  · obtain ⟨evs, hlog, -⟩ := syncEc_writes K ctx R t
    exact ⟨evs, hlog⟩

theorem ecSyncFromPhase2_log (t : EcWorld) :
    ∃ evs, (ecSyncFromPhase2 K ctx R t).2.log = (ecSyncPhase2 K ctx R t).2.log ++ evs ∧
      NoUpdates evs := by
  have hdone : ∀ rv, NoUpdates [.vbootDone rv] := by simp [NoUpdates, EcEvent.isUpdate]
  unfold ecSyncFromPhase2
  rcases ecSyncPhase2 K ctx R t with ⟨rv, t'⟩
  dsimp only
  split_ifs
  · exact ⟨[], by simp, by simp [NoUpdates]⟩
  all_goals exact ⟨_, rfl, hdone _⟩

/-- With no display, a run that will update slowly stops after phase 1: it sets
`VB2_NV_DISPLAY_REQUEST`, returns `VBERROR_REBOOT_REQUIRED` and changes nothing else. -/
theorem vb2apiEcSync_no_display (s : EcWorld)
    (hc : s.sd.flags &&& vb2SdStatusEcSyncComplete K = 0) (hrec : ctx.recoveryMode = false)
    (hw : ecWillUpdateSlowly ctx (ecSyncPhase1 K ctx R s).2 = true)
    (hd : (ecSyncPhase1 K ctx R s).2.sd.flags.getLsbD 8 = false) :
    vb2apiEcSync K ctx R s = (K.error .rebootRequired, { (ecSyncPhase1 K ctx R s).2 with
      nv := { (ecSyncPhase1 K ctx R s).2.nv with displayRequest := true } }) := by
  rw [vb2apiEcSync_eq K ctx R s hc hrec, if_pos ⟨hw, hd⟩]

/-- With `VB2_CONTEXT_EC_SYNC_SLOW` set, every `vb2ex_ec_update_image` of a run comes
after `VbDisplayScreen(VB_SCREEN_WAIT)` in the same run. -/
theorem vb2apiEcSync_updates_after_wait (s : EcWorld) (hslow : ctx.ecSyncSlow = true) :
    ∃ evs, (vb2apiEcSync K ctx R s).2.log = s.log ++ evs ∧
      Preceded EcEvent.IsUpdateImage (fun pre => .displayScreen K.screenWait ∈ pre) evs := by
  by_cases hc : s.sd.flags &&& vb2SdStatusEcSyncComplete K = 0
  swap
  · exact ⟨[], by rw [vb2apiEcSync, if_pos hc]; simp, atEach_nil⟩
  cases hrec : ctx.recoveryMode
  swap
  · exact ⟨[], by rw [vb2apiEcSync, if_neg (not_not_intro hc), if_pos hrec]; simp, atEach_nil⟩
  obtain ⟨evs₁, hlog₁, hq₁⟩ := ecSyncPhase1_queries K ctx R s
  have hno₁ : NoUpdates evs₁ := .of_queries hq₁
  rw [vb2apiEcSync_eq K ctx R s hc hrec]
  generalize ecSyncPhase1 K ctx R s = p at hlog₁ ⊢
  obtain ⟨rv₁, s₁⟩ := p
  dsimp only at hlog₁ ⊢
  by_cases hrb : ecWillUpdateSlowly ctx s₁ = true ∧ s₁.sd.flags.getLsbD 8 = false
  · rw [if_pos hrb]
    exact ⟨evs₁, hlog₁, preceded_of_noUpdates hno₁⟩
  rw [if_neg hrb]
  by_cases h₁ : rv₁ ≠ vb2Success
  · rw [if_pos h₁]
    exact ⟨evs₁, hlog₁, preceded_of_noUpdates hno₁⟩
  rw [if_neg h₁]
  by_cases hw : ecWillUpdateSlowly ctx s₁ = true
  · rw [if_pos hw]
    obtain ⟨evs₂, hlog₂⟩ := ecSyncPhase2_log K ctx R (displayWaitScreen K s₁)
    obtain ⟨evs₃, hlog₃, -⟩ := ecSyncFromPhase2_log K ctx R (displayWaitScreen K s₁)
    refine ⟨evs₁ ++ .displayScreen K.screenWait :: (evs₂ ++ evs₃), ?_, preceded_after hno₁ id⟩
    rw [hlog₃, hlog₂, displayWaitScreen, EcWorld.logEvent_log, hlog₁]
    simp
  · rw [if_neg hw]
    have h34 : s₁.sd.flags.getLsbD 3 = false ∧ s₁.sd.flags.getLsbD 4 = false := by
      simpa [ecWillUpdateSlowly, hslow] using hw
    obtain ⟨evs₂, hlog₂, hno₂⟩ := ecSyncPhase2_noUpdates K ctx R s₁ h34.1 h34.2
    obtain ⟨evs₃, hlog₃, hno₃⟩ := ecSyncFromPhase2_log K ctx R s₁
    exact ⟨evs₁ ++ evs₂ ++ evs₃, by rw [hlog₃, hlog₂, hlog₁]; simp,
      preceded_of_noUpdates ((hno₁.append hno₂).append hno₃)⟩

/-- With `VB2_CONTEXT_EC_SYNC_SLOW` set, every update comes after the wait screen; and a run
that will update slowly with no display asks for a reboot and changes nothing on the EC. -/
theorem vb2apiEcSync_wait_screen (s : EcWorld) (hslow : ctx.ecSyncSlow = true) :
    (∃ evs, (vb2apiEcSync K ctx R s).2.log = s.log ++ evs ∧
      Preceded EcEvent.IsUpdateImage (fun pre => .displayScreen K.screenWait ∈ pre) evs) ∧
    (s.sd.flags &&& vb2SdStatusEcSyncComplete K = 0 → ctx.recoveryMode = false →
      ecWillUpdateSlowly ctx (ecSyncPhase1 K ctx R s).2 = true →
      (ecSyncPhase1 K ctx R s).2.sd.flags.getLsbD 8 = false →
      vb2apiEcSync K ctx R s = (K.error .rebootRequired, { (ecSyncPhase1 K ctx R s).2 with
        nv := { (ecSyncPhase1 K ctx R s).2.nv with displayRequest := true } }) ∧
      ∃ evs, (vb2apiEcSync K ctx R s).2.log = s.log ++ evs ∧ ∀ e ∈ evs, ¬ e.ChangesEc) := by
  refine ⟨vb2apiEcSync_updates_after_wait K ctx R s hslow, fun hc hrec hw hd => ?_⟩
  have heq := vb2apiEcSync_no_display K ctx R s hc hrec hw hd
  obtain ⟨evs₁, hlog₁, hq₁⟩ := ecSyncPhase1_queries K ctx R s
  exact ⟨heq, evs₁, by rw [heq]; exact hlog₁, fun e he => (hq₁ e he).not_changesEc⟩

/-- Replies under which the EC's RW hash differs from the expected one, so that phase 1 sets
`VB2_SD_FLAG_ECSYNC_EC_RW`. -/
def EcReplies.staleRw : EcReplies :=
  { EcReplies.sample with
    expectedImageHash := fun _ sel => (0, ⟨fun _ => if sel = .ecActive then 1 else 0, 32⟩) }

theorem vb2apiEcSync_wait_screen_sample :
    ((⟨true, false, false, true, false⟩ : Vb2Context).ecSyncSlow = true ∧
      ∃ evs, (vb2apiEcSync .sample ⟨true, false, false, true, false⟩ .sample
          ⟨⟨0x108, 0, 0⟩, ⟨0, false, false⟩, []⟩).2.log = [] ++ evs ∧
        Preceded EcEvent.IsUpdateImage (fun pre => .displayScreen Vb2Constants.sample.screenWait ∈ pre)
          evs) ∧
    ecWillUpdateSlowly ⟨true, false, false, true, false⟩ (ecSyncPhase1 .sample
        ⟨true, false, false, true, false⟩ .staleRw ⟨⟨0, 0, 0⟩, ⟨0, false, false⟩, []⟩).2 = true ∧
      vb2apiEcSync .sample ⟨true, false, false, true, false⟩ .staleRw
          ⟨⟨0, 0, 0⟩, ⟨0, false, false⟩, []⟩ =
        (Vb2Constants.sample.error .rebootRequired, { (ecSyncPhase1 .sample
          ⟨true, false, false, true, false⟩ .staleRw ⟨⟨0, 0, 0⟩, ⟨0, false, false⟩, []⟩).2 with
            nv := { (ecSyncPhase1 .sample ⟨true, false, false, true, false⟩ .staleRw
              ⟨⟨0, 0, 0⟩, ⟨0, false, false⟩, []⟩).2.nv with displayRequest := true } }) ∧
      ∃ evs, (vb2apiEcSync .sample ⟨true, false, false, true, false⟩ .staleRw
          ⟨⟨0, 0, 0⟩, ⟨0, false, false⟩, []⟩).2.log = [] ++ evs ∧ ∀ e ∈ evs, ¬ e.ChangesEc :=
  have hw : ecWillUpdateSlowly ⟨true, false, false, true, false⟩ (ecSyncPhase1 .sample
      ⟨true, false, false, true, false⟩ .staleRw ⟨⟨0, 0, 0⟩, ⟨0, false, false⟩, []⟩).2 = true := by
    decide
  ⟨⟨rfl, (vb2apiEcSync_wait_screen .sample ⟨true, false, false, true, false⟩ .sample
    ⟨⟨0x108, 0, 0⟩, ⟨0, false, false⟩, []⟩ rfl).1⟩, hw,
    (vb2apiEcSync_wait_screen .sample ⟨true, false, false, true, false⟩ .staleRw
      ⟨⟨0, 0, 0⟩, ⟨0, false, false⟩, []⟩ rfl).2 (by decide) rfl hw (by decide)⟩

end Run

end Vboot
