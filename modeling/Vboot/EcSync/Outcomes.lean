import Vboot.EcSync.Phases

/-!
# What EC sync returns

`vb2api_ec_sync` returns `VB2_SUCCESS`, one of the three reboot codes EC sync names, or,
passed up unchanged, an error the EC gave in that run to `vb2ex_ec_protect` or
`vb2ex_ec_vboot_done`. Every other failure of a callback, including one of
`vb2ex_ec_update_image` or `vb2ex_ec_jump_to_rw`, becomes
`VBERROR_EC_REBOOT_TO_RO_REQUIRED`.
-/
namespace Vboot

/-- A value `vb2api_ec_sync` may return after the calls `evs`. -/
def Outcome (K : Vb2Constants) (rv : BitVec 32) (evs : List EcEvent) : Prop :=
  rv = vb2Success ∨ rv = K.error .ecRebootToRoRequired ∨ rv = K.error .ecRebootToSwitchRw ∨
    rv = K.error .rebootRequired ∨ (∃ sel, .protect sel rv ∈ evs) ∨ .vbootDone rv ∈ evs

theorem Outcome.append_left {K : Vb2Constants} {rv : BitVec 32} {xs ys : List EcEvent}
    (h : Outcome K rv ys) : Outcome K rv (xs ++ ys) :=
  h.imp_right <| .imp_right <| .imp_right <| .imp_right <|
    .imp (fun ⟨sel, h⟩ => ⟨sel, List.mem_append_right _ h⟩) (List.mem_append_right _)

section Stages

variable (K : Vb2Constants) (ctx : Vb2Context) (R : EcReplies)

/-- The protect stage returns `VB2_SUCCESS`, `VBERROR_EC_REBOOT_TO_RO_REQUIRED` when
`vb2ex_ec_disable_jump` fails, or what `vb2ex_ec_protect` answered when it failed. -/
theorem syncEcProtect_outcome (t : EcWorld) :
    ∃ evs, (syncEcProtect K ctx R t).2.log = t.log ++ evs ∧
      Outcome K (syncEcProtect K ctx R t).1 evs := by
  unfold syncEcProtect
  rcases protectEc_cases K R .readonly t with h₁ | ⟨rv, rr, hrv, h₁, -⟩
  swap
  · simp only [h₁, hrv, ne_eq, not_false_eq_true, if_true]
    exact ⟨_, rfl, .inr (.inr (.inr (.inr (.inl ⟨_, List.mem_singleton_self _⟩))))⟩
  simp only [h₁, ne_eq, not_true_eq_false, if_false]
  rcases protectEc_cases K R (selectRw ctx) (t.logEvent (.protect .readonly 0)) with
    h₂ | ⟨rv, rr, hrv, h₂, -⟩
  swap
  · simp only [h₂, hrv, ne_eq, not_false_eq_true, if_true]
    exact ⟨[.protect .readonly 0, .protect (selectRw ctx) rv], by simp [EcWorld.logEvent],
      .inr (.inr (.inr (.inr (.inl ⟨selectRw ctx, by simp⟩))))⟩
  simp only [h₂, ne_eq, not_true_eq_false, if_false]
  generalize R.disableJump _ = rv
  have hlog : ∀ u : EcWorld, u.log = ((t.logEvent (.protect .readonly 0)).logEvent
      (.protect (selectRw ctx) 0)).log ++ [.disableJump rv] →
      u.log = t.log ++ [.protect .readonly 0, .protect (selectRw ctx) 0, .disableJump rv] :=
    fun u hu => by rw [hu]; simp
  by_cases h₃ : rv = vb2Success
  · rw [if_neg (not_not_intro h₃)]
    exact ⟨_, hlog _ rfl, .inl h₃⟩
  · rw [if_pos h₃]
    exact ⟨_, hlog _ rfl, .inr (.inl rfl)⟩

theorem syncEcRo_outcome (t : EcWorld) :
    ∃ evs, (syncEcRo K ctx R t).2.log = t.log ++ evs ∧ Outcome K (syncEcRo K ctx R t).1 evs := by
  rcases syncEcRo_cases K R ctx t with ⟨hr, evs, hlog, -⟩ | ⟨t', evs, heq, -, hlog, -⟩
  · exact ⟨evs, hlog, .inr (.inl hr)⟩
  · obtain ⟨evs', hlog', ho⟩ := syncEcProtect_outcome K ctx R t'
    rw [heq]
    exact ⟨evs ++ evs', by rw [hlog', hlog, List.append_assoc], ho.append_left⟩

theorem syncEcJump_outcome (t : EcWorld) :
    ∃ evs, (syncEcJump K ctx R t).2.log = t.log ++ evs ∧
      Outcome K (syncEcJump K ctx R t).1 evs := by
  rcases syncEcJump_cases K R ctx t with ⟨-, heq⟩ | ⟨-, heq⟩ | ⟨-, hr, rv, hlog, -⟩
  · rw [heq]
    exact syncEcRo_outcome K ctx R t
  · obtain ⟨evs, hlog, ho⟩ := syncEcRo_outcome K ctx R (t.logEvent (.jumpToRw 0))
    rw [heq]
    exact ⟨[.jumpToRw 0] ++ evs, by rw [hlog]; simp, ho.append_left⟩
  · exact ⟨_, hlog, .inr (.inl hr)⟩

theorem syncEc_outcome (t : EcWorld) :
    ∃ evs, (syncEc K ctx R t).2.log = t.log ++ evs ∧ Outcome K (syncEc K ctx R t).1 evs := by
  rcases syncEc_cases K R ctx t with ⟨-, heq⟩ | ⟨-, h, h', -, t', ht', hres⟩ |
    ⟨-, hr, rv, rest, hlog, -⟩
  · rw [heq]
    exact syncEcJump_outcome K ctx R t
  · rcases hres with ⟨-, hres⟩ | ⟨-, hres⟩
    · rw [hres]
      exact ⟨_, by rw [ht'], .inr (.inr (.inl rfl))⟩
    · obtain ⟨evs, hlog, ho⟩ := syncEcJump_outcome K ctx R t'
      rw [hres]
      exact ⟨[.updateImage (selectRw ctx) 0, .hashImage (selectRw ctx) 0 h,
        .expectedImageHash (selectRw ctx) 0 h'] ++ evs, by rw [hlog, ht']; simp, ho.append_left⟩
  · exact ⟨_, hlog, .inr (.inl hr)⟩

/-- Phase 1 only ever fails with `VBERROR_EC_REBOOT_TO_RO_REQUIRED`. -/
theorem ecSyncPhase1_result (s : EcWorld) :
    (ecSyncPhase1 K ctx R s).1 = vb2Success ∨
      (ecSyncPhase1 K ctx R s).1 = K.error .ecRebootToRoRequired := by
  by_cases h : ctx.ecSyncSupported = true ∧ ctx.gbbDisableEcSoftwareSync = false
  · rcases ecSyncPhase1_cases K ctx R h.1 h.2 s with ⟨h₁, -⟩ | ⟨hr, -⟩
    exacts [.inl h₁, .inr hr]
  · rw [ecSyncPhase1_skipped K ctx R s (by cases hs : ctx.ecSyncSupported <;> simp_all)]
    exact .inl rfl

theorem ecSyncPhase2_outcome (t : EcWorld) :
    ∃ evs, (ecSyncPhase2 K ctx R t).2.log = t.log ++ evs ∧
      Outcome K (ecSyncPhase2 K ctx R t).1 evs := by
  rcases ecSyncPhase2_cases K ctx R t with ⟨h, -⟩ | ⟨h, -⟩ <;> rw [h]
  · exact ⟨[], by simp, .inl rfl⟩
  · exact syncEc_outcome K ctx R t

end Stages

/-- Every value a run of `vb2api_ec_sync` returns, from any state and with any replies, is
`VB2_SUCCESS`, `VBERROR_EC_REBOOT_TO_RO_REQUIRED`, `VBERROR_EC_REBOOT_TO_SWITCH_RW`,
`VBERROR_REBOOT_REQUIRED`, or an answer the EC gave in that run to `vb2ex_ec_protect` or
`vb2ex_ec_vboot_done`. -/
theorem vb2apiEcSync_outcome (K : Vb2Constants) (ctx : Vb2Context) (R : EcReplies)
    (s : EcWorld) :
    ∃ evs, (vb2apiEcSync K ctx R s).2.log = s.log ++ evs ∧
      Outcome K (vb2apiEcSync K ctx R s).1 evs := by
  by_cases hc : s.sd.flags &&& vb2SdStatusEcSyncComplete K = 0
  swap
  · rw [vb2apiEcSync, if_pos hc]
    exact ⟨[], by simp, .inl rfl⟩
  cases hrec : ctx.recoveryMode
  swap
  · rw [vb2apiEcSync, if_neg (not_not_intro hc), if_pos hrec]
    exact ⟨[], by simp, .inl rfl⟩
  obtain ⟨evs₁, hlog₁, -⟩ := ecSyncPhase1_queries K ctx R s
  rcases vb2apiEcSync_phases K ctx R s hc hrec with ⟨-, hrv, hlog, -⟩ |
    ⟨-, ds, s₂, -, hs₂, hcase⟩
  · refine ⟨evs₁, by rw [hlog, hlog₁], ?_⟩
    rcases hrv with hrv | hrv
    · exact .inr (.inr (.inr (.inl hrv)))
    · rw [hrv]
      exact (ecSyncPhase1_result K ctx R s).imp_right .inl
  obtain ⟨evs₂, hlog₂, ho⟩ := ecSyncPhase2_outcome K ctx R s₂
  have hlog₂' : (ecSyncPhase2 K ctx R s₂).2.log = s.log ++ (evs₁ ++ ds ++ evs₂) := by
    rw [hlog₂, hs₂, hlog₁]; simp
  rcases hcase with ⟨-, heq⟩ | ⟨-, rv, hrv, hlog, -⟩
  · rw [heq]
    exact ⟨_, hlog₂', ho.append_left⟩
  · rw [hrv]
    exact ⟨evs₁ ++ ds ++ evs₂ ++ [.vbootDone rv], by rw [hlog, hlog₂']; simp,
      .inr (.inr (.inr (.inr (.inr (by simp)))))⟩

end Vboot
