import Vboot.EcSync.Phases

/-!
# What a successful EC sync has done

A run of `vb2api_ec_sync` that EC sync applies to and that returns `VB2_SUCCESS` went
through every stage of `sync_ec` to its end. Each stage's success lemma says what calls
it made; the run's calls are those of phase 1, the wait screen, the stages, and
`vb2ex_ec_vboot_done`.
-/
namespace Vboot

/-- The calls of the protect stage when it succeeds. -/
def protectCalls (ctx : Vb2Context) : List EcEvent :=
  [.protect .readonly 0, .protect (selectRw ctx) 0, .disableJump 0]

theorem countP_isUpdate_eq_zero {xs : List EcEvent} {select : Vb2FirmwareSelection}
    (h : ∀ e ∈ xs, e.isUpdate select = false) : xs.countP (·.isUpdate select) = 0 :=
  List.countP_eq_zero.mpr fun e he => by simp [h e he]

section Stages

variable (K : Vb2Constants) (ctx : Vb2Context) (R : EcReplies) (t : EcWorld)

theorem syncEcRo_success (hok : (syncEcRo K ctx R t).1 = vb2Success) :
    ∃ evs, (syncEcRo K ctx R t).2.log = t.log ++ evs ++ protectCalls ctx ∧
      (syncEcRo K ctx R t).2.nv.recoveryRequest = t.nv.recoveryRequest ∧
      (∀ e ∈ evs, e.IsUpdateStep .readonly) ∧ evs.countP (·.isUpdate .readonly) ≤ roRetries ∧
      (t.sd.flags.getLsbD 3 = false ∨ HashMatched .readonly evs) := by
  rcases syncEcRo_cases K R ctx t with ⟨hr, -⟩ | ⟨t', evs, heq, hrr, hlog, hup, hcount, -, hro⟩
  · exact absurd (hr ▸ hok) (Vb2Constants.error_ne_success _ _)
  rw [heq] at hok ⊢
  rcases syncEcProtect_cases K R ctx t' with hp | ⟨hne, -⟩
  · rw [hp]
    refine ⟨evs, by simp [hlog, protectCalls], hrr, hup, hcount, ?_⟩
    rcases hro with ⟨h3, -⟩ | hv
    exacts [.inl h3, .inr hv.hashMatched]
  · exact absurd hok hne

theorem syncEcJump_success (hok : (syncEcJump K ctx R t).1 = vb2Success) :
    ∃ js evs, (js = [] ∧ t.sd.flags.getLsbD 6 = true ∨ js = [.jumpToRw 0]) ∧
      (syncEcJump K ctx R t).2.log = t.log ++ js ++ evs ++ protectCalls ctx ∧
      (syncEcJump K ctx R t).2.nv.recoveryRequest = t.nv.recoveryRequest ∧
      (∀ e ∈ evs, e.IsUpdateStep .readonly) ∧ evs.countP (·.isUpdate .readonly) ≤ roRetries ∧
      (t.sd.flags.getLsbD 3 = false ∨ HashMatched .readonly evs) := by
  rcases syncEcJump_cases K R ctx t with ⟨h6, heq⟩ | ⟨-, heq⟩ | ⟨-, hr, -⟩
  · rw [heq] at hok ⊢
    obtain ⟨evs, hlog, hrr, hup, hcount, hro⟩ := syncEcRo_success K ctx R t hok
    exact ⟨[], evs, .inl ⟨rfl, h6⟩, by simpa using hlog, hrr, hup, hcount, hro⟩
  · rw [heq] at hok ⊢
    obtain ⟨evs, hlog, hrr, hup, hcount, hro⟩ := syncEcRo_success K ctx R _ hok
    exact ⟨_, evs, .inr rfl, by simpa using hlog, hrr, hup, hcount, hro⟩
  · exact absurd hok (K.ne_success_of_eq_error hr)

theorem syncEc_success (hok : (syncEc K ctx R t).1 = vb2Success) :
    ∃ us js evs, (us = [] ∧ t.sd.flags.getLsbD 4 = false ∨ ctx.ecEfs = false ∧
        ∃ h h', HashesMatch h h' ∧ us = [.updateImage .ecActive 0, .hashImage .ecActive 0 h,
          .expectedImageHash .ecActive 0 h']) ∧
      (js = [] ∧ t.sd.flags.getLsbD 6 = true ∨ js = [.jumpToRw 0]) ∧
      (syncEc K ctx R t).2.log = t.log ++ us ++ js ++ evs ++ protectCalls ctx ∧
      (syncEc K ctx R t).2.nv.recoveryRequest = t.nv.recoveryRequest ∧
      (∀ e ∈ evs, e.IsUpdateStep .readonly) ∧ evs.countP (·.isUpdate .readonly) ≤ roRetries ∧
      (t.sd.flags.getLsbD 3 = false ∨ HashMatched .readonly evs) := by
  rcases syncEc_cases K R ctx t with ⟨h4, heq⟩ | ⟨-, h, h', hm, t', ht', hres⟩ | ⟨-, hr, -⟩
  · rw [heq] at hok ⊢
    obtain ⟨js, evs, hjs, hlog, hrr, hup, hcount, hro⟩ := syncEcJump_success K ctx R t hok
    exact ⟨[], js, evs, .inl ⟨rfl, h4⟩, hjs, by simpa using hlog, hrr, hup, hcount, hro⟩
  · rcases hres with ⟨-, hres⟩ | ⟨hefs, hres⟩
    · exact absurd (hres ▸ hok) (Vb2Constants.error_ne_success _ _)
    have hsel : selectRw ctx = .ecActive := by simp [selectRw, hefs]
    rw [hres] at hok ⊢
    obtain ⟨js, evs, hjs, hlog, hrr, hup, hcount, hro⟩ := syncEcJump_success K ctx R t' hok
    subst ht'
    refine ⟨[.updateImage (selectRw ctx) 0, .hashImage (selectRw ctx) 0 h,
      .expectedImageHash (selectRw ctx) 0 h'], js, evs, .inr ⟨hefs, h, h', hm, by rw [hsel]⟩,
      by simpa using hjs,
      by simpa using hlog, hrr, hup, hcount, by simpa using hro⟩
  · exact absurd hok (K.ne_success_of_eq_error hr)

end Stages

/-- A successful `vb2api_ec_sync` that EC sync applied to, from a state with `EC_IN_RW`
clear: the active RW image's hash compared equal, at once or after an update, and with
EFS no RW image was updated; with NV asking for RO sync, the RO hash compared equal
after at most `RO_RETRIES` updates of RO; the EC was in RW or jumped there; both images
were protected, jumping was disabled and `vb2ex_ec_vboot_done` succeeded; and NV asks
for the recovery it asked for before. -/
theorem vb2apiEcSync_success (K : Vb2Constants) (ctx : Vb2Context) (R : EcReplies) (s : EcWorld)
    (hin : s.sd.flags &&& vb2SdFlagEcsyncEcInRw = 0) (happ : ¬ EcSyncInapplicable K ctx s)
    (hok : (vb2apiEcSync K ctx R s).1 = vb2Success) :
    ∃ evs, (vb2apiEcSync K ctx R s).2.log = s.log ++ evs ∧
      HashMatched .ecActive evs ∧
      (ctx.ecEfs = true → ∀ sel rv, .updateImage sel rv ∈ evs → sel = .readonly) ∧
      (s.nv.tryRoSync = true →
        HashMatched .readonly evs ∧ evs.countP (·.isUpdate .readonly) ≤ roRetries) ∧
      (.runningRw 0 true ∈ evs ∨ .jumpToRw 0 ∈ evs) ∧
      .protect .readonly 0 ∈ evs ∧ .protect (selectRw ctx) 0 ∈ evs ∧ .disableJump 0 ∈ evs ∧
      .vbootDone 0 ∈ evs ∧
      (vb2apiEcSync K ctx R s).2.nv.recoveryRequest = s.nv.recoveryRequest := by
  simp only [EcSyncInapplicable, not_or, ne_eq, not_not, Bool.not_eq_true] at happ
  obtain ⟨hc, hrec, hsup, hdis, hrr⟩ := happ
  have hsup : ctx.ecSyncSupported = true := by simpa using hsup
  have hdis : ctx.gbbDisableEcSoftwareSync = false := by simpa using hdis
  rcases vb2apiEcSync_phases K ctx R s hc hrec with ⟨hne, -⟩ | ⟨h₁, ds, s₂, hds, hs₂, hcase⟩
  · exact absurd hok hne
  rcases ecSyncPhase1_cases K ctx R hsup hdis s with ⟨-, evs₁, hc₁, hboth⟩ | ⟨hr, -⟩
  swap
  · exact absurd h₁ (K.ne_success_of_eq_error hr)
  have hsd : s₂.sd = (ecSyncPhase1 K ctx R s).2.sd := by rw [hs₂]
  rcases ecSyncPhase2_cases K ctx R s₂ with ⟨-, hskip⟩ | ⟨h₂, -⟩
  · exfalso
    simp [hsup, hdis, hsd, hc₁.recoveryReason, hrr] at hskip
  rcases hcase with ⟨hne, heq⟩ | ⟨h2ok, rv, hrv, hlog, hnv⟩
  · exact absurd (heq ▸ hok) hne
  obtain rfl : rv = 0 := hrv ▸ hok
  rw [h₂] at h2ok hlog hnv
  obtain ⟨us, js, evs, hus, hjs, hlog₂, hrr₂, hup, hcount, hro⟩ := syncEc_success K ctx R s₂ h2ok
  refine ⟨evs₁ ++ (ds ++ (us ++ (js ++ (evs ++ (protectCalls ctx ++ [.vbootDone 0]))))),
    by rw [hlog, hlog₂, hs₂]; simp [hc₁.log], ?_, ?_, fun ht => ⟨?_, ?_⟩, ?_,
    by simp [protectCalls], by simp [protectCalls], by simp [protectCalls], by simp, ?_⟩
  · rcases hus with ⟨rfl, h4⟩ | ⟨-, h, h', hm, rfl⟩
    · exact (hc₁.rwMatched (by rwa [hsd] at h4)).append_right
    · exact .append_left (.append_left (.append_right ⟨[_], h, h', [], rfl, hm⟩))
  · intro hefs sel rv hmem
    simp only [List.mem_append] at hmem
    rcases hmem with hmem | hmem | hmem | hmem | hmem | hmem
    · exact (hc₁.queries _ hmem).elim
    · rcases hds with rfl | rfl <;> simp at hmem
    · rcases hus with ⟨rfl, -⟩ | ⟨hefs', -⟩
      exacts [(List.not_mem_nil _ hmem).elim, absurd hefs (by simp [hefs'])]
    · rcases hjs with ⟨rfl, -⟩ | rfl <;> simp at hmem
    · exact hup _ hmem
    · simp [protectCalls] at hmem
  · rcases hro with h3 | hv
    · exact (hc₁.roMatched ht (by rwa [hsd] at h3)).append_right
    · exact HashMatched.append_left (HashMatched.append_left (HashMatched.append_left
        (HashMatched.append_left (HashMatched.append_right hv))))
  · have z₁ : evs₁.countP (·.isUpdate .readonly) = 0 :=
      countP_isUpdate_eq_zero fun e he => (hc₁.queries e he).isUpdate_eq_false
    have z₂ : ds.countP (·.isUpdate .readonly) = 0 := by rcases hds with rfl | rfl <;> rfl
    have z₃ : us.countP (·.isUpdate .readonly) = 0 := by
      rcases hus with ⟨rfl, -⟩ | ⟨-, h, h', -, rfl⟩ <;> rfl
    have z₄ : js.countP (·.isUpdate .readonly) = 0 := by rcases hjs with ⟨rfl, -⟩ | rfl <;> rfl
    have z₅ : (protectCalls ctx ++ [EcEvent.vbootDone 0]).countP (·.isUpdate .readonly) = 0 := rfl
    simp only [List.countP_append, z₁, z₂, z₃, z₄, z₅]
    omega
  · rcases hjs with ⟨rfl, h6⟩ | rfl
    · rcases hc₁.inRw (by rwa [hsd] at h6) with h6' | hmem
      · simp [h6'] at hin
      · exact .inl (List.mem_append_left _ hmem)
    · exact .inr (by simp)
  · rw [hnv, hrr₂, hs₂]
    exact congrArg Vb2Nv.recoveryRequest hc₁.nv

theorem vb2apiEcSync_success_sample :
    (0 : BitVec 32) &&& vb2SdFlagEcsyncEcInRw = 0 ∧
    ¬ EcSyncInapplicable .sample ⟨true, false, false, false, false⟩
      ⟨⟨0, 0, 0⟩, ⟨0, true, false⟩, []⟩ ∧
    (vb2apiEcSync .sample ⟨true, false, false, false, false⟩ .sample
      ⟨⟨0, 0, 0⟩, ⟨0, true, false⟩, []⟩).1 = vb2Success ∧
    ∃ evs, (vb2apiEcSync .sample ⟨true, false, false, false, false⟩ .sample
        ⟨⟨0, 0, 0⟩, ⟨0, true, false⟩, []⟩).2.log = [] ++ evs ∧
      HashMatched .ecActive evs ∧
      (false = true → ∀ sel rv, .updateImage sel rv ∈ evs → sel = .readonly) ∧
      (true = true →
        HashMatched .readonly evs ∧ evs.countP (·.isUpdate .readonly) ≤ roRetries) ∧
      (.runningRw 0 true ∈ evs ∨ .jumpToRw 0 ∈ evs) ∧
      .protect .readonly 0 ∈ evs ∧ .protect (selectRw ⟨true, false, false, false, false⟩) 0 ∈ evs ∧
      .disableJump 0 ∈ evs ∧ .vbootDone 0 ∈ evs ∧
      (vb2apiEcSync .sample ⟨true, false, false, false, false⟩ .sample
        ⟨⟨0, 0, 0⟩, ⟨0, true, false⟩, []⟩).2.nv.recoveryRequest = 0 :=
  ⟨by decide, by decide, by decide,
    vb2apiEcSync_success .sample _ .sample ⟨⟨0, 0, 0⟩, ⟨0, true, false⟩, []⟩ (by decide)
      (by decide) (by decide)⟩

end Vboot
