import Vboot.EcSync.Success

/-!
# How often EC sync rewrites the EC

Only `vb2ex_ec_update_image` rewrites EC flash. In one run of `vb2api_ec_sync` the RO
image is rewritten at most `RO_RETRIES` times, and only when `EC_RO` was already set or
NV asked for RO sync, in which case the run leaves `VB2_NV_TRY_RO_SYNC` clear; an RW
image, the active one or the update slot, is rewritten at most once.
-/
namespace Vboot

/-- The calls of `evs` that rewrite an RW image. -/
def rwUpdates (evs : List EcEvent) : Nat :=
  evs.countP (·.isUpdate .ecActive) + evs.countP (·.isUpdate .ecUpdate)

/-- No call of `evs` rewrites an image. -/
def NoUpdates (evs : List EcEvent) : Prop :=
  ∀ e ∈ evs, ∀ sel, e.isUpdate sel = false

section Counts

variable {xs ys : List EcEvent}

@[simp] theorem rwUpdates_append : rwUpdates (xs ++ ys) = rwUpdates xs + rwUpdates ys := by
  simp only [rwUpdates, List.countP_append]
  omega

theorem NoUpdates.countP_eq_zero (h : NoUpdates xs) (sel : Vb2FirmwareSelection) :
    xs.countP (·.isUpdate sel) = 0 :=
  countP_isUpdate_eq_zero fun e he => h e he sel

theorem NoUpdates.rwUpdates_eq_zero (h : NoUpdates xs) : rwUpdates xs = 0 := by
  rw [rwUpdates, h.countP_eq_zero, h.countP_eq_zero]

theorem NoUpdates.append (hx : NoUpdates xs) (hy : NoUpdates ys) : NoUpdates (xs ++ ys) := by
  intro e he
  rcases List.mem_append.mp he with he | he
  exacts [hx e he, hy e he]

theorem NoUpdates.of_queries (h : ∀ e ∈ xs, e.IsQuery) : NoUpdates xs :=
  fun e he _ => (h e he).isUpdate_eq_false

theorem selectRw_ne_readonly (ctx : Vb2Context) : selectRw ctx ≠ .readonly := by
  unfold selectRw
  split <;> nofun

/-- One call of `update_ec(select_rw)`: one rewrite of an RW image, none of RO. -/
theorem updateRw_counts (ctx : Vb2Context) (rv : BitVec 32) {rest : List EcEvent}
    (h : ∀ e ∈ rest, e.IsCheck (selectRw ctx)) :
    (EcEvent.updateImage (selectRw ctx) rv :: rest).countP (·.isUpdate .readonly) = 0 ∧
      rwUpdates (.updateImage (selectRw ctx) rv :: rest) = 1 := by
  have hr : NoUpdates rest := fun e he _ => (h e he).isUpdate_eq_false
  rw [← List.singleton_append, List.countP_append, rwUpdates_append, hr.countP_eq_zero,
    hr.rwUpdates_eq_zero]
  unfold selectRw
  split <;> exact ⟨rfl, rfl⟩

end Counts

section Stages

variable (K : Vb2Constants) (ctx : Vb2Context) (R : EcReplies)

theorem syncEcProtect_noUpdates (t : EcWorld) :
    ∃ evs, (syncEcProtect K ctx R t).2.log = t.log ++ evs ∧ NoUpdates evs ∧
      (syncEcProtect K ctx R t).2.nv.tryRoSync = t.nv.tryRoSync := by
  rcases syncEcProtect_cases K R ctx t with h | ⟨-, evs, rr, h, hp, -⟩
  · exact ⟨_, by rw [h], by simp [NoUpdates, EcEvent.isUpdate], by rw [h]⟩
  · exact ⟨evs, by rw [h], fun e he _ => (hp e he).isUpdate_eq_false, by rw [h]⟩

theorem updateRoTries_tryRoSync (fuel n : Nat) (s : EcWorld) :
    (updateRoTries K R fuel n s).2.nv.tryRoSync = s.nv.tryRoSync := by
  induction fuel generalizing n s with
  | zero => rfl
  | succ fuel ih =>
    have hnv : (updateEc K R .readonly s).2.nv.tryRoSync = s.nv.tryRoSync := by
      rcases updateEc_cases K R .readonly s with ⟨h, h', hm, heq⟩ | ⟨hne, rv, rest, f, rr, heq, -⟩ <;>
        rw [heq]
    simp only [updateRoTries]
    rcases hu : updateEc K R .readonly s with ⟨rv, s'⟩
    rw [hu] at hnv
    dsimp only
    split
    exacts [hnv, (ih _ _).trans hnv]

/-- RO sync rewrites RO at most `RO_RETRIES` times and never an RW image; it rewrites RO
only with `EC_RO` set, and then leaves `VB2_NV_TRY_RO_SYNC` clear. -/
theorem syncEcRo_writes (t : EcWorld) :
    ∃ evs, (syncEcRo K ctx R t).2.log = t.log ++ evs ∧
      evs.countP (·.isUpdate .readonly) ≤ roRetries ∧ rwUpdates evs = 0 ∧
      (evs.countP (·.isUpdate .readonly) ≠ 0 →
        t.sd.flags.getLsbD 3 = true ∧ (syncEcRo K ctx R t).2.nv.tryRoSync = false) := by
  unfold syncEcRo
  by_cases hro : t.sd.flags &&& vb2SdFlagEcsyncEcRo ≠ 0
  swap
  · rw [if_neg hro]
    obtain ⟨evs, hlog, hno, -⟩ := syncEcProtect_noUpdates K ctx R t
    exact ⟨evs, hlog, by rw [hno.countP_eq_zero]; omega, hno.rwUpdates_eq_zero,
      fun h => absurd (hno.countP_eq_zero _) h⟩
  have h3 : t.sd.flags.getLsbD 3 = true := by simpa using hro
  rw [if_pos hro]
  dsimp only
  obtain ⟨evs, hlog, halph, hcount, -, -⟩ :=
    updateRoTries_cases K R roRetries 0 { t with nv := { t.nv with tryRoSync := false } }
  have htry := updateRoTries_tryRoSync K R roRetries 0
    { t with nv := { t.nv with tryRoSync := false } }
  have hrw : rwUpdates evs = 0 := by
    have hA : evs.countP (·.isUpdate .ecActive) = 0 :=
      countP_isUpdate_eq_zero fun e he => (halph e he).isUpdate_eq_false (by decide)
    have hU : evs.countP (·.isUpdate .ecUpdate) = 0 :=
      countP_isUpdate_eq_zero fun e he => (halph e he).isUpdate_eq_false (by decide)
    rw [rwUpdates, hA, hU]
  rcases hu : updateRoTries K R roRetries 0 { t with nv := { t.nv with tryRoSync := false } } with
    ⟨m, t'⟩
  rw [hu] at hlog htry
  dsimp only at hlog htry ⊢
  have hprot : ∀ u : EcWorld, u.log = t.log ++ evs → u.nv.tryRoSync = false →
      ∃ evs, (syncEcProtect K ctx R u).2.log = t.log ++ evs ∧
        evs.countP (·.isUpdate .readonly) ≤ roRetries ∧ rwUpdates evs = 0 ∧
        (evs.countP (·.isUpdate .readonly) ≠ 0 →
          t.sd.flags.getLsbD 3 = true ∧ (syncEcProtect K ctx R u).2.nv.tryRoSync = false) :=
    fun u hl ht => by
      obtain ⟨evs', hl', hno, ht'⟩ := syncEcProtect_noUpdates K ctx R u
      refine ⟨evs ++ evs', by rw [hl', hl, List.append_assoc], ?_, ?_, fun _ => ⟨h3, ht'.trans ht⟩⟩
      · rw [List.countP_append, hno.countP_eq_zero]
        exact hcount
      · rw [rwUpdates_append, hrw, hno.rwUpdates_eq_zero]
  split
  · exact ⟨evs, hlog, hcount, hrw, fun _ => ⟨h3, htry⟩⟩
  split
  exacts [hprot _ hlog htry, hprot _ hlog htry]

theorem syncEcJump_writes (t : EcWorld) :
    ∃ evs, (syncEcJump K ctx R t).2.log = t.log ++ evs ∧
      evs.countP (·.isUpdate .readonly) ≤ roRetries ∧ rwUpdates evs = 0 ∧
      (evs.countP (·.isUpdate .readonly) ≠ 0 →
        t.sd.flags.getLsbD 3 = true ∧ (syncEcJump K ctx R t).2.nv.tryRoSync = false) := by
  have hj : ∀ rv, NoUpdates [.jumpToRw rv] := by simp [NoUpdates, EcEvent.isUpdate]
  rcases syncEcJump_cases K R ctx t with ⟨-, heq⟩ | ⟨-, heq⟩ | ⟨-, -, rv, hlog, -⟩
  · rw [heq]
    exact syncEcRo_writes K ctx R t
  · rw [heq]
    obtain ⟨evs, hlog, hc, hrw, hro⟩ := syncEcRo_writes K ctx R (t.logEvent (.jumpToRw 0))
    have hc0 := (hj 0).countP_eq_zero .readonly
    refine ⟨[.jumpToRw 0] ++ evs, by rw [hlog]; simp, ?_, ?_, fun h => ?_⟩
    · rw [List.countP_append, hc0]
      omega
    · rw [rwUpdates_append, hrw, (hj 0).rwUpdates_eq_zero]
    · rw [List.countP_append, hc0, Nat.zero_add] at h
      exact hro h
  · exact ⟨_, hlog, by rw [(hj rv).countP_eq_zero]; omega, (hj rv).rwUpdates_eq_zero,
      fun h => absurd ((hj rv).countP_eq_zero _) h⟩

/-- `sync_ec` rewrites an RW image at most once, and RO as RO sync does. -/
theorem syncEc_writes (t : EcWorld) :
    ∃ evs, (syncEc K ctx R t).2.log = t.log ++ evs ∧
      evs.countP (·.isUpdate .readonly) ≤ roRetries ∧ rwUpdates evs ≤ 1 ∧
      (evs.countP (·.isUpdate .readonly) ≠ 0 →
        t.sd.flags.getLsbD 3 = true ∧ (syncEc K ctx R t).2.nv.tryRoSync = false) := by
  rcases syncEc_cases K R ctx t with ⟨-, heq⟩ | ⟨-, h, h', -, t', ht', hres⟩ |
    ⟨-, -, rv, rest, hlog, hrest, -⟩
  · rw [heq]
    obtain ⟨evs, hlog, hc, hrw, hro⟩ := syncEcJump_writes K ctx R t
    exact ⟨evs, hlog, hc, by omega, hro⟩
  · have hcheck : ∀ e ∈ [.hashImage (selectRw ctx) 0 h, .expectedImageHash (selectRw ctx) 0 h'],
        EcEvent.IsCheck (selectRw ctx) e := by simp [EcEvent.IsCheck]
    obtain ⟨hu, hu'⟩ := updateRw_counts ctx 0 hcheck
    rcases hres with ⟨-, hres⟩ | ⟨-, hres⟩
    · rw [hres]
      exact ⟨_, by rw [ht'], by rw [hu]; omega, by rw [hu'], fun h => absurd hu h⟩
    · rw [hres]
      obtain ⟨evs, hlog, hc, hrw, hro⟩ := syncEcJump_writes K ctx R t'
      have h3 : t'.sd.flags.getLsbD 3 = t.sd.flags.getLsbD 3 := by rw [ht']; simp
      refine ⟨[.updateImage (selectRw ctx) 0, .hashImage (selectRw ctx) 0 h,
        .expectedImageHash (selectRw ctx) 0 h'] ++ evs, by rw [hlog, ht']; simp,
        by rw [List.countP_append, hu]; omega,
        by rw [rwUpdates_append, hu', hrw], fun h => ?_⟩
      rw [List.countP_append, hu, Nat.zero_add] at h
      exact ⟨h3 ▸ (hro h).1, (hro h).2⟩
  · obtain ⟨hu, hu'⟩ := updateRw_counts ctx rv hrest
    exact ⟨_, hlog, by rw [hu]; omega, by rw [hu'], fun h => absurd hu h⟩

end Stages

/-- In every run of `vb2api_ec_sync`, from any state and with any replies, the RO image
is rewritten at most `RO_RETRIES` times and an RW image at most once; RO is rewritten
only when `EC_RO` was already set or NV asked for RO sync, and a run that rewrote it
leaves `VB2_NV_TRY_RO_SYNC` clear. -/
theorem vb2apiEcSync_flash_writes (K : Vb2Constants) (ctx : Vb2Context) (R : EcReplies)
    (s : EcWorld) :
    ∃ evs, (vb2apiEcSync K ctx R s).2.log = s.log ++ evs ∧
      evs.countP (·.isUpdate .readonly) ≤ roRetries ∧ rwUpdates evs ≤ 1 ∧
      (evs.countP (·.isUpdate .readonly) ≠ 0 →
        (s.sd.flags.getLsbD 3 = true ∨ s.nv.tryRoSync = true) ∧
          (vb2apiEcSync K ctx R s).2.nv.tryRoSync = false) := by
  have none : ∀ evs, (vb2apiEcSync K ctx R s).2.log = s.log ++ evs → NoUpdates evs →
      ∃ evs, (vb2apiEcSync K ctx R s).2.log = s.log ++ evs ∧
        evs.countP (·.isUpdate .readonly) ≤ roRetries ∧ rwUpdates evs ≤ 1 ∧
        (evs.countP (·.isUpdate .readonly) ≠ 0 →
          (s.sd.flags.getLsbD 3 = true ∨ s.nv.tryRoSync = true) ∧
            (vb2apiEcSync K ctx R s).2.nv.tryRoSync = false) :=
    fun evs hlog h => ⟨evs, hlog, by rw [h.countP_eq_zero]; omega,
      by rw [h.rwUpdates_eq_zero]; omega, fun h' => absurd (h.countP_eq_zero _) h'⟩
  by_cases hc : s.sd.flags &&& vb2SdStatusEcSyncComplete K = 0
  swap
  · exact none [] (by rw [vb2apiEcSync, if_pos hc]; simp) (by simp [NoUpdates])
  cases hrec : ctx.recoveryMode
  swap
  · exact none [] (by rw [vb2apiEcSync, if_neg (not_not_intro hc), if_pos hrec]; simp)
      (by simp [NoUpdates])
  obtain ⟨evs₁, hlog₁, hq₁⟩ := ecSyncPhase1_queries K ctx R s
  rcases vb2apiEcSync_phases K ctx R s hc hrec with ⟨-, -, hlog, -⟩ |
    ⟨h₁, ds, s₂, hds, hs₂, hcase⟩
  · exact none evs₁ (by rw [hlog, hlog₁]) (.of_queries hq₁)
  have hds' : NoUpdates ds := by
    rcases hds with rfl | rfl <;> simp [NoUpdates, EcEvent.isUpdate]
  have hdone : ∀ rv, NoUpdates [.vbootDone rv] := by simp [NoUpdates, EcEvent.isUpdate]
  rcases ecSyncPhase2_cases K ctx R s₂ with ⟨h₂, -⟩ | ⟨h₂, hsup, hdis, -⟩
  · rcases hcase with ⟨hne, -⟩ | ⟨-, rv, -, hlog, -⟩
    · exact absurd (by rw [h₂]) hne
    exact none (evs₁ ++ ds ++ [.vbootDone rv]) (by rw [hlog, h₂, hs₂]; simp [hlog₁])
      (((NoUpdates.of_queries hq₁).append hds').append (hdone rv))
  rcases ecSyncPhase1_cases K ctx R hsup hdis s with ⟨-, evs₁', hc₁, -⟩ | ⟨hr, -⟩
  swap
  · exact absurd h₁ (K.ne_success_of_eq_error hr)
  have hpre : NoUpdates (evs₁' ++ ds) := (NoUpdates.of_queries hc₁.queries).append hds'
  have h3 : s₂.sd.flags.getLsbD 3 = true → s.sd.flags.getLsbD 3 = true ∨ s.nv.tryRoSync = true :=
    by rw [hs₂]; exact hc₁.roSet
  obtain ⟨evs₂, hlog₂, hcount, hrw, hro⟩ := syncEc_writes K ctx R s₂
  rw [← h₂] at hlog₂ hro
  have hlog₂' : (ecSyncPhase2 K ctx R s₂).2.log = s.log ++ (evs₁' ++ ds ++ evs₂) := by
    rw [hlog₂, hs₂]; simp [hc₁.log]
  rcases hcase with ⟨-, heq⟩ | ⟨-, rv, -, hlog, hnv⟩
  · rw [heq]
    refine ⟨_, hlog₂', by rw [List.countP_append, hpre.countP_eq_zero]; omega,
      by rw [rwUpdates_append, hpre.rwUpdates_eq_zero]; omega, fun h => ?_⟩
    rw [List.countP_append, hpre.countP_eq_zero, Nat.zero_add] at h
    exact ⟨h3 (hro h).1, (hro h).2⟩
  · refine ⟨evs₁' ++ ds ++ evs₂ ++ [.vbootDone rv], by rw [hlog, hlog₂']; simp, ?_, ?_, fun h => ?_⟩
    · rw [List.countP_append, List.countP_append, hpre.countP_eq_zero, (hdone rv).countP_eq_zero]
      omega
    · rw [rwUpdates_append, rwUpdates_append, hpre.rwUpdates_eq_zero, (hdone rv).rwUpdates_eq_zero]
      omega
    · rw [List.countP_append, List.countP_append, hpre.countP_eq_zero, (hdone rv).countP_eq_zero,
        Nat.zero_add, Nat.add_zero] at h
      exact ⟨h3 (hro h).1, hnv ▸ (hro h).2⟩

end Vboot
