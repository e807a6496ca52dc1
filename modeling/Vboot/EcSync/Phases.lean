import Vboot.EcSync.Steps

/-!
# The phases of EC sync

What `ec_sync_phase1` leaves for `ec_sync_phase2`, read off the calls it made: an `EC_RW`
or `EC_RO` bit still clear means the hash of that image compared equal, and `EC_IN_RW`
records what `vb2ex_ec_running_rw` answered. Then the whole of `vb2api_ec_sync`, cut
into its two phases and the calls around them.
-/
namespace Vboot

/-- A bit of the flags word that `check_ec_hash` leaves: set before, or a bit of
`SYNC_FLAG(select)` when the hashes differ. -/
theorem getLsbD_ite_self_or (c : Prop) [Decidable c] (f m : BitVec 32) (i : Nat) :
    (if c then f else f ||| m).getLsbD i = (f.getLsbD i || !decide c && m.getLsbD i) := by
  split_ifs with hc <;> simp [hc]

theorem getLsbD_ite_or_self (c : Prop) [Decidable c] (f m : BitVec 32) (i : Nat) :
    (if c then f ||| m else f).getLsbD i = (f.getLsbD i || decide c && m.getLsbD i) := by
  split_ifs with hc <;> simp [hc]

/-- The bits phase 1 reads after `check_ec_active` and the hash check of the active image. -/
theorem getLsbD_activeChecked (f : BitVec 32) (b : Bool) (c : Prop) [Decidable c] :
    ((if c then (if b = true then f ||| vb2SdFlagEcsyncEcInRw else f)
        else (if b = true then f ||| vb2SdFlagEcsyncEcInRw else f) ||| syncFlag .ecActive).getLsbD 4
        = false → c) ∧
      (if c then (if b = true then f ||| vb2SdFlagEcsyncEcInRw else f)
        else (if b = true then f ||| vb2SdFlagEcsyncEcInRw else f) ||| syncFlag .ecActive).getLsbD 6
        = (f.getLsbD 6 || b) ∧
      (if c then (if b = true then f ||| vb2SdFlagEcsyncEcInRw else f)
        else (if b = true then f ||| vb2SdFlagEcsyncEcInRw else f) ||| syncFlag .ecActive).getLsbD 3
        = f.getLsbD 3 := by
  refine ⟨fun h => ?_, ?_, ?_⟩ <;> simp_all [getLsbD_ite_self_or, getLsbD_ite_or_self]

/-- The hash check of `EC_RO` leaves bits 4 and 6, and bit 3 clear only on a match. -/
theorem getLsbD_roChecked (F : BitVec 32) (c : Prop) [Decidable c] :
    (if c then F else F ||| syncFlag .readonly).getLsbD 4 = F.getLsbD 4 ∧
      (if c then F else F ||| syncFlag .readonly).getLsbD 6 = F.getLsbD 6 ∧
      ((if c then F else F ||| syncFlag .readonly).getLsbD 3 = false → c) := by
  refine ⟨?_, ?_, fun h => ?_⟩ <;> simp_all [getLsbD_ite_self_or]

/-- What phase 1 knows after its hash checks, before its last test. -/
structure Phase1Checked (K : Vb2Constants) (s : EcWorld) (evs : List EcEvent) (s' : EcWorld) :
    Prop where
  log : s'.log = s.log ++ evs
  nv : s'.nv = s.nv
  recoveryReason : s'.sd.recoveryReason = s.sd.recoveryReason
  queries : ∀ e ∈ evs, e.IsQuery
  recovered : ErrorsRecovered K evs
  rwMatched : s'.sd.flags.getLsbD 4 = false → HashMatched .ecActive evs
  roMatched : s.nv.tryRoSync = true → s'.sd.flags.getLsbD 3 = false → HashMatched .readonly evs
  inRo : s'.sd.flags.getLsbD 6 = false → .runningRw 0 false ∈ evs
  inRw : s'.sd.flags.getLsbD 6 = true → s.sd.flags.getLsbD 6 = true ∨ .runningRw 0 true ∈ evs
  roSet : s'.sd.flags.getLsbD 3 = true → s.sd.flags.getLsbD 3 = true ∨ s.nv.tryRoSync = true

/-- EC sync does not apply to a call of `vb2api_ec_sync`: it already completed this boot,
the boot is in recovery mode, EC sync is unsupported or disabled by the GBB, or a
recovery reason is already set. -/
def EcSyncInapplicable (K : Vb2Constants) (ctx : Vb2Context) (s : EcWorld) : Prop :=
  s.sd.flags &&& vb2SdStatusEcSyncComplete K ≠ 0 ∨ ctx.recoveryMode = true ∨
    ctx.ecSyncSupported = false ∨ ctx.gbbDisableEcSoftwareSync = true ∨ s.sd.recoveryReason ≠ 0

instance (K : Vb2Constants) (ctx : Vb2Context) (s : EcWorld) :
    Decidable (EcSyncInapplicable K ctx s) :=
  inferInstanceAs (Decidable (_ ∨ _))

section Phase1

variable (K : Vb2Constants) (ctx : Vb2Context) (R : EcReplies)

/-- The last test of phase 1 fails an EC that is in RW with an RW image to update, unless
the platform has EFS; either way it changes nothing. -/
theorem ecSyncPhase1_lastTest {s s' : EcWorld} {f : BitVec 32} (evs : List EcEvent)
    (hf : s'.sd.flags = f) (hc : Phase1Checked K s evs s') :
    let r := if ¬f &&& vb2SdFlagEcsyncEcRw = 0 ∧
        ¬f &&& vb2SdFlagEcsyncEcInRw = 0 ∧ (!ctx.ecEfs) = true then
      (K.error .ecRebootToRoRequired, s') else (vb2Success, s')
    (r.1 = vb2Success ∧ ∃ evs, Phase1Checked K s evs r.2 ∧
      (r.2.sd.flags.getLsbD 4 = true → ctx.ecEfs = false → r.2.sd.flags.getLsbD 6 = false)) ∨
    (r.1 = K.error .ecRebootToRoRequired ∧ ∃ evs, r.2.log = s.log ++ evs ∧ (∀ e ∈ evs, e.IsQuery) ∧
      RecoveryAsked K s.nv.recoveryRequest r.2.nv.recoveryRequest evs) := by
  intro r
  subst hf
  by_cases hcond : ¬s'.sd.flags &&& vb2SdFlagEcsyncEcRw = 0 ∧
      ¬s'.sd.flags &&& vb2SdFlagEcsyncEcInRw = 0 ∧ (!ctx.ecEfs) = true
  · simp only [r, if_pos hcond]
    exact .inr ⟨trivial, evs, hc.log, hc.queries,
      .inr ⟨by rw [hc.nv], hc.recovered⟩⟩
  · simp only [r, if_neg hcond]
    refine .inl ⟨trivial, evs, hc, fun h4 hefs => ?_⟩
    simpa [h4, hefs] using hcond

theorem ecSyncPhase1_cases (hsup : ctx.ecSyncSupported = true)
    (hdis : ctx.gbbDisableEcSoftwareSync = false) (s : EcWorld) :
    ((ecSyncPhase1 K ctx R s).1 = vb2Success ∧ ∃ evs,
      Phase1Checked K s evs (ecSyncPhase1 K ctx R s).2 ∧
      ((ecSyncPhase1 K ctx R s).2.sd.flags.getLsbD 4 = true → ctx.ecEfs = false →
        (ecSyncPhase1 K ctx R s).2.sd.flags.getLsbD 6 = false)) ∨
    ((ecSyncPhase1 K ctx R s).1 = K.error .ecRebootToRoRequired ∧ ∃ evs,
      (ecSyncPhase1 K ctx R s).2.log = s.log ++ evs ∧ (∀ e ∈ evs, e.IsQuery) ∧
      RecoveryAsked K s.nv.recoveryRequest (ecSyncPhase1 K ctx R s).2.nv.recoveryRequest evs) := by
  unfold ecSyncPhase1
  simp only [hsup, hdis, Bool.not_true, Bool.false_eq_true, if_false]
  rcases checkEcActive_cases K R s with ⟨rv, b, hrv, heq⟩ | ⟨b, heq⟩
  · simp only [heq, ne_eq, Vb2Constants.error_ne_success, not_false_eq_true, if_true]
    exact .inr ⟨trivial, [.runningRw rv b], rfl, List.forall_iff_forall_mem.mp trivial,
      .inl (K.recovery_ne_zero _)⟩
  simp only [heq, ne_eq, not_true_eq_false, if_false]
  have hA := checkEcHash_cases K R .ecActive ((s.logEvent (.runningRw 0 b)).setFlags
    (if b then s.sd.flags ||| vb2SdFlagEcsyncEcInRw else s.sd.flags))
  rcases hc : checkEcHash K R .ecActive ((s.logEvent (.runningRw 0 b)).setFlags
    (if b then s.sd.flags ||| vb2SdFlagEcsyncEcInRw else s.sd.flags)) with ⟨rvA, sA⟩
  rw [hc] at hA
  dsimp only
  rcases hA with ⟨h, h', hs, hA⟩ | ⟨hne, evs, rr, hrr, hev, hA⟩
  · obtain ⟨rfl, hsA⟩ := Prod.mk.inj hA
    rw [if_neg (not_not_intro rfl)]
    have hRO := checkEcHash_cases K R .readonly sA
    rcases hc' : checkEcHash K R .readonly sA with ⟨rvR, sR⟩
    rw [hc'] at hRO
    have htry : sA.nv.tryRoSync = s.nv.tryRoSync := by rw [hsA]; rfl
    rw [htry]
    subst hsA
    have hrw : HashesMatch h h' → HashMatched .ecActive
        [.runningRw 0 b, .hashImage .ecActive 0 h, .expectedImageHash .ecActive 0 h'] :=
      fun hm => ⟨[_], h, h', [], rfl, hm⟩
    have hrec : ErrorsRecovered K
        [.runningRw 0 b, .hashImage .ecActive 0 h, .expectedImageHash .ecActive 0 h'] :=
      (errorsRecovered_of_forall (fun _ he _ herr => by
        obtain rfl := List.mem_singleton.mp he; exact herr.1 rfl) :
        ErrorsRecovered K [.runningRw 0 b]).append_check rfl nofun hs
    obtain ⟨h4, h6, h3⟩ := getLsbD_activeChecked s.sd.flags b (HashesMatch h h')
    cases htr : s.nv.tryRoSync
    · simp only [Bool.false_eq_true, if_false]
      refine ecSyncPhase1_lastTest K ctx
        [.runningRw 0 b, .hashImage .ecActive 0 h, .expectedImageHash .ecActive 0 h'] rfl
        ⟨by simp, rfl, rfl, List.forall_iff_forall_mem.mp ⟨trivial, trivial, trivial⟩, hrec,
          fun hb => hrw (h4 hb), fun ht => absurd (htr.symm.trans ht) Bool.false_ne_true,
          fun hb => ?_, fun hb => ?_, fun hb => .inl (h3 ▸ hb)⟩
      · obtain ⟨-, rfl⟩ := Bool.or_eq_false_iff.mp (h6 ▸ hb)
        exact .head _
      · rcases (Bool.or_eq_true _ _ ▸ h6 ▸ hb : _ ∨ _) with hb | rfl
        exacts [.inl hb, .inr (.head _)]
    · simp only [if_true]
      rcases hRO with ⟨h₂, h₂', hs₂, hR⟩ | ⟨hne, evs, rr, hrr, hev, hR⟩
      · obtain ⟨rfl, rfl⟩ := Prod.mk.inj hR
        simp only [ne_eq, not_true_eq_false, decide_False, Bool.false_eq_true, if_false]
        obtain ⟨g4, g6, g3⟩ := getLsbD_roChecked
          (if HashesMatch h h' then (if b = true then s.sd.flags ||| vb2SdFlagEcsyncEcInRw
            else s.sd.flags) else (if b = true then s.sd.flags ||| vb2SdFlagEcsyncEcInRw
            else s.sd.flags) ||| syncFlag .ecActive) (HashesMatch h₂ h₂')
        refine ecSyncPhase1_lastTest K ctx
          [.runningRw 0 b, .hashImage .ecActive 0 h, .expectedImageHash .ecActive 0 h',
            .hashImage .readonly 0 h₂, .expectedImageHash .readonly 0 h₂'] rfl
          ⟨by simp, rfl, rfl, List.forall_iff_forall_mem.mp ⟨trivial, trivial, trivial, trivial, trivial⟩,
            hrec.append_check rfl nofun hs₂,
            fun hb => ⟨[_], h, h', [_, _], rfl, h4 (g4 ▸ hb)⟩,
            fun _ hb => ⟨[_, _, _], h₂, h₂', [], rfl, g3 hb⟩, fun hb => ?_, fun hb => ?_,
            fun _ => .inr htr⟩
        · obtain ⟨-, rfl⟩ := Bool.or_eq_false_iff.mp (h6 ▸ g6 ▸ hb)
          exact .head _
        · rcases (Bool.or_eq_true _ _ ▸ h6 ▸ g6 ▸ hb : _ ∨ _) with hb | rfl
          exacts [.inl hb, .inr (.head _)]
      · dsimp only at hne hR
        subst hR
        simp only [hne, not_false_eq_true, decide_True, if_true]
        refine .inr ⟨trivial, [.runningRw 0 b, .hashImage .ecActive 0 h,
          .expectedImageHash .ecActive 0 h'] ++ evs, by simp, ?_, .inl hrr⟩
        simp only [List.mem_append, List.mem_cons, List.mem_singleton]
        rintro e ((rfl | rfl | rfl | he) | he)
        exacts [trivial, trivial, trivial, absurd he (List.not_mem_nil _), (hev e he).isQuery]
  · dsimp only at hne hA
    subst hA
    rw [if_pos hne]
    refine .inr ⟨rfl, .runningRw 0 b :: evs, by simp, ?_, .inl hrr⟩
    simp only [List.mem_cons]
    rintro e (rfl | he)
    exacts [trivial, (hev e he).isQuery]

theorem ecSyncPhase1_skipped (s : EcWorld)
    (h : ctx.ecSyncSupported = false ∨ ctx.gbbDisableEcSoftwareSync = true) :
    ecSyncPhase1 K ctx R s = (vb2Success, s) := by
  unfold ecSyncPhase1
  rcases h with h | h <;> simp [h]

/-- `ec_sync_phase2` runs `sync_ec` exactly when EC sync is supported, not disabled by the
GBB, and no recovery reason is set. -/
theorem ecSyncPhase2_cases (s : EcWorld) :
    ecSyncPhase2 K ctx R s = (vb2Success, s) ∧
      (ctx.ecSyncSupported = false ∨ ctx.gbbDisableEcSoftwareSync = true ∨
        s.sd.recoveryReason ≠ 0) ∨
    ecSyncPhase2 K ctx R s = syncEc K ctx R s ∧ ctx.ecSyncSupported = true ∧
      ctx.gbbDisableEcSoftwareSync = false ∧ s.sd.recoveryReason = 0 := by
  unfold ecSyncPhase2 ecSyncAllowed
  cases hsup : ctx.ecSyncSupported <;> cases hdis : ctx.gbbDisableEcSoftwareSync <;>
    by_cases hr : s.sd.recoveryReason = 0 <;> simp_all

theorem ecSyncPhase1_queries (s : EcWorld) :
    ∃ evs, (ecSyncPhase1 K ctx R s).2.log = s.log ++ evs ∧ ∀ e ∈ evs, e.IsQuery := by
  by_cases h : ctx.ecSyncSupported = true ∧ ctx.gbbDisableEcSoftwareSync = false
  · rcases ecSyncPhase1_cases K ctx R h.1 h.2 s with ⟨-, evs, hc, -⟩ | ⟨-, evs, hlog, hq, -⟩
    exacts [⟨evs, hc.log, hc.queries⟩, ⟨evs, hlog, hq⟩]
  · rw [ecSyncPhase1_skipped K ctx R s (by cases hs : ctx.ecSyncSupported <;> simp_all)]
    exact ⟨[], by simp, by simp⟩

/-- Past its two early exits, `vb2api_ec_sync` stops after phase 1, or runs phase 2 after it
and then stops on a failure or calls `vb2ex_ec_vboot_done`. -/
theorem vb2apiEcSync_phases (s : EcWorld) (hc : s.sd.flags &&& vb2SdStatusEcSyncComplete K = 0)
    (hrec : ctx.recoveryMode = false) :
    ((vb2apiEcSync K ctx R s).1 ≠ vb2Success ∧
      ((vb2apiEcSync K ctx R s).1 = K.error .rebootRequired ∨
        (vb2apiEcSync K ctx R s).1 = (ecSyncPhase1 K ctx R s).1) ∧
      (vb2apiEcSync K ctx R s).2.log = (ecSyncPhase1 K ctx R s).2.log ∧
      (vb2apiEcSync K ctx R s).2.nv.recoveryRequest =
        (ecSyncPhase1 K ctx R s).2.nv.recoveryRequest) ∨
    ((ecSyncPhase1 K ctx R s).1 = vb2Success ∧ ∃ ds s₂, (ds = [] ∨ ds = [.displayScreen K.screenWait]) ∧
      s₂ = { (ecSyncPhase1 K ctx R s).2 with log := (ecSyncPhase1 K ctx R s).2.log ++ ds } ∧
      ((ecSyncPhase2 K ctx R s₂).1 ≠ vb2Success ∧ vb2apiEcSync K ctx R s = ecSyncPhase2 K ctx R s₂ ∨
        (ecSyncPhase2 K ctx R s₂).1 = vb2Success ∧ ∃ rv, (vb2apiEcSync K ctx R s).1 = rv ∧
          (vb2apiEcSync K ctx R s).2.log = (ecSyncPhase2 K ctx R s₂).2.log ++ [.vbootDone rv] ∧
          (vb2apiEcSync K ctx R s).2.nv = (ecSyncPhase2 K ctx R s₂).2.nv)) := by
  unfold vb2apiEcSync
  rw [if_neg (not_not_intro hc), if_neg (by simp [hrec])]
  rcases hp : ecSyncPhase1 K ctx R s with ⟨rv₁, s₁⟩
  dsimp only
  have hwait : ∀ w : Bool, (if w = true then checkRebootForDisplay s₁ else (false, s₁)).2.log =
      s₁.log ∧ (if w = true then checkRebootForDisplay s₁ else (false, s₁)).2.nv.recoveryRequest =
      s₁.nv.recoveryRequest ∧ ((if w = true then checkRebootForDisplay s₁ else (false, s₁)).1 = false →
      (if w = true then checkRebootForDisplay s₁ else (false, s₁)).2 = s₁) := by
    intro w
    unfold checkRebootForDisplay
    split_ifs <;> simp
  have hds : ∃ ds, (ds = [] ∨ ds = [.displayScreen K.screenWait]) ∧
      (if ecWillUpdateSlowly ctx s₁ = true then displayWaitScreen K s₁ else s₁) =
        { s₁ with log := s₁.log ++ ds } := by
    split_ifs
    · exact ⟨_, .inr rfl, rfl⟩
    · exact ⟨[], .inl rfl, by simp⟩
  obtain ⟨hlog, hrr, hstay⟩ := hwait (ecWillUpdateSlowly ctx s₁)
  generalize (if ecWillUpdateSlowly ctx s₁ = true then checkRebootForDisplay s₁ else (false, s₁)) = wr
    at hlog hrr hstay ⊢
  rcases wr with ⟨_ | _, s₁'⟩
  · have hs := (hstay rfl).symm
    dsimp only at hs
    subst hs
    simp only [Bool.false_eq_true, if_false]
    by_cases h₁ : rv₁ = vb2Success
    · subst h₁
      rw [if_neg (not_not_intro rfl)]
      obtain ⟨ds, hds, hs₂⟩ := hds
      rw [hs₂]
      refine .inr ⟨rfl, ds, _, hds, rfl, ?_⟩
      rcases hp₂ : ecSyncPhase2 K ctx R { s₁ with log := s₁.log ++ ds } with ⟨rv₂, s₃⟩
      dsimp only
      by_cases h₂ : rv₂ = vb2Success
      · subst h₂
        rw [if_neg (not_not_intro rfl)]
        generalize R.vbootDone s₃.log = rv
        by_cases h₃ : rv = vb2Success
        · subst h₃
          rw [if_neg (not_not_intro rfl)]
          exact .inr ⟨rfl, _, rfl, rfl, rfl⟩
        · rw [if_pos h₃]
          exact .inr ⟨rfl, _, rfl, rfl, rfl⟩
      · exact .inl ⟨h₂, if_pos h₂⟩
    · rw [if_pos h₁]
      exact .inl ⟨h₁, .inr rfl, rfl, rfl⟩
  · simp only [if_true]
    exact .inl ⟨Vb2Constants.error_ne_success _ _, .inl trivial, hlog, hrr⟩

end Phase1

end Vboot
