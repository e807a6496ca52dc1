import Vboot.EcSync.Phases

/-!
# EC sync changes the EC only after checking it

The calls that change the EC (`vb2ex_ec_update_image`, `vb2ex_ec_jump_to_rw`,
`vb2ex_ec_protect`, `vb2ex_ec_disable_jump`) are guarded by what the run learnt before
them: the EC jumps to or locks an RW image only once that image's hash compared equal,
locks RO only once RO compared equal when RO sync was asked for, and rewrites the active
RW image in place only when the EC said it runs RO and the platform has no EFS. Each stage
of `sync_ec` keeps these guards given what the stages before it learnt; phase 1 learns
it.
-/
namespace Vboot

/-- The call `e` may be made after the calls `before` of the same run. -/
def Permitted (ctx : Vb2Context) (tryRo : Bool) (before : List EcEvent) (e : EcEvent) : Prop :=
  (e.IsJumpOrProtect → HashMatched .ecActive before) ∧
  (tryRo = true → e.IsProtect → HashMatched .readonly before) ∧
  (e.isUpdate .ecActive = true → ctx.ecEfs = false ∧ .runningRw 0 false ∈ before)

/-- Every call of `evs` is permitted after the calls `X` and those of `evs` before it. -/
def CallsPermitted (ctx : Vb2Context) (tryRo : Bool) (X evs : List EcEvent) : Prop :=
  AtEach (fun pre e _ => Permitted ctx tryRo (X ++ pre) e) evs

namespace EcEvent

/-- A call that does not change the EC neither jumps, protects nor updates. -/
theorem inert_of_not_changesEc :
    ∀ {e : EcEvent}, ¬ e.ChangesEc → ¬ e.IsJumpOrProtect ∧ e.isUpdate .ecActive = false
  | runningRw .., _ | hashImage .., _ | expectedImageHash .., _ | vbootDone _, _
  | displayScreen _, _ => ⟨id, rfl⟩
  | updateImage .., h | jumpToRw _, h | protect .., h | disableJump _, h => (h trivial).elim

theorem IsUpdateStep.inert :
    ∀ {e : EcEvent}, e.IsUpdateStep .readonly → ¬ e.IsJumpOrProtect ∧ e.isUpdate .ecActive = false
  | updateImage _ _, rfl | hashImage .., _ | expectedImageHash .., _ => ⟨id, rfl⟩

end EcEvent

section Permitted

variable {ctx : Vb2Context} {tryRo : Bool} {X xs ys : List EcEvent}

theorem CallsPermitted.append (h₁ : CallsPermitted ctx tryRo X xs)
    (h₂ : CallsPermitted ctx tryRo (X ++ xs) ys) : CallsPermitted ctx tryRo X (xs ++ ys) :=
  atEach_append.mpr ⟨h₁, by simpa only [CallsPermitted, List.append_assoc] using h₂⟩

theorem CallsPermitted.of_forall (h : ∀ e ∈ xs, ∀ pre, Permitted ctx tryRo (X ++ pre) e) :
    CallsPermitted ctx tryRo X xs :=
  AtEach.of_forall_mem fun e he pre _ => h e he pre

/-- A call that neither jumps, protects nor rewrites the active RW image is always
permitted. -/
theorem permitted_of_inert {e : EcEvent} (hj : ¬ e.IsJumpOrProtect)
    (hu : e.isUpdate .ecActive = false) (before : List EcEvent) : Permitted ctx tryRo before e :=
  ⟨fun h => absurd h hj, fun _ h => absurd (by cases e <;> trivial) hj, by simp [hu]⟩

theorem CallsPermitted.of_inert (h : ∀ e ∈ xs, ¬ e.IsJumpOrProtect ∧ e.isUpdate .ecActive = false) :
    CallsPermitted ctx tryRo X xs :=
  .of_forall fun e he _ => permitted_of_inert (h e he).1 (h e he).2 _

theorem CallsPermitted.of_not_changesEc (h : ∀ e ∈ xs, ¬ e.ChangesEc) :
    CallsPermitted ctx tryRo X xs :=
  .of_inert fun e he => EcEvent.inert_of_not_changesEc (h e he)

theorem CallsPermitted.of_queries (h : ∀ e ∈ xs, e.IsQuery) : CallsPermitted ctx tryRo X xs :=
  .of_not_changesEc fun e he => (h e he).not_changesEc

theorem CallsPermitted.of_updateSteps (h : ∀ e ∈ xs, e.IsUpdateStep .readonly) :
    CallsPermitted ctx tryRo X xs :=
  .of_inert fun e he => (h e he).inert

/-- Once both hashes compared equal, only an update of the active RW image needs more. -/
theorem CallsPermitted.of_matched (hA : HashMatched .ecActive X)
    (hRO : tryRo = true → HashMatched .readonly X)
    (h : ∀ e ∈ xs, e.isUpdate .ecActive = false) : CallsPermitted ctx tryRo X xs :=
  .of_forall fun e he _ => ⟨fun _ => hA.append_right, fun ht _ => (hRO ht).append_right,
    by simp [h e he]⟩

end Permitted

section Stages

variable (K : Vb2Constants) (ctx : Vb2Context) (R : EcReplies) {tryRo : Bool} {X : List EcEvent}

theorem syncEcProtect_permitted (hA : HashMatched .ecActive X)
    (hRO : tryRo = true → HashMatched .readonly X) (t : EcWorld) :
    ∃ evs, (syncEcProtect K ctx R t).2.log = t.log ++ evs ∧ CallsPermitted ctx tryRo X evs := by
  rcases syncEcProtect_cases K R ctx t with h | ⟨-, evs, rr, h, hp, -⟩
  · exact ⟨_, by rw [h], .of_matched hA hRO (by simp [EcEvent.isUpdate])⟩
  · exact ⟨evs, by rw [h], .of_matched hA hRO fun e he => (hp e he).isUpdate_eq_false⟩

theorem syncEcRo_permitted (hA : HashMatched .ecActive X) (t : EcWorld)
    (hRO : tryRo = true → t.sd.flags.getLsbD 3 = false → HashMatched .readonly X) :
    ∃ evs, (syncEcRo K ctx R t).2.log = t.log ++ evs ∧ CallsPermitted ctx tryRo X evs := by
  rcases syncEcRo_cases K R ctx t with ⟨-, evs, hlog, hup, -⟩ |
    ⟨t', evs, heq, -, hlog, hup, -, -, hro⟩
  · exact ⟨evs, hlog, .of_updateSteps hup⟩
  · have hRO' : tryRo = true → HashMatched .readonly (X ++ evs) := fun ht => by
      rcases hro with ⟨h3, rfl⟩ | hv
      exacts [(hRO ht h3).append_right, hv.hashMatched.append_left]
    obtain ⟨evs', hlog', hp⟩ := syncEcProtect_permitted K ctx R hA.append_right hRO' t'
    exact ⟨evs ++ evs', by rw [heq, hlog', hlog, List.append_assoc],
      (CallsPermitted.of_updateSteps hup).append hp⟩

theorem syncEcJump_permitted (hA : HashMatched .ecActive X) (t : EcWorld)
    (hRO : tryRo = true → t.sd.flags.getLsbD 3 = false → HashMatched .readonly X) :
    ∃ evs, (syncEcJump K ctx R t).2.log = t.log ++ evs ∧ CallsPermitted ctx tryRo X evs := by
  have hjump : ∀ rv, CallsPermitted ctx tryRo X [.jumpToRw rv] := fun _ =>
    .of_forall fun e he _ => by
      obtain rfl := List.mem_singleton.mp he
      exact ⟨fun _ => hA.append_right, fun _ h => False.elim h, by simp [EcEvent.isUpdate]⟩
  rcases syncEcJump_cases K R ctx t with ⟨-, h⟩ | ⟨-, h⟩ | ⟨-, -, rv, hlog, -⟩
  · rw [h]
    exact syncEcRo_permitted K ctx R hA t hRO
  · obtain ⟨evs, hlog, hp⟩ := syncEcRo_permitted K ctx R hA.append_right (t.logEvent (.jumpToRw 0))
      fun ht h3 => (hRO ht h3).append_right
    exact ⟨.jumpToRw 0 :: evs, by rw [h, hlog]; simp, (hjump 0).append hp⟩
  · exact ⟨_, hlog, hjump rv⟩

theorem syncEc_permitted (t : EcWorld)
    (hA : t.sd.flags.getLsbD 4 = false → HashMatched .ecActive X)
    (hRO : tryRo = true → t.sd.flags.getLsbD 3 = false → HashMatched .readonly X)
    (hup : t.sd.flags.getLsbD 4 = true → ctx.ecEfs = false → .runningRw 0 false ∈ X) :
    ∃ evs, (syncEc K ctx R t).2.log = t.log ++ evs ∧ CallsPermitted ctx tryRo X evs := by
  have hupdate : ∀ rv, t.sd.flags.getLsbD 4 = true →
      CallsPermitted ctx tryRo X [.updateImage (selectRw ctx) rv] := fun rv h4 =>
    .of_forall fun e he _ => by
      obtain rfl := List.mem_singleton.mp he
      refine ⟨fun h => False.elim h, fun _ h => False.elim h, fun h => ?_⟩
      cases hefs : ctx.ecEfs <;> simp_all [selectRw, EcEvent.isUpdate]
  have hcheck : ∀ X' rest, (∀ e ∈ rest, e.IsCheck (selectRw ctx)) →
      CallsPermitted ctx tryRo X' rest := fun _ rest hr =>
    .of_queries fun e he => (hr e he).isQuery
  rcases syncEc_cases K R ctx t with ⟨h4, h⟩ | ⟨h4, h, h', hm, t', ht', hres⟩ |
    ⟨h4, -, rv, rest, hlog, hrest, -⟩
  · rw [h]
    exact syncEcJump_permitted K ctx R (hA h4) t hRO
  · have hU : CallsPermitted ctx tryRo X [.updateImage (selectRw ctx) 0,
        .hashImage (selectRw ctx) 0 h, .expectedImageHash (selectRw ctx) 0 h'] :=
      (hupdate 0 h4).append (hcheck _ _ (by simp [EcEvent.IsCheck]))
    rcases hres with ⟨-, hres⟩ | ⟨hefs, hres⟩
    · exact ⟨_, by rw [hres, ht'], hU⟩
    · have hM : HashMatched .ecActive (X ++ [.updateImage (selectRw ctx) 0,
          .hashImage (selectRw ctx) 0 h, .expectedImageHash (selectRw ctx) 0 h']) := by
        rw [show selectRw ctx = .ecActive by simp [selectRw, hefs]]
        exact HashMatched.append_left ⟨[_], h, h', [], rfl, hm⟩
      obtain ⟨evs, hlog, hp⟩ := syncEcJump_permitted K ctx R hM t' fun ht h3 =>
        (hRO ht (by rw [ht'] at h3; simpa using h3)).append_right
      exact ⟨_ ++ evs, by rw [hres, hlog, ht']; simp, hU.append hp⟩
  · exact ⟨_, hlog, (hupdate rv h4).append (hcheck _ rest hrest)⟩

end Stages

section Run

variable (K : Vb2Constants) (ctx : Vb2Context) (R : EcReplies)

/-- The calls around the phases: the wait screen and `vb2ex_ec_vboot_done`. -/
theorem not_changesEc_around {ds : List EcEvent} (rv : BitVec 32)
    (hds : ds = [] ∨ ds = [.displayScreen K.screenWait]) :
    ∀ e ∈ ds ++ [.vbootDone rv], ¬ e.ChangesEc := by
  rcases hds with rfl | rfl <;> simp [EcEvent.ChangesEc]

/-- Every call of a run of `vb2api_ec_sync` is permitted by the calls before it, and a
run that EC sync does not apply to changes nothing on the EC. -/
theorem vb2apiEcSync_permitted (s : EcWorld) :
    ∃ evs, (vb2apiEcSync K ctx R s).2.log = s.log ++ evs ∧
      CallsPermitted ctx s.nv.tryRoSync [] evs ∧
      (EcSyncInapplicable K ctx s → ∀ e ∈ evs, ¬ e.ChangesEc) := by
  have inert : ∀ evs, (vb2apiEcSync K ctx R s).2.log = s.log ++ evs →
      (∀ e ∈ evs, ¬ e.ChangesEc) → ∃ evs, (vb2apiEcSync K ctx R s).2.log = s.log ++ evs ∧
        CallsPermitted ctx s.nv.tryRoSync [] evs ∧
        (EcSyncInapplicable K ctx s → ∀ e ∈ evs, ¬ e.ChangesEc) :=
    fun evs hlog h => ⟨evs, hlog, .of_not_changesEc h, fun _ => h⟩
  by_cases hc : s.sd.flags &&& vb2SdStatusEcSyncComplete K = 0
  swap
  · exact inert [] (by rw [vb2apiEcSync, if_pos hc]; simp) (by simp)
  cases hrec : ctx.recoveryMode
  swap
  · exact inert [] (by rw [vb2apiEcSync, if_neg (not_not_intro hc), if_pos hrec]; simp) (by simp)
  obtain ⟨evs₁, hlog₁, hq₁⟩ := ecSyncPhase1_queries K ctx R s
  rcases vb2apiEcSync_phases K ctx R s hc hrec with ⟨-, -, hlog, -⟩ |
    ⟨h₁, ds, s₂, hds, hs₂, hcase⟩
  · exact inert evs₁ (by rw [hlog, hlog₁]) fun e he => (hq₁ e he).not_changesEc
  rcases ecSyncPhase2_cases K ctx R s₂ with ⟨h₂, -⟩ | ⟨h₂, hsup, hdis, hrr⟩
  · rcases hcase with ⟨hne, -⟩ | ⟨-, rv, -, hlog, -⟩
    · exact absurd (by rw [h₂]) hne
    refine inert (evs₁ ++ (ds ++ [.vbootDone rv])) (by rw [hlog, h₂, hs₂]; simp [hlog₁]) ?_
    simp only [List.mem_append]
    rintro e (he | he)
    exacts [(hq₁ e he).not_changesEc, not_changesEc_around K rv hds e (List.mem_append.mpr he)]
  rcases ecSyncPhase1_cases K ctx R hsup hdis s with ⟨-, evs₁, hc₁, hboth⟩ | ⟨hr, -⟩
  swap
  · exact absurd h₁ (K.ne_success_of_eq_error hr)
  have hsd : s₂.sd = (ecSyncPhase1 K ctx R s).2.sd := by rw [hs₂]
  obtain ⟨evs₂, hlog₂, hp₂⟩ := syncEc_permitted K ctx R s₂
    (fun h4 => (hc₁.rwMatched (by rwa [hsd] at h4)).append_right :
      s₂.sd.flags.getLsbD 4 = false → HashMatched .ecActive (evs₁ ++ ds))
    (fun ht h3 => (hc₁.roMatched ht (by rwa [hsd] at h3)).append_right)
    (fun h4 he => List.mem_append_left _ (hc₁.inRo (hboth (by rwa [hsd] at h4) he)))
  have hp : CallsPermitted ctx s.nv.tryRoSync [] (evs₁ ++ ds ++ evs₂) :=
    ((CallsPermitted.of_queries hc₁.queries).append
      (.of_not_changesEc fun e he => not_changesEc_around K 0 hds e (by simp [he]))).append hp₂
  have hskip : ¬ EcSyncInapplicable K ctx s := by
    have : s.sd.recoveryReason = 0 := by rw [← hc₁.recoveryReason, ← hsd, hrr]
    simp [EcSyncInapplicable, hc, hrec, hsup, hdis, this]
  rcases hcase with ⟨-, heq⟩ | ⟨-, rv, -, hlog, -⟩
  · exact ⟨_, by rw [heq, h₂, hlog₂, hs₂]; simp [hc₁.log], hp, fun h => absurd h hskip⟩
  · refine ⟨_ ++ [.vbootDone rv], by rw [hlog, h₂, hlog₂, hs₂]; simp [hc₁.log],
      hp.append (.of_not_changesEc ?_), fun h => absurd h hskip⟩
    simp [EcEvent.ChangesEc]

/-- In every run of `vb2api_ec_sync`, from any state and with any replies: the EC jumps to
RW or is protected only after the active RW hash compared equal in that run; it is
protected only after the RO hash compared equal when NV asked for RO sync; the active RW
image is updated in place only without EFS and after the EC said it runs RO; and when EC
sync does not apply, nothing on the EC is changed. -/
theorem vb2apiEcSync_checks_before_changes (s : EcWorld) :
    ∃ evs, (vb2apiEcSync K ctx R s).2.log = s.log ++ evs ∧
      Preceded EcEvent.IsJumpOrProtect (HashMatched .ecActive) evs ∧
      (s.nv.tryRoSync = true → Preceded EcEvent.IsProtect (HashMatched .readonly) evs) ∧
      Preceded (fun e => e.isUpdate .ecActive = true)
        (fun pre => ctx.ecEfs = false ∧ .runningRw 0 false ∈ pre) evs ∧
      (EcSyncInapplicable K ctx s → ∀ e ∈ evs, ¬ e.ChangesEc) := by
  obtain ⟨evs, hlog, hp, hin⟩ := vb2apiEcSync_permitted K ctx R s
  exact ⟨evs, hlog, hp.imp fun _ _ _ h => h.1, fun ht => hp.imp fun _ _ _ h => h.2.1 ht,
    hp.imp fun _ _ _ h => h.2.2, hin⟩

end Run

end Vboot
