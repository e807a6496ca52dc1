import Vboot.EcSync.Model

/-!
# Properties of the calls EC sync makes

What `vb2api_ec_sync` promises is told by the calls one run makes, in order: which
callback came before which, and what it answered. These are predicates on the list of
calls a run appends to the log. Each is an `AtEach`: a condition on every call with the
calls before and after it, so that the parts of a run, taken one after the other, put
their facts together by `atEach_append`.
-/
namespace Vboot

/-- Two hashes compare equal: the same `int` size, and `vb2_safe_memcmp` over that many
bytes finds no difference. -/
def HashesMatch (h h' : EcHash) : Prop :=
  h.size = h'.size ∧ vb2SafeMemcmp h.bytes h'.bytes (h'.size.signExtend 64).toNat = 0

instance (h h' : EcHash) : Decidable (HashesMatch h h') :=
  inferInstanceAs (Decidable (_ ∧ _))

section AtEach

/-- `P pre e post` holds at every call `e` of `evs`, `pre` being the calls before it and
`post` those after it. -/
def AtEach (P : List EcEvent → EcEvent → List EcEvent → Prop) (evs : List EcEvent) : Prop :=
  ∀ pre e post, evs = pre ++ e :: post → P pre e post

variable {P P' : List EcEvent → EcEvent → List EcEvent → Prop} {a : EcEvent}
  {evs xs ys : List EcEvent}

@[simp] theorem atEach_nil : AtEach P [] := by
  intro pre e post h
  simp at h

@[simp] theorem atEach_cons :
    AtEach P (a :: evs) ↔ P [] a evs ∧ AtEach (fun pre e post => P (a :: pre) e post) evs := by
  constructor
  · intro h
    exact ⟨h [] a evs rfl, fun pre e post h' => h (a :: pre) e post (by rw [h']; rfl)⟩
  · rintro ⟨h₀, h₁⟩ (_ | ⟨b, pre⟩) e post h
    · obtain ⟨rfl, rfl⟩ := List.cons.inj h
      exact h₀
    · obtain ⟨rfl, h'⟩ := List.cons.inj h
      exact h₁ pre e post h'

/-- The calls of the first part of a run see the second after them, and those of the second
see the first before them. -/
theorem atEach_append :
    AtEach P (xs ++ ys) ↔ AtEach (fun pre e post => P pre e (post ++ ys)) xs ∧
      AtEach (fun pre e post => P (xs ++ pre) e post) ys := by
  induction xs generalizing P with
  | nil => simp
  | cons x xs ih => simp only [List.cons_append, atEach_cons, ih, and_assoc]

theorem AtEach.imp (h : ∀ pre e post, P pre e post → P' pre e post) (hP : AtEach P evs) :
    AtEach P' evs :=
  fun pre e post he => h pre e post (hP pre e post he)

theorem AtEach.of_forall_mem (h : ∀ e ∈ evs, ∀ pre post, P pre e post) : AtEach P evs := by
  rintro pre e post rfl
  exact h e (by simp) pre post

end AtEach

/-- In `evs`, the hash of `select` and the expected hash, both got one right after the other,
compare equal. -/
def HashMatched (select : Vb2FirmwareSelection) (evs : List EcEvent) : Prop :=
  ∃ pre h h' post, evs = pre ++ .hashImage select 0 h :: .expectedImageHash select 0 h' :: post ∧
    HashesMatch h h'

/-- Every call in `evs` with property `P` comes after calls with property `Q`. -/
def Preceded (P : EcEvent → Prop) (Q : List EcEvent → Prop) : List EcEvent → Prop :=
  AtEach fun pre e _ => P e → Q pre

/-- In `evs`, an update of the RO image succeeded and its re-hash, right after it, compared
equal to the expected hash. -/
def RoUpdateVerified (evs : List EcEvent) : Prop :=
  ∃ pre h h' post, evs = pre ++ .updateImage .readonly 0 :: .hashImage .readonly 0 h ::
    .expectedImageHash .readonly 0 h' :: post ∧ HashesMatch h h'

namespace EcEvent

def isUpdate (select : Vb2FirmwareSelection) : EcEvent → Bool
  | updateImage sel _ => sel = select
  | _ => false

def IsProtect : EcEvent → Prop
  | protect _ _ => True
  | _ => False

def IsJumpOrProtect : EcEvent → Prop
  | jumpToRw _ => True
  | protect _ _ => True
  | _ => False

/-- A call that rewrites or reconfigures the EC: `vb2ex_ec_update_image`,
`vb2ex_ec_jump_to_rw`, `vb2ex_ec_protect` or `vb2ex_ec_disable_jump`. -/
def ChangesEc : EcEvent → Prop
  | updateImage _ _ => True
  | jumpToRw _ => True
  | protect _ _ => True
  | disableJump _ => True
  | _ => False

/-- A call that only asks the EC: `vb2ex_ec_running_rw`, `vb2ex_ec_hash_image` or
`vb2ex_ec_get_expected_image_hash`. -/
def IsQuery : EcEvent → Prop
  | runningRw _ _ => True
  | hashImage _ _ _ => True
  | expectedImageHash _ _ _ => True
  | _ => False

/-- A call `check_ec_hash(select)` makes. -/
def IsCheck (select : Vb2FirmwareSelection) : EcEvent → Prop
  | hashImage sel _ _ => sel = select
  | expectedImageHash sel _ _ => sel = select
  | _ => False

/-- A call `update_ec(select)` makes. -/
def IsUpdateStep (select : Vb2FirmwareSelection) : EcEvent → Prop
  | updateImage sel _ => sel = select
  | hashImage sel _ _ => sel = select
  | expectedImageHash sel _ _ => sel = select
  | _ => False

/-- A call the protect stage of `sync_ec` makes. -/
def IsProtectStep : EcEvent → Prop
  | protect _ _ => True
  | disableJump _ => True
  | _ => False

/-- The call answered an error other than `VBERROR_EC_REBOOT_TO_RO_REQUIRED`; only the
callbacks of phases 1 and 2 count. -/
def Fails (K : Vb2Constants) : EcEvent → Prop
  | runningRw rv _ | hashImage _ rv _ | expectedImageHash _ rv _ | updateImage _ rv
  | jumpToRw rv | protect _ rv | disableJump rv => rv ≠ 0 ∧ rv ≠ K.error .ecRebootToRoRequired
  | vbootDone _ | displayScreen _ => False

theorem IsCheck.isUpdateStep {select : Vb2FirmwareSelection} :
    ∀ {e : EcEvent}, e.IsCheck select → e.IsUpdateStep select
  | hashImage .., h | expectedImageHash .., h => h

theorem IsCheck.isQuery {select : Vb2FirmwareSelection} :
    ∀ {e : EcEvent}, e.IsCheck select → e.IsQuery
  | hashImage .., _ | expectedImageHash .., _ => trivial

theorem IsCheck.isUpdate_eq_false {select sel : Vb2FirmwareSelection} :
    ∀ {e : EcEvent}, e.IsCheck select → e.isUpdate sel = false
  | hashImage .., _ | expectedImageHash .., _ => rfl

theorem IsQuery.isUpdate_eq_false {sel : Vb2FirmwareSelection} :
    ∀ {e : EcEvent}, e.IsQuery → e.isUpdate sel = false
  | runningRw .., _ | hashImage .., _ | expectedImageHash .., _ => rfl

theorem IsQuery.not_changesEc : ∀ {e : EcEvent}, e.IsQuery → ¬ e.ChangesEc
  | runningRw .., _ | hashImage .., _ | expectedImageHash .., _ => id

theorem IsUpdateStep.isUpdate_eq_false {select sel : Vb2FirmwareSelection} (hne : sel ≠ select) :
    ∀ {e : EcEvent}, e.IsUpdateStep select → e.isUpdate sel = false
  | updateImage _ _, rfl => by simp [isUpdate, Ne.symm hne]
  | hashImage .., _ | expectedImageHash .., _ => rfl

theorem IsProtectStep.isUpdate_eq_false {sel : Vb2FirmwareSelection} :
    ∀ {e : EcEvent}, e.IsProtectStep → e.isUpdate sel = false
  | protect .., _ | disableJump _, _ => rfl

end EcEvent

/-- The call `e`, after the calls `pre`, shows an error: an answer other than 0 and
`VBERROR_EC_REBOOT_TO_RO_REQUIRED`, or an expected hash of another size than the EC's just
before it, or one that differs right after an update of that image. -/
def ErrorAt (K : Vb2Constants) (pre : List EcEvent) : EcEvent → Prop
  | .expectedImageHash select rv h' =>
    (rv ≠ 0 ∧ rv ≠ K.error .ecRebootToRoRequired) ∨ rv = 0 ∧ ∃ h,
      pre.getLast? = some (.hashImage select 0 h) ∧
      (h.size ≠ h'.size ∨ ¬ HashesMatch h h' ∧
        pre.dropLast.getLast? = some (.updateImage select 0))
  | e => e.Fails K

/-- The calls of one try of `update_ec(VB_SELECT_FIRMWARE_READONLY)`: the update, then the
calls of `check_ec_hash` after it. -/
def RoTry (evs : List EcEvent) : Prop :=
  ∃ rv rest, evs = .updateImage .readonly rv :: rest ∧ ∀ e ∈ rest, e.IsCheck .readonly

/-- The call `e`, between `pre` and `post`, belongs to a try of the RO update, and the three
calls right after that try are a retry that verified. -/
def RoRetried (pre : List EcEvent) (e : EcEvent) (post : List EcEvent) : Prop :=
  ∃ a b c h h' d, pre = a ++ b ∧ RoTry (b ++ e :: c) ∧ HashesMatch h h' ∧
    post = c ++ .updateImage .readonly 0 :: .hashImage .readonly 0 h ::
      .expectedImageHash .readonly 0 h' :: d

/-- Every error shown by a call of `evs`, whatever came before `evs`, is one of a failed try
of the RO update that a retry in `evs` put right. -/
def ErrorsRecovered (K : Vb2Constants) (evs : List EcEvent) : Prop :=
  ∀ X, AtEach (fun pre e post => ErrorAt K (X ++ pre) e → RoRetried (X ++ pre) e post) evs

/-- After a failed step that made the calls `evs`, NV asks for recovery, or holds the request
`old` and every error of `evs` was recovered. -/
def RecoveryAsked (K : Vb2Constants) (old rr : BitVec 32) (evs : List EcEvent) : Prop :=
  rr ≠ 0 ∨ rr = old ∧ ErrorsRecovered K evs

section Lemmas

variable {K : Vb2Constants} {select : Vb2FirmwareSelection} {xs ys : List EcEvent}

theorem HashMatched.append_right (h : HashMatched select xs) : HashMatched select (xs ++ ys) := by
  obtain ⟨pre, h, h', post, rfl, hm⟩ := h
  exact ⟨pre, h, h', post ++ ys, by simp, hm⟩

theorem HashMatched.append_left (h : HashMatched select ys) : HashMatched select (xs ++ ys) := by
  obtain ⟨pre, h, h', post, rfl, hm⟩ := h
  exact ⟨xs ++ pre, h, h', post, by simp, hm⟩

theorem RoUpdateVerified.append_right (h : RoUpdateVerified xs) :
    RoUpdateVerified (xs ++ ys) := by
  obtain ⟨pre, h, h', post, rfl, hm⟩ := h
  exact ⟨pre, h, h', post ++ ys, by simp, hm⟩

theorem RoUpdateVerified.append_left (h : RoUpdateVerified ys) : RoUpdateVerified (xs ++ ys) := by
  obtain ⟨pre, h, h', post, rfl, hm⟩ := h
  exact ⟨xs ++ pre, h, h', post, by simp, hm⟩

theorem RoUpdateVerified.hashMatched (h : RoUpdateVerified xs) : HashMatched .readonly xs := by
  obtain ⟨pre, h, h', post, rfl, hm⟩ := h
  exact ⟨pre ++ [.updateImage .readonly 0], h, h', post, by simp, hm⟩

theorem roUpdateVerified_update {h h' : EcHash} (hm : HashesMatch h h') :
    RoUpdateVerified [.updateImage .readonly 0, .hashImage .readonly 0 h,
      .expectedImageHash .readonly 0 h'] :=
  ⟨[], h, h', [], rfl, hm⟩

theorem RoRetried.append_right {pre post : List EcEvent} {e : EcEvent} (h : RoRetried pre e post) :
    RoRetried pre e (post ++ ys) := by
  obtain ⟨a, b, c, h, h', d, rfl, ht, hm, rfl⟩ := h
  exact ⟨a, b, c, h, h', d ++ ys, rfl, ht, hm, by simp⟩

theorem errorsRecovered_nil : ErrorsRecovered K [] := fun _ => atEach_nil

theorem ErrorsRecovered.append (h₁ : ErrorsRecovered K xs) (h₂ : ErrorsRecovered K ys) :
    ErrorsRecovered K (xs ++ ys) := by
  intro X
  refine atEach_append.mpr ⟨(h₁ X).imp fun _ _ _ h he => (h he).append_right, ?_⟩
  simpa only [List.append_assoc] using h₂ (X ++ xs)

theorem errorsRecovered_of_forall (h : ∀ e ∈ xs, ∀ pre, ¬ ErrorAt K pre e) :
    ErrorsRecovered K xs :=
  fun _ => AtEach.of_forall_mem fun e he _ _ herr => absurd herr (h e he _)

theorem errorsRecovered_of_not_fails (h : ∀ e ∈ xs, ¬ e.Fails K ∧ ¬ e.IsQuery) :
    ErrorsRecovered K xs :=
  errorsRecovered_of_forall fun e he pre herr => by
    obtain ⟨hf, hq⟩ := h e he
    cases e
    case expectedImageHash => exact hq trivial
    all_goals exact hf herr

/-- The calls of `update_ec(select)` when the update and the re-hash succeeded and the
hashes match show no error. -/
theorem errorsRecovered_update {h h' : EcHash} (hm : HashesMatch h h') :
    ErrorsRecovered K [.updateImage select 0, .hashImage select 0 h,
      .expectedImageHash select 0 h'] := by
  intro X
  simp only [atEach_cons, atEach_nil, and_true]
  refine ⟨fun h => (h.1 rfl).elim, fun h => (h.1 rfl).elim, ?_⟩
  rintro (⟨h0, -⟩ | ⟨-, h₀, hl, hne⟩)
  · exact absurd rfl h0
  · simp at hl
    subst hl
    simp [hm, hm.1] at hne

/-- The errors of a try of the RO update are recovered by a retry that verified right
after it. -/
theorem ErrorsRecovered.retry {h h' : EcHash} (ht : RoTry xs) (hm : HashesMatch h h') :
    ErrorsRecovered K (xs ++ [.updateImage .readonly 0, .hashImage .readonly 0 h,
      .expectedImageHash .readonly 0 h']) := by
  intro X
  refine atEach_append.mpr ⟨fun pre e post hx _ => ⟨X, pre, post, h, h', [], rfl, hx ▸ ht, hm,
    by simp⟩, ?_⟩
  simpa only [List.append_assoc] using errorsRecovered_update hm (X ++ xs)

/-- The two calls of a `check_ec_hash` that got both hashes, of the same size, show no
error unless they come right after an update of that image. -/
theorem ErrorsRecovered.append_check {e : EcEvent} {h h' : EcHash}
    (hx : ErrorsRecovered K xs) (hlast : xs.getLast? = some e)
    (he : e ≠ .updateImage select 0) (hs : h.size = h'.size) :
    ErrorsRecovered K (xs ++ [.hashImage select 0 h, .expectedImageHash select 0 h']) := by
  intro X
  refine atEach_append.mpr ⟨(hx X).imp fun _ _ _ h he => (h he).append_right, ?_⟩
  simp only [atEach_cons, atEach_nil, and_true]
  refine ⟨fun h => (h.1 rfl).elim, ?_⟩
  rintro (⟨h0, -⟩ | ⟨-, h₀, hl, hne⟩)
  · exact absurd rfl h0
  · simp at hl
    subst hl
    simp [hs, hlast] at hne
    exact absurd hne.2 he

theorem RecoveryAsked.of_recovered {a : BitVec 32} (h : ErrorsRecovered K xs) :
    RecoveryAsked K a a xs :=
  .inr ⟨rfl, h⟩

theorem RecoveryAsked.trans {a b c : BitVec 32} (h₁ : RecoveryAsked K a b xs)
    (h₂ : RecoveryAsked K b c ys) : RecoveryAsked K a c (xs ++ ys) := by
  rcases h₂ with hc | ⟨rfl, hys⟩
  · exact .inl hc
  rcases h₁ with hb | ⟨rfl, hxs⟩
  · exact .inl hb
  · exact .inr ⟨rfl, hxs.append hys⟩

end Lemmas

end Vboot
