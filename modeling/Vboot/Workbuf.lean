import Vboot.Basic
import Mathlib.Data.List.Pairwise

/-!
# The work buffer allocator

`vb2_align`, `vb2_workbuf_init`, `vb2_workbuf_alloc`, `vb2_workbuf_realloc` and
`vb2_workbuf_free` of `2common.c`. A pointer is its address, a natural number: the
allocator only moves it inside the buffer it was handed. A run records its live
allocations as ghost state, newest first; the allocator itself keeps none, and the
LIFO discipline of the callers is what a run checks.
-/
namespace Vboot

section Model

variable (K : Vb2Constants)

/-- `struct vb2_workbuf`. -/
structure Vb2Workbuf where
  buf : Nat
  size : BitVec 32
  deriving DecidableEq, Repr

/-- `vb2_align`: the error code, then `*ptr` and `*size` as the call leaves them. -/
def vb2Align (ptr : Nat) (size align wantSize : BitVec 32) : BitVec 32 × Nat × BitVec 32 :=
  let offs := ptr &&& (align.toNat - 1)
  if offs ≠ 0 then
    let offs := align.toNat - offs
    if size.toNat < offs then (K.error .alignBiggerThanSize, ptr, size)
    else
      let ptr := ptr + offs
      let size := size - BitVec.ofNat 32 offs
      if size < wantSize then (K.error .alignSize, ptr, size) else (vb2Success, ptr, size)
  else if size < wantSize then (K.error .alignSize, ptr, size) else (vb2Success, ptr, size)

/-- `vb2_workbuf_init`. -/
def vb2WorkbufInit (buf : Nat) (size : BitVec 32) : Vb2Workbuf :=
  let (rv, buf, size) := vb2Align K buf size (BitVec.ofNat 32 K.workbufAlign) 0
  { buf, size := if rv ≠ vb2Success then 0 else size }

/-- Modelled from the spec: `vb2_wb_round_up` (its header `2common.h` is not in the tree)
is `round_up(n, ALIGN)`, the least multiple of `VB2_WORKBUF_ALIGN` not below `n`. -/
def vb2WbRoundUp (n : Nat) : Nat := (n + K.workbufAlign - 1) / K.workbufAlign * K.workbufAlign

/-- `size = vb2_wb_round_up(size)`: the rounded size stored back into the `uint32_t`. -/
def roundedSize (size : BitVec 32) : BitVec 32 := BitVec.ofNat 32 (vb2WbRoundUp K size.toNat)

/-- `vb2_workbuf_alloc`; `none` is the `return NULL` path. -/
def vb2WorkbufAlloc (wb : Vb2Workbuf) (size : BitVec 32) : Option Nat × Vb2Workbuf :=
  let ptr := wb.buf
  let size := roundedSize K size
  if size > wb.size then (none, wb)
  else (some ptr, { buf := wb.buf + size.toNat, size := wb.size - size })

/-- `vb2_workbuf_free`. -/
def vb2WorkbufFree (wb : Vb2Workbuf) (size : BitVec 32) : Vb2Workbuf :=
  let size := roundedSize K size
  { buf := wb.buf - size.toNat, size := wb.size + size }

/-- `vb2_workbuf_realloc`: free, then allocate again from the same place. -/
def vb2WorkbufRealloc (wb : Vb2Workbuf) (oldsize newsize : BitVec 32) :
    Option Nat × Vb2Workbuf :=
  vb2WorkbufAlloc K (vb2WorkbufFree K wb oldsize) newsize

/-- A live allocation: the pointer returned, the size requested, and the work buffer
handed to the `vb2_workbuf_alloc` call that returned it. -/
structure Allocation where
  ptr : Nat
  size : BitVec 32
  before : Vb2Workbuf
  deriving DecidableEq, Repr

/-- One call a client makes on its work buffer. -/
inductive WorkbufOp
  | alloc (size : BitVec 32)
  | free (size : BitVec 32)
  | realloc (oldsize newsize : BitVec 32)
  deriving DecidableEq, Repr

/-- The live allocations after an allocation from `wb` that returned `r`. -/
def pushLive : Option Nat → BitVec 32 → Vb2Workbuf → List Allocation → List Allocation
  | some p, size, wb, live => ⟨p, size, wb⟩ :: live
  | none, _, _, live => live

/-- One call of a run; `none` when a `free` or `realloc` does not name the most recent
live allocation, which the LIFO discipline forbids. -/
def lifoStep (s : Vb2Workbuf × List Allocation) :
    WorkbufOp → Option (Vb2Workbuf × List Allocation)
  | .alloc n =>
    let (r, wb) := vb2WorkbufAlloc K s.1 n
    some (wb, pushLive r n s.1 s.2)
  | .free n =>
    match s.2 with
    | a :: live => if a.size = n then some (vb2WorkbufFree K s.1 n, live) else none
    | [] => none
  | .realloc n m =>
    match s.2 with
    | a :: live =>
      if a.size = n then
        let (r, wb) := vb2WorkbufRealloc K s.1 n m
        some (wb, pushLive r m (vb2WorkbufFree K s.1 n) live)
      else none
    | [] => none

/-- A run of calls that obeys the LIFO discipline. -/
def lifoRun : Vb2Workbuf × List Allocation → List WorkbufOp → Option (Vb2Workbuf × List Allocation)
  | s, [] => some s
  | s, op :: ops => (lifoStep K s op).bind (lifoRun · ops)

end Model

section Alloc

variable {K : Vb2Constants} {wb wb' : Vb2Workbuf} {n : BitVec 32} {p : Nat}

/-- Everything one allocation can do. -/
theorem vb2WorkbufAlloc_cases (K : Vb2Constants) (wb : Vb2Workbuf) (n : BitVec 32) :
    (wb.size < roundedSize K n ∧ vb2WorkbufAlloc K wb n = (none, wb)) ∨
    (roundedSize K n ≤ wb.size ∧ vb2WorkbufAlloc K wb n =
      (some wb.buf, ⟨wb.buf + (roundedSize K n).toNat, wb.size - roundedSize K n⟩)) := by
  unfold vb2WorkbufAlloc
  by_cases h : wb.size < roundedSize K n
  · exact .inl ⟨h, if_pos h⟩
  · exact .inr ⟨BitVec.not_lt.mp h, if_neg h⟩

theorem vb2WorkbufAlloc_eq_some (h : vb2WorkbufAlloc K wb n = (some p, wb')) :
    roundedSize K n ≤ wb.size ∧ p = wb.buf ∧
      wb' = ⟨wb.buf + (roundedSize K n).toNat, wb.size - roundedSize K n⟩ := by
  rcases vb2WorkbufAlloc_cases K wb n with ⟨_, he⟩ | ⟨hle, he⟩ <;> rw [he] at h
  · cases h
  · cases h; exact ⟨hle, rfl, rfl⟩

theorem vb2WorkbufAlloc_eq_none (h : vb2WorkbufAlloc K wb n = (none, wb')) : wb' = wb := by
  rcases vb2WorkbufAlloc_cases K wb n with ⟨_, he⟩ | ⟨_, he⟩ <;> rw [he] at h <;> cases h
  rfl

/-- Freeing what was just allocated gives back the work buffer from before. -/
theorem vb2WorkbufFree_of_alloc (h : vb2WorkbufAlloc K wb n = (some p, wb')) :
    vb2WorkbufFree K wb' n = wb := by
  obtain ⟨hle, -, rfl⟩ := vb2WorkbufAlloc_eq_some h
  simp only [vb2WorkbufFree, Nat.add_sub_cancel, BitVec.sub_add_cancel]

/-- An allocation moves the start of the buffer up and leaves its end where it was. -/
theorem vb2WorkbufAlloc_end (h : vb2WorkbufAlloc K wb n = (some p, wb')) :
    wb.buf ≤ wb'.buf ∧ wb'.buf + wb'.size.toNat = wb.buf + wb.size.toNat := by
  obtain ⟨hle, -, rfl⟩ := vb2WorkbufAlloc_eq_some h
  constructor
  · exact Nat.le_add_right _ _
  · simp only [BitVec.toNat_sub_of_le hle]
    have := BitVec.le_def.mp hle
    omega

end Alloc

section Rounding

variable (K : Vb2Constants)

theorem workbufAlign_pos : 0 < K.workbufAlign :=
  Nat.lt_of_lt_of_le (by decide) K.eight_le_workbufAlign

theorem workbufAlign_toNat : (BitVec.ofNat 32 K.workbufAlign).toNat = K.workbufAlign := by
  simp only [BitVec.toNat_ofNat, Nat.mod_eq_of_lt K.workbufAlign_lt]

theorem vb2WbRoundUp_bounds (n : Nat) :
    n ≤ vb2WbRoundUp K n ∧ vb2WbRoundUp K n < n + K.workbufAlign := by
  have h := Nat.div_add_mod (n + K.workbufAlign - 1) K.workbufAlign
  have hl := Nat.mod_lt (n + K.workbufAlign - 1) (workbufAlign_pos K)
  rw [Nat.mul_comm] at h
  unfold vb2WbRoundUp
  omega

theorem roundedSize_mod (n : BitVec 32) : (roundedSize K n).toNat % K.workbufAlign = 0 := by
  simp only [roundedSize, BitVec.toNat_ofNat, Nat.mod_mod_of_dvd _ K.workbufAlign_dvd,
    vb2WbRoundUp, Nat.mul_mod_left]

/-- Below the top `VB2_WORKBUF_ALIGN` values the rounded size is stored without wrapping. -/
theorem roundedSize_of_le {n : BitVec 32} (h : n.toNat + K.workbufAlign ≤ 2 ^ 32) :
    (roundedSize K n).toNat = vb2WbRoundUp K n.toNat := by
  have := (vb2WbRoundUp_bounds K n.toNat).2
  simp only [roundedSize, BitVec.toNat_ofNat]
  exact Nat.mod_eq_of_lt (by omega)

/-- A nonempty request below the wrap takes at least one alignment unit. -/
theorem workbufAlign_le_roundedSize {n : BitVec 32} (h : n.toNat + K.workbufAlign ≤ 2 ^ 32)
    (hn : 0 < n.toNat) : K.workbufAlign ≤ (roundedSize K n).toNat := by
  rw [roundedSize_of_le K h]
  have hb := (vb2WbRoundUp_bounds K n.toNat).1
  have hm : vb2WbRoundUp K n.toNat % K.workbufAlign = 0 := Nat.mul_mod_left _ _
  exact Nat.le_of_dvd (by omega) (Nat.dvd_of_mod_eq_zero hm)

/-- The top `VB2_WORKBUF_ALIGN - 1` requests round up to `2^32`, stored as zero. -/
theorem roundedSize_top : roundedSize K 0xffffffff = 0 := by
  obtain ⟨c, hc⟩ := K.workbufAlign_dvd
  have hA := K.eight_le_workbufAlign
  have hsum : 0xffffffff + K.workbufAlign - 1 = K.workbufAlign * c + (K.workbufAlign - 2) := by
    omega
  have hround : vb2WbRoundUp K 0xffffffff = 2 ^ 32 := by
    rw [vb2WbRoundUp, hsum, Nat.mul_add_div (by omega), Nat.div_eq_of_lt (by omega),
      Nat.add_zero, hc, Nat.mul_comm]
  have hn : (0xffffffff : BitVec 32).toNat = 0xffffffff := rfl
  simp only [roundedSize, hn, hround]
  rfl

end Rounding

section Init

variable (K : Vb2Constants) (buf : Nat) (size : BitVec 32)

/-- `vb2_workbuf_init` keeps inside the buffer it is given, and unless it leaves no room
at all, its start is aligned. -/
theorem vb2WorkbufInit_spec :
    buf ≤ (vb2WorkbufInit K buf size).buf ∧
      (vb2WorkbufInit K buf size).buf + (vb2WorkbufInit K buf size).size.toNat ≤
        buf + size.toNat ∧
      ((vb2WorkbufInit K buf size).size ≠ 0 →
        (vb2WorkbufInit K buf size).buf % K.workbufAlign = 0) := by
  have hA := workbufAlign_pos K
  have hmask : buf &&& (K.workbufAlign - 1) = buf % K.workbufAlign :=
    Nat.and_pow_two_sub_one_eq_mod buf _
  have hnz : ∀ x : BitVec 32, ¬ x < 0 := fun x h => Nat.not_lt_zero _ (BitVec.lt_def.mp h)
  simp only [vb2WorkbufInit, vb2Align, workbufAlign_toNat, hmask, hnz, if_false, ne_eq]
  by_cases h0 : buf % K.workbufAlign = 0
  · simp [h0]
  · have hlt := Nat.mod_lt buf hA
    by_cases hs : size.toNat < K.workbufAlign - buf % K.workbufAlign
    · simp [h0, hs]
    · have hdiv := Nat.div_add_mod buf K.workbufAlign
      have hup : buf + (K.workbufAlign - buf % K.workbufAlign) =
          K.workbufAlign * (buf / K.workbufAlign + 1) := by
        rw [Nat.mul_add, Nat.mul_one]; omega
      have hd : (BitVec.ofNat 32 (K.workbufAlign - buf % K.workbufAlign)).toNat =
          K.workbufAlign - buf % K.workbufAlign :=
        Nat.mod_eq_of_lt (by have := K.workbufAlign_lt; omega)
      have hsub : (size - BitVec.ofNat 32 (K.workbufAlign - buf % K.workbufAlign)).toNat =
          size.toNat - (K.workbufAlign - buf % K.workbufAlign) := by
        rw [BitVec.toNat_sub_of_le (BitVec.le_def.mpr (by omega)), hd]
      simp only [h0, hs, not_false_eq_true, if_true, if_false, vb2Success, not_true_eq_false,
        hsub, hup, hd, Nat.mul_mod_right, implies_true, and_true]
      omega

theorem vb2WorkbufInit_of_aligned (h : buf % K.workbufAlign = 0) :
    vb2WorkbufInit K buf size = ⟨buf, size⟩ := by
  have hmask : buf &&& (K.workbufAlign - 1) = buf % K.workbufAlign :=
    Nat.and_pow_two_sub_one_eq_mod buf _
  have hnz : ∀ x : BitVec 32, ¬ x < 0 := fun x h => Nat.not_lt_zero _ (BitVec.lt_def.mp h)
  simp only [vb2WorkbufInit, vb2Align, workbufAlign_toNat, hmask, hnz, h, ne_eq,
    not_true_eq_false, if_false, eq_self_iff_true]

end Init

section Runs

variable (K : Vb2Constants)

/-- The live allocations sit one on top of the other, from `base` up to `top`. -/
inductive Stacked (base : Vb2Workbuf) : List Allocation → Vb2Workbuf → Prop
  | nil : Stacked base [] base
  | push {live : List Allocation} {a : Allocation} {top : Vb2Workbuf} :
      Stacked base live a.before → vb2WorkbufAlloc K a.before a.size = (some a.ptr, top) →
      Stacked base (a :: live) top

variable {K} {base : Vb2Workbuf}

theorem Stacked.push_of_alloc {live : List Allocation} {top top' : Vb2Workbuf}
    {n : BitVec 32} {r : Option Nat} (hs : Stacked K base live top)
    (h : vb2WorkbufAlloc K top n = (r, top')) : Stacked K base (pushLive r n top live) top' := by
  cases r with
  | none => rw [vb2WorkbufAlloc_eq_none h]; exact hs
  | some p => exact .push hs h

/-- Every call of a LIFO run keeps the live allocations stacked. -/
theorem Stacked.step {s s' : Vb2Workbuf × List Allocation} {op : WorkbufOp}
    (hs : Stacked K base s.2 s.1) (h : lifoStep K s op = some s') : Stacked K base s'.2 s'.1 := by
  obtain ⟨top, live⟩ := s
  dsimp only at hs
  cases op with
  | alloc n =>
    rcases hr : vb2WorkbufAlloc K top n with ⟨r, top'⟩
    simp only [lifoStep, hr, Option.some.injEq] at h
    subst h
    exact hs.push_of_alloc hr
  | free n =>
    cases hs with
    | nil => simp [lifoStep] at h
    | @push live a _ hs ha =>
      simp only [lifoStep, ite_eq_right_iff, Option.some.injEq] at h
      split at h
      · cases h; subst n; rw [vb2WorkbufFree_of_alloc ha]; exact hs
      · cases h
  | realloc n m =>
    cases hs with
    | nil => simp [lifoStep] at h
    | @push live a _ hs ha =>
      simp only [lifoStep] at h
      split at h
      · subst n
        rcases hr : vb2WorkbufRealloc K top a.size m with ⟨r, top'⟩
        simp only [hr, Option.some.injEq] at h
        subst h
        rw [vb2WorkbufRealloc, vb2WorkbufFree_of_alloc ha] at hr
        rw [vb2WorkbufFree_of_alloc ha]
        exact hs.push_of_alloc hr
      · cases h

/-- A whole LIFO run keeps the live allocations stacked. -/
theorem Stacked.run {s s' : Vb2Workbuf × List Allocation} {ops : List WorkbufOp}
    (hs : Stacked K base s.2 s.1) (h : lifoRun K s ops = some s') : Stacked K base s'.2 s'.1 := by
  induction ops generalizing s with
  | nil => cases h; exact hs
  | cons op ops ih =>
    simp only [lifoRun, Option.bind_eq_some] at h
    obtain ⟨s₁, h₁, h₂⟩ := h
    exact ih (hs.step h₁) h₂

theorem Stacked.end_eq {live : List Allocation} {top : Vb2Workbuf} (hs : Stacked K base live top) :
    top.buf + top.size.toNat = base.buf + base.size.toNat := by
  induction hs with
  | nil => rfl
  | push _ ha ih => rw [(vb2WorkbufAlloc_end ha).2, ih]

/-- Each live allocation's rounded extent ends at or below the top, and at or below the
start of every newer one. -/
theorem Stacked.below_top {live : List Allocation} {top : Vb2Workbuf} (hs : Stacked K base live top) :
    ∀ a ∈ live, a.ptr + (roundedSize K a.size).toNat ≤ top.buf := by
  induction hs with
  | nil => simp
  | push _ ha ih =>
    obtain ⟨-, hp, rfl⟩ := vb2WorkbufAlloc_eq_some ha
    intro b hb
    rcases List.mem_cons.mp hb with rfl | hb
    · exact Nat.le_of_eq (by rw [hp])
    · exact Nat.le_trans (ih b hb) (Nat.le_add_right _ _)

theorem Stacked.pairwise_below {live : List Allocation} {top : Vb2Workbuf}
    (hs : Stacked K base live top) :
    live.Pairwise (fun newer older => older.ptr + (roundedSize K older.size).toNat ≤ newer.ptr) := by
  induction hs with
  | nil => exact .nil
  | @push live a _ hs ha ih =>
    refine List.pairwise_cons.mpr ⟨fun b hb => ?_, ih⟩
    rw [(vb2WorkbufAlloc_eq_some ha).2.1]
    exact hs.below_top b hb

theorem Stacked.pairwise {live : List Allocation} {top : Vb2Workbuf} (hs : Stacked K base live top) :
    live.Pairwise (fun newer older => older.ptr ≤ newer.ptr) :=
  hs.pairwise_below.imp fun h => Nat.le_trans (Nat.le_add_right _ _) h

theorem Stacked.base_le {live : List Allocation} {top : Vb2Workbuf} (hs : Stacked K base live top) :
    base.buf ≤ top.buf ∧ ∀ a ∈ live, base.buf ≤ a.ptr := by
  induction hs with
  | nil => simp
  | push _ ha ih =>
    obtain ⟨hle, _⟩ := vb2WorkbufAlloc_end ha
    refine ⟨Nat.le_trans ih.1 hle, fun b hb => ?_⟩
    rcases List.mem_cons.mp hb with rfl | hb
    · rw [(vb2WorkbufAlloc_eq_some ha).2.1]; exact ih.1
    · exact ih.2 b hb

theorem Stacked.mod_eq {live : List Allocation} {top : Vb2Workbuf} (hs : Stacked K base live top) :
    top.buf % K.workbufAlign = base.buf % K.workbufAlign := by
  induction hs with
  | nil => rfl
  | push _ ha ih =>
    obtain ⟨-, -, rfl⟩ := vb2WorkbufAlloc_eq_some ha
    rw [Nat.add_mod, roundedSize_mod, Nat.add_zero, Nat.mod_mod, ih]

/-- Every live allocation was made on top of the allocations older than it. -/
theorem Stacked.of_mem {live : List Allocation} {top : Vb2Workbuf} (hs : Stacked K base live top)
    {a : Allocation} (ha : a ∈ live) :
    ∃ rest top', Stacked K base rest a.before ∧
      vb2WorkbufAlloc K a.before a.size = (some a.ptr, top') := by
  induction hs with
  | nil => cases ha
  | push hs hb ih =>
    rcases List.mem_cons.mp ha with rfl | ha
    · exact ⟨_, _, hs, hb⟩
    · exact ih ha

/-- What a call on the most recent live allocation does: `free` returns the work buffer
it was allocated from, and `realloc` either returns that allocation's own pointer or
fails leaving the buffer freed. -/
theorem Stacked.top_calls {a : Allocation} {live : List Allocation} {top : Vb2Workbuf}
    (hs : Stacked K base (a :: live) top) (m : BitVec 32) :
    vb2WorkbufFree K top a.size = a.before ∧
      ((vb2WorkbufRealloc K top a.size m).1 = none →
        (vb2WorkbufRealloc K top a.size m).2 = vb2WorkbufFree K top a.size) ∧
      ∀ p, (vb2WorkbufRealloc K top a.size m).1 = some p → p = a.ptr := by
  cases hs with
  | push _ ha =>
    have hfree := vb2WorkbufFree_of_alloc ha
    refine ⟨hfree, ?_, ?_⟩ <;> rw [vb2WorkbufRealloc, hfree]
    · intro hn
      rcases hr : vb2WorkbufAlloc K a.before m with ⟨r, wb⟩
      simp only [hr] at hn
      subst hn
      exact vb2WorkbufAlloc_eq_none hr
    · intro p hp
      rcases hr : vb2WorkbufAlloc K a.before m with ⟨r, wb⟩
      simp only [hr] at hp
      subst hp
      rw [(vb2WorkbufAlloc_eq_some hr).2.1, (vb2WorkbufAlloc_eq_some ha).2.1]

theorem lifo_workbuf_invariants (wb₀ : Vb2Workbuf) (ops : List WorkbufOp) (wb : Vb2Workbuf)
    (live : List Allocation) (h : lifoRun K (wb₀, []) ops = some (wb, live)) :
    wb.buf + wb.size.toNat = wb₀.buf + wb₀.size.toNat ∧
      live.Pairwise (fun newer older => older.ptr ≤ newer.ptr) ∧
      ∀ a rest, live = a :: rest → ∀ m,
        vb2WorkbufFree K wb a.size = a.before ∧
        ((vb2WorkbufRealloc K wb a.size m).1 = none →
          (vb2WorkbufRealloc K wb a.size m).2 = vb2WorkbufFree K wb a.size) ∧
        ∀ p, (vb2WorkbufRealloc K wb a.size m).1 = some p → p = a.ptr := by
  have hs : Stacked K wb₀ live wb := Stacked.run (by exact .nil) h
  refine ⟨hs.end_eq, hs.pairwise, ?_⟩
  rintro a rest rfl m
  exact hs.top_calls m

theorem lifo_workbuf_invariants_sample :
    lifoRun Vb2Constants.sample (⟨0x1000, 64⟩, []) [.alloc 22, .alloc 6, .realloc 6 10] =
        some (⟨0x1030, 16⟩, [⟨0x1020, 10, ⟨0x1020, 32⟩⟩, ⟨0x1000, 22, ⟨0x1000, 64⟩⟩]) ∧
      (0x1030 + (16 : BitVec 32).toNat = 0x1000 + (64 : BitVec 32).toNat ∧
        [(⟨0x1020, 10, ⟨0x1020, 32⟩⟩ : Allocation), ⟨0x1000, 22, ⟨0x1000, 64⟩⟩].Pairwise
          (fun newer older => older.ptr ≤ newer.ptr) ∧
        ∀ a rest, [(⟨0x1020, 10, ⟨0x1020, 32⟩⟩ : Allocation), ⟨0x1000, 22, ⟨0x1000, 64⟩⟩] =
            a :: rest → ∀ m,
          vb2WorkbufFree Vb2Constants.sample ⟨0x1030, 16⟩ a.size = a.before ∧
          ((vb2WorkbufRealloc Vb2Constants.sample ⟨0x1030, 16⟩ a.size m).1 = none →
            (vb2WorkbufRealloc Vb2Constants.sample ⟨0x1030, 16⟩ a.size m).2 =
              vb2WorkbufFree Vb2Constants.sample ⟨0x1030, 16⟩ a.size) ∧
          ∀ p, (vb2WorkbufRealloc Vb2Constants.sample ⟨0x1030, 16⟩ a.size m).1 = some p →
            p = a.ptr) :=
  ⟨by decide, lifo_workbuf_invariants ⟨0x1000, 64⟩ [.alloc 22, .alloc 6, .realloc 6 10]
    ⟨0x1030, 16⟩ [⟨0x1020, 10, ⟨0x1020, 32⟩⟩, ⟨0x1000, 22, ⟨0x1000, 64⟩⟩] (by decide)⟩

/-- From `vb2_workbuf_init`, every live allocation of a nonempty request below the wrap is
aligned and inside the buffer given to `init`, and the live allocations are disjoint. -/
theorem lifo_workbuf_allocations_inside (buf₀ : Nat) (size₀ : BitVec 32) (ops : List WorkbufOp)
    (wb : Vb2Workbuf) (live : List Allocation)
    (h : lifoRun K (vb2WorkbufInit K buf₀ size₀, []) ops = some (wb, live))
    (hnw : ∀ a ∈ live, a.size.toNat + K.workbufAlign ≤ 2 ^ 32) :
    (∀ a ∈ live, 0 < a.size.toNat →
      buf₀ ≤ a.ptr ∧ a.ptr + a.size.toNat ≤ buf₀ + size₀.toNat ∧ a.ptr % K.workbufAlign = 0) ∧
      live.Pairwise (fun newer older => older.ptr + older.size.toNat ≤ newer.ptr) := by
  obtain ⟨hlo, hhi, halign⟩ := vb2WorkbufInit_spec K buf₀ size₀
  set base := vb2WorkbufInit K buf₀ size₀
  have hs : Stacked K base live wb := Stacked.run (by exact .nil) h
  have hcover : ∀ a ∈ live, a.size.toNat ≤ (roundedSize K a.size).toNat := fun a ha => by
    rw [roundedSize_of_le K (hnw a ha)]; exact (vb2WbRoundUp_bounds K _).1
  refine ⟨fun a ha hpos => ?_, ?_⟩
  · obtain ⟨rest, top', hrest, hal⟩ := hs.of_mem ha
    obtain ⟨hfit, hp, -⟩ := vb2WorkbufAlloc_eq_some hal
    have hunit := workbufAlign_le_roundedSize K (hnw a ha) hpos
    have hbase := hrest.base_le.1
    have hend := hrest.end_eq
    have hsize : base.size ≠ 0 := by
      intro h0
      rw [h0] at hend
      have := BitVec.le_def.mp hfit
      have h00 : (0 : BitVec 32).toNat = 0 := rfl
      have := workbufAlign_pos K
      omega
    have hmod := hrest.mod_eq
    have htop := hs.below_top a ha
    have hwb := hs.end_eq
    have hlow := (hs.base_le).2 a ha
    have := hcover a ha
    refine ⟨by omega, by omega, ?_⟩
    rw [hp, hmod, halign hsize]
  · exact (hs.pairwise_below.imp_of_mem fun {newer older} _ ho hle =>
      Nat.le_trans (Nat.add_le_add_left (hcover older ho) _) hle)

theorem lifo_workbuf_allocations_inside_sample :
    lifoRun Vb2Constants.sample (vb2WorkbufInit Vb2Constants.sample 0x1004 64, []) [.alloc 22] =
        some (⟨0x1030, 20⟩, [⟨0x1010, 22, ⟨0x1010, 52⟩⟩]) ∧
      (∀ a ∈ [(⟨0x1010, 22, ⟨0x1010, 52⟩⟩ : Allocation)],
        a.size.toNat + Vb2Constants.sample.workbufAlign ≤ 2 ^ 32) ∧
      ((∀ a ∈ [(⟨0x1010, 22, ⟨0x1010, 52⟩⟩ : Allocation)], 0 < a.size.toNat →
        0x1004 ≤ a.ptr ∧ a.ptr + a.size.toNat ≤ 0x1004 + (64 : BitVec 32).toNat ∧
          a.ptr % Vb2Constants.sample.workbufAlign = 0) ∧
        [(⟨0x1010, 22, ⟨0x1010, 52⟩⟩ : Allocation)].Pairwise
          (fun newer older => older.ptr + older.size.toNat ≤ newer.ptr)) :=
  ⟨by decide, by decide, lifo_workbuf_allocations_inside 0x1004 64 [.alloc 22] ⟨0x1030, 20⟩
    [⟨0x1010, 22, ⟨0x1010, 52⟩⟩] (by decide) (by decide)⟩

end Runs

section WrapCounterexample

variable (K : Vb2Constants)

/-- On a 64-byte work buffer at `0x100000000`, a request of `0xffffffff` bytes succeeds:
the rounded size wraps to zero, the buffer's start is returned and the buffer does not
move, so the next allocation returns the same pointer again. -/
theorem vb2WorkbufAlloc_wraps_at_top :
    vb2WorkbufInit K 0x100000000 64 = ⟨0x100000000, 64⟩ ∧
      vb2WorkbufAlloc K ⟨0x100000000, 64⟩ 0xffffffff = (some 0x100000000, ⟨0x100000000, 64⟩) := by
  refine ⟨vb2WorkbufInit_of_aligned K _ _ ?_, ?_⟩
  · obtain ⟨c, hc⟩ := K.workbufAlign_dvd
    exact Nat.mod_eq_zero_of_dvd ⟨c, hc⟩
  · rcases vb2WorkbufAlloc_cases K ⟨0x100000000, 64⟩ 0xffffffff with ⟨hlt, -⟩ | ⟨-, he⟩
    · rw [roundedSize_top] at hlt; exact absurd hlt (by decide)
    · rw [he, roundedSize_top]; rfl

end WrapCounterexample

end Vboot
