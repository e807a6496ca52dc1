import Vboot.Basic

/-!
# Constant-time comparison

`vb2_safe_memcmp` of `2common.c`. The buffers are read through their pointers, so they
are functions from offsets to bytes. The `int` accumulator only ever holds the OR of
byte XORs, so it is a byte here.

`safeMemcmpLoop` computes what the loop leaves in `result`. The loop is also given step by
step, as its variables and one pass through `while (size--)`, so that how many turns it takes
is something a theorem can state: exactly `size`, whatever the bytes are.
-/
namespace Vboot

/-- The loop `while (size--) result |= *us1++ ^ *us2++;`, from offset `i` on. -/
def safeMemcmpLoop (s1 s2 : Nat → BitVec 8) (result : BitVec 8) (i : Nat) : Nat → BitVec 8
  | 0 => result
  | size + 1 => safeMemcmpLoop s1 s2 (result ||| (s1 i ^^^ s2 i)) (i + 1) size

theorem byte_or_eq_zero {a b : BitVec 8} : a ||| b = 0 ↔ a = 0 ∧ b = 0 := by
  constructor
  · intro h
    have hb : ∀ i : Nat, a.getLsbD i = false ∧ b.getLsbD i = false := fun i => by
      simpa using congrArg (BitVec.getLsbD · i) h
    exact ⟨by ext i; simp [hb], by ext i; simp [hb]⟩
  · rintro ⟨rfl, rfl⟩
    rfl

theorem byte_xor_eq_zero {a b : BitVec 8} : a ^^^ b = 0 ↔ a = b := by
  constructor
  · intro h
    ext i
    simpa using congrArg (BitVec.getLsbD · i) h
  · rintro rfl
    exact BitVec.xor_self

/-- The accumulator ends at 0 exactly when it starts at 0 and every byte pair it reads agrees. -/
theorem safeMemcmpLoop_eq_zero_iff (s1 s2 : Nat → BitVec 8) (n : Nat) :
    ∀ r i, safeMemcmpLoop s1 s2 r i n = 0 ↔ r = 0 ∧ ∀ j < n, s1 (i + j) = s2 (i + j) := by
  induction n with
  | zero => simp [safeMemcmpLoop]
  | succ n ih =>
    intro r i
    rw [safeMemcmpLoop, ih, byte_or_eq_zero, byte_xor_eq_zero, and_assoc, Nat.forall_lt_succ_left]
    simp only [Nat.add_zero, Nat.add_right_comm i 1, Nat.add_assoc]

/-- `vb2_safe_memcmp`: 0 when the first `size` bytes agree, 1 otherwise. -/
def vb2SafeMemcmp (s1 s2 : Nat → BitVec 8) (size : Nat) : BitVec 32 :=
  if size = 0 then 0
  else if safeMemcmpLoop s1 s2 0 0 size ≠ 0 then 1 else 0

/-- The variables of the loop: how far `us1` and `us2` have moved, `result`, and `size`. -/
structure SafeMemcmpState where
  us1 : Nat
  us2 : Nat
  result : BitVec 8
  size : Nat
  deriving DecidableEq, Repr

/-- One test of `while (size--)` and, when `size` was not 0, one turn of
`result |= *us1++ ^ *us2++`; `none` when the loop exits (the wrapped `size` it then leaves
is never read). The test looks at `size` alone. -/
def safeMemcmpStep (s1 s2 : Nat → BitVec 8) (st : SafeMemcmpState) : Option SafeMemcmpState :=
  if st.size = 0 then none
  else some ⟨st.us1 + 1, st.us2 + 1, st.result ||| (s1 st.us1 ^^^ s2 st.us2), st.size - 1⟩

@[simp] theorem safeMemcmpStep_zero (s1 s2 : Nat → BitVec 8) (a b : Nat) (r : BitVec 8) :
    safeMemcmpStep s1 s2 ⟨a, b, r, 0⟩ = none := rfl

@[simp] theorem safeMemcmpStep_succ (s1 s2 : Nat → BitVec 8) (a b : Nat) (r : BitVec 8) (n : Nat) :
    safeMemcmpStep s1 s2 ⟨a, b, r, n + 1⟩ = some ⟨a + 1, b + 1, r ||| (s1 a ^^^ s2 b), n⟩ := rfl

/-- The loop run for at most `fuel` turns: the state it exits in and how many turns it took,
or `none` when it has not exited after `fuel` turns. -/
def safeMemcmpRun (s1 s2 : Nat → BitVec 8) (fuel : Nat) (st : SafeMemcmpState) :
    Option (SafeMemcmpState × Nat) :=
  match safeMemcmpStep s1 s2 st with
  | none => some (st, 0)
  | some st' =>
    match fuel with
    | 0 => none
    | fuel + 1 => (safeMemcmpRun s1 s2 fuel st').map fun r => (r.1, r.2 + 1)

/-- From any offset and accumulator, the loop exits after exactly `size` turns, with
`safeMemcmpLoop` in `result`. -/
theorem safeMemcmpRun_from (s1 s2 : Nat → BitVec 8) (n : Nat) :
    ∀ fuel i r, safeMemcmpRun s1 s2 fuel ⟨i, i, r, n⟩ =
      if n ≤ fuel then some (⟨i + n, i + n, safeMemcmpLoop s1 s2 r i n, 0⟩, n) else none := by
  induction n with
  | zero => intro fuel i r; simp [safeMemcmpRun, safeMemcmpLoop]
  | succ n ih =>
    rintro (_ | fuel) i r
    · simp [safeMemcmpRun]
    · rw [safeMemcmpRun, safeMemcmpStep_succ]
      dsimp only
      rw [ih]
      by_cases h : n ≤ fuel
      · simp [h, safeMemcmpLoop, Nat.add_right_comm, Nat.add_assoc]
      · simp [h]

/-- `vb2_safe_memcmp` answers whether the first `n` bytes agree, and its loop, started as the
function starts it, takes `n` turns for every pair of buffers: it never exits early. -/
theorem vb2SafeMemcmp_result_and_turns (s1 s2 : Nat → BitVec 8) (n : Nat) :
    vb2SafeMemcmp s1 s2 n = (if ∀ i < n, s1 i = s2 i then 0 else 1) ∧
      ∀ fuel, safeMemcmpRun s1 s2 fuel ⟨0, 0, 0, n⟩ =
        if n ≤ fuel then some (⟨n, n, safeMemcmpLoop s1 s2 0 0 n, 0⟩, n) else none := by
  refine ⟨?_, fun fuel => by simpa using safeMemcmpRun_from s1 s2 n fuel 0 0⟩
  have h := safeMemcmpLoop_eq_zero_iff s1 s2 n 0 0
  simp only [Nat.zero_add, true_and] at h
  unfold vb2SafeMemcmp
  by_cases hn : n = 0
  · subst hn
    simp
  · rw [if_neg hn]
    by_cases heq : ∀ i < n, s1 i = s2 i
    · rw [if_neg (not_not.mpr (h.mpr heq)), if_pos heq]
    · rw [if_pos (mt h.mp heq), if_neg heq]

/-- `"foo1"` against `"foo2"` over 4 bytes, as `test_memcmp` has it. -/
example : vb2SafeMemcmp (fun i => [0x66, 0x6f, 0x6f, 0x31].getD i 0)
    (fun i => [0x66, 0x6f, 0x6f, 0x32].getD i 0) 4 = 1 := by decide

end Vboot
