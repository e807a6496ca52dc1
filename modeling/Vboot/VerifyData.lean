import Vboot.Workbuf

/-!
# Verifying a signature over data

`vb2_verify_digest` and `vb2_verify_data` of `2common.c`. The hash and RSA primitives
and the hardware crypto callbacks are outside the tree: they form an environment that
may answer anything, and every call of one of them is logged with what it was given
and what it answered.
-/
namespace Vboot

/-- `struct vb2_signature`, with `data` the bytes at `sig + sig_offset` that
`vb2_signature_data_mutable` points to. -/
structure Vb2Signature where
  sigOffset : BitVec 32
  sigSize : BitVec 32
  dataSize : BitVec 32
  data : List (BitVec 8)
  deriving DecidableEq, Repr

/-- `struct vb2_public_key`: the fields the verification reads itself. -/
structure Vb2PublicKey where
  sigAlg : BitVec 32
  hashAlg : BitVec 32
  allowHwcrypto : Bool
  deriving DecidableEq, Repr

/-- A call of a primitive or of a hardware callback, with its arguments and answer. -/
inductive CryptoCall
  | hwDigestInit (hashAlg dataSize rv : BitVec 32)
  | hwDigestExtend (data : List (BitVec 8)) (len rv : BitVec 32)
  | hwDigestFinalize (digestSize rv : BitVec 32) (digest : List (BitVec 8))
  | digestBuffer (data : List (BitVec 8)) (len hashAlg digestSize rv : BitVec 32)
      (digest : List (BitVec 8))
  | hwRsaVerifyDigest (digest : List (BitVec 8)) (rv : BitVec 32)
  | rsaVerifyDigest (digest : List (BitVec 8)) (rv : BitVec 32)
  deriving DecidableEq, Repr

/-- The primitives (`vb2_digest_size`, `vb2_rsa_sig_size`, `vb2_digest_buffer`,
`vb2_rsa_verify_digest`) and the `vb2ex_hwcrypto_*` callbacks; a callback sees the calls
made before it, so it may answer differently each time. -/
structure CryptoEnv where
  digestSize : BitVec 32 → BitVec 32
  rsaSigSize : BitVec 32 → BitVec 32
  digestBuffer : List (BitVec 8) → BitVec 32 → BitVec 32 → BitVec 32 →
    BitVec 32 × List (BitVec 8)
  rsaVerifyDigest : Vb2PublicKey → Vb2Signature → List (BitVec 8) → Vb2Workbuf → BitVec 32
  hwDigestInit : List CryptoCall → BitVec 32 → BitVec 32 → BitVec 32
  hwDigestExtend : List CryptoCall → List (BitVec 8) → BitVec 32 → BitVec 32
  hwDigestFinalize : List CryptoCall → BitVec 32 → BitVec 32 × List (BitVec 8)
  hwRsaVerifyDigest : List CryptoCall → Vb2PublicKey → Vb2Signature → List (BitVec 8) →
    BitVec 32

section Model

variable (K : Vb2Constants) (E : CryptoEnv)

/-- `vb2ex_hwcrypto_rsa_verify_digest(key, sig_data, digest)`. -/
def callHwRsaVerifyDigest (key : Vb2PublicKey) (sig : Vb2Signature) (digest : List (BitVec 8))
    (log : List CryptoCall) : BitVec 32 × List CryptoCall :=
  let rv := E.hwRsaVerifyDigest log key sig digest
  (rv, log ++ [.hwRsaVerifyDigest digest rv])

/-- `vb2_rsa_verify_digest(key, sig_data, digest, wb)`. -/
def callRsaVerifyDigest (key : Vb2PublicKey) (sig : Vb2Signature) (digest : List (BitVec 8))
    (wb : Vb2Workbuf) (log : List CryptoCall) : BitVec 32 × List CryptoCall :=
  let rv := E.rsaVerifyDigest key sig digest wb
  (rv, log ++ [.rsaVerifyDigest digest rv])

/-- `vb2ex_hwcrypto_digest_init(hash_alg, data_size)`. -/
def callHwDigestInit (hashAlg dataSize : BitVec 32) (log : List CryptoCall) :
    BitVec 32 × List CryptoCall :=
  let rv := E.hwDigestInit log hashAlg dataSize
  (rv, log ++ [.hwDigestInit hashAlg dataSize rv])

/-- `vb2ex_hwcrypto_digest_extend(data, len)`. -/
def callHwDigestExtend (data : List (BitVec 8)) (len : BitVec 32) (log : List CryptoCall) :
    BitVec 32 × List CryptoCall :=
  let rv := E.hwDigestExtend log data len
  (rv, log ++ [.hwDigestExtend data len rv])

/-- `vb2ex_hwcrypto_digest_finalize(digest, digest_size)`, with the digest it writes. -/
def callHwDigestFinalize (digestSize : BitVec 32) (log : List CryptoCall) :
    BitVec 32 × List (BitVec 8) × List CryptoCall :=
  let (rv, digest) := E.hwDigestFinalize log digestSize
  (rv, digest, log ++ [.hwDigestFinalize digestSize rv digest])

/-- `vb2_digest_buffer(data, len, hash_alg, digest, digest_size)`, with the digest it
writes. -/
def callDigestBuffer (data : List (BitVec 8)) (len hashAlg digestSize : BitVec 32)
    (log : List CryptoCall) : BitVec 32 × List (BitVec 8) × List CryptoCall :=
  let (rv, digest) := E.digestBuffer data len hashAlg digestSize
  (rv, digest, log ++ [.digestBuffer data len hashAlg digestSize rv digest])

def vb2VerifyDigest (key : Vb2PublicKey) (sig : Vb2Signature) (digest : List (BitVec 8))
    (wb : Vb2Workbuf) (log : List CryptoCall) : BitVec 32 × List CryptoCall :=
  if sig.sigSize ≠ E.rsaSigSize key.sigAlg then (K.error .vdataSigSize, log)
  else if key.allowHwcrypto then
    let (rv, log) := callHwRsaVerifyDigest E key sig digest log
    if rv ≠ K.error .exHwcryptoUnsupported then (rv, log)
    else callRsaVerifyDigest E key sig digest wb log
  else callRsaVerifyDigest E key sig digest wb log

/-- The `key->allow_hwcrypto` block of `vb2_verify_data`, which makes the digest: the
value the function returns there (`VB2_SUCCESS` when it goes on to `vb2_verify_digest`),
the digest written and the calls made. `VB2_TRY(expr)` (from `2common.h`, not in the tree)
returns the value of `expr` whenever it is not `VB2_SUCCESS`. -/
def vb2VerifyDataDigest (data : List (BitVec 8)) (sig : Vb2Signature) (key : Vb2PublicKey)
    (digestSize : BitVec 32) (log : List CryptoCall) :
    BitVec 32 × List (BitVec 8) × List CryptoCall :=
  if key.allowHwcrypto then
    let (rv, log) := callHwDigestInit E key.hashAlg sig.dataSize log
    if rv = vb2Success then
      let (rv, log) := callHwDigestExtend E data sig.dataSize log
      if rv ≠ vb2Success then (rv, [], log)
      else callHwDigestFinalize E digestSize log
    else if rv = K.error .exHwcryptoUnsupported then
      callDigestBuffer E data sig.dataSize key.hashAlg digestSize log
    else (rv, [], log)
  else callDigestBuffer E data sig.dataSize key.hashAlg digestSize log

def vb2VerifyData (data : List (BitVec 8)) (size : BitVec 32) (sig : Vb2Signature)
    (key : Vb2PublicKey) (wb : Vb2Workbuf) (log : List CryptoCall) :
    BitVec 32 × List CryptoCall :=
  let wblocal := wb
  if sig.dataSize > size then (K.error .vdataNotEnoughData, log)
  else
    let digestSize := E.digestSize key.hashAlg
    if digestSize = 0 then (K.error .vdataDigestSize, log)
    else
      match vb2WorkbufAlloc K wblocal digestSize with
      | (none, _) => (K.error .vdataWorkbufDigest, log)
      | (some _, wblocal) =>
        let (rv, digest, log) := vb2VerifyDataDigest K E data sig key digestSize log
        if rv ≠ vb2Success then (rv, log)
        else vb2VerifyDigest K E key sig digest wblocal log

end Model

section Spec

variable (K : Vb2Constants)

/-- The hardware answer at which verification stops and which it then returns: any
`digest_init` answer but success and "unsupported", any failed `extend` or `finalize`,
and any RSA answer but "unsupported". -/
def CryptoCall.hwStop : CryptoCall → Option (BitVec 32)
  | .hwDigestInit _ _ rv =>
    if rv = vb2Success ∨ rv = K.error .exHwcryptoUnsupported then none else some rv
  | .hwDigestExtend _ _ rv => if rv = vb2Success then none else some rv
  | .hwDigestFinalize _ rv _ => if rv = vb2Success then none else some rv
  | .hwRsaVerifyDigest _ rv => if rv = K.error .exHwcryptoUnsupported then none else some rv
  | _ => none

/-- The calls that made `digest` from the first `len` bytes of `data`: the software
hash, tried first by the hardware only when the key allows it and then only after the
hardware said "unsupported"; or, only when the key allows it and `digest_init`
succeeded, a hardware `init`, `extend`, `finalize` in which every step succeeded. -/
def DigestCalls (key : Vb2PublicKey) (data : List (BitVec 8)) (len digestSize : BitVec 32)
    (digest : List (BitVec 8)) : List CryptoCall → Prop
  | [.digestBuffer b l a n rv d] =>
    key.allowHwcrypto = false ∧ b = data ∧ l = len ∧ a = key.hashAlg ∧ n = digestSize ∧
      rv = vb2Success ∧ d = digest
  | [.hwDigestInit a l rv, .digestBuffer b l' a' n rv' d] =>
    key.allowHwcrypto = true ∧ a = key.hashAlg ∧ l = len ∧ rv = K.error .exHwcryptoUnsupported ∧
      b = data ∧ l' = len ∧ a' = key.hashAlg ∧ n = digestSize ∧ rv' = vb2Success ∧ d = digest
  | [.hwDigestInit a l rv, .hwDigestExtend b l' rv', .hwDigestFinalize n rv'' d] =>
    key.allowHwcrypto = true ∧ a = key.hashAlg ∧ l = len ∧ rv = vb2Success ∧ b = data ∧
      l' = len ∧ rv' = vb2Success ∧ n = digestSize ∧ rv'' = vb2Success ∧ d = digest
  | _ => False

/-- The calls that accepted `digest`: the hardware RSA engine, only when the key allows
it; or the software RSA, only when the key forbids the hardware or the hardware said
"unsupported". -/
def AcceptCalls (key : Vb2PublicKey) (digest : List (BitVec 8)) : List CryptoCall → Prop
  | [.hwRsaVerifyDigest d rv] => key.allowHwcrypto = true ∧ d = digest ∧ rv = vb2Success
  | [.rsaVerifyDigest d rv] => key.allowHwcrypto = false ∧ d = digest ∧ rv = vb2Success
  | [.hwRsaVerifyDigest d rv, .rsaVerifyDigest d' rv'] =>
    key.allowHwcrypto = true ∧ d = digest ∧ rv = K.error .exHwcryptoUnsupported ∧
      d' = digest ∧ rv' = vb2Success
  | _ => False

def NoStop (calls : List CryptoCall) : Prop := ∀ c ∈ calls, c.hwStop K = none

/-- Every stopping hardware answer in `calls` is the last call, and it is `rv`. -/
def StopReturned (rv : BitVec 32) : List CryptoCall → Prop
  | [] => True
  | c :: cs => (c.hwStop K = none ∨ c.hwStop K = some rv ∧ cs = []) ∧ StopReturned rv cs

variable {K}

theorem StopReturned.append {c₁ c₂ : List CryptoCall} {rv : BitVec 32} (h₁ : NoStop K c₁)
    (h₂ : StopReturned K rv c₂) : StopReturned K rv (c₁ ++ c₂) := by
  induction c₁ with
  | nil => exact h₂
  | cons c cs ih =>
    simp only [NoStop, List.mem_cons, forall_eq_or_imp] at h₁
    exact ⟨.inl h₁.1, ih h₁.2⟩

theorem StopReturned.returns {rv v : BitVec 32} {pre post : List CryptoCall} {c : CryptoCall}
    (h : StopReturned K rv (pre ++ c :: post)) (hc : c.hwStop K = some v) :
    rv = v ∧ post = [] := by
  induction pre with
  | nil =>
    rcases h.1 with h' | ⟨h', hp⟩
    · simp [hc] at h'
    · exact ⟨Option.some_injective _ (h'.symm.trans hc), hp⟩
  | cons d ds ih =>
    rcases h.1 with _ | ⟨_, hp⟩
    · exact ih h.2
    · simp at hp

theorem DigestCalls.noStop {key : Vb2PublicKey} {data digest : List (BitVec 8)}
    {len n : BitVec 32} {calls : List CryptoCall} (h : DigestCalls K key data len n digest calls) :
    NoStop K calls := by
  unfold DigestCalls at h
  split at h
  · exact List.forall_iff_forall_mem.mp rfl
  · exact List.forall_iff_forall_mem.mp ⟨if_pos (.inr h.2.2.2.1), rfl⟩
  · obtain ⟨-, -, -, h₁, -, -, h₂, -, h₃, -⟩ := h
    exact List.forall_iff_forall_mem.mp ⟨if_pos (.inl h₁), if_pos h₂, if_pos h₃⟩
  · exact h.elim

end Spec

section Outcomes

variable {K : Vb2Constants} {E : CryptoEnv} {key : Vb2PublicKey} {sig : Vb2Signature}
  {wb : Vb2Workbuf} {log : List CryptoCall}

theorem vb2VerifyDigest_success {digest : List (BitVec 8)}
    (h : (vb2VerifyDigest K E key sig digest wb log).1 = vb2Success) :
    sig.sigSize = E.rsaSigSize key.sigAlg ∧
      ∃ c, (vb2VerifyDigest K E key sig digest wb log).2 = log ++ c ∧ AcceptCalls K key digest c := by
  unfold vb2VerifyDigest at h ⊢
  by_cases hs : sig.sigSize ≠ E.rsaSigSize key.sigAlg
  · rw [if_pos hs] at h
    exact absurd h (K.error_ne_success _)
  rw [if_neg hs] at h ⊢
  refine ⟨not_not.mp hs, ?_⟩
  cases hhw : key.allowHwcrypto
  · simp only [hhw, Bool.false_eq_true, if_false, callRsaVerifyDigest] at h ⊢
    exact ⟨_, rfl, hhw, rfl, h⟩
  · simp only [hhw, if_true, callHwRsaVerifyDigest] at h ⊢
    by_cases hu : E.hwRsaVerifyDigest log key sig digest ≠ K.error .exHwcryptoUnsupported
    · rw [if_pos hu] at h ⊢
      exact ⟨_, rfl, hhw, rfl, h⟩
    · rw [if_neg hu] at h ⊢
      simp only [callRsaVerifyDigest, List.append_assoc, List.singleton_append] at h ⊢
      exact ⟨_, rfl, hhw, rfl, not_not.mp hu, rfl, h⟩

theorem vb2VerifyDigest_stopReturned (digest : List (BitVec 8)) :
    ∃ c, (vb2VerifyDigest K E key sig digest wb log).2 = log ++ c ∧
      StopReturned K (vb2VerifyDigest K E key sig digest wb log).1 c := by
  unfold vb2VerifyDigest callHwRsaVerifyDigest callRsaVerifyDigest
  dsimp only
  split_ifs <;> simp_all [StopReturned, CryptoCall.hwStop]

theorem vb2VerifyDataDigest_cases (data : List (BitVec 8)) (n : BitVec 32) :
    let r := vb2VerifyDataDigest K E data sig key n log
    (r.1 = vb2Success ∧ ∃ c, r.2.2 = log ++ c ∧ DigestCalls K key data sig.dataSize n r.2.1 c) ∨
    (r.1 ≠ vb2Success ∧ ∃ c, r.2.2 = log ++ c ∧ StopReturned K r.1 c) := by
  unfold vb2VerifyDataDigest callHwDigestInit callHwDigestExtend callHwDigestFinalize
    callDigestBuffer
  generalize E.digestBuffer data sig.dataSize key.hashAlg n = buf
  generalize E.hwDigestExtend = extend
  generalize E.hwDigestFinalize = finalize
  obtain ⟨rvb, d⟩ := buf
  dsimp only
  cases hhw : key.allowHwcrypto
  · by_cases hrv : rvb = vb2Success
    · exact .inl ⟨hrv, _, rfl, hhw, rfl, rfl, rfl, rfl, hrv, rfl⟩
    · exact .inr ⟨hrv, _, rfl, .inl rfl, trivial⟩
  rw [if_pos rfl]
  generalize E.hwDigestInit log key.hashAlg sig.dataSize = rvi
  by_cases hi : rvi = vb2Success
  · subst hi
    rw [if_pos rfl]
    generalize extend _ data sig.dataSize = rve
    by_cases he : rve = vb2Success
    · subst he
      rw [if_neg (not_not_intro rfl)]
      generalize finalize _ n = fin
      obtain ⟨rvf, d'⟩ := fin
      dsimp only
      have hlog : log ++ [.hwDigestInit key.hashAlg sig.dataSize vb2Success] ++
          [.hwDigestExtend data sig.dataSize vb2Success] ++ [.hwDigestFinalize n rvf d'] =
          log ++ [.hwDigestInit key.hashAlg sig.dataSize vb2Success,
            .hwDigestExtend data sig.dataSize vb2Success, .hwDigestFinalize n rvf d'] := by simp
      by_cases hf : rvf = vb2Success
      · exact .inl ⟨hf, _, hlog, hhw, rfl, rfl, rfl, rfl, rfl, rfl, rfl, hf, rfl⟩
      · exact .inr ⟨hf, _, hlog, by simp [StopReturned, CryptoCall.hwStop, hf]⟩
    · rw [if_pos he]
      exact .inr ⟨he, _, List.append_assoc .., by simp [StopReturned, CryptoCall.hwStop, he]⟩
  rw [if_neg hi]
  by_cases hu : rvi = K.error .exHwcryptoUnsupported
  · rw [if_pos hu]
    by_cases hrv : rvb = vb2Success
    · exact .inl ⟨hrv, _, List.append_assoc .., hhw, rfl, rfl, hu, rfl, rfl, rfl, rfl, hrv, rfl⟩
    · exact .inr ⟨hrv, _, List.append_assoc .., by simp [StopReturned, CryptoCall.hwStop, hu]⟩
  · rw [if_neg hu]
    exact .inr ⟨hi, _, rfl, by simp [StopReturned, CryptoCall.hwStop, hi, hu]⟩

/-- Every way `vb2_verify_data` can end: with an error and the calls made so far, or, once
the digest is made, in `vb2_verify_digest`. -/
theorem vb2VerifyData_cases (data : List (BitVec 8)) (size : BitVec 32) :
    (∃ c, (vb2VerifyData K E data size sig key wb log).2 = log ++ c ∧
      (vb2VerifyData K E data size sig key wb log).1 ≠ vb2Success ∧
      StopReturned K (vb2VerifyData K E data size sig key wb log).1 c) ∨
    (sig.dataSize ≤ size ∧ E.digestSize key.hashAlg ≠ 0 ∧
      ∃ digest c wb', DigestCalls K key data sig.dataSize (E.digestSize key.hashAlg) digest c ∧
        vb2VerifyData K E data size sig key wb log =
          vb2VerifyDigest K E key sig digest wb' (log ++ c)) := by
  unfold vb2VerifyData
  dsimp only
  by_cases h₁ : sig.dataSize > size
  · exact .inl ⟨[], by simp [h₁, StopReturned]⟩
  rw [if_neg h₁]
  by_cases h₂ : E.digestSize key.hashAlg = 0
  · exact .inl ⟨[], by simp [h₂, StopReturned]⟩
  rw [if_neg h₂]
  split
  · exact .inl ⟨[], by simp [StopReturned]⟩
  rename_i wb' _
  have hd := @vb2VerifyDataDigest_cases K E key sig log data
    (E.digestSize key.hashAlg)
  generalize vb2VerifyDataDigest K E data sig key (E.digestSize key.hashAlg) log = r at hd ⊢
  obtain ⟨rv, digest, log'⟩ := r
  rcases hd with ⟨rfl, c, rfl, hd⟩ | ⟨hrv, c, rfl, hs⟩
  · exact .inr ⟨BitVec.not_lt.mp h₁, h₂, digest, c, wb', hd, by simp⟩
  · exact .inl ⟨c, by simp [hrv, hs]⟩

/-- `vb2_verify_data` fails closed: it returns `VB2_SUCCESS` only after the data was long
enough, the digest size and the signature size were right, a digest was made from
exactly the signed bytes and that digest was accepted; a stopping hardware answer is
its last call and is returned as it is. -/
theorem vb2VerifyData_spec (data : List (BitVec 8)) (size : BitVec 32) :
    ((vb2VerifyData K E data size sig key wb log).1 = vb2Success →
      sig.dataSize ≤ size ∧ E.digestSize key.hashAlg ≠ 0 ∧
      sig.sigSize = E.rsaSigSize key.sigAlg ∧
      ∃ digest c₁ c₂, (vb2VerifyData K E data size sig key wb log).2 = log ++ c₁ ++ c₂ ∧
        DigestCalls K key data sig.dataSize (E.digestSize key.hashAlg) digest c₁ ∧
        AcceptCalls K key digest c₂) ∧
    ∃ calls, (vb2VerifyData K E data size sig key wb log).2 = log ++ calls ∧
      ∀ pre c post v, calls = pre ++ c :: post → c.hwStop K = some v →
        (vb2VerifyData K E data size sig key wb log).1 = v ∧ post = [] := by
  rcases @vb2VerifyData_cases K E key sig wb log data size
    with ⟨c, hlog, hne, hs⟩ | ⟨hle, hn, digest, c, wb', hd, heq⟩
  · exact ⟨fun h => absurd h hne, c, hlog, fun _ _ _ _ hc hv => (hc ▸ hs).returns hv⟩
  rw [heq]
  obtain ⟨c', hlog, hs⟩ := @vb2VerifyDigest_stopReturned K E key sig wb'
    (log ++ c) digest
  have hs : StopReturned K _ (c ++ c') := StopReturned.append hd.noStop hs
  refine ⟨fun h => ?_, c ++ c', by rw [hlog, List.append_assoc], fun _ _ _ _ hc hv =>
    (hc ▸ hs).returns hv⟩
  obtain ⟨hsig, c₂, hlog₂, ha⟩ := vb2VerifyDigest_success h
  exact ⟨hle, hn, hsig, digest, c, c₂, hlog₂, hd, ha⟩

end Outcomes

end Vboot
