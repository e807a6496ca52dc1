import Vboot.Gscvd.Layout
import Vboot.VerifyData

/-!
# Creating the GSC verification data

`create_gvd` and `fill_gvd_area` of `futility/cmd_gscvd.c`, and the block of `do_gscvd` that
runs them once the options are read (`doGscvdCreate`).

`create_gvd` lays out in one `calloc`ed buffer the header, the `range_count` ranges, the
signature body and the root key body, in that order, and signs the header and the ranges.
The host library functions it calls are not in the tree. `vb2_init_signature`,
`vb2_init_packed_key`, `vb2_copy_packed_key` and `vb2_copy_signature` set the fields their
arguments name: a body's offset from its own header, its size, and for the signature the
size of the data signed. `vb2_rsa_sig_size`, `calloc`, `vb2_calculate_signature` and the
key comparison of `validate_privk` answer anything (`GvdCreateLib`).

`fill_gvd_area` adds `gvd->size` and `keyblock->keyblock_size`, two `uint32_t`, so the sum
it checks against the area wraps at `2^32`.
-/
namespace Vboot

/-- A packed key as `vb2_read_packed_key` returns it: `algorithm`, `key_version`,
`key_size` and the key body of that many bytes. -/
structure Vb2PackedKey where
  algorithm : BitVec 32
  keyVersion : BitVec 32
  keySize : BitVec 32
  body : List (BitVec 8)
  body_length : body.length = keySize.toNat

/-- A keyblock as `vb2_read_keyblock` returns it: the bytes read from the file. -/
structure Vb2Keyblock where
  bytes : List (BitVec 8)
  deriving DecidableEq, Repr

def Vb2Keyblock.data (kb : Vb2Keyblock) (i : Nat) : BitVec 8 := kb.bytes.getD i 0

def Vb2Keyblock.keyblockSize (L : GvdLayout) (kb : Vb2Keyblock) : BitVec 32 :=
  le32 kb.data L.keyblockSizeOffset

/-- A private key as `vb2_read_private_key` returns it: `sig_alg`, and the RSA key that
only the library reads. -/
structure Vb2PrivateKey where
  sigAlg : BitVec 32
  rsaPrivateKey : Nat
  deriving DecidableEq, Repr

/-- The library calls of the creation outside `cmd_gscvd.c`: `vb2_rsa_sig_size`, `calloc`,
`vb2_calculate_signature`, and the modulus comparison of `validate_privk`. -/
structure GvdCreateLib where
  rsaSigSize : BitVec 32 → BitVec 32
  calloc : Nat → Bool
  calculateSignature : List (BitVec 8) → Vb2PrivateKey → Option Vb2Signature
  validatePrivk : Vb2Keyblock → Vb2PrivateKey → Bool

section Model

variable {L : GvdLayout} (F : GvdFormat L) (M : FmapLib) (K : Vb2Constants) (E₀ : GscvdEnv)
  (H : DigestLib) (X : GvdCreateLib)

/-- The header `create_gvd` fills in before it signs, `digest` being what
`calculate_ranges_digest` left in `ranges_digest`. -/
def gvdHeader (fmapOffset : Nat) (rangeCount rangesSize sigSize : Nat) (rootPubk : Vb2PackedKey)
    (boardId : BitVec 32) (digest : Nat → BitVec 8) : GscVerificationData where
  gvMagic := L.magic
  size := BitVec.ofNat 32 (L.hdrSize + rootPubk.keySize.toNat + sigSize + rangesSize)
  gscBoardId := boardId
  rollbackCounter := F.rollbackCounter
  fmapLocation := BitVec.ofNat 32 fmapOffset
  hashAlg := F.hashSha256
  sigHeader := ⟨BitVec.ofNat 32 (L.hdrSize + rangesSize - L.sigHeaderOffset),
    BitVec.ofNat 32 sigSize, BitVec.ofNat 32 (L.hdrSize + rangesSize)⟩
  rootKeyHeader := ⟨BitVec.ofNat 32 (L.hdrSize + rangesSize + sigSize - L.rootKeyHeaderOffset),
    rootPubk.keySize⟩
  rootKeyAlgorithm := rootPubk.algorithm
  rootKeyVersion := rootPubk.keyVersion
  rangesDigest := digest
  rangeCount := BitVec.ofNat 32 rangeCount

/-- `vb2_copy_signature(&gvd->sig_header, sig)` on the header: `sig_size` and `data_size` as
`sig` has them; the body goes to the buffer. -/
def GscVerificationData.copySignature (g : GscVerificationData) (sig : Vb2Signature) :
    GscVerificationData :=
  { g with sigHeader := { g.sigHeader with sigSize := sig.sigSize, dataSize := sig.dataSize } }

/-- `create_gvd` on a file whose FMAP is at `fmapOffset`: the header and the `total_size` bytes
of the buffer, or `none` for `NULL`. -/
def createGvd (file : ApFile) (fmapOffset : Nat) (ranges : GscvdRoRanges) (rootPubk : Vb2PackedKey)
    (privk : Vb2PrivateKey) (boardId : BitVec 32) :
    Option (GscVerificationData × List (BitVec 8)) :=
  let sigSize := (X.rsaSigSize privk.sigAlg).toNat
  let rangesSize := ranges.ranges.length * 8
  let totalSize := L.hdrSize + rootPubk.keySize.toNat + sigSize + rangesSize
  if !X.calloc totalSize then none
  else
    let (rv, _, digest) := calculateRangesDigest (E₀.reading H file.data) ranges F.hashSha256
    if rv ≠ 0 then none
    else
      let gvd := gvdHeader F fmapOffset ranges.ranges.length rangesSize sigSize rootPubk boardId digest
      match X.calculateSignature (F.encode gvd ++ rangesBytes ranges.ranges) privk with
      | none => none
      | some sig =>
        if sigSize = sig.sigSize.toNat ∧ gvd.sigHeader.dataSize = sig.dataSize then
          let gvd := gvd.copySignature sig
          some (gvd, F.encode gvd ++ rangesBytes ranges.ranges ++
            Region.contents ⟨0, sig.sigSize.toNat⟩ (fun i => sig.data.getD i 0) ++ rootPubk.body)
        else none

/-- `fill_gvd_area`: the file with the first `gvd->size` bytes of the buffer `gvd` and then the
keyblock copied to the start of `RO_GSCVD`, or `none` when it returns -1. The copies go to the
unbounded `ApFile.data`: one past `file->len`, undefined in C, is modelled as a write. -/
def fillGvdArea (file : ApFile) (roGscvd : FmapAreaHeader) (gvdSize : BitVec 32) (gvd : List (BitVec 8))
    (keyblockSize : BitVec 32) (keyblock : Nat → BitVec 8) : Option ApFile :=
  let total := gvdSize + keyblockSize
  if total.toNat > roGscvd.areaSize.toNat then none
  else
    let cursor := roGscvd.areaOffset.toNat
    let data := writeBytes file.data cursor (gvd.take gvdSize.toNat)
    some ⟨file.len, writeBytes data (cursor + gvdSize.toNat) (Region.contents ⟨0, keyblockSize.toNat⟩ keyblock)⟩

/-- The keyblock where `vb2_read_keyblock` put it, as `validate_pubk_signature` reads it. -/
def Vb2Keyblock.image (kb : Vb2Keyblock) : ApImage :=
  ApFile.image M F ⟨BitVec.ofNat 32 kb.bytes.length, kb.data⟩

/-- The block of `do_gscvd` after the options are read, on the work file (`none` when it cannot
be mapped): its `rv`, and the file as it is left. -/
def doGscvdCreate (ranges : GscvdRoRanges) (rootPubk : Vb2PackedKey) (kblock : Vb2Keyblock)
    (privk : Vb2PrivateKey) (boardId : BitVec 32) (file : Option ApFile) : Int × Option ApFile :=
  if (validatePubkSignature L K E₀ (kblock.image F M) 0).1 ≠ 0 then (1, file)
  else if !X.validatePrivk kblock privk then (1, file)
  else
    match file with
    | none => (1, none)
    | some f =>
      match M.roGscvd f with
      | none => (1, some f)
      | some area =>
        if verifyRanges ranges (M.wpRo f) area ≠ 0 then (1, some f)
        else
          match createGvd F E₀ H X f (M.fmapOffset f) ranges rootPubk privk boardId with
          | none => (1, some f)
          | some (gvd, buf) =>
            match fillGvdArea f area gvd.size buf (kblock.keyblockSize L) kblock.data with
            | none => (1, some f)
            | some f' => (0, some f')

end Model

section Steps

variable {L : GvdLayout} (F : GvdFormat L) (M : FmapLib) (K : Vb2Constants) (E₀ : GscvdEnv)
  (H : DigestLib) (X : GvdCreateLib)

theorem fillGvdArea_eq_some {f f' : ApFile} {area : FmapAreaHeader} {s k : BitVec 32}
    {buf : List (BitVec 8)} {kb : Nat → BitVec 8} (h : fillGvdArea f area s buf k kb = some f') :
    (s + k).toNat ≤ area.areaSize.toNat ∧
      f' = ⟨f.len, writeBytes (writeBytes f.data area.areaOffset.toNat (buf.take s.toNat))
        (area.areaOffset.toNat + s.toNat) (Region.contents ⟨0, k.toNat⟩ kb)⟩ := by
  dsimp only [fillGvdArea] at h
  split at h
  · cases h
  · cases h
    exact ⟨by omega, rfl⟩

theorem fillGvdArea_frame {f f' : ApFile} {area : FmapAreaHeader} {s k : BitVec 32}
    {buf : List (BitVec 8)} {kb : Nat → BitVec 8} (h : fillGvdArea f area s buf k kb = some f')
    {i : Nat} (hi : i < area.areaOffset.toNat ∨ area.areaOffset.toNat + s.toNat + k.toNat ≤ i) :
    f'.data i = f.data i := by
  obtain ⟨-, rfl⟩ := fillGvdArea_eq_some h
  have ht : (buf.take s.toNat).length ≤ s.toNat := List.length_take_le _ _
  dsimp only
  rw [writeBytes_of_not_mem (by simp only [length_contents]; omega),
    writeBytes_of_not_mem (by omega)]

/-- What `fill_gvd_area` leaves: the buffer, then the keyblock, from the start of the area, and
every other region as it was. -/
theorem fillGvdArea_contents {f f' : ApFile} {area : FmapAreaHeader} {s k : BitVec 32}
    {buf : List (BitVec 8)} {kb : Nat → BitVec 8} (h : fillGvdArea f area s buf k kb = some f')
    (hbuf : buf.length = s.toNat) :
    (∀ a n, a + n ≤ s.toNat →
      Region.contents ⟨area.areaOffset.toNat + a, n⟩ f'.data = (buf.drop a).take n) ∧
    Region.contents ⟨area.areaOffset.toNat + s.toNat, k.toNat⟩ f'.data =
      Region.contents ⟨0, k.toNat⟩ kb ∧
    ∀ r : Region, RangesDisjoint r.offset r.size area.areaOffset.toNat (s.toNat + k.toNat) →
      r.contents f'.data = r.contents f.data := by
  obtain ⟨-, rfl⟩ := fillGvdArea_eq_some h
  have htake : buf.take s.toNat = buf := List.take_of_length_le (by omega)
  refine ⟨fun a n han => ?_, ?_, fun r hr => ?_⟩
  · rw [contents_writeBytes_of_disjoint (by simp only [length_contents]; unfold RangesDisjoint; omega),
      htake, contents_writeBytes_sub _ _ _ _ _ (by omega)]
  · have := contents_writeBytes_self (writeBytes f.data area.areaOffset.toNat (buf.take s.toNat))
      (area.areaOffset.toNat + s.toNat) (Region.contents ⟨0, k.toNat⟩ kb)
    rwa [length_contents] at this
  · have ht : (buf.take s.toNat).length ≤ s.toNat := List.length_take_le _ _
    unfold RangesDisjoint at hr
    rw [contents_writeBytes_of_disjoint (by simp only [length_contents]; unfold RangesDisjoint; omega),
      contents_writeBytes_of_disjoint (by unfold RangesDisjoint; omega)]

theorem fillGvdArea_again {f f' : ApFile} {area : FmapAreaHeader} {s k : BitVec 32}
    {buf : List (BitVec 8)} {kb : Nat → BitVec 8} (h : fillGvdArea f area s buf k kb = some f') :
    fillGvdArea f' area s buf k kb = some f' := by
  obtain ⟨hfit, rfl⟩ := fillGvdArea_eq_some h
  have ht : (buf.take s.toNat).length ≤ s.toNat := List.length_take_le _ _
  have hbuf : Region.contents ⟨area.areaOffset.toNat, (buf.take s.toNat).length⟩
      (writeBytes (writeBytes f.data area.areaOffset.toNat (buf.take s.toNat))
        (area.areaOffset.toNat + s.toNat) (Region.contents ⟨0, k.toNat⟩ kb)) = buf.take s.toNat := by
    rw [contents_writeBytes_of_disjoint (by simp only [length_contents]; unfold RangesDisjoint; omega),
      contents_writeBytes_self]
  simp only [fillGvdArea, if_neg (Nat.not_lt.mpr hfit), writeBytes_eq_self hbuf,
    writeBytes_eq_self (contents_writeBytes_self _ _ _)]

theorem copySignature_of_eq {g : GscVerificationData} {sig : Vb2Signature}
    (hs : g.sigHeader.sigSize.toNat = sig.sigSize.toNat) (hd : g.sigHeader.dataSize = sig.dataSize) :
    g.copySignature sig = g := by
  rw [GscVerificationData.copySignature, ← hd, ← BitVec.eq_of_toNat_eq hs]

/-- What `create_gvd` does when it returns a header: the buffer holds the header it signed, the
ranges, the signature body and the root key body. -/
theorem createGvd_eq_some {file : ApFile} {fmapOffset : Nat} {ranges : GscvdRoRanges}
    {rootPubk : Vb2PackedKey} {privk : Vb2PrivateKey} {boardId : BitVec 32}
    {gvd : GscVerificationData} {buf : List (BitVec 8)}
    (h : createGvd F E₀ H X file fmapOffset ranges rootPubk privk boardId = some (gvd, buf)) :
    ∃ handed digest sig,
      calculateRangesDigest (E₀.reading H file.data) ranges F.hashSha256 = (0, handed, digest) ∧
      gvd = gvdHeader F fmapOffset ranges.ranges.length (ranges.ranges.length * 8)
        (X.rsaSigSize privk.sigAlg).toNat rootPubk boardId digest ∧
      X.calculateSignature (F.encode gvd ++ rangesBytes ranges.ranges) privk = some sig ∧
      sig.sigSize = X.rsaSigSize privk.sigAlg ∧
      buf = F.encode gvd ++ rangesBytes ranges.ranges ++
        Region.contents ⟨0, sig.sigSize.toNat⟩ (fun i => sig.data.getD i 0) ++ rootPubk.body := by
  dsimp only [createGvd] at h
  split at h
  · cases h
  rcases hd : calculateRangesDigest (E₀.reading H file.data) ranges F.hashSha256 with
    ⟨rv, handed, digest⟩
  rw [hd] at h
  dsimp only at h
  split at h
  · cases h
  rename_i hrv
  obtain rfl : rv = 0 := not_not.mp hrv
  split at h
  · cases h
  rename_i sig hsig
  split at h
  · rename_i hc
    cases h
    have hs : (gvdHeader F fmapOffset ranges.ranges.length (ranges.ranges.length * 8)
        (X.rsaSigSize privk.sigAlg).toNat rootPubk boardId digest).sigHeader.sigSize.toNat =
        sig.sigSize.toNat := by
      simpa [gvdHeader] using hc.1
    rw [copySignature_of_eq hs hc.2]
    exact ⟨handed, digest, sig, rfl, rfl, hsig, (BitVec.eq_of_toNat_eq hc.1).symm, rfl⟩
  · cases h

/-- The block either returns 1 and leaves the file as it was, or passes every check, builds the
header and fills `RO_GSCVD`. -/
theorem doGscvdCreate_cases (ranges : GscvdRoRanges) (rootPubk : Vb2PackedKey) (kblock : Vb2Keyblock)
    (privk : Vb2PrivateKey) (boardId : BitVec 32) (file : Option ApFile) :
    doGscvdCreate F M K E₀ H X ranges rootPubk kblock privk boardId file = (1, file) ∨
      ∃ f area gvd buf f', file = some f ∧ M.roGscvd f = some area ∧
        (validatePubkSignature L K E₀ (kblock.image F M) 0).1 = 0 ∧
        X.validatePrivk kblock privk = true ∧ verifyRanges ranges (M.wpRo f) area = 0 ∧
        createGvd F E₀ H X f (M.fmapOffset f) ranges rootPubk privk boardId = some (gvd, buf) ∧
        fillGvdArea f area gvd.size buf (kblock.keyblockSize L) kblock.data = some f' ∧
        doGscvdCreate F M K E₀ H X ranges rootPubk kblock privk boardId file = (0, some f') := by
  unfold doGscvdCreate
  split
  · exact .inl rfl
  rename_i hp
  split
  · exact .inl rfl
  rename_i hk
  split
  · exact .inl rfl
  rename_i f
  split
  · exact .inl rfl
  rename_i area harea
  split
  · exact .inl rfl
  rename_i hr
  split
  · exact .inl rfl
  rename_i gvd buf hc
  split
  · exact .inl rfl
  rename_i f' hf
  exact .inr ⟨f, area, gvd, buf, f', rfl, harea, not_not.mp hp, by simpa using hk, not_not.mp hr,
    hc, hf, rfl⟩

theorem doGscvdCreate_eq_zero {ranges : GscvdRoRanges} {rootPubk : Vb2PackedKey}
    {kblock : Vb2Keyblock} {privk : Vb2PrivateKey} {boardId : BitVec 32} {f f' : ApFile}
    (hc : doGscvdCreate F M K E₀ H X ranges rootPubk kblock privk boardId (some f) = (0, some f')) :
    ∃ area gvd buf, M.roGscvd f = some area ∧
      (validatePubkSignature L K E₀ (kblock.image F M) 0).1 = 0 ∧
      X.validatePrivk kblock privk = true ∧ verifyRanges ranges (M.wpRo f) area = 0 ∧
      createGvd F E₀ H X f (M.fmapOffset f) ranges rootPubk privk boardId = some (gvd, buf) ∧
      fillGvdArea f area gvd.size buf (kblock.keyblockSize L) kblock.data = some f' := by
  rcases doGscvdCreate_cases F M K E₀ H X ranges rootPubk kblock privk boardId (some f) with
    h | ⟨f₁, a, gvd, buf, f₂, hf₁, ha, hp, hk, hv, hcg, hfill, h⟩
  · rw [hc] at h
    simp at h
  cases hf₁
  obtain rfl : f' = f₂ := Option.some.inj (congrArg Prod.snd (hc.symm.trans h))
  exact ⟨a, gvd, buf, ha, hp, hk, hv, hcg, hfill⟩

theorem createGvd_size {file : ApFile} {fmapOffset : Nat} {ranges : GscvdRoRanges}
    {rootPubk : Vb2PackedKey} {privk : Vb2PrivateKey} {boardId : BitVec 32}
    {gvd : GscVerificationData} {buf : List (BitVec 8)}
    (h : createGvd F E₀ H X file fmapOffset ranges rootPubk privk boardId = some (gvd, buf)) :
    gvd.size.toNat = (L.hdrSize + rootPubk.keySize.toNat + (X.rsaSigSize privk.sigAlg).toNat +
      ranges.ranges.length * 8) % 2 ^ 32 := by
  obtain ⟨-, -, -, -, rfl, -⟩ := createGvd_eq_some F E₀ H X h
  simp [gvdHeader]

theorem createGvd_congr {f₁ f₂ : ApFile} (fmapOffset : Nat) (ranges : GscvdRoRanges)
    (rootPubk : Vb2PackedKey) (privk : Vb2PrivateKey) (boardId : BitVec 32)
    (h : ∀ r ∈ ranges.ranges, r.region.contents f₁.data = r.region.contents f₂.data) :
    createGvd F E₀ H X f₁ fmapOffset ranges rootPubk privk boardId =
      createGvd F E₀ H X f₂ fmapOffset ranges rootPubk privk boardId := by
  unfold createGvd
  rw [calculateRangesDigest_reading E₀ E₀ H ranges F.hashSha256 h]

theorem doGscvdCreate_of_steps {ranges : GscvdRoRanges} {rootPubk : Vb2PackedKey}
    {kblock : Vb2Keyblock} {privk : Vb2PrivateKey} {boardId : BitVec 32} {f f' : ApFile}
    {area : FmapAreaHeader} {gvd : GscVerificationData} {buf : List (BitVec 8)}
    (hp : (validatePubkSignature L K E₀ (kblock.image F M) 0).1 = 0)
    (hk : X.validatePrivk kblock privk = true) (ha : M.roGscvd f = some area)
    (hv : verifyRanges ranges (M.wpRo f) area = 0)
    (hc : createGvd F E₀ H X f (M.fmapOffset f) ranges rootPubk privk boardId = some (gvd, buf))
    (hf : fillGvdArea f area gvd.size buf (kblock.keyblockSize L) kblock.data = some f') :
    doGscvdCreate F M K E₀ H X ranges rootPubk kblock privk boardId (some f) = (0, some f') := by
  simp only [doGscvdCreate, hp, hk, ha, hv, hc, hf]
  rfl

end Steps

section Writes

variable {L : GvdLayout} (F : GvdFormat L) (M : FmapLib) (K : Vb2Constants) (E₀ : GscvdEnv)
  (H : DigestLib) (X : GvdCreateLib)

/-- The creation changes nothing unless it returns 0, and then, when the header and the keyblock
fit a `uint32_t`, only bytes of `RO_GSCVD`. -/
theorem doGscvdCreate_writes_area (ranges : GscvdRoRanges) (rootPubk : Vb2PackedKey)
    (kblock : Vb2Keyblock) (privk : Vb2PrivateKey) (boardId : BitVec 32) (file : Option ApFile)
    (hsz : L.hdrSize + rootPubk.keySize.toNat + (X.rsaSigSize privk.sigAlg).toNat +
      ranges.ranges.length * 8 + (kblock.keyblockSize L).toNat < 2 ^ 32) :
    ((doGscvdCreate F M K E₀ H X ranges rootPubk kblock privk boardId file).1 ≠ 0 →
      (doGscvdCreate F M K E₀ H X ranges rootPubk kblock privk boardId file).2 = file) ∧
    ((doGscvdCreate F M K E₀ H X ranges rootPubk kblock privk boardId file).1 = 0 →
      ∃ f area f', file = some f ∧ M.roGscvd f = some area ∧
        (doGscvdCreate F M K E₀ H X ranges rootPubk kblock privk boardId file).2 = some f' ∧
        f'.len = f.len ∧ ∀ i, f'.data i ≠ f.data i →
          area.areaOffset.toNat ≤ i ∧ i < area.areaOffset.toNat + area.areaSize.toNat) := by
  rcases doGscvdCreate_cases F M K E₀ H X ranges rootPubk kblock privk boardId file with
    h | ⟨f, area, gvd, buf, f', rfl, harea, -, -, -, hc, hf, h⟩ <;> rw [h]
  · exact ⟨fun _ => rfl, fun h₁ => absurd h₁ one_ne_zero⟩
  refine ⟨fun h₀ => absurd rfl h₀, fun _ => ⟨f, area, f', rfl, harea, rfl, ?_, fun i hi => ?_⟩⟩
  · rw [(fillGvdArea_eq_some hf).2]
  have hs := createGvd_size F E₀ H X hc
  rw [Nat.mod_eq_of_lt (by omega)] at hs
  have hfit := (fillGvdArea_eq_some hf).1
  rw [BitVec.toNat_add, Nat.mod_eq_of_lt (by omega)] at hfit
  by_contra hout
  exact hi (fillGvdArea_frame hf (by omega))

/-- A signing run leaves the FMAP, its areas and the bytes of every range as they were. -/
theorem doGscvdCreate_keeps_ranges {ranges : GscvdRoRanges} {rootPubk : Vb2PackedKey}
    {kblock : Vb2Keyblock} {privk : Vb2PrivateKey} {boardId : BitVec 32} {f f' : ApFile}
    (hc : doGscvdCreate F M K E₀ H X ranges rootPubk kblock privk boardId (some f) = (0, some f'))
    (hnw : ∀ r ∈ ranges.ranges, r.offset.toNat + r.size.toNat < 2 ^ 32)
    (hsz : L.hdrSize + rootPubk.keySize.toNat + (X.rsaSigSize privk.sigAlg).toNat +
      ranges.ranges.length * 8 + (kblock.keyblockSize L).toNat < 2 ^ 32)
    (hfmap : ∀ a, M.roGscvd f = some a → ∀ d : Nat → BitVec 8,
      (∀ i, i < a.areaOffset.toNat ∨ a.areaOffset.toNat + a.areaSize.toNat ≤ i → d i = f.data i) →
      M.roGscvd ⟨f.len, d⟩ = M.roGscvd f ∧ M.wpRo ⟨f.len, d⟩ = M.wpRo f ∧
        M.fmapOffset ⟨f.len, d⟩ = M.fmapOffset f) :
    M.roGscvd f' = M.roGscvd f ∧ M.wpRo f' = M.wpRo f ∧ M.fmapOffset f' = M.fmapOffset f ∧
      ∀ r ∈ ranges.ranges, r.region.contents f'.data = r.region.contents f.data := by
  obtain ⟨a, gvd, buf, ha, -, -, hv, hcg, hfill⟩ := doGscvdCreate_eq_zero F M K E₀ H X hc
  have hs := createGvd_size F E₀ H X hcg
  obtain ⟨hfit, hf'⟩ := fillGvdArea_eq_some hfill
  rw [BitVec.toNat_add] at hfit
  have hout : ∀ i, i < a.areaOffset.toNat ∨ a.areaOffset.toNat + a.areaSize.toNat ≤ i →
      f'.data i = f.data i := fun i hi => fillGvdArea_frame hfill (by omega)
  obtain ⟨hro, hwp, hfo⟩ := hfmap a ha f'.data hout
  rw [show (⟨f.len, f'.data⟩ : ApFile) = f' by rw [hf']] at hro hwp hfo
  refine ⟨hro, hwp, hfo, fun r hr => ?_⟩
  obtain ⟨_, -, hacc, -⟩ := verifyRanges_eq_zero_iff.mp hv
  have hdis := rangeOverlaps_eq_false_disjoint (hacc r hr).2 (hnw r hr)
  unfold RangesDisjoint at hdis
  exact contents_congr fun j hj => hout _ (by simp only [GscvdRoRange.region] at hj ⊢; omega)

end Writes


/-- A library of 8-byte signatures made of the first bytes signed. -/
def GvdCreateLib.sample : GvdCreateLib where
  rsaSigSize _ := 8
  calloc _ := true
  calculateSignature data _ := some ⟨24, 8, BitVec.ofNat 32 data.length, data.take 8⟩
  validatePrivk _ _ := true

def GscvdRoRanges.sample : GscvdRoRanges := ⟨[⟨0, 0x800⟩], by decide⟩

def Vb2PackedKey.sample : Vb2PackedKey := ⟨1, 1, 8, List.replicate 8 0x5a, rfl⟩

/-- A 24-byte keyblock whose `keyblock_size`, at `GvdLayout.sample`'s offset 16, is 24. -/
def Vb2Keyblock.sample : Vb2Keyblock := ⟨List.replicate 16 0 ++ le32Bytes 24 ++ List.replicate 4 0⟩

def Vb2PrivateKey.sample : Vb2PrivateKey := ⟨1, 0⟩

/-- `futility gscvd` signing the first half of `ApFile.blank` with the sample keys, board id 0. -/
def sampleSigning : Int × Option ApFile :=
  doGscvdCreate GvdFormat.sample FmapLib.sample Vb2Constants.sample GscvdEnv.accepting
    DigestLib.accepting GvdCreateLib.sample GscvdRoRanges.sample Vb2PackedKey.sample
    Vb2Keyblock.sample Vb2PrivateKey.sample 0 (some ApFile.blank)

set_option maxRecDepth 1000 in
theorem doGscvdCreate_writes_area_sample :
    sampleSigning.1 = 0 ∧ ∃ f area f', some ApFile.blank = some f ∧
      FmapLib.sample.roGscvd f = some area ∧ sampleSigning.2 = some f' ∧ f'.len = f.len ∧
      ∀ i, f'.data i ≠ f.data i →
        area.areaOffset.toNat ≤ i ∧ i < area.areaOffset.toNat + area.areaSize.toNat :=
  have h₀ : sampleSigning.1 = 0 := rfl
  ⟨h₀, (doGscvdCreate_writes_area GvdFormat.sample FmapLib.sample Vb2Constants.sample
    GscvdEnv.accepting DigestLib.accepting GvdCreateLib.sample GscvdRoRanges.sample
    Vb2PackedKey.sample Vb2Keyblock.sample Vb2PrivateKey.sample 0 (some ApFile.blank)
    (by decide)).2 h₀⟩

end Vboot
