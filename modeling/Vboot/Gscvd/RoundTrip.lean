import Vboot.Gscvd.Create
import Vboot.Gscvd.Reads

/-!
# What the creation writes, the validation accepts

`futility gscvd` signs an image (`doGscvdCreate`) and checks a signed one (`validateGscvd`).
After signing, the file holds the header, the ranges, the signature and the root key body where
`create_gvd` laid them out (`HoldsGvd`). The validation reads them back, hashes the same bytes,
since no range touches `RO_GSCVD`, and hands the library exactly what was signed. Signing the
signed file again writes the bytes already there.
-/
namespace Vboot


/-- The file holds, from `off`, a header, its ranges, a signature body and a root key body as
`create_gvd` lays them out, and after `gvd->size` bytes the keyblock `kb`. -/
structure HoldsGvd {L : GvdLayout} (F : GvdFormat L) (f : ApFile) (off : Nat) (gvd : GscVerificationData)
    (rs : List GscvdRoRange) (sig key kb : List (BitVec 8)) : Prop where
  hdr : Region.contents ⟨off, L.hdrSize⟩ f.data = F.encode gvd
  rng : Region.contents ⟨off + L.hdrSize, 8 * rs.length⟩ f.data = rangesBytes rs
  sigBody : Region.contents ⟨off + L.hdrSize + 8 * rs.length, sig.length⟩ f.data = sig
  keyBody : Region.contents ⟨off + L.hdrSize + 8 * rs.length + sig.length, key.length⟩ f.data = key
  keyblock : Region.contents ⟨off + gvd.size.toNat, kb.length⟩ f.data = kb

section Holds

variable {L : GvdLayout} (F : GvdFormat L) (M : FmapLib)

theorem HoldsGvd.gvdAt {f : ApFile} {off : Nat} {gvd : GscVerificationData} {rs : List GscvdRoRange}
    {sig key kb : List (BitVec 8)} (h : HoldsGvd F f off gvd rs sig key kb) :
    (f.image M F).gvdAt off = gvd.toHeader L :=
  F.decode_encode gvd _ (by rw [← h.hdr]; simp only [Region.contents, Nat.zero_add])

theorem HoldsGvd.rangeAt {f : ApFile} {off : Nat} {gvd : GscVerificationData} {rs : List GscvdRoRange}
    {sig key kb : List (BitVec 8)} (h : HoldsGvd F f off gvd rs sig key kb) (i : Nat)
    (hi : i < rs.length) : (f.image M F).rangeAt (off + L.hdrSize + 8 * i) = rs[i] := by
  have h8 := contents_sub_of_contents h.rng (a := 8 * i) (m := 8) (by omega)
  rw [rangesBytes, flatMap_drop_take GscvdRoRange.bytes (fun _ => rfl) rs i hi] at h8
  have ho := contents_sub_of_contents h8 (a := 0) (m := 4) (by omega)
  have hs := contents_sub_of_contents h8 (a := 4) (m := 4) (by omega)
  simp only [GscvdRoRange.bytes, Nat.add_zero, List.drop_zero, List.take_left', length_le32Bytes,
    List.drop_left', List.take_of_length_le (Nat.le_of_eq (length_le32Bytes _))] at ho hs
  simp only [ApFile.image, le32_of_contents ho, le32_of_contents hs]

/-- The `keyblock_size` read at `gvd + gvd->size` is the keyblock's own, when the keyblock
copied covers that field. -/
theorem HoldsGvd.keyblockSizeAt {f : ApFile} {off : Nat} {gvd : GscVerificationData}
    {rs : List GscvdRoRange} {sig key : List (BitVec 8)} {kb : Vb2Keyblock} {n : Nat}
    (h : HoldsGvd F f off gvd rs sig key (Region.contents ⟨0, n⟩ kb.data))
    (hn : L.keyblockSizeOffset + 4 ≤ n) :
    (f.image M F).keyblockSizeAt (off + gvd.size.toNat) = kb.keyblockSize L := by
  have h4 := contents_sub_of_contents h.keyblock (a := L.keyblockSizeOffset) (m := 4) (by simp; omega)
  have hk := contents_sub_of_contents (rfl : Region.contents ⟨0, n⟩ kb.data = _) hn
  rw [Nat.zero_add] at hk
  exact le32_congr (h4.trans hk.symm)

theorem HoldsGvd.signed {f : ApFile} {off : Nat} {gvd : GscVerificationData} {rs : List GscvdRoRange}
    {sig key kb : List (BitVec 8)} (h : HoldsGvd F f off gvd rs sig key kb) :
    Region.contents ⟨off, L.hdrSize + 8 * rs.length⟩ f.data = F.encode gvd ++ rangesBytes rs := by
  rw [contents_add, h.hdr, h.rng]

theorem HoldsGvd.copyRanges_eq {f : ApFile} {off : Nat} {gvd : GscVerificationData}
    {ranges : GscvdRoRanges} {sig key kb : List (BitVec 8)}
    (h : HoldsGvd F f off gvd ranges.ranges sig key kb)
    (hc : gvd.rangeCount.toNat = ranges.ranges.length) (hle) :
    copyRanges L (f.image M F) off ((f.image M F).gvdAt off) hle = ranges := by
  obtain ⟨rs, hrs⟩ := ranges
  simp only [copyRanges, GscvdRoRanges.mk.injEq, h.gvdAt]
  refine List.ext_getElem (by simpa [GscVerificationData.toHeader] using hc) fun i _ hi => ?_
  simpa using h.rangeAt F M i hi

end Holds

section Create

variable {L : GvdLayout} (F : GvdFormat L) (E₀ : GscvdEnv) (H : DigestLib) (X : GvdCreateLib)

/-- After `create_gvd` and `fill_gvd_area`, when the header's `size` holds the whole `total_size`,
the file holds the header, the ranges, the signature and the root key, then the keyblock. -/
theorem holdsGvd_of_fill {f f' : ApFile} {area : FmapAreaHeader} {fmapOffset : Nat}
    {ranges : GscvdRoRanges} {rootPubk : Vb2PackedKey} {privk : Vb2PrivateKey} {boardId : BitVec 32}
    {gvd : GscVerificationData} {buf : List (BitVec 8)} {kb : Vb2Keyblock}
    (hc : createGvd F E₀ H X f fmapOffset ranges rootPubk privk boardId = some (gvd, buf))
    (hf : fillGvdArea f area gvd.size buf (kb.keyblockSize L) kb.data = some f')
    (hsz : L.hdrSize + rootPubk.keySize.toNat + (X.rsaSigSize privk.sigAlg).toNat +
      ranges.ranges.length * 8 < 2 ^ 32) :
    ∃ sig, X.calculateSignature (F.encode gvd ++ rangesBytes ranges.ranges) privk = some sig ∧
      sig.sigSize = X.rsaSigSize privk.sigAlg ∧
      HoldsGvd F f' area.areaOffset.toNat gvd ranges.ranges
        (Region.contents ⟨0, sig.sigSize.toNat⟩ fun i => sig.data.getD i 0) rootPubk.body
        (Region.contents ⟨0, (kb.keyblockSize L).toNat⟩ kb.data) := by
  have hs := createGvd_size F E₀ H X hc
  rw [Nat.mod_eq_of_lt hsz] at hs
  obtain ⟨-, -, sig, -, -, hsig, hss, rfl⟩ := createGvd_eq_some F E₀ H X hc
  have hlen : (F.encode gvd ++ rangesBytes ranges.ranges ++
      Region.contents ⟨0, sig.sigSize.toNat⟩ (fun i => sig.data.getD i 0) ++ rootPubk.body).length =
      gvd.size.toNat := by
    simp only [List.length_append, F.length_encode, length_rangesBytes, length_contents,
      rootPubk.body_length, hss, hs]
    omega
  obtain ⟨hin, hkb, -⟩ := fillGvdArea_contents hf hlen
  have hA := F.length_encode gvd
  have hB := length_rangesBytes ranges.ranges
  have hsn : sig.sigSize.toNat = (X.rsaSigSize privk.sigAlg).toNat := by rw [hss]
  refine ⟨sig, hsig, hss, ⟨?_, ?_, ?_, ?_, ?_⟩⟩
  · have h := hin 0 L.hdrSize (by omega)
    rwa [Nat.add_zero, List.drop_zero, List.append_assoc, List.append_assoc,
      List.take_left' hA] at h
  · have h := hin L.hdrSize (8 * ranges.ranges.length) (by omega)
    rwa [List.append_assoc, List.append_assoc, List.drop_left' hA, List.take_left' hB] at h
  · have h := hin (L.hdrSize + 8 * ranges.ranges.length) sig.sigSize.toNat (by omega)
    rw [List.append_assoc _ _ rootPubk.body, List.drop_left' (by simp only [List.length_append, hA, hB]),
      List.take_left' (length_contents ⟨0, sig.sigSize.toNat⟩ _), ← Nat.add_assoc] at h
    simpa only [length_contents] using h
  · have h := hin (L.hdrSize + 8 * ranges.ranges.length + sig.sigSize.toNat) rootPubk.keySize.toNat
      (by omega)
    rw [List.drop_left' (by simp only [List.length_append, hA, hB, length_contents]),
      List.take_of_length_le (Nat.le_of_eq rootPubk.body_length), ← Nat.add_assoc, ← Nat.add_assoc] at h
    simpa only [length_contents, rootPubk.body_length] using h
  · rwa [length_contents]

theorem keyblockSizeAt_image (M : FmapLib) (kb : Vb2Keyblock) :
    (kb.image F M).keyblockSizeAt 0 = kb.keyblockSize L := by
  simp only [Vb2Keyblock.image, ApFile.image, Vb2Keyblock.keyblockSize, Nat.zero_add]

end Create


section Checks

variable (L : GvdLayout) (K : Vb2Constants) (E : GscvdEnv)

theorem ite_neg_one_eq_zero {c : Prop} [Decidable c] {x : Int} :
    (if c then -1 else x) = 0 ↔ ¬c ∧ x = 0 := by
  split <;> simp_all

/-- What `validate_gvd` accepts: the magic, one to `MAX_RANGES` ranges, the FMAP where the
file has it, and both embedded headers inside. -/
theorem validateGvd_eq_zero_iff (img : ApImage) (g : GvdHeader) :
    (validateGvd L E img g).1 = 0 ↔ g.gvMagic = L.magic ∧ g.rangeCount ≠ 0 ∧
      g.rangeCount.toNat ≤ maxRanges ∧ g.fmapLocation.toNat = img.fmapOffset ∧
      E.signatureInside g = true ∧ E.packedKeyInside g = true := by
  simp only [validateGvd, apply_ite Prod.fst, ite_neg_one_eq_zero, not_not, not_or, Bool.not_eq_true', Bool.not_eq_false,
    gt_iff_lt, not_lt, ne_eq, and_true, and_assoc]

/-- On an aligned buffer, `validate_pubk_signature` returns 0 exactly when the root key unpacks,
the rounded `keyblock_size` fits 8192 bytes, and the keyblock verifies. -/
theorem validatePubkSignature_eq_zero_of_aligned (img : ApImage) (kblock b : Nat)
    (hb : E.mallocPubk = some b) (hal : b % K.workbufAlign = 0) :
    (validatePubkSignature L K E img kblock).1 = 0 ↔ E.unpackRootKey = true ∧
      roundedSize K (img.keyblockSizeAt kblock) ≤ 8192 ∧ E.verifyKeyblock = true := by
  have h8 : (8192 : BitVec 32).toNat = 8192 := rfl
  simp only [validatePubkSignature, hb, vb2WorkbufInit_of_aligned K b _ hal, vb2WorkbufAlloc,
    BitVec.le_def, BitVec.lt_def, h8]
  by_cases hr : (roundedSize K (img.keyblockSizeAt kblock)).toNat ≤ 8192
  · by_cases hu : E.unpackRootKey <;> by_cases hv : E.verifyKeyblock <;>
      simp [hr, hu, hv, Nat.not_lt.mpr hr]
  · simp only [Nat.lt_of_not_le hr, if_true, hr, false_and, and_false, iff_false]
    split <;> simp

theorem validateGvdSignature_eq_zero_iff (off : Nat) (g : GvdHeader) :
    (validateGvdSignature L E off g).1 = 0 ↔
      E.unpackDataKey = true ∧ E.mallocGvd = true ∧ E.verifyData = 0 := by
  unfold validateGvdSignature
  by_cases hu : E.unpackDataKey <;> by_cases hm : E.mallocGvd <;> simp [hu, hm, ← BitVec.toInt_inj]

theorem validatePubkSignature_keyblock (img : ApImage) (kblock : Nat) :
    ∀ x ∈ (validatePubkSignature L K E img kblock).2, x.1 = .keyblock →
      x.2 = ⟨kblock, (img.keyblockSizeAt kblock).toNat⟩ := by
  unfold validatePubkSignature
  dsimp only
  split
  · simp
  split
  · simp
  split
  · simp
  · split <;> simp

theorem validateGscvdKeys_eq_zero (img : ApImage) (hash : Option (Nat → BitVec 8)) (off : Nat)
    (g : GvdHeader) (hh : ∀ d, hash = some d → E.hashVerify (rootKeyBody L off g) d = true)
    (hp : (validatePubkSignature L K E img (off + g.size.toNat)).1 = 0)
    (hs : (validateGvdSignature L E off g).1 = 0) :
    (validateGscvdKeys L K E img hash off g).1 = 0 := by
  rcases hpv : validatePubkSignature L K E img (off + g.size.toNat) with ⟨rv, rd⟩
  rcases hsv : validateGvdSignature L E off g with ⟨rv', rd'⟩
  rw [hpv] at hp
  rw [hsv] at hs
  dsimp only at hp hs
  subst hp hs
  unfold validateGscvdKeys
  cases hash with
  | none => simp [hpv, hsv]
  | some d => simp [hpv, hsv, hh d rfl]

theorem mem_validateGscvdKeys {img : ApImage} {hash : Option (Nat → BitVec 8)} {off : Nat}
    {g : GvdHeader} {x : GscvdRead × Region} (hx : x ∈ (validateGscvdKeys L K E img hash off g).2) :
    x = (.rootKeyBody, rootKeyBody L off g) ∨
      x ∈ (validatePubkSignature L K E img (off + g.size.toNat)).2 ∨
      x ∈ (validateGvdSignature L E off g).2 := by
  unfold validateGscvdKeys at hx
  dsimp only at hx
  generalize validatePubkSignature L K E img (off + g.size.toNat) = p at hx ⊢
  generalize validateGvdSignature L E off g = q at hx ⊢
  obtain ⟨rv, rd⟩ := p
  obtain ⟨rv', rd'⟩ := q
  cases hash <;> dsimp only at hx <;> split_ifs at hx <;>
    simp only [List.mem_append, List.nil_append, List.mem_singleton, List.not_mem_nil] at hx
  all_goals first
    | exact .inr (.inl hx)
    | exact .inr hx
    | exact .inl hx
    | exact hx.imp id .inl
    | exact or_assoc.mp hx

/-- Where the key checks read: the root key body, the keyblock `gvd->size` past the header, and
the header with its ranges. -/
theorem validateGscvdKeys_regions (img : ApImage) (hash : Option (Nat → BitVec 8)) (off : Nat)
    (g : GvdHeader) :
    ∀ x ∈ (validateGscvdKeys L K E img hash off g).2,
      (x.1 = .rootKeyBody → x.2 = rootKeyBody L off g) ∧
      (x.1 = .keyblock → x.2 = ⟨off + g.size.toNat, (img.keyblockSizeAt (off + g.size.toNat)).toNat⟩) ∧
      (x.1 = .signedData → x.2 = ⟨off, L.hdrSize + 8 * g.rangeCount.toNat⟩) := by
  intro x hx
  rcases mem_validateGscvdKeys L K E hx with rfl | h | h
  · exact ⟨fun _ => rfl, nofun, nofun⟩
  · refine ⟨fun e => ?_, validatePubkSignature_keyblock L K E img _ x h, fun e => ?_⟩ <;>
      rcases validatePubkSignature_kinds L K E img _ x h with e' | e' <;> rw [e] at e' <;> cases e'
  · have hs : x = (.signedData, ⟨off, L.hdrSize + 8 * g.rangeCount.toNat⟩) := by
      unfold validateGvdSignature at h
      split_ifs at h <;> first | exact List.mem_singleton.mp h | cases h
    subst hs
    exact ⟨nofun, nofun, fun _ => rfl⟩

/-- Once the header, the ranges and the digest pass, `validate_gscvd` returns what its key
checks return. -/
theorem validateGscvd_of_checks (img : ApImage) (hash : Option (Nat → BitVec 8))
    {a : FmapAreaHeader} (ha : img.roGscvd = some a)
    (hv : (validateGvd L E img (img.gvdAt a.areaOffset.toNat)).1 = 0)
    (hr : verifyRanges (copyRanges L img a.areaOffset.toNat _ (rangeCount_le_of_validateGvd L E hv))
      img.wpRo a = 0)
    (hd : (calculateRangesDigest E (copyRanges L img a.areaOffset.toNat _
      (rangeCount_le_of_validateGvd L E hv)) (img.gvdAt a.areaOffset.toNat).hashAlg).1 = 0)
    (hm : ∀ i < L.digestSize, (calculateRangesDigest E (copyRanges L img a.areaOffset.toNat _
      (rangeCount_le_of_validateGvd L E hv)) (img.gvdAt a.areaOffset.toNat).hashAlg).2.2 i =
        (img.gvdAt a.areaOffset.toNat).rangesDigest i) :
    ∃ pre : List (GscvdRead × Region),
      (∀ y ∈ pre, (∃ f, y.1 = .field f) ∨ y.1 = .ranges ∨ y.1 = .rangeData) ∧
      validateGscvd L K E img hash =
        ((validateGscvdKeys L K E img hash a.areaOffset.toNat (img.gvdAt a.areaOffset.toNat)).1,
          pre ++ (validateGscvdKeys L K E img hash a.areaOffset.toNat (img.gvdAt a.areaOffset.toNat)).2) := by
  rw [validateGscvd, ha]
  dsimp only
  rw [dif_neg (not_not.mpr hv), if_neg (not_not.mpr hr)]
  rcases hcd : calculateRangesDigest E (copyRanges L img a.areaOffset.toNat _
    (rangeCount_le_of_validateGvd L E hv)) (img.gvdAt a.areaOffset.toNat).hashAlg with
    ⟨rv, handed, digest⟩
  rw [hcd] at hd hm
  dsimp only at hd hm ⊢
  rw [if_neg (not_not.mpr hd), if_neg (not_not.mpr hm)]
  refine ⟨_, fun y hy => ?_, rfl⟩
  simp only [List.mem_append, List.mem_cons, List.mem_singleton, List.mem_map, List.not_mem_nil,
    or_false] at hy
  rcases hy with ((⟨f, -, rfl⟩ | rfl) | rfl | ⟨r, -, rfl⟩) | rfl
  exacts [.inl ⟨f, rfl⟩, .inr (.inl rfl), .inl ⟨_, rfl⟩, .inr (.inr rfl), .inl ⟨_, rfl⟩]

theorem validatePubkSignature_malloc {img : ApImage} {kblock : Nat}
    (h : (validatePubkSignature L K E img kblock).1 = 0) : ∃ b, E.mallocPubk = some b := by
  cases hb : E.mallocPubk with
  | some b => exact ⟨b, rfl⟩
  | none =>
    unfold validatePubkSignature at h
    rw [hb] at h
    split at h <;> simp at h

end Checks

section Header

variable {L : GvdLayout} (F : GvdFormat L)

/-- `validate_gvd` accepts the header `create_gvd` fills in for one to `MAX_RANGES` ranges. -/
theorem validateGvd_gvdHeader (E : GscvdEnv) (img : ApImage) {fmapOffset n sigSize : Nat}
    {rootPubk : Vb2PackedKey} {boardId : BitVec 32} {digest : Nat → BitVec 8}
    (hn : 0 < n) (hmax : n ≤ maxRanges)
    (hin : E.signatureInside ((gvdHeader F fmapOffset n (n * 8) sigSize rootPubk boardId
      digest).toHeader L) = true ∧ E.packedKeyInside ((gvdHeader F fmapOffset n (n * 8) sigSize
        rootPubk boardId digest).toHeader L) = true)
    (hfo : img.fmapOffset = fmapOffset) (hlt : fmapOffset < 2 ^ 32) :
    (validateGvd L E img ((gvdHeader F fmapOffset n (n * 8) sigSize rootPubk boardId
      digest).toHeader L)).1 = 0 := by
  have hn32 : n % 2 ^ 32 = n := Nat.mod_eq_of_lt (by unfold maxRanges at hmax; omega)
  refine (validateGvd_eq_zero_iff L E img _).mpr ⟨rfl, ?_, ?_, ?_, hin⟩ <;>
    simp only [GscVerificationData.toHeader, gvdHeader, ne_eq, BitVec.toNat_eq, BitVec.toNat_ofNat, hn32]
  · simpa using hn.ne'
  · exact hmax
  · rw [hfo, Nat.mod_eq_of_lt hlt]

/-- The root key header `create_gvd` fills in points at the root key body it lays out after the
ranges and the signature. -/
theorem HoldsGvd.rootKey_contents {f : ApFile} {off fmapOffset sigSize : Nat} {rs : List GscvdRoRange}
    {rootPubk : Vb2PackedKey} {boardId : BitVec 32} {digest : Nat → BitVec 8}
    {sig kb : List (BitVec 8)}
    (h : HoldsGvd F f off (gvdHeader F fmapOffset rs.length (rs.length * 8) sigSize rootPubk boardId
      digest) rs sig rootPubk.body kb)
    (hsig : sig.length = sigSize) (hsz : L.hdrSize + rs.length * 8 + sigSize < 2 ^ 32) :
    (rootKeyBody L off ((gvdHeader F fmapOffset rs.length (rs.length * 8) sigSize rootPubk
      boardId digest).toHeader L)).contents f.data = rootPubk.body := by
  have hk := h.keyBody
  have hrk := L.rootKeyHeaderOffset_le
  simp only [rootPubk.body_length, hsig] at hk
  rw [← hk]
  simp only [rootKeyBody, GscVerificationData.toHeader, gvdHeader, BitVec.toNat_ofNat]
  congr 2
  omega

end Header


section RoundTrip

variable {L : GvdLayout} (F : GvdFormat L) (M : FmapLib) (K : Vb2Constants) (E₀ E : GscvdEnv)
  (H : DigestLib) (X : GvdCreateLib)

/-- An image that `do_gscvd` signed passes `validate_gscvd`, given a library that hashes the same
bytes the same way and accepts what it is handed: the bytes signed with their signature right
after, the keyblock, and the root key body. -/
theorem doGscvdCreate_validates (ranges : GscvdRoRanges) (rootPubk : Vb2PackedKey)
    (kblock : Vb2Keyblock) (privk : Vb2PrivateKey) (boardId : BitVec 32) (f f' : ApFile)
    (hash : Option (Nat → BitVec 8))
    (hc : doGscvdCreate F M K E₀ H X ranges rootPubk kblock privk boardId (some f) = (0, some f'))
    (hne : ranges.ranges ≠ [])
    (hnw : ∀ r ∈ ranges.ranges, r.offset.toNat + r.size.toNat < 2 ^ 32)
    (hsz : L.hdrSize + rootPubk.keySize.toNat + (X.rsaSigSize privk.sigAlg).toNat +
      ranges.ranges.length * 8 + (kblock.keyblockSize L).toNat < 2 ^ 32)
    (hkb : L.keyblockSizeOffset + 4 ≤ (kblock.keyblockSize L).toNat)
    (hfmap : ∀ a, M.roGscvd f = some a → ∀ d : Nat → BitVec 8,
      (∀ i, i < a.areaOffset.toNat ∨ a.areaOffset.toNat + a.areaSize.toNat ≤ i → d i = f.data i) →
      M.roGscvd ⟨f.len, d⟩ = M.roGscvd f ∧ M.wpRo ⟨f.len, d⟩ = M.wpRo f ∧
        M.fmapOffset ⟨f.len, d⟩ = M.fmapOffset f)
    (hal₀ : ∀ b, E₀.mallocPubk = some b → b % K.workbufAlign = 0)
    (hal : ∃ b, E.mallocPubk = some b ∧ b % K.workbufAlign = 0)
    (hinside : ∀ a, M.roGscvd f = some a →
      E.signatureInside ((f'.image M F).gvdAt a.areaOffset.toNat) = true ∧
        E.packedKeyInside ((f'.image M F).gvdAt a.areaOffset.toNat) = true)
    (hlib : E.unpackRootKey = true ∧ E.verifyKeyblock = true ∧ E.unpackDataKey = true ∧
      E.mallocGvd = true ∧ E.verifyData = 0)
    (hdig : ∀ d, hash = some d → H.hashVerify rootPubk.body d = true) :
    (validateGscvd L K (E.reading H f'.data) (f'.image M F) hash).1 = 0 ∧
      ∀ x ∈ (validateGscvd L K (E.reading H f'.data) (f'.image M F) hash).2,
        (x.1 = .signedData → ∃ sig, X.calculateSignature (x.2.contents f'.data) privk = some sig ∧
          Region.contents ⟨x.2.offset + x.2.size, sig.sigSize.toNat⟩ f'.data =
            Region.contents ⟨0, sig.sigSize.toNat⟩ fun i => sig.data.getD i 0) ∧
        (x.1 = .keyblock → x.2.contents f'.data = Region.contents ⟨0, x.2.size⟩ kblock.data) ∧
        (x.1 = .rootKeyBody → x.2.contents f'.data = rootPubk.body) := by
  obtain ⟨a, gvd, buf, ha, hp, -, hv, hcg, hfill⟩ := doGscvdCreate_eq_zero F M K E₀ H X hc
  obtain ⟨hro, hwp, hfo, hrd⟩ := doGscvdCreate_keeps_ranges F M K E₀ H X hc hnw hsz hfmap
  have hs := createGvd_size F E₀ H X hcg
  obtain ⟨sig, hsig, hss, hold⟩ := holdsGvd_of_fill F E₀ H X hcg hfill (by omega)
  obtain ⟨handed, digest, -, hd, rfl, -⟩ := createGvd_eq_some F E₀ H X hcg
  have hlen : 0 < ranges.ranges.length ∧ ranges.ranges.length ≤ 32 :=
    ⟨List.length_pos.mpr hne, ranges.rangeCount_le⟩
  have hsn : sig.sigSize.toNat = (X.rsaSigSize privk.sigAlg).toNat := by rw [hss]
  have hg := hold.gvdAt F M
  have hcount : (gvdHeader F (M.fmapOffset f) ranges.ranges.length (ranges.ranges.length * 8)
      (X.rsaSigSize privk.sigAlg).toNat rootPubk boardId digest).rangeCount.toNat =
        ranges.ranges.length := by
    simp only [gvdHeader, BitVec.toNat_ofNat]
    omega
  have hvg : (validateGvd L (E.reading H f'.data) (f'.image M F)
      ((f'.image M F).gvdAt a.areaOffset.toNat)).1 = 0 := by
    have hin := hinside a ha
    rw [hg] at hin ⊢
    exact validateGvd_gvdHeader F _ _ hlen.1 hlen.2 hin hfo (M.fmapOffset_lt f)
  have hcopy := hold.copyRanges_eq F M hcount
  have hdg : calculateRangesDigest (E.reading H f'.data) ranges
      ((f'.image M F).gvdAt a.areaOffset.toNat).hashAlg = (0, handed, digest) := by
    rw [hg, calculateRangesDigest_reading E E₀ H ranges _ hrd, ← hd]
    rfl
  obtain ⟨pre, hpre, heq⟩ := validateGscvd_of_checks L K (E.reading H f'.data) (f'.image M F) hash
    (hro.trans ha) hvg (by rw [hcopy]; exact (congrArg (verifyRanges ranges · a) hwp).trans hv)
    (by rw [hcopy, hdg]) fun i hi => by
      rw [hcopy, hdg, hg]
      simp only [GscVerificationData.toHeader, if_pos hi]
      rfl
  have hbody : (rootKeyBody L a.areaOffset.toNat ((f'.image M F).gvdAt a.areaOffset.toNat)).contents
      f'.data = rootPubk.body := by
    rw [hg]
    exact hold.rootKey_contents F (by rw [length_contents, hsn]) (by omega)
  have hkbs := hold.keyblockSizeAt F M hkb
  have hpk : (validatePubkSignature L K (E.reading H f'.data) (f'.image M F)
      (a.areaOffset.toNat + ((f'.image M F).gvdAt a.areaOffset.toNat).size.toNat)).1 = 0 := by
    obtain ⟨b₀, hb₀⟩ := validatePubkSignature_malloc L K E₀ hp
    obtain ⟨-, hround, -⟩ :=
      (validatePubkSignature_eq_zero_of_aligned L K E₀ _ 0 b₀ hb₀ (hal₀ b₀ hb₀)).mp hp
    obtain ⟨b, hb, hab⟩ := hal
    rw [validatePubkSignature_eq_zero_of_aligned L K (E.reading H f'.data) _ _ b hb hab, hg]
    refine ⟨hlib.1, ?_, hlib.2.1⟩
    rw [keyblockSizeAt_image] at hround
    exact hkbs ▸ hround
  have hgs := (validateGvdSignature_eq_zero_iff L (E.reading H f'.data) a.areaOffset.toNat
    ((f'.image M F).gvdAt a.areaOffset.toNat)).mpr hlib.2.2
  rw [heq]
  refine ⟨validateGscvdKeys_eq_zero L K _ _ hash _ _ (fun d hd => ?_) hpk hgs, fun x hx => ?_⟩
  · show H.hashVerify (Region.contents _ f'.data) d = true
    rw [hbody]
    exact hdig d hd
  rcases List.mem_append.mp hx with hx | hx
  · rcases hpre x hx with ⟨_, e⟩ | e | e <;> simp only [e, reduceCtorEq, false_implies, and_self]
  obtain ⟨hr₁, hr₂, hr₃⟩ := validateGscvdKeys_regions L K _ _ hash _ _ x hx
  refine ⟨fun e => ?_, fun e => ?_, fun e => ?_⟩
  · rw [hr₃ e, hg]
    simp only [GscVerificationData.toHeader, hcount, hold.signed]
    refine ⟨sig, hsig, ?_⟩
    rw [← Nat.add_assoc]
    simpa only [length_contents] using hold.sigBody
  · rw [hr₂ e, hg]
    simpa only [GscVerificationData.toHeader, hkbs, length_contents] using hold.keyblock
  · rw [hr₁ e]
    exact hbody

end RoundTrip

def ApFile.signedSample : ApFile := sampleSigning.2.getD ApFile.blank

set_option maxRecDepth 1000 in
theorem doGscvdCreate_validates_sample :
    sampleSigning = (0, some ApFile.signedSample) ∧
      (validateGscvd .sample .sample (GscvdEnv.accepting.reading DigestLib.accepting
        ApFile.signedSample.data) (ApFile.signedSample.image FmapLib.sample GvdFormat.sample)
        (some fun _ => 0)).1 = 0 :=
  have hc : sampleSigning = (0, some ApFile.signedSample) := rfl
  ⟨hc, (doGscvdCreate_validates GvdFormat.sample FmapLib.sample Vb2Constants.sample
    GscvdEnv.accepting GscvdEnv.accepting DigestLib.accepting GvdCreateLib.sample
    GscvdRoRanges.sample Vb2PackedKey.sample Vb2Keyblock.sample Vb2PrivateKey.sample 0 ApFile.blank
    ApFile.signedSample (some fun _ => 0) hc (by decide) (by decide) (by decide) (by decide)
    (fun _ _ _ _ => ⟨rfl, rfl, rfl⟩) (fun _ hb => Option.some.inj hb ▸ rfl) ⟨0, rfl, rfl⟩
    (fun _ _ => ⟨rfl, rfl⟩) ⟨rfl, rfl, rfl, rfl, rfl⟩ fun _ _ => rfl).1⟩

section Again

variable {L : GvdLayout} (F : GvdFormat L) (M : FmapLib) (K : Vb2Constants) (E₀ : GscvdEnv)
  (H : DigestLib) (X : GvdCreateLib)

/-- What a signing run leaves from the start of `RO_GSCVD`: the header, the ranges, the signature
of both and the root key body, and the keyblock `gvd->size` bytes from the start. -/
theorem doGscvdCreate_layout (ranges : GscvdRoRanges) (rootPubk : Vb2PackedKey)
    (kblock : Vb2Keyblock) (privk : Vb2PrivateKey) (boardId : BitVec 32) (f f' : ApFile)
    (hc : doGscvdCreate F M K E₀ H X ranges rootPubk kblock privk boardId (some f) = (0, some f'))
    (hsz : L.hdrSize + rootPubk.keySize.toNat + (X.rsaSigSize privk.sigAlg).toNat +
      ranges.ranges.length * 8 < 2 ^ 32) :
    ∃ area handed digest sig, M.roGscvd f = some area ∧
      calculateRangesDigest (E₀.reading H f.data) ranges F.hashSha256 = (0, handed, digest) ∧
      X.calculateSignature (F.encode (gvdHeader F (M.fmapOffset f) ranges.ranges.length
        (ranges.ranges.length * 8) (X.rsaSigSize privk.sigAlg).toNat rootPubk boardId digest) ++
          rangesBytes ranges.ranges) privk = some sig ∧
      sig.sigSize = X.rsaSigSize privk.sigAlg ∧
      HoldsGvd F f' area.areaOffset.toNat (gvdHeader F (M.fmapOffset f) ranges.ranges.length
          (ranges.ranges.length * 8) (X.rsaSigSize privk.sigAlg).toNat rootPubk boardId digest)
        ranges.ranges (Region.contents ⟨0, sig.sigSize.toNat⟩ fun i => sig.data.getD i 0)
        rootPubk.body (Region.contents ⟨0, (kblock.keyblockSize L).toNat⟩ kblock.data) := by
  obtain ⟨a, gvd, buf, ha, -, -, -, hcg, hfill⟩ := doGscvdCreate_eq_zero F M K E₀ H X hc
  obtain ⟨handed, digest, -, hd, hgvd, -⟩ := createGvd_eq_some F E₀ H X hcg
  obtain ⟨sig, hsig, hss, hold⟩ := holdsGvd_of_fill F E₀ H X hcg hfill hsz
  subst hgvd
  exact ⟨a, handed, digest, sig, ha, hd, hsig, hss, hold⟩

set_option maxRecDepth 1000 in
theorem doGscvdCreate_layout_sample :
    sampleSigning = (0, some ApFile.signedSample) ∧
      ∃ area handed digest sig, FmapLib.sample.roGscvd ApFile.blank = some area ∧
        calculateRangesDigest (GscvdEnv.accepting.reading DigestLib.accepting ApFile.blank.data)
          GscvdRoRanges.sample GvdFormat.sample.hashSha256 = (0, handed, digest) ∧
        GvdCreateLib.sample.calculateSignature (GvdFormat.sample.encode (gvdHeader GvdFormat.sample
          (FmapLib.sample.fmapOffset ApFile.blank) 1 8 8 Vb2PackedKey.sample 0 digest) ++
            rangesBytes GscvdRoRanges.sample.ranges) Vb2PrivateKey.sample = some sig ∧
        sig.sigSize = 8 ∧
        HoldsGvd GvdFormat.sample ApFile.signedSample area.areaOffset.toNat
          (gvdHeader GvdFormat.sample (FmapLib.sample.fmapOffset ApFile.blank) 1 8 8
            Vb2PackedKey.sample 0 digest) GscvdRoRanges.sample.ranges
          (Region.contents ⟨0, sig.sigSize.toNat⟩ fun i => sig.data.getD i 0) Vb2PackedKey.sample.body
          (Region.contents ⟨0, (Vb2Keyblock.sample.keyblockSize .sample).toNat⟩
            Vb2Keyblock.sample.data) :=
  have hc : sampleSigning = (0, some ApFile.signedSample) := rfl
  ⟨hc, doGscvdCreate_layout GvdFormat.sample FmapLib.sample Vb2Constants.sample GscvdEnv.accepting
    DigestLib.accepting GvdCreateLib.sample GscvdRoRanges.sample Vb2PackedKey.sample
    Vb2Keyblock.sample Vb2PrivateKey.sample 0 ApFile.blank ApFile.signedSample hc (by decide)⟩

/-- Signing a file the block of `do_gscvd` has just signed, with the same inputs, returns 0 and
writes the bytes already there. -/
theorem doGscvdCreate_idempotent (ranges : GscvdRoRanges) (rootPubk : Vb2PackedKey)
    (kblock : Vb2Keyblock) (privk : Vb2PrivateKey) (boardId : BitVec 32) (f f' : ApFile)
    (hc : doGscvdCreate F M K E₀ H X ranges rootPubk kblock privk boardId (some f) = (0, some f'))
    (hnw : ∀ r ∈ ranges.ranges, r.offset.toNat + r.size.toNat < 2 ^ 32)
    (hsz : L.hdrSize + rootPubk.keySize.toNat + (X.rsaSigSize privk.sigAlg).toNat +
      ranges.ranges.length * 8 + (kblock.keyblockSize L).toNat < 2 ^ 32)
    (hfmap : ∀ a, M.roGscvd f = some a → ∀ d : Nat → BitVec 8,
      (∀ i, i < a.areaOffset.toNat ∨ a.areaOffset.toNat + a.areaSize.toNat ≤ i → d i = f.data i) →
      M.roGscvd ⟨f.len, d⟩ = M.roGscvd f ∧ M.wpRo ⟨f.len, d⟩ = M.wpRo f ∧
        M.fmapOffset ⟨f.len, d⟩ = M.fmapOffset f) :
    doGscvdCreate F M K E₀ H X ranges rootPubk kblock privk boardId (some f') = (0, some f') := by
  obtain ⟨hro, hwp, hfo, hrd⟩ := doGscvdCreate_keeps_ranges F M K E₀ H X hc hnw hsz hfmap
  obtain ⟨a, gvd, buf, ha, hp, hk, hv, hcg, hfill⟩ := doGscvdCreate_eq_zero F M K E₀ H X hc
  refine doGscvdCreate_of_steps F M K E₀ H X hp hk (hro.trans ha) (hwp ▸ hv) ?_
    (fillGvdArea_again hfill)
  rw [hfo, createGvd_congr F E₀ H X _ _ _ _ _ hrd, hcg]

end Again

set_option maxRecDepth 1000 in
theorem doGscvdCreate_idempotent_sample :
    sampleSigning = (0, some ApFile.signedSample) ∧
      doGscvdCreate GvdFormat.sample FmapLib.sample Vb2Constants.sample GscvdEnv.accepting
        DigestLib.accepting GvdCreateLib.sample GscvdRoRanges.sample Vb2PackedKey.sample
        Vb2Keyblock.sample Vb2PrivateKey.sample 0 (some ApFile.signedSample) =
          (0, some ApFile.signedSample) :=
  have hc : sampleSigning = (0, some ApFile.signedSample) := rfl
  ⟨hc, doGscvdCreate_idempotent GvdFormat.sample FmapLib.sample Vb2Constants.sample
    GscvdEnv.accepting DigestLib.accepting GvdCreateLib.sample GscvdRoRanges.sample
    Vb2PackedKey.sample Vb2Keyblock.sample Vb2PrivateKey.sample 0 ApFile.blank ApFile.signedSample
    hc (by decide) (by decide) fun _ _ _ _ => ⟨rfl, rfl, rfl⟩⟩

end Vboot
