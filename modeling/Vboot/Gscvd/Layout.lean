import Vboot.Gscvd.Validate

/-!
# The AP firmware file as bytes

`validate_gscvd` reads the image through pointers cast to structures (`ApImage`). Here the
image is what `futil_open_and_map_file` maps, `file->len` bytes at `file->data`, so that what
`fill_gvd_area` copies into it can be read back by the validation.

The `uint32_t` fields are little endian, as on the hosts futility runs on. The layout of
`struct gsc_verification_data` (`gsc_ro.h`, not in the tree) is a parameter `GvdFormat`, which
carries the law that a header copied into memory reads back as the header copied. The FMAP
parser (`fmap.h`) and the vb2 hash functions are parameters too, the hash functions as
functions of the bytes they are handed.
-/
namespace Vboot


/-- An AP firmware file mapped into memory: `file->len`, and the bytes from `file->data` on as
an unbounded map, which nothing stops at `file->len` where the C mapping ends. -/
structure ApFile where
  len : BitVec 32
  data : Nat → BitVec 8

def ApFile.blank : ApFile := ⟨0x1000, fun _ => 0xff⟩

/-- The bytes of a region of memory. -/
def Region.contents (r : Region) (data : Nat → BitVec 8) : List (BitVec 8) :=
  (List.range r.size).map fun i => data (r.offset + i)

/-- `memcpy(data + off, bs, bs.length)`. -/
def writeBytes (data : Nat → BitVec 8) (off : Nat) (bs : List (BitVec 8)) (i : Nat) : BitVec 8 :=
  if off ≤ i then bs[i - off]?.getD (data i) else data i

@[simp] theorem length_contents (r : Region) (data : Nat → BitVec 8) :
    (r.contents data).length = r.size := by
  simp [Region.contents]

theorem contents_congr {r : Region} {d₁ d₂ : Nat → BitVec 8}
    (h : ∀ i < r.size, d₁ (r.offset + i) = d₂ (r.offset + i)) : r.contents d₁ = r.contents d₂ :=
  List.map_congr_left fun i hi => h i (List.mem_range.mp hi)

theorem contents_add (off m n : Nat) (data : Nat → BitVec 8) :
    Region.contents ⟨off, m + n⟩ data =
      Region.contents ⟨off, m⟩ data ++ Region.contents ⟨off + m, n⟩ data := by
  simp only [Region.contents, List.range_add, List.map_append, List.map_map]
  congr 1
  exact List.map_congr_left fun i _ => by simp [Function.comp, Nat.add_assoc]

theorem contents_writeBytes_self (data : Nat → BitVec 8) (off : Nat) (bs : List (BitVec 8)) :
    Region.contents ⟨off, bs.length⟩ (writeBytes data off bs) = bs := by
  refine List.ext_getElem (by simp) fun i h₁ h₂ => ?_
  simp [Region.contents, writeBytes, List.getElem?_eq_getElem h₂]

theorem writeBytes_eq_self {data : Nat → BitVec 8} {off : Nat} {bs : List (BitVec 8)}
    (h : Region.contents ⟨off, bs.length⟩ data = bs) : writeBytes data off bs = data := by
  funext i
  unfold writeBytes
  split
  · rw [← h]
    rcases Nat.lt_or_ge (i - off) bs.length with hl | hl
    · simp [Region.contents, List.getElem?_range hl, Nat.add_sub_cancel' ‹off ≤ i›]
    · simp [Region.contents, List.getElem?_eq_none, hl]
  · rfl

theorem writeBytes_of_not_mem {data : Nat → BitVec 8} {off i : Nat} {bs : List (BitVec 8)}
    (h : i < off ∨ off + bs.length ≤ i) : writeBytes data off bs i = data i := by
  unfold writeBytes
  split
  · rw [List.getElem?_eq_none (by omega), Option.getD_none]
  · rfl

theorem contents_writeBytes_of_disjoint {data : Nat → BitVec 8} {off : Nat}
    {bs : List (BitVec 8)} {r : Region} (h : RangesDisjoint r.offset r.size off bs.length) :
    r.contents (writeBytes data off bs) = r.contents data :=
  contents_congr fun i hi => writeBytes_of_not_mem (by unfold RangesDisjoint at h; omega)

theorem contents_writeBytes_sub (data : Nat → BitVec 8) (off k n : Nat) (bs : List (BitVec 8))
    (h : k + n ≤ bs.length) :
    Region.contents ⟨off + k, n⟩ (writeBytes data off bs) = (bs.drop k).take n := by
  refine List.ext_getElem (by simp; omega) fun i h₁ h₂ => ?_
  simp only [length_contents] at h₁
  simp only [Region.contents, writeBytes, List.getElem_map, List.getElem_range, List.getElem_take,
    List.getElem_drop]
  rw [if_pos (by omega), show off + k + i - off = k + i by omega, List.getElem?_eq_getElem (by omega)]
  rfl

theorem contents_sub_of_contents {data : Nat → BitVec 8} {o n : Nat} {bs : List (BitVec 8)}
    (h : Region.contents ⟨o, n⟩ data = bs) {a m : Nat} (ham : a + m ≤ n) :
    Region.contents ⟨o + a, m⟩ data = (bs.drop a).take m := by
  subst h
  refine List.ext_getElem (by simp; omega) fun i h₁ h₂ => ?_
  simp only [length_contents] at h₁
  simp [Region.contents, Nat.add_assoc]

/-- Piece `j` of a list laid out as pieces of `k` elements, as an array of fixed-size records is. -/
theorem flatMap_drop_take {α β : Type} (f : α → List β) {k : Nat} (hf : ∀ x, (f x).length = k)
    (xs : List α) (j : Nat) (hj : j < xs.length) : ((xs.flatMap f).drop (k * j)).take k = f xs[j] := by
  induction xs generalizing j with
  | nil => exact absurd hj (Nat.not_lt_zero _)
  | cons x xs ih =>
    cases j with
    | zero => simp [List.take_left' (hf x)]
    | succ j =>
      rw [show k * (j + 1) = (f x).length + k * j by rw [hf]; ring, List.flatMap_cons, List.drop_append]
      exact ih j (by simpa using hj)


/-- The little-endian `uint32_t` at `off`. -/
def le32 (data : Nat → BitVec 8) (off : Nat) : BitVec 32 :=
  data (off + 3) ++ data (off + 2) ++ data (off + 1) ++ data off

def le32Bytes (v : BitVec 32) : List (BitVec 8) :=
  [v.extractLsb' 0 8, v.extractLsb' 8 8, v.extractLsb' 16 8, v.extractLsb' 24 8]

@[simp] theorem length_le32Bytes (v : BitVec 32) : (le32Bytes v).length = 4 := rfl

theorem contents_four (data : Nat → BitVec 8) (off : Nat) :
    Region.contents ⟨off, 4⟩ data = [data off, data (off + 1), data (off + 2), data (off + 3)] := rfl

theorem le32_congr {d₁ d₂ : Nat → BitVec 8} {o₁ o₂ : Nat}
    (h : Region.contents ⟨o₁, 4⟩ d₁ = Region.contents ⟨o₂, 4⟩ d₂) : le32 d₁ o₁ = le32 d₂ o₂ := by
  simp only [contents_four, List.cons.injEq, and_true] at h
  rw [le32, le32, h.1, h.2.1, h.2.2.1, h.2.2.2]

theorem le32_of_contents {data : Nat → BitVec 8} {off : Nat} {v : BitVec 32}
    (h : Region.contents ⟨off, 4⟩ data = le32Bytes v) : le32 data off = v := by
  simp only [contents_four, le32Bytes, List.cons.injEq, and_true] at h
  obtain ⟨h0, h1, h2, h3⟩ := h
  rw [le32, h0, h1, h2, h3]
  apply BitVec.eq_of_getLsbD_eq
  rintro ⟨i, hi⟩
  simp only [BitVec.getLsbD_append, BitVec.getLsbD_extractLsb']
  by_cases h0 : i < 8
  · simp only [h0, decide_True, zero_add, Bool.true_and, cond_true]
  by_cases h1 : i < 16
  · simp only [h0, decide_False, Bool.false_and, show i - 8 < 8 by omega, decide_True,
      show 8 + (i - 8) = i by omega, Bool.true_and, cond_true, cond_false]
  by_cases h2 : i < 24
  · simp only [h0, decide_False, Bool.false_and, show ¬i - 8 < 8 by omega, show i - 8 - 8 < 8 by omega,
      decide_True, show 16 + (i - 8 - 8) = i by omega, Bool.true_and, cond_true, cond_false]
  · simp only [h0, decide_False, Bool.false_and, show ¬i - 8 < 8 by omega, show ¬i - 8 - 8 < 8 by omega,
      show i - 8 - 8 - 8 < 8 by omega, decide_True, show 24 + (i - 8 - 8 - 8) = i by omega, Bool.true_and,
      cond_false]

/-- The eight bytes of a `struct gscvd_ro_range`: `offset`, then `size`. -/
def GscvdRoRange.bytes (r : GscvdRoRange) : List (BitVec 8) := le32Bytes r.offset ++ le32Bytes r.size

@[simp] theorem length_gscvdRoRange_bytes (r : GscvdRoRange) : r.bytes.length = 8 := rfl

/-- The `ranges` array of the header, as `memcpy` copies it. -/
def rangesBytes (ranges : List GscvdRoRange) : List (BitVec 8) := ranges.flatMap GscvdRoRange.bytes

@[simp] theorem length_rangesBytes (ranges : List GscvdRoRange) :
    (rangesBytes ranges).length = 8 * ranges.length := by
  induction ranges with
  | nil => rfl
  | cons r rs ih =>
    simp only [rangesBytes, List.flatMap_cons, List.length_append, length_gscvdRoRange_bytes] at ih ⊢
    rw [ih, List.length_cons]
    omega


/-- The `struct vb2_signature` `create_gvd` fills in: the signature's offset from the header
itself, its size, and the size of the data it signs. -/
structure Vb2SignatureHeader where
  sigOffset : BitVec 32
  sigSize : BitVec 32
  dataSize : BitVec 32
  deriving DecidableEq, Repr

/-- The fields of `struct gsc_verification_data` that `create_gvd` sets; the others stay as
`calloc` left them. -/
structure GscVerificationData where
  gvMagic : BitVec 32
  size : BitVec 32
  gscBoardId : BitVec 32
  rollbackCounter : BitVec 32
  fmapLocation : BitVec 32
  hashAlg : BitVec 32
  sigHeader : Vb2SignatureHeader
  rootKeyHeader : Vb2PackedKeyHeader
  rootKeyAlgorithm : BitVec 32
  rootKeyVersion : BitVec 32
  rangesDigest : Nat → BitVec 8
  rangeCount : BitVec 32

/-- The fields the validation reads, with the `sizeof(ranges_digest)` bytes of the digest. -/
def GscVerificationData.toHeader (L : GvdLayout) (g : GscVerificationData) : GvdHeader :=
  ⟨g.gvMagic, g.size, g.fmapLocation, g.hashAlg, g.rootKeyHeader,
    fun i => if i < L.digestSize then g.rangesDigest i else 0, g.rangeCount⟩

/-- What `gsc_ro.h` and `2crypto.h` fix and the tree does not hold: the bytes of a header,
read back as the header they encode; `GSC_VD_ROLLBACK_COUNTER`; and `VB2_HASH_SHA256`. -/
structure GvdFormat (L : GvdLayout) where
  encode : GscVerificationData → List (BitVec 8)
  decode : (Nat → BitVec 8) → GvdHeader
  rollbackCounter : BitVec 32
  hashSha256 : BitVec 32
  length_encode : ∀ g, (encode g).length = L.hdrSize
  decode_encode : ∀ g data, Region.contents ⟨0, L.hdrSize⟩ data = encode g → decode data = g.toHeader L

namespace GvdFormat

/-- The sample header's first 80 bytes as words, the root key's header at offset 64. -/
def sampleHead (g : GscVerificationData) : List (BitVec 32) :=
  [g.gvMagic, g.size, g.gscBoardId, g.rollbackCounter, g.fmapLocation, g.hashAlg,
    g.sigHeader.sigOffset, g.sigHeader.sigSize, g.sigHeader.dataSize, 0, 0, 0, 0, 0, 0, 0,
    g.rootKeyHeader.keyOffset, g.rootKeyHeader.keySize, g.rootKeyAlgorithm, g.rootKeyVersion]

def sampleEncode (g : GscVerificationData) : List (BitVec 8) :=
  (sampleHead g).flatMap le32Bytes ++ Region.contents ⟨0, 64⟩ g.rangesDigest ++
    [g.rangeCount, 0, 0, 0].flatMap le32Bytes

def sampleDecode (d : Nat → BitVec 8) : GvdHeader :=
  ⟨le32 d 0, le32 d 4, le32 d 16, le32 d 20, ⟨le32 d 64, le32 d 68⟩,
    fun i => if i < 64 then d (80 + i) else 0, le32 d 144⟩

theorem sampleDecode_encode (g : GscVerificationData) (d : Nat → BitVec 8)
    (h : Region.contents ⟨0, 160⟩ d = sampleEncode g) : sampleDecode d = g.toHeader .sample := by
  have hA : ((sampleHead g).flatMap le32Bytes).length = 80 := rfl
  have hB : (Region.contents ⟨0, 64⟩ g.rangesDigest).length = 64 := length_contents _ _
  rw [sampleEncode] at h
  have hcnt := contents_sub_of_contents h (a := 144) (m := 4) (by omega)
  rw [List.drop_left' (by rw [List.length_append, hA, hB])] at hcnt
  rw [List.append_assoc] at h
  have hdig := contents_sub_of_contents h (a := 80) (m := 64) (by omega)
  rw [List.drop_left' hA, List.take_left' hB, Nat.zero_add] at hdig
  have word : ∀ j (hj : j < 20), le32 d (4 * j) = (sampleHead g)[j] := fun j hj => by
    have hw := contents_sub_of_contents h (a := 4 * j) (m := 4) (by omega)
    rw [Nat.zero_add, List.drop_append_of_le_length (by omega),
      List.take_append_of_le_length (by rw [List.length_drop, hA]; omega),
      flatMap_drop_take le32Bytes (fun _ => rfl) (sampleHead g) j hj] at hw
    exact le32_of_contents hw
  simp only [sampleDecode, GscVerificationData.toHeader, GvdHeader.mk.injEq]
  refine ⟨word 0 (by omega), word 1 (by omega), word 4 (by omega), word 5 (by omega),
    by rw [word 16 (by omega), word 17 (by omega)]; rfl, ?_, le32_of_contents hcnt⟩
  funext i
  show (if i < 64 then d (80 + i) else 0) = if i < 64 then g.rangesDigest i else 0
  split_ifs with hi
  · exact (List.map_inj_left.mp hdig i (List.mem_range.mpr hi)).trans (by rw [Nat.zero_add])
  · rfl

/-- A header format for `GvdLayout.sample`, with `VB2_HASH_SHA256` = 2. -/
def sample : GvdFormat .sample where
  encode := sampleEncode
  decode := sampleDecode
  rollbackCounter := 1
  hashSha256 := 2
  length_encode _ := rfl
  decode_encode := sampleDecode_encode

end GvdFormat


/-- What `fmap_find_by_name` finds for `RO_GSCVD` and `WP_RO` in a mapped file, and the offset
of the FMAP `fmap_find` finds. -/
structure FmapLib where
  roGscvd : ApFile → Option FmapAreaHeader
  wpRo : ApFile → Option FmapAreaHeader
  fmapOffset : ApFile → Nat
  fmapOffset_lt : ∀ f, fmapOffset f < 2 ^ 32

/-- An FMAP at 0x400 of a 0x1000-byte file, `WP_RO` the whole file and `RO_GSCVD` its second
half. -/
def FmapLib.sample : FmapLib where
  roGscvd _ := some ⟨0x800, 0x800⟩
  wpRo _ := some ⟨0, 0x1000⟩
  fmapOffset _ := 0x400
  fmapOffset_lt _ := by norm_num

/-- `vb2_digest_init`, `vb2_digest_extend`, `vb2_digest_finalize` and `vb2_hash_verify` as
functions of the bytes handed to them. -/
structure DigestLib where
  init : BitVec 32 → Bool
  extend : List (List (BitVec 8)) → Bool
  finalize : List (List (BitVec 8)) → Option (Nat → BitVec 8)
  hashVerify : List (BitVec 8) → (Nat → BitVec 8) → Bool

def DigestLib.accepting : DigestLib where
  init _ := true
  extend _ := true
  finalize _ := some fun _ => 0
  hashVerify _ _ := true

/-- The file as `validate_gscvd` reads it through its casts. -/
def ApFile.image (M : FmapLib) {L : GvdLayout} (F : GvdFormat L) (f : ApFile) : ApImage where
  len := f.len
  roGscvd := M.roGscvd f
  wpRo := M.wpRo f
  fmapOffset := M.fmapOffset f
  gvdAt off := F.decode fun i => f.data (off + i)
  rangeAt off := ⟨le32 f.data off, le32 f.data (off + 4)⟩
  keyblockSizeAt off := le32 f.data (off + L.keyblockSizeOffset)

/-- The callbacks of a run over the bytes `data`, the hash functions reading those bytes. -/
def GscvdEnv.reading (E : GscvdEnv) (H : DigestLib) (data : Nat → BitVec 8) : GscvdEnv :=
  { E with
    digestInit := H.init
    digestExtend := fun rs => H.extend (rs.map (Region.contents · data))
    digestFinalize := fun rs => H.finalize (rs.map (Region.contents · data))
    hashVerify := fun r d => H.hashVerify (r.contents data) d }

theorem digestExtendLoop_reading (E₁ E₂ : GscvdEnv) (H : DigestLib) {d₁ d₂ : Nat → BitVec 8}
    (rs : List GscvdRoRange) (hr : ∀ r ∈ rs, r.region.contents d₁ = r.region.contents d₂)
    (handed : List Region) (hh : handed.map (Region.contents · d₁) = handed.map (Region.contents · d₂)) :
    digestExtendLoop (E₁.reading H d₁) handed rs = digestExtendLoop (E₂.reading H d₂) handed rs ∧
      (digestExtendLoop (E₁.reading H d₁) handed rs).2.map (Region.contents · d₁) =
        (digestExtendLoop (E₁.reading H d₁) handed rs).2.map (Region.contents · d₂) := by
  induction rs generalizing handed with
  | nil => exact ⟨rfl, hh⟩
  | cons r rs ih =>
    have hh' : (handed ++ [r.region]).map (Region.contents · d₁) =
        (handed ++ [r.region]).map (Region.contents · d₂) := by
      simp only [List.map_append, List.map_cons, List.map_nil, hh, hr r (.head _)]
    have hext : (E₁.reading H d₁).digestExtend (handed ++ [r.region]) =
        (E₂.reading H d₂).digestExtend (handed ++ [r.region]) := by
      simp only [GscvdEnv.reading, hh']
    simp only [digestExtendLoop, hext]
    split
    · exact ⟨rfl, hh'⟩
    · exact ih (fun q hq => hr q (.tail _ hq)) _ hh'

/-- The ranges digest is a function of the bytes of the ranges. -/
theorem calculateRangesDigest_reading (E₁ E₂ : GscvdEnv) (H : DigestLib) {d₁ d₂ : Nat → BitVec 8}
    (ranges : GscvdRoRanges) (alg : BitVec 32)
    (h : ∀ r ∈ ranges.ranges, r.region.contents d₁ = r.region.contents d₂) :
    calculateRangesDigest (E₁.reading H d₁) ranges alg =
      calculateRangesDigest (E₂.reading H d₂) ranges alg := by
  obtain ⟨hl, hc⟩ := digestExtendLoop_reading E₁ E₂ H ranges.ranges h [] rfl
  unfold calculateRangesDigest
  rw [← hl]
  have hfin : (E₁.reading H d₁).digestFinalize (digestExtendLoop (E₁.reading H d₁) [] ranges.ranges).2 =
      (E₂.reading H d₂).digestFinalize (digestExtendLoop (E₁.reading H d₁) [] ranges.ranges).2 :=
    congrArg H.finalize hc
  simp only [hfin]
  rfl

end Vboot
