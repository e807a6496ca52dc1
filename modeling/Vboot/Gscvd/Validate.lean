import Vboot.GscvdRanges
import Vboot.Workbuf

/-!
# Validating the GSC verification data of an AP firmware image

`validate_gscvd` of `futility/cmd_gscvd.c` and the functions it calls. A run returns the value
of `validate_gscvd` and, in order, every region of the mapped image that it reads itself or
hands to a callee. `gsc_ro.h`, `struct vb2_keyblock`, `fmap.h` and the vb2 hash, key and
keyblock functions are not in the tree: the image is the structures it holds at each offset
(`ApImage`), the header's layout is a parameter (`GvdLayout`), and the functions outside the
tree answer anything (`GscvdEnv`).
-/
namespace Vboot

/-- `size` bytes of the image from `offset`. -/
structure Region where
  offset : Nat
  size : Nat
  deriving DecidableEq, Repr

/-- The fields of `struct gsc_verification_data` that the validation reads. -/
inductive GvdField
  | gvMagic | size | fmapLocation | hashAlg | rangesDigest | rootKeyHeader | sigHeader | rangeCount
  deriving DecidableEq, Repr

/-- `sizeof(struct gsc_verification_data)`, where the array `ranges` starts; the offset and size
of each field, inside the header; `offsetof(struct vb2_keyblock, keyblock_size)`; and
`GSC_VD_MAGIC`. -/
structure GvdLayout where
  hdrSize : Nat
  fieldAt : GvdField → Region
  keyblockSizeOffset : Nat
  magic : BitVec 32
  fieldAt_inside : ∀ f, (fieldAt f).offset + (fieldAt f).size ≤ hdrSize

namespace GvdLayout

variable (L : GvdLayout)

def rootKeyHeaderOffset : Nat := (L.fieldAt .rootKeyHeader).offset

def sigHeaderOffset : Nat := (L.fieldAt .sigHeader).offset

def digestSize : Nat := (L.fieldAt .rangesDigest).size

def fieldRegion (off : Nat) (f : GvdField) : Region :=
  ⟨off + (L.fieldAt f).offset, (L.fieldAt f).size⟩

theorem rootKeyHeaderOffset_le : L.rootKeyHeaderOffset ≤ L.hdrSize :=
  Nat.le_of_add_right_le (L.fieldAt_inside .rootKeyHeader)

theorem sigHeaderOffset_le : L.sigHeaderOffset ≤ L.hdrSize :=
  Nat.le_of_add_right_le (L.fieldAt_inside .sigHeader)

end GvdLayout

structure Vb2PackedKeyHeader where
  keyOffset : BitVec 32
  keySize : BitVec 32
  deriving DecidableEq, Repr

/-- The fields of `struct gsc_verification_data` that the validation reads. `size` is
the `uint32_t` `parent_size` that `validate_gvd` passes it as. -/
structure GvdHeader where
  gvMagic : BitVec 32
  size : BitVec 32
  fmapLocation : BitVec 32
  hashAlg : BitVec 32
  rootKeyHeader : Vb2PackedKeyHeader
  rangesDigest : Nat → BitVec 8
  rangeCount : BitVec 32

/-- An AP firmware image once mapped: `file->len`, the `RO_GSCVD` and `WP_RO` areas
`fmap_find_by_name` finds, the offset of the FMAP, and the structures at each offset. -/
structure ApImage where
  len : BitVec 32
  roGscvd : Option FmapAreaHeader
  wpRo : Option FmapAreaHeader
  fmapOffset : Nat
  gvdAt : Nat → GvdHeader
  rangeAt : Nat → GscvdRoRange
  keyblockSizeAt : Nat → BitVec 32

/-- What a region of the image is read as: a field of `*gvd`; `gvd->ranges`, copied by
`copy_ranges`; a range handed to `vb2_digest_extend`; the root key body handed to
`vb2_hash_verify`; `kblock->keyblock_size` and the keyblock `validate_pubk_signature` copies;
and the header and ranges handed to `vb2_verify_data`. -/
inductive GscvdRead
  | field (f : GvdField)
  | ranges
  | rangeData
  | rootKeyBody
  | keyblockSize
  | keyblock
  | signedData
  deriving DecidableEq, Repr

def GvdLayout.fieldRead (L : GvdLayout) (off : Nat) (f : GvdField) : GscvdRead × Region :=
  (.field f, L.fieldRegion off f)

/-- The answers of the functions outside the tree, `vb2_digest_extend` given every region
handed to it so far, and the buffers the two `malloc` calls of `init_wb` return. -/
structure GscvdEnv where
  signatureInside : GvdHeader → Bool
  packedKeyInside : GvdHeader → Bool
  digestInit : BitVec 32 → Bool
  digestExtend : List Region → Bool
  digestFinalize : List Region → Option (Nat → BitVec 8)
  hashVerify : Region → (Nat → BitVec 8) → Bool
  unpackRootKey : Bool
  unpackDataKey : Bool
  mallocPubk : Option Nat
  mallocGvd : Bool
  verifyKeyblock : Bool
  verifyData : BitVec 32

def GvdLayout.sample : GvdLayout where
  hdrSize := 160
  fieldAt
    | .gvMagic => ⟨0, 4⟩
    | .size => ⟨4, 4⟩
    | .fmapLocation => ⟨16, 4⟩
    | .hashAlg => ⟨20, 4⟩
    | .sigHeader => ⟨24, 12⟩
    | .rootKeyHeader => ⟨64, 16⟩
    | .rangesDigest => ⟨80, 64⟩
    | .rangeCount => ⟨144, 4⟩
  keyblockSizeOffset := 16
  magic := 0x5253564f
  fieldAt_inside f := by cases f <;> decide

def GscvdEnv.accepting : GscvdEnv where
  signatureInside _ := true
  packedKeyInside _ := true
  digestInit _ := true
  digestExtend _ := true
  digestFinalize _ := some fun _ => 0
  hashVerify _ _ := true
  unpackRootKey := true
  unpackDataKey := true
  mallocPubk := some 0
  mallocGvd := true
  verifyKeyblock := true
  verifyData := 0

def FmapAreaHeader.region (a : FmapAreaHeader) : Region := ⟨a.areaOffset.toNat, a.areaSize.toNat⟩

/-- The region a range covers, as `vb2_digest_extend` gets it, in unbounded naturals. -/
def GscvdRoRange.region (r : GscvdRoRange) : Region := ⟨r.offset.toNat, r.size.toNat⟩

def Region.Within (r s : Region) : Prop := s.offset ≤ r.offset ∧ r.offset + r.size ≤ s.offset + s.size

instance (r s : Region) : Decidable (r.Within s) := inferInstanceAs (Decidable (_ ∧ _))

def ApImage.whole (img : ApImage) : Region := ⟨0, img.len.toNat⟩

def ApImage.AreasInside (img : ApImage) : Prop :=
  (∀ a ∈ img.roGscvd, a.region.Within img.whole) ∧ ∀ a ∈ img.wpRo, a.region.Within img.whole

instance (img : ApImage) : Decidable img.AreasInside := inferInstanceAs (Decidable (_ ∧ _))

section Model

variable (L : GvdLayout) (K : Vb2Constants) (E : GscvdEnv)

/-- `validate_gvd` on the header `gvd`: its value, and the fields it reads before it returns,
itself or through `vb2_verify_signature_inside` and `vb2_verify_packed_key_inside`. -/
def validateGvd (img : ApImage) (gvd : GvdHeader) : Int × List GvdField :=
  if gvd.gvMagic ≠ L.magic then (-1, [.gvMagic])
  else if gvd.rangeCount = 0 ∨ gvd.rangeCount.toNat > maxRanges then (-1, [.gvMagic, .rangeCount])
  else if gvd.fmapLocation.toNat ≠ img.fmapOffset then (-1, [.gvMagic, .rangeCount, .fmapLocation])
  else if !E.signatureInside gvd then
    (-1, [.gvMagic, .rangeCount, .fmapLocation, .size, .sigHeader])
  else if !E.packedKeyInside gvd then
    (-1, [.gvMagic, .rangeCount, .fmapLocation, .size, .sigHeader, .rootKeyHeader])
  else (0, [.gvMagic, .rangeCount, .fmapLocation, .size, .sigHeader, .rootKeyHeader])

theorem rangeCount_le_of_validateGvd {img : ApImage} {gvd : GvdHeader}
    (h : (validateGvd L E img gvd).1 = 0) : gvd.rangeCount.toNat ≤ maxRanges := by
  by_contra hc
  unfold validateGvd at h
  split_ifs at h <;> simp_all

/-- `copy_ranges` up to its call of `verify_ranges`: the `range_count` entries after the
header, fewer than the array holds because `validate_gvd` accepted the header. -/
def copyRanges (img : ApImage) (gvdOffset : Nat) (gvd : GvdHeader)
    (h : gvd.rangeCount.toNat ≤ maxRanges) : GscvdRoRanges :=
  ⟨(List.range gvd.rangeCount.toNat).map fun i => img.rangeAt (gvdOffset + L.hdrSize + 8 * i),
    by simpa using h⟩

/-- The loop of `calculate_ranges_digest`: whether every `vb2_digest_extend` succeeded, and
every region handed to it. -/
def digestExtendLoop (handed : List Region) : List GscvdRoRange → Bool × List Region
  | [] => (true, handed)
  | r :: rest =>
    let handed := handed ++ [r.region]
    if !E.digestExtend handed then (false, handed) else digestExtendLoop handed rest

/-- `calculate_ranges_digest`: its value, the regions handed to `vb2_digest_extend`, and
`digest` as it leaves it. -/
def calculateRangesDigest (ranges : GscvdRoRanges) (hashAlg : BitVec 32) :
    Int × List Region × (Nat → BitVec 8) :=
  if !E.digestInit hashAlg then (1, [], fun _ => 0)
  else
    let (ok, handed) := digestExtendLoop E [] ranges.ranges
    if !ok then (-1, handed, fun _ => 0)
    else
      match E.digestFinalize handed with
      | none => (-1, handed, fun _ => 0)
      | some digest => (0, handed, digest)

/-- `validate_pubk_signature` on the root key header and the keyblock at offset `kblock`:
its value and the regions it reads. The work buffer is `init_wb(&wb, 8192)`. -/
def validatePubkSignature (img : ApImage) (kblock : Nat) : Int × List (GscvdRead × Region) :=
  if !E.unpackRootKey then (-1, [])
  else
    match E.mallocPubk with
    | none => (-1, [])
    | some buf =>
      let wb := vb2WorkbufInit K buf 8192
      let kbsize := img.keyblockSizeAt kblock
      let reads := [(GscvdRead.keyblockSize, Region.mk (kblock + L.keyblockSizeOffset) 4)]
      match vb2WorkbufAlloc K wb kbsize with
      | (none, _) => (-1, reads)
      | (some _, _) =>
        let reads := reads ++ [(.keyblock, ⟨kblock, kbsize.toNat⟩)]
        if !E.verifyKeyblock then (-1, reads) else (0, reads)

/-- `validate_gvd_signature` on the header at `gvdOffset`: its value and the region it
hands to `vb2_verify_data`, the header and its `range_count` ranges. -/
def validateGvdSignature (gvdOffset : Nat) (gvd : GvdHeader) : Int × List (GscvdRead × Region) :=
  if !E.unpackDataKey then (-1, [])
  else if !E.mallocGvd then (-1, [])
  else (E.verifyData.toInt, [(.signedData, ⟨gvdOffset, L.hdrSize + 8 * gvd.rangeCount.toNat⟩)])

/-- The region of the root key body that `vb2_packed_key_data(&gvd->root_key_header)`
points to, for the header at `gvdOffset`. -/
def rootKeyBody (gvdOffset : Nat) (gvd : GvdHeader) : Region :=
  ⟨gvdOffset + L.rootKeyHeaderOffset + gvd.rootKeyHeader.keyOffset.toNat,
    gvd.rootKeyHeader.keySize.toNat⟩

/-- `validate_gscvd` after the ranges digest matched: the root key digest check when a
digest was given, then the two signature checks, for the header at `gvdOffset`. -/
def validateGscvdKeys (img : ApImage) (rootKeyDigest : Option (Nat → BitVec 8))
    (gvdOffset : Nat) (gvd : GvdHeader) : Int × List (GscvdRead × Region) :=
  let kblock := gvdOffset + gvd.size.toNat
  let (ok, reads) : Bool × List (GscvdRead × Region) := match rootKeyDigest with
    | none => (true, [])
    | some digest =>
      (E.hashVerify (rootKeyBody L gvdOffset gvd) digest, [(.rootKeyBody, rootKeyBody L gvdOffset gvd)])
  if !ok then (-1, reads)
  else
    let (rv, rd) := validatePubkSignature L K E img kblock
    let reads := reads ++ rd
    if rv ≠ 0 then (-1, reads)
    else
      let (rv, rd) := validateGvdSignature L E gvdOffset gvd
      let reads := reads ++ rd
      if rv ≠ 0 then (-1, reads) else (0, reads)

/-- `validate_gscvd` on a mapped image, with the root key digest of `argv[1]` when
`argc > 1`: its value and every region it reads or hands to a callee, in order. A field of
the header is logged where it is first read. -/
def validateGscvd (img : ApImage) (rootKeyDigest : Option (Nat → BitVec 8)) :
    Int × List (GscvdRead × Region) :=
  match img.roGscvd with
  | none => (-1, [])
  | some roGscvd =>
    let off := roGscvd.areaOffset.toNat
    let gvd := img.gvdAt off
    let reads := (validateGvd L E img gvd).2.map (L.fieldRead off)
    if hv : (validateGvd L E img gvd).1 ≠ 0 then (-1, reads)
    else
      let ranges := copyRanges L img off gvd (rangeCount_le_of_validateGvd L E (not_not.mp hv))
      let reads := reads ++ [(.ranges, ⟨off + L.hdrSize, 8 * gvd.rangeCount.toNat⟩)]
      if verifyRanges ranges img.wpRo roGscvd ≠ 0 then (-1, reads)
      else
        let (rv, handed, digest) := calculateRangesDigest E ranges gvd.hashAlg
        let reads := reads ++ L.fieldRead off .hashAlg :: handed.map (GscvdRead.rangeData, ·)
        if rv ≠ 0 then (-1, reads)
        else
          let reads := reads ++ [L.fieldRead off .rangesDigest]
          if ¬ ∀ i < L.digestSize, digest i = gvd.rangesDigest i then (-1, reads)
          else
            let (rv, rd) := validateGscvdKeys L K E img rootKeyDigest off gvd
            (rv, reads ++ rd)

end Model

end Vboot
