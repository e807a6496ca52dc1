import Vboot.Gscvd.RangesText
import Vboot.Gscvd.Create

/-!
# The command line of `futility gscvd`

`do_gscvd` of `futility/cmd_gscvd.c`. Its loop takes what `getopt_long` returns (`GscvdOpt`)
into its locals (`GscvdOptions`); then it validates, refuses, or runs the creation on the work
file. `getopt_long` is the C library's: its results and `optind` are the model's inputs, and
the files are what `futil_open_and_map_file` maps by name.
-/
namespace Vboot


def ullongMax : Nat := 2 ^ 64 - 1

/-- `strtoull(nptr, &endptr, 16)`: the value, saturated at `ULLONG_MAX` and negated in
`unsigned long long` after a minus sign, and the characters from `*endptr` on. -/
def strtoull16 (nptr : List Char) : BitVec 64 × List Char :=
  let (neg, s) := strtolSign (nptr.dropWhile isCSpace)
  let (v, n, rest) := hexRun 0 (strtolHexPrefix s)
  if n = 0 then (0, nptr)
  else if v > ullongMax then (BitVec.ofNat 64 ullongMax, rest)
  else (if neg then -BitVec.ofNat 64 v else BitVec.ofNat 64 v, rest)

/-- The `-b` case: `bid = strtoull(optarg, &e, 16)` in a `long long`, refused when
`*e || (bid >= UINT32_MAX)`. -/
def boardIdArg (optarg : List Char) : Option (BitVec 32) :=
  let (u, e) := strtoull16 optarg
  if e ≠ [] ∨ u.toInt ≥ 0xffffffff then none else some (BitVec.ofInt 32 u.toInt)

theorem scan_printfHex (v : Nat) :
    strtolSign ((printfHex v).dropWhile isCSpace) = (false, printfHex v) ∧
      hexRun 0 (strtolHexPrefix (printfHex v)) = (v, (hexDigits v).length, []) := by
  obtain ⟨d, ds, hds, hz⟩ := hexDigits_head v
  have hrun := hexRun_digits (hexDigits v) (hexDigits_lt v) 0 [] nofun
  rw [List.append_nil, hexDigits_value, hds] at hrun
  obtain ⟨-, hsp, hm, hp, -, -, -, h0⟩ := hexDigitChar_spec d (hexDigits_lt v d (by simp [hds]))
  have hpre : strtolHexPrefix ((d :: ds).map hexDigitChar) = (d :: ds).map hexDigitChar := by
    by_cases hc : hexDigitChar d = '0'
    · have hds0 := hds
      simp only [hexDigits, if_pos (hz (h0 hc)), List.cons.injEq] at hds0
      rw [← hds0.2, List.map_singleton, hc]
      rfl
    · exact strtolHexPrefix_of_ne _ hc
  rw [printfHex, hds, List.map_cons, List.dropWhile_cons_of_neg (by simp [hsp]),
    strtolSign_of_ne _ hm hp, ← List.map_cons, hpre, hrun]
  exact ⟨rfl, rfl⟩

theorem hexDigits_length_pos (v : Nat) : (hexDigits v).length ≠ 0 := by
  obtain ⟨d, ds, h, -⟩ := hexDigits_head v
  simp [h]

theorem strtoull16_printfHex (v : Nat) :
    strtoull16 (printfHex v) =
      (if v > ullongMax then BitVec.ofNat 64 ullongMax else BitVec.ofNat 64 v, []) := by
  obtain ⟨hs, hr⟩ := scan_printfHex v
  simp only [strtoull16, hs, hr, if_neg (hexDigits_length_pos v)]
  split <;> rfl

theorem toInt_ofNat_64 {v : Nat} (hv : v ≤ ullongMax) :
    (BitVec.ofNat 64 v).toInt = if v < 2 ^ 63 then (v : Int) else v - 2 ^ 64 := by
  unfold ullongMax at hv
  rw [BitVec.toInt_eq_toNat_cond, BitVec.toNat_ofNat, Nat.mod_eq_of_lt (by omega)]
  split_ifs <;> first | rfl | omega

/-- The board id `-b` takes from `v` printed in hex: `v` below `UINT32_MAX`, nothing up to
`LLONG_MAX`, and past it, where the `long long` is negative, the low 32 bits of `v`. -/
theorem boardIdArg_printfHex (v : Nat) :
    boardIdArg (printfHex v) =
      (if v < 0xffffffff then some (BitVec.ofNat 32 v)
        else if v < 2 ^ 63 then none else some (BitVec.ofNat 32 (min v ullongMax))) ∧
    (v ≤ 2 ^ 63 → boardIdArg ('-' :: printfHex v) = some (BitVec.ofInt 32 (-v))) := by
  refine ⟨?_, fun hv => ?_⟩
  · simp only [boardIdArg, strtoull16_printfHex, ne_eq, not_true_eq_false, false_or]
    rcases Nat.lt_or_ge ullongMax v with hbig | hle
    · have h1 : (BitVec.ofNat 64 ullongMax).toInt = -1 := by decide
      have h2 : BitVec.ofInt 32 (-1) = BitVec.ofNat 32 ullongMax := by decide
      unfold ullongMax at hbig h1 h2 ⊢
      simp (disch := omega) only [if_pos, if_neg, h1, min_eq_right, h2]
    · rw [if_neg (Nat.not_lt.mpr hle), toInt_ofNat_64 hle]
      unfold ullongMax at hle ⊢
      rcases Nat.lt_or_ge v (2 ^ 63) with h63 | h63
      · rcases Nat.lt_or_ge v 0xffffffff with h32 | h32
        · simp (disch := omega) only [if_pos, if_neg, BitVec.ofInt_natCast]
        · simp (disch := omega) only [if_pos, if_neg]
      · simp (disch := omega) only [if_pos, if_neg, min_eq_left, Option.some.injEq]
        apply BitVec.eq_of_toNat_eq
        simp only [BitVec.toNat_ofInt, BitVec.toNat_ofNat]
        omega
  · obtain ⟨-, hr⟩ := scan_printfHex v
    have hneg : (-BitVec.ofNat 64 v).toInt = -v := by
      rw [BitVec.toInt_eq_toNat_cond, BitVec.toNat_neg, BitVec.toNat_ofNat]
      split_ifs <;> omega
    simp only [boardIdArg, strtoull16, List.dropWhile_cons_of_neg (by decide : ¬isCSpace '-' = true),
      strtolSign, hr, if_neg (hexDigits_length_pos v)]
    unfold ullongMax
    simp (disch := omega) only [if_neg, if_true, hneg, ne_eq, not_true_eq_false, false_or]

theorem boardIdArg_printfHex_sample :
    boardIdArg (printfHex 0x1234) = some 0x1234 ∧ boardIdArg ('-' :: printfHex 2) = some 0xfffffffe :=
  ⟨(boardIdArg_printfHex 0x1234).1.trans (by decide), (boardIdArg_printfHex 2).2 (by decide)⟩

theorem strtolSign_snd_subset (l : List Char) : (strtolSign l).2 ⊆ l := by
  unfold strtolSign
  split <;> simp

theorem strtoull16_no_digits {s : List Char} (h : ∀ c ∈ s, hexDigitVal c = none) :
    strtoull16 s = (0, s) := by
  have ht := fun c hc => h c ((List.dropWhile_suffix isCSpace).subset
    (strtolSign_snd_subset (s.dropWhile isCSpace) hc))
  rcases hs : strtolSign (s.dropWhile isCSpace) with ⟨neg, t⟩
  rw [hs] at ht
  have hpre : strtolHexPrefix t = t := by
    unfold strtolHexPrefix
    split
    · exact absurd (ht '0' (by simp)) (by decide)
    · rfl
  have hrun : (hexRun 0 t).2.1 = 0 := by
    cases t with
    | nil => rfl
    | cons c cs => simp [hexRun, ht c (by simp)]
  rcases hr : hexRun 0 t with ⟨v, n, rest⟩
  rw [hr] at hrun
  simp only [strtoull16, hs, hpre, hr]
  rw [if_pos hrun]

/-- `-b` refuses an argument with no hex digit, since `strtoull` leaves `e` at its start, except
the empty argument, which it takes as board id 0. -/
theorem boardIdArg_no_digits (s : List Char) (h : ∀ c ∈ s, hexDigitVal c = none) :
    boardIdArg s = if s = [] then some 0 else none := by
  cases s with
  | nil => rfl
  | cons c cs => simp [boardIdArg, strtoull16_no_digits h]

theorem boardIdArg_no_digits_sample : boardIdArg [] = some 0 ∧ boardIdArg "zz".toList = none :=
  ⟨(boardIdArg_no_digits [] (by decide)).trans rfl, (boardIdArg_no_digits _ (by decide)).trans rfl⟩


theorem parseRangesLoop_rangeCount_le (room : Nat) (cursor : List Char) (out : RangesOut) :
    (parseRangesLoop room cursor out).2.rangeCount ≤ out.rangeCount + room := by
  induction room generalizing cursor out with
  | zero => exact Nat.le_refl _
  | succ room ih =>
    unfold parseRangesLoop
    dsimp only
    split_ifs
    · exact Nat.le_add_right _ _
    · exact Nat.le_add_right _ _
    · split
      · simp only [RangesOut.setSize_rangeCount, RangesOut.setOffset_rangeCount]
        omega
      · refine (ih _ _).trans ?_
        simp only [RangesOut.setSize_rangeCount, RangesOut.setOffset_rangeCount]
        omega
    · exact Nat.le_add_right _ _

theorem parseRanges_rangeCount_le (strdupOk : Bool) (input : List Char) {out : RangesOut}
    (h : out.rangeCount ≤ maxRanges) : (parseRanges strdupOk input out).2.rangeCount ≤ maxRanges := by
  cases strdupOk with
  | false => exact h
  | true => simpa using parseRangesLoop_rangeCount_le maxRanges _ { out with rangeCount := 0 }

/-- The options of `do_gscvd` that take an argument, by the local they set: `--outfile`, `-R`,
`-b`, `-r`, `-k` and `-p`. -/
inductive GscvdArg
  | outfile
  | ranges
  | boardId
  | rootPubKey
  | keyblock
  | platformPrivateKey
  deriving DecidableEq, Repr

/-- What `getopt_long` returns to the loop: an option with its `optarg`, `h`, `?`, `:`, or 0 for
an option it handled itself. -/
inductive GscvdOpt
  | withArg (k : GscvdArg) (optarg : List Char)
  | help
  | unrecognized
  | missingArgument
  | handled
  deriving DecidableEq, Repr

/-- `vb2_read_packed_key`, `vb2_read_keyblock` and `vb2_read_private_key` of a file name, and
whether `strdup` finds memory in `parse_ranges`. -/
structure GscvdReaders where
  readPackedKey : List Char → Option Vb2PackedKey
  readKeyblock : List Char → Option Vb2Keyblock
  readPrivateKey : List Char → Option Vb2PrivateKey
  strdup : List Char → Bool

/-- The locals of `do_gscvd` that its loop sets. `ranges.range_count` stays within the array,
since `parse_ranges` stops at `MAX_RANGES`. -/
structure GscvdOptions where
  outfile : Option (List Char)
  ranges : RangesOut
  rangeCount_le : ranges.rangeCount ≤ maxRanges
  errorcount : Nat
  rootPubk : Option Vb2PackedKey
  kblock : Option Vb2Keyblock
  platPrivk : Option Vb2PrivateKey
  boardId : BitVec 32

/-- The locals before the loop, `board_id = UINT32_MAX`. -/
def GscvdOptions.init : GscvdOptions :=
  ⟨none, ⟨0, fun _ => ⟨0, 0⟩⟩, Nat.zero_le _, 0, none, none, none, 0xffffffff⟩

def GscvdOptions.count (o : GscvdOptions) (failed : Bool) : GscvdOptions :=
  { o with errorcount := o.errorcount + if failed then 1 else 0 }

/-- One turn of the loop of `do_gscvd`; `none` when `-h` prints the usage and returns 0. -/
def gscvdOption (R : GscvdReaders) (o : GscvdOptions) : GscvdOpt → Option GscvdOptions
  | .withArg .outfile optarg => some { o with outfile := some optarg }
  | .withArg .ranges optarg =>
    let p := parseRanges (R.strdup optarg) optarg o.ranges
    some ({ o with ranges := p.2, rangeCount_le := parseRanges_rangeCount_le _ _ o.rangeCount_le }.count
      (p.1 != 0))
  | .withArg .boardId optarg =>
    match boardIdArg optarg with
    | none => some (o.count true)
    | some b => some { o with boardId := b }
  | .withArg .rootPubKey optarg =>
    some ({ o with rootPubk := R.readPackedKey optarg }.count (R.readPackedKey optarg).isNone)
  | .withArg .keyblock optarg =>
    some ({ o with kblock := R.readKeyblock optarg }.count (R.readKeyblock optarg).isNone)
  | .withArg .platformPrivateKey optarg =>
    some ({ o with platPrivk := R.readPrivateKey optarg }.count (R.readPrivateKey optarg).isNone)
  | .help => none
  | .unrecognized => some (o.count true)
  | .missingArgument => some (o.count true)
  | .handled => some o

/-- The loop `while ((i = getopt_long(...)) != -1)` over what `getopt_long` returns. -/
def gscvdOptions (R : GscvdReaders) : GscvdOptions → List GscvdOpt → Option GscvdOptions
  | o, [] => some o
  | o, opt :: opts => (gscvdOption R o opt).bind (gscvdOptions R · opts)


def GscvdOpt.argOr (k : GscvdArg) (acc : Option (List Char)) : GscvdOpt → Option (List Char)
  | .withArg k' a => if k' = k then some a else acc
  | _ => acc

/-- The argument of the last option for `k` among `opts`, or `acc` when none is for `k`. -/
def lastArg (k : GscvdArg) (acc : Option (List Char)) (opts : List GscvdOpt) : Option (List Char) :=
  opts.foldl (fun acc x => x.argOr k acc) acc

def GscvdOpt.refused (R : GscvdReaders) : GscvdOpt → Bool
  | .withArg .outfile _ => false
  | .withArg .ranges optarg => (parseRanges (R.strdup optarg) optarg GscvdOptions.init.ranges).1 != 0
  | .withArg .boardId optarg => (boardIdArg optarg).isNone
  | .withArg .rootPubKey optarg => (R.readPackedKey optarg).isNone
  | .withArg .keyblock optarg => (R.readKeyblock optarg).isNone
  | .withArg .platformPrivateKey optarg => (R.readPrivateKey optarg).isNone
  | .help => false
  | .unrecognized => true
  | .missingArgument => true
  | .handled => false

/-- Two containers holding the same ranges: the same `range_count` and the same entries below
it. -/
def RangesOut.Agree (a b : RangesOut) : Prop :=
  a.rangeCount = b.rangeCount ∧ ∀ i < a.rangeCount, a.ranges i = b.ranges i

namespace RangesOut

variable {a b : RangesOut}

theorem Agree.setOffset (h : a.Agree b) (v : Int) : (a.setOffset v).Agree (b.setOffset v) :=
  ⟨h.1, fun i hi => by
    rw [setOffset_ranges_of_ne a v (Nat.ne_of_lt hi), setOffset_ranges_of_ne b v (h.1 ▸ Nat.ne_of_lt hi)]
    exact h.2 i hi⟩

theorem Agree.setSize (h : a.Agree b) (v : Int) : (a.setSize v).Agree (b.setSize v) :=
  ⟨h.1, fun i hi => by
    rw [setSize_ranges_of_ne a v (Nat.ne_of_lt hi), setSize_ranges_of_ne b v (h.1 ▸ Nat.ne_of_lt hi)]
    exact h.2 i hi⟩

theorem Agree.push (h : a.Agree b) (x y : Int) :
    Agree { (a.setOffset x).setSize y with rangeCount := a.rangeCount + 1 }
      { (b.setOffset x).setSize y with rangeCount := b.rangeCount + 1 } := by
  refine ⟨by rw [h.1], fun i hi => ?_⟩
  rcases Nat.lt_or_ge i a.rangeCount with hlt | hge
  · exact ((h.setOffset x).setSize y).2 i hlt
  · obtain rfl : i = a.rangeCount := by simp only at hi; omega
    show ((a.setOffset x).setSize y).ranges a.rangeCount = ((b.setOffset x).setSize y).ranges a.rangeCount
    rw [setSize_setOffset_self, h.1, setSize_setOffset_self]

theorem Agree.refl (a : RangesOut) : a.Agree a := ⟨rfl, fun _ _ => rfl⟩
theorem Agree.trans {a b c : RangesOut} (h₁ : a.Agree b) (h₂ : b.Agree c) : a.Agree c :=
  ⟨h₁.1.trans h₂.1, fun i hi => (h₁.2 i hi).trans (h₂.2 i (h₁.1 ▸ hi))⟩
end RangesOut

/-- `parse_ranges` reads nothing of the container past `range_count`. -/
theorem parseRangesLoop_agree (room : Nat) (cursor : List Char) {a b : RangesOut}
    (h : a.Agree b) :
    (parseRangesLoop room cursor a).1 = (parseRangesLoop room cursor b).1 ∧
      (parseRangesLoop room cursor a).2.Agree (parseRangesLoop room cursor b).2 := by
  induction room generalizing cursor a b with
  | zero => exact ⟨rfl, h⟩
  | succ room ih =>
    unfold parseRangesLoop
    dsimp only
    split_ifs
    · exact ⟨rfl, h.setOffset _⟩
    · exact ⟨rfl, (h.setOffset _).setSize _⟩
    · split
      · exact ⟨rfl, h.push _ _⟩
      · exact ih _ (h.push _ _)
    · exact ⟨rfl, h⟩

theorem parseRanges_true_agree (input : List Char) (a b : RangesOut) :
    (parseRanges true input a).1 = (parseRanges true input b).1 ∧
      (parseRanges true input a).2.Agree (parseRanges true input b).2 :=
  parseRangesLoop_agree _ _ ⟨rfl, nofun⟩

theorem parseRanges_fst (strdupOk : Bool) (input : List Char) (a b : RangesOut) :
    (parseRanges strdupOk input a).1 = (parseRanges strdupOk input b).1 := by
  cases strdupOk with
  | false => rfl
  | true => exact (parseRanges_true_agree input a b).1


section Loop

variable (R : GscvdReaders)

theorem gscvdOption_eq_none (o : GscvdOptions) (x : GscvdOpt) :
    gscvdOption R o x = none ↔ x = .help := by
  cases x with
  | withArg k a =>
    cases k <;> simp only [gscvdOption, reduceCtorEq, iff_false]
    split <;> simp
  | _ => simp [gscvdOption]

theorem gscvdOptions_eq_none (o : GscvdOptions) (opts : List GscvdOpt) :
    gscvdOptions R o opts = none ↔ GscvdOpt.help ∈ opts := by
  induction opts generalizing o with
  | nil => simp [gscvdOptions]
  | cons x opts ih =>
    rw [gscvdOptions, List.mem_cons]
    cases h : gscvdOption R o x with
    | none => simp [(gscvdOption_eq_none R o x).mp h]
    | some o' =>
      have hx : x ≠ .help := fun e => by simp [(gscvdOption_eq_none R o x).mpr e] at h
      simp [ih, Ne.symm hx]

theorem argOr_or (k : GscvdArg) (acc : Option (List Char)) (x : GscvdOpt) :
    x.argOr k acc = (x.argOr k none).or acc := by
  cases x <;> simp only [GscvdOpt.argOr] <;> (try split) <;> rfl

theorem lastArg_eq_or (k : GscvdArg) (acc : Option (List Char)) (opts : List GscvdOpt) :
    lastArg k acc opts = (lastArg k none opts).or acc := by
  induction opts generalizing acc with
  | nil => rfl
  | cons x opts ih =>
    show lastArg k (x.argOr k acc) opts = (lastArg k (x.argOr k none) opts).or acc
    rw [ih, ih (x.argOr k none), argOr_or, Option.or_assoc]

/-- What one turn of the loop leaves: an error for a refused option, and the local the option is
for set from its argument. -/
theorem gscvdOption_spec {o o' : GscvdOptions} {x : GscvdOpt} (h : gscvdOption R o x = some o') :
    o'.errorcount = o.errorcount + (if x.refused R then 1 else 0) ∧
    o'.outfile = (x.argOr .outfile none).or o.outfile ∧
    o'.rootPubk = ((x.argOr .rootPubKey none).map R.readPackedKey).getD o.rootPubk ∧
    o'.kblock = ((x.argOr .keyblock none).map R.readKeyblock).getD o.kblock ∧
    o'.platPrivk = ((x.argOr .platformPrivateKey none).map R.readPrivateKey).getD o.platPrivk ∧
    (x.refused R = false →
      o'.boardId = ((x.argOr .boardId none).bind boardIdArg).getD o.boardId ∧
      o'.ranges.Agree ((x.argOr .ranges none).elim o.ranges
        fun s => (parseRanges (R.strdup s) s GscvdOptions.init.ranges).2)) := by
  cases x with
  | withArg k a =>
    cases k
    case ranges =>
      obtain rfl := Option.some.inj h
      refine ⟨by simp [GscvdOptions.count, GscvdOpt.refused,
        parseRanges_fst (R.strdup a) a o.ranges GscvdOptions.init.ranges], rfl, rfl, rfl, rfl,
        fun hr => ⟨rfl, ?_⟩⟩
      have hs : R.strdup a = true := by
        by_contra hs
        simp [GscvdOpt.refused, Bool.eq_false_iff.mpr hs, parseRanges] at hr
      show (parseRanges (R.strdup a) a o.ranges).2.Agree
        (parseRanges (R.strdup a) a GscvdOptions.init.ranges).2
      rw [hs]
      exact (parseRanges_true_agree a o.ranges GscvdOptions.init.ranges).2
    case boardId =>
      simp only [gscvdOption] at h
      split at h <;> obtain rfl := Option.some.inj h <;> rename_i hb
      · simp [GscvdOptions.count, GscvdOpt.refused, GscvdOpt.argOr, hb]
      · simp [GscvdOpt.refused, GscvdOpt.argOr, hb, RangesOut.Agree.refl]
    all_goals
      obtain rfl := Option.some.inj h
      simp [GscvdOpt.refused, GscvdOpt.argOr, RangesOut.Agree.refl, GscvdOptions.count]
  | help => cases h
  | _ =>
    obtain rfl := Option.some.inj h
    simp [GscvdOptions.count, GscvdOpt.refused, GscvdOpt.argOr, RangesOut.Agree.refl]

theorem getD_map_or {α β : Type} (a b : Option α) (f : α → β) (c : β) :
    ((a.or b).map f).getD c = (a.map f).getD ((b.map f).getD c) := by
  cases a <;> rfl

theorem lastArg_mem {k : GscvdArg} {opts : List GscvdOpt} {s : List Char}
    (h : lastArg k none opts = some s) : GscvdOpt.withArg k s ∈ opts := by
  induction opts with
  | nil => cases h
  | cons x opts ih =>
    rw [show lastArg k none (x :: opts) = lastArg k (x.argOr k none) opts from rfl,
      lastArg_eq_or] at h
    cases hl : lastArg k none opts with
    | some s' => rw [hl] at h; cases h; exact .tail _ (ih hl)
    | none =>
      rw [hl] at h
      cases x with
      | withArg k' a =>
        simp only [Option.none_or, GscvdOpt.argOr] at h
        split at h
        · cases h; subst k'; exact .head _
        · cases h
      | _ => cases h

/-- What the loop leaves, from any locals: one error per refused option, and each local set by
the last option for it. -/
theorem gscvdOptions_spec {o o' : GscvdOptions} {opts : List GscvdOpt}
    (h : gscvdOptions R o opts = some o') :
    o'.errorcount = o.errorcount + opts.countP (·.refused R) ∧
    o'.outfile = (lastArg .outfile none opts).or o.outfile ∧
    o'.rootPubk = ((lastArg .rootPubKey none opts).map R.readPackedKey).getD o.rootPubk ∧
    o'.kblock = ((lastArg .keyblock none opts).map R.readKeyblock).getD o.kblock ∧
    o'.platPrivk = ((lastArg .platformPrivateKey none opts).map R.readPrivateKey).getD o.platPrivk ∧
    ((∀ x ∈ opts, x.refused R = false) →
      o'.boardId = ((lastArg .boardId none opts).bind boardIdArg).getD o.boardId ∧
      o'.ranges.Agree ((lastArg .ranges none opts).elim o.ranges
        fun s => (parseRanges (R.strdup s) s GscvdOptions.init.ranges).2)) := by
  induction opts generalizing o with
  | nil =>
    cases h
    exact ⟨rfl, rfl, rfl, rfl, rfl, fun _ => ⟨rfl, RangesOut.Agree.refl _⟩⟩
  | cons x opts ih =>
    obtain ⟨o₁, h₁, h⟩ := Option.bind_eq_some.mp h
    obtain ⟨he, hout, hrk, hkb, hpk, hacc⟩ := gscvdOption_spec R h₁
    obtain ⟨he', hout', hrk', hkb', hpk', hacc'⟩ := ih h
    have hl : ∀ k, lastArg k none (x :: opts) = (lastArg k none opts).or (x.argOr k none) :=
      fun k => lastArg_eq_or k _ opts
    refine ⟨?_, ?_, ?_, ?_, ?_, fun hall => ?_⟩
    · rw [he', he, List.countP_cons]
      omega
    · rw [hout', hout, hl, Option.or_assoc]
    · rw [hrk', hrk, hl, getD_map_or]
    · rw [hkb', hkb, hl, getD_map_or]
    · rw [hpk', hpk, hl, getD_map_or]
    obtain ⟨hb, hr⟩ := hacc (hall x (.head _))
    obtain ⟨hb', hr'⟩ := hacc' fun y hy => hall y (.tail _ hy)
    rw [hl, hl]
    constructor
    · rw [hb', hb]
      cases hlast : lastArg .boardId none opts with
      | none => rfl
      | some s =>
        have hs : (boardIdArg s).isSome := by
          simpa [GscvdOpt.refused] using hall _ (.tail _ (lastArg_mem hlast))
        obtain ⟨b, hb⟩ := Option.isSome_iff_exists.mp hs
        simp [hb]
    · cases hlast : lastArg .ranges none opts with
      | none =>
        rw [hlast] at hr'
        simpa using hr'.trans hr
      | some s => simpa [hlast] using hr'

theorem map_getD_none {α : Type} (f : List Char → Option α) (l : Option (List Char)) :
    (l.map f).getD none = l.bind f := by
  cases l <;> rfl

theorem gscvdOptions_outfile {opts : List GscvdOpt} {o : GscvdOptions}
    (h : gscvdOptions R .init opts = some o) : o.outfile = lastArg .outfile none opts := by
  simpa [GscvdOptions.init] using (gscvdOptions_spec R h).2.1

theorem gscvdOptions_accepted {opts : List GscvdOpt} {o : GscvdOptions}
    (h : gscvdOptions R .init opts = some o) (h0 : o.errorcount = 0) :
    ∀ x ∈ opts, x.refused R = false := by
  have hc : opts.countP (·.refused R) = 0 := by
    simpa [GscvdOptions.init, h0] using (gscvdOptions_spec R h).1.symm
  simpa using List.countP_eq_zero.mp hc

/-- The loop over every sequence of options: it stops at `-h`, or counts one error per refused
option and keeps what the last option of each kind gave. -/
theorem gscvdOptions_init (opts : List GscvdOpt) :
    (gscvdOptions R .init opts = none ↔ GscvdOpt.help ∈ opts) ∧
    ∀ o, gscvdOptions R .init opts = some o →
      o.errorcount = opts.countP (·.refused R) ∧
      o.outfile = lastArg .outfile none opts ∧
      o.rootPubk = (lastArg .rootPubKey none opts).bind R.readPackedKey ∧
      o.kblock = (lastArg .keyblock none opts).bind R.readKeyblock ∧
      o.platPrivk = (lastArg .platformPrivateKey none opts).bind R.readPrivateKey ∧
      (o.errorcount = 0 →
        o.boardId = ((lastArg .boardId none opts).bind boardIdArg).getD 0xffffffff ∧
        o.ranges.Agree ((lastArg .ranges none opts).elim GscvdOptions.init.ranges
          fun s => (parseRanges (R.strdup s) s GscvdOptions.init.ranges).2)) := by
  refine ⟨gscvdOptions_eq_none R _ opts, fun o h => ?_⟩
  obtain ⟨he, hout, hrk, hkb, hpk, hacc⟩ := gscvdOptions_spec R h
  exact ⟨by simpa [GscvdOptions.init] using he, gscvdOptions_outfile R h,
    hrk.trans (map_getD_none _ _), hkb.trans (map_getD_none _ _), hpk.trans (map_getD_none _ _),
    fun h0 => hacc (gscvdOptions_accepted R h h0)⟩

def GscvdReaders.sample : GscvdReaders :=
  ⟨fun _ => some Vb2PackedKey.sample, fun _ => some Vb2Keyblock.sample,
    fun _ => some Vb2PrivateKey.sample, fun _ => true⟩

/-- What `getopt_long` returns for `-R 0:800 -b 5 -r root.vbpubk -k kb.keyblock -p plat.vbprivk`. -/
def sampleOpts : List GscvdOpt :=
  [.withArg .ranges "0:800".toList, .withArg .boardId "5".toList,
    .withArg .rootPubKey "root.vbpubk".toList, .withArg .keyblock "kb.keyblock".toList,
    .withArg .platformPrivateKey "plat.vbprivk".toList]

set_option maxRecDepth 1000 in
theorem gscvdOptions_init_sample : ∃ o, gscvdOptions GscvdReaders.sample .init sampleOpts = some o ∧
    o.errorcount = 0 ∧ o.boardId = 5 := by
  have h : gscvdOptions GscvdReaders.sample .init sampleOpts =
      some ((gscvdOptions GscvdReaders.sample .init sampleOpts).getD .init) := rfl
  obtain ⟨he, -, -, -, -, hb⟩ := (gscvdOptions_init GscvdReaders.sample sampleOpts).2 _ h
  have h0 : ((gscvdOptions GscvdReaders.sample .init sampleOpts).getD .init).errorcount = 0 :=
    he.trans (by decide)
  exact ⟨_, h, h0, (hb h0).1.trans (by decide)⟩

end Loop

def RangesOut.toRanges (out : RangesOut) (h : out.rangeCount ≤ maxRanges) : GscvdRoRanges :=
  ⟨(List.range out.rangeCount).map out.ranges, by simpa using h⟩

theorem RangesOut.Agree.toRanges_eq {a b : RangesOut} (h : a.Agree b) (ha : a.rangeCount ≤ maxRanges)
    (hb : b.rangeCount ≤ maxRanges) : a.toRanges ha = b.toRanges hb := by
  simp only [RangesOut.toRanges, GscvdRoRanges.mk.injEq, ← h.1]
  exact List.map_congr_left fun i hi => h.2 i (List.mem_range.mp hi)



section Run

variable {L : GvdLayout} (F : GvdFormat L) (M : FmapLib) (K : Vb2Constants) (E₀ E : GscvdEnv)
  (H : DigestLib) (X : GvdCreateLib) (R : GscvdReaders)
  (parseDigest : List Char → Option (Nat → BitVec 8))

/-- `validate_gscvd(argc, argv)` on the files `fs`; `none` when `parse_digest_or_die` ends the
program. -/
def validateGscvdArgs (fs : List Char → Option ApFile) (argv : List (List Char)) : Option Int :=
  let digest : Option (Option (Nat → BitVec 8)) :=
    if argv.length > 1 then (parseDigest (argv.getD 1 [])).map some else some none
  digest.map fun d =>
    match fs (argv.getD 0 []) with
    | none => -1
    | some f => (validateGscvd L K (E.reading H f.data) (f.image M F) d).1

/-- The work file and the files before the creation: the `--outfile` copy of the input, or the
input; `none` when the copy ends the program. -/
def workFile (fs : List Char → Option ApFile) (infile : List Char) :
    Option (List Char) → Option ((List Char → Option ApFile) × List Char)
  | none => some (fs, infile)
  | some outfile => (fs infile).map fun f => (Function.update fs outfile (some f), outfile)

/-- `do_gscvd(argc, argv)` once `getopt_long` returned `opts`: its return value and the files
after it, or `none` when it ends the program. -/
def doGscvd (argv : List (List Char)) (opts : List GscvdOpt) (optind : Nat)
    (fs : List Char → Option ApFile) : Option (Int × (List Char → Option ApFile)) :=
  match gscvdOptions R .init opts with
  | none => some (0, fs)
  | some o =>
    if optind = 1 ∧ argv.length > 1 then
      (validateGscvdArgs F M K E H parseDigest fs (argv.drop 1)).map (·, fs)
    else if optind + 1 ≠ argv.length then some (1, fs)
    else if o.errorcount ≠ 0 ∨ o.ranges.rangeCount = 0 ∨ o.boardId = 0xffffffff then some (1, fs)
    else
      match o.rootPubk, o.kblock, o.platPrivk with
      | some rootPubk, some kblock, some privk =>
        (workFile fs (argv.getD optind []) o.outfile).map fun (fs, work) =>
          let (rv, file) := doGscvdCreate F M K E₀ H X (o.ranges.toRanges o.rangeCount_le) rootPubk
            kblock privk o.boardId (fs work)
          (rv, match file with
            | some f => Function.update fs work (some f)
            | none => fs)
      | _, _, _ => some (1, fs)

/-- `do_gscvd` leaves the files as they were, or runs the creation on the work file with the
locals the loop left. -/
theorem doGscvd_cases {argv : List (List Char)} {opts : List GscvdOpt} {optind : Nat}
    {fs fs' : List Char → Option ApFile} {rv : Int}
    (h : doGscvd F M K E₀ E H X R parseDigest argv opts optind fs = some (rv, fs')) :
    fs' = fs ∧ (GscvdOpt.help ∈ opts ∨ (optind = 1 ∧ argv.length > 1) ∨ rv = 1) ∨
      ∃ o rootPubk kblock privk fs₁ work, gscvdOptions R .init opts = some o ∧
        ¬(optind = 1 ∧ argv.length > 1) ∧ optind + 1 = argv.length ∧
        o.errorcount = 0 ∧ o.ranges.rangeCount ≠ 0 ∧ o.boardId ≠ 0xffffffff ∧
        o.rootPubk = some rootPubk ∧ o.kblock = some kblock ∧ o.platPrivk = some privk ∧
        workFile fs (argv.getD optind []) o.outfile = some (fs₁, work) ∧
        rv = (doGscvdCreate F M K E₀ H X (o.ranges.toRanges o.rangeCount_le) rootPubk kblock privk
          o.boardId (fs₁ work)).1 ∧
        fs' = match (doGscvdCreate F M K E₀ H X (o.ranges.toRanges o.rangeCount_le) rootPubk kblock
          privk o.boardId (fs₁ work)).2 with
          | some f => Function.update fs₁ work (some f)
          | none => fs₁ := by
  unfold doGscvd at h
  split at h
  · rename_i hn
    exact .inl ⟨(congrArg Prod.snd (Option.some.inj h)).symm,
      .inl ((gscvdOptions_eq_none R _ opts).mp hn)⟩
  rename_i o ho
  split_ifs at h with hv hn hg
  · obtain ⟨_, -, hr⟩ := Option.map_eq_some'.mp h
    exact .inl ⟨(congrArg Prod.snd hr).symm, .inr (.inl hv)⟩
  · exact .inl ⟨(congrArg Prod.snd (Option.some.inj h)).symm,
      .inr (.inr (congrArg Prod.fst (Option.some.inj h)).symm)⟩
  · exact .inl ⟨(congrArg Prod.snd (Option.some.inj h)).symm,
      .inr (.inr (congrArg Prod.fst (Option.some.inj h)).symm)⟩
  split at h
  · rename_i rootPubk kblock privk hrk hkb hpk
    obtain ⟨⟨fs₁, work⟩, hw, hr⟩ := Option.map_eq_some'.mp h
    simp only [not_or, not_not] at hg
    exact .inr ⟨o, rootPubk, kblock, privk, fs₁, work, ho, hv, not_not.mp hn, hg.1, hg.2.1, hg.2.2,
      hrk, hkb, hpk, hw, (congrArg Prod.fst hr).symm, (congrArg Prod.snd hr).symm⟩
  · exact .inl ⟨(congrArg Prod.snd (Option.some.inj h)).symm,
      .inr (.inr (congrArg Prod.fst (Option.some.inj h)).symm)⟩

theorem workFile_eq_some {fs fs₁ : List Char → Option ApFile} {infile work : List Char}
    {outfile : Option (List Char)} (h : workFile fs infile outfile = some (fs₁, work)) :
    work = outfile.getD infile ∧ fs₁ work = fs infile ∧ ∀ n, n ≠ work → fs₁ n = fs n := by
  cases outfile with
  | none => cases h; exact ⟨rfl, rfl, fun _ _ => rfl⟩
  | some out =>
    obtain ⟨f, hf, hr⟩ := Option.map_eq_some'.mp h
    cases hr
    exact ⟨rfl, by rw [Function.update_same, hf], fun n hn => Function.update_noteq hn _ _⟩

/-- A run that returns 0 left the files as they were, or signed the work file and wrote it
back. -/
theorem doGscvd_eq_zero {argv : List (List Char)} {opts : List GscvdOpt} {optind : Nat}
    {fs fs' : List Char → Option ApFile}
    (h : doGscvd F M K E₀ E H X R parseDigest argv opts optind fs = some (0, fs')) :
    fs' = fs ∧ (GscvdOpt.help ∈ opts ∨ (optind = 1 ∧ argv.length > 1)) ∨
      ∃ o rootPubk kblock privk fs₁ work f f', gscvdOptions R .init opts = some o ∧
        ¬(optind = 1 ∧ argv.length > 1) ∧ optind + 1 = argv.length ∧
        o.errorcount = 0 ∧ o.ranges.rangeCount ≠ 0 ∧ o.boardId ≠ 0xffffffff ∧
        o.rootPubk = some rootPubk ∧ o.kblock = some kblock ∧ o.platPrivk = some privk ∧
        workFile fs (argv.getD optind []) o.outfile = some (fs₁, work) ∧ fs₁ work = some f ∧
        doGscvdCreate F M K E₀ H X (o.ranges.toRanges o.rangeCount_le) rootPubk kblock privk
          o.boardId (some f) = (0, some f') ∧
        fs' = Function.update fs₁ work (some f') := by
  rcases doGscvd_cases F M K E₀ E H X R parseDigest h with ⟨hfs, hh | hv | h1⟩ |
    ⟨o, rootPubk, kblock, privk, fs₁, work, ho, hv, hn, he, hrc, hb, hrk, hkb, hpk, hw, hrv, hfs⟩
  · exact .inl ⟨hfs, .inl hh⟩
  · exact .inl ⟨hfs, .inr hv⟩
  · exact absurd h1 (by decide)
  rcases doGscvdCreate_cases F M K E₀ H X (o.ranges.toRanges o.rangeCount_le) rootPubk kblock privk
    o.boardId (fs₁ work) with h1 | ⟨f, -, -, -, f', hf, -, -, -, -, -, -, h0⟩
  · rw [h1] at hrv
    simp at hrv
  rw [hf] at h0
  rw [hf, h0] at hfs
  exact .inr ⟨o, rootPubk, kblock, privk, fs₁, work, f, f', ho, hv, hn, he, hrc, hb, hrk, hkb, hpk, hw,
    hf, h0, hfs⟩

/-- `do_gscvd` changes a file only when it runs the creation, and then only the work file. -/
theorem doGscvd_files {argv : List (List Char)} {opts : List GscvdOpt} {optind : Nat}
    {fs fs' : List Char → Option ApFile} {rv : Int}
    (h : doGscvd F M K E₀ E H X R parseDigest argv opts optind fs = some (rv, fs'))
    (name : List Char) (hne : fs' name ≠ fs name) :
    GscvdOpt.help ∉ opts ∧ ¬(optind = 1 ∧ argv.length > 1) ∧ optind + 1 = argv.length ∧
      (∀ x ∈ opts, x.refused R = false) ∧
      name = (lastArg .outfile none opts).getD (argv.getD optind []) := by
  rcases doGscvd_cases F M K E₀ E H X R parseDigest h with ⟨rfl, -⟩ |
    ⟨o, _, _, _, fs₁, work, ho, hv, hn, he, -, -, -, -, -, hw, -, hfs⟩
  · exact absurd rfl hne
  obtain ⟨rfl, -, hfr⟩ := workFile_eq_some hw
  refine ⟨fun hh => (nomatch ho.symm.trans ((gscvdOptions_eq_none R _ opts).mpr hh)), hv, hn,
    gscvdOptions_accepted R ho he, ?_⟩
  rw [← gscvdOptions_outfile R ho]
  by_contra hw'
  apply hne
  rw [hfs, ← hfr name hw']
  split
  · exact Function.update_noteq hw' _ _
  · rfl

/-- `futility gscvd` with the sample options and the file `ap.bin`, as `getopt_long` leaves
`argv`. -/
def sampleArgv : List (List Char) :=
  ["gscvd", "-R", "0:800", "-b", "5", "-r", "root.vbpubk", "-k", "kb.keyblock", "-p",
    "plat.vbprivk", "ap.bin"].map String.toList

def sampleFiles (name : List Char) : Option ApFile :=
  if name = "ap.bin".toList then some ApFile.blank else none

def sampleCommand : Option (Int × (List Char → Option ApFile)) :=
  doGscvd GvdFormat.sample FmapLib.sample Vb2Constants.sample GscvdEnv.accepting GscvdEnv.accepting
    DigestLib.accepting GvdCreateLib.sample GscvdReaders.sample (fun _ => none) sampleArgv sampleOpts
    11 sampleFiles

set_option maxRecDepth 2000 in
theorem doGscvd_files_sample :
    GscvdOpt.help ∉ sampleOpts ∧ ¬(11 = 1 ∧ sampleArgv.length > 1) ∧ 11 + 1 = sampleArgv.length ∧
      (∀ x ∈ sampleOpts, x.refused GscvdReaders.sample = false) ∧
      "ap.bin".toList = (lastArg .outfile none sampleOpts).getD (sampleArgv.getD 11 []) :=
  have h : sampleCommand = some (0, (sampleCommand.map (·.2)).getD sampleFiles) := rfl
  doGscvd_files GvdFormat.sample FmapLib.sample Vb2Constants.sample GscvdEnv.accepting
    GscvdEnv.accepting DigestLib.accepting GvdCreateLib.sample GscvdReaders.sample (fun _ => none) h
    "ap.bin".toList fun e => absurd (congrArg (Option.map (·.data 0x800)) e) (by decide)

/-- A signing run that returns 0 wrote over the input what the creation made of it with the last
value of each option. -/
theorem doGscvd_signs {argv : List (List Char)} {opts : List GscvdOpt} {optind : Nat}
    {fs fs' : List Char → Option ApFile}
    (h : doGscvd F M K E₀ E H X R parseDigest argv opts optind fs = some (0, fs'))
    (hh : GscvdOpt.help ∉ opts) (hv : ¬(optind = 1 ∧ argv.length > 1)) :
    ∃ rs rootPubk kblock privk b f f',
      lastArg .ranges none opts = some rs ∧
      (parseRanges (R.strdup rs) rs GscvdOptions.init.ranges).1 = 0 ∧
      (lastArg .rootPubKey none opts).bind R.readPackedKey = some rootPubk ∧
      (lastArg .keyblock none opts).bind R.readKeyblock = some kblock ∧
      (lastArg .platformPrivateKey none opts).bind R.readPrivateKey = some privk ∧
      (lastArg .boardId none opts).bind boardIdArg = some b ∧ b ≠ 0xffffffff ∧
      fs (argv.getD optind []) = some f ∧
      doGscvdCreate F M K E₀ H X ((parseRanges (R.strdup rs) rs GscvdOptions.init.ranges).2.toRanges
        (parseRanges_rangeCount_le _ _ (Nat.zero_le _))) rootPubk kblock privk b (some f) =
          (0, some f') ∧
      fs' ((lastArg .outfile none opts).getD (argv.getD optind [])) = some f' := by
  rcases doGscvd_eq_zero F M K E₀ E H X R parseDigest h with ⟨-, hh' | hv'⟩ |
    ⟨o, rootPubk, kblock, privk, fs₁, work, f, f', ho, -, -, he, hc, hb, hrk, hkb, hpk, hw, hf, hres,
      hfs⟩
  · exact absurd hh' hh
  · exact absurd hv' hv
  obtain ⟨hwork, hf₁, -⟩ := workFile_eq_some hw
  obtain ⟨-, -, hrk', hkb', hpk', hacc⟩ := gscvdOptions_spec R ho
  have hall := gscvdOptions_accepted R ho he
  obtain ⟨hbid, hag⟩ := hacc hall
  cases hl : lastArg .ranges none opts with
  | none =>
    rw [hl] at hag
    exact absurd hag.1 hc
  | some rs =>
    rw [hl] at hag
    have hrs : (parseRanges (R.strdup rs) rs GscvdOptions.init.ranges).1 = 0 := by
      simpa [GscvdOpt.refused] using hall _ (lastArg_mem hl)
    have hbb : (lastArg .boardId none opts).bind boardIdArg = some o.boardId := by
      cases hx : (lastArg .boardId none opts).bind boardIdArg with
      | none => rw [hx] at hbid; exact absurd hbid hb
      | some b => rw [hx] at hbid; rw [hbid]; rfl
    rw [hag.toRanges_eq o.rangeCount_le (parseRanges_rangeCount_le _ _ (Nat.zero_le _))] at hres
    refine ⟨rs, rootPubk, kblock, privk, o.boardId, f, f', rfl, hrs,
      (map_getD_none _ _).symm.trans (hrk'.symm.trans hrk),
      (map_getD_none _ _).symm.trans (hkb'.symm.trans hkb),
      (map_getD_none _ _).symm.trans (hpk'.symm.trans hpk), hbb, hb, hf₁ ▸ hf, hres, ?_⟩
    rw [← gscvdOptions_outfile R ho, ← hwork, hfs]
    exact Function.update_same _ _ _

set_option maxRecDepth 2000 in
theorem doGscvd_signs_sample :
    ∃ b f', (lastArg .boardId none sampleOpts).bind boardIdArg = some b ∧ b ≠ 0xffffffff ∧
      (sampleCommand.map (·.2)).getD sampleFiles "ap.bin".toList = some f' :=
  have h : sampleCommand = some (0, (sampleCommand.map (·.2)).getD sampleFiles) := rfl
  have hs := doGscvd_signs GvdFormat.sample FmapLib.sample Vb2Constants.sample GscvdEnv.accepting
    GscvdEnv.accepting DigestLib.accepting GvdCreateLib.sample GscvdReaders.sample (fun _ => none) h
    (by decide) (by decide)
  let ⟨_, _, _, _, b, _, f', _, _, _, _, _, hb, hb', _, _, hw⟩ := hs
  ⟨b, f', hb, hb', hw⟩

end Run

end Vboot
