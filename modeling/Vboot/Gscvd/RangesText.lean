import Vboot.Gscvd.ParseRanges
import Mathlib.Data.Nat.Digits

/-!
# The text `parse_ranges` reads

The usage text of `futility gscvd` gives the `-R` argument as `"%x:%x"` items joined by
commas. Three things are settled here.

* Text written that way is read back: for 1 to `MAX_RANGES` pairs of `uint32_t`, printed with
  `printf("%x")`, `parse_ranges` returns 0 and holds exactly those pairs. The proof follows
  the digits one at a time through `strtol` and the items one at a time through the loop.
* What the loop accepts, for every string: the items of its comma split, at most
  `MAX_RANGES` of them, each a colon with one whole `strtol` numeral on either side
  (`ItemAccepted`), stored one range per item.
* That is more than the usage text's format. `strtol` takes a sign, an empty field converts
  to 0, and a value past 32 bits is cut to the `uint32_t` field. `usageRanges` reads the
  usage text's words, for comparison.
-/
namespace Vboot


def hexDigitChar (d : Nat) : Char :=
  Char.ofNat (if d < 10 then '0'.toNat + d else 'a'.toNat + d - 10)

/-- The base-16 digits `%x` writes for `v`: most significant first, no leading zero, and a
single `0` for zero. -/
def hexDigits (v : Nat) : List Nat :=
  if v = 0 then [0] else (Nat.digits 16 v).reverse

/-- `printf("%x", v)`. -/
def printfHex (v : Nat) : List Char := (hexDigits v).map hexDigitChar

/-- The item `"%x:%x"` of one range. -/
def rangeItem (p : BitVec 32 × BitVec 32) : List Char :=
  printfHex p.1.toNat ++ ':' :: printfHex p.2.toNat

def formatRanges : List (BitVec 32 × BitVec 32) → List Char
  | [] => []
  | [p] => rangeItem p
  | p :: q :: ps => rangeItem p ++ ',' :: formatRanges (q :: ps)

/-- What a digit `%x` writes is to `strtol` and to the loop: its own value, and no white space,
sign, separator or NUL. -/
theorem hexDigitChar_spec : ∀ d, d < 16 →
    hexDigitVal (hexDigitChar d) = some d ∧ isCSpace (hexDigitChar d) = false ∧
      hexDigitChar d ≠ '-' ∧ hexDigitChar d ≠ '+' ∧ hexDigitChar d ≠ ',' ∧
      hexDigitChar d ≠ ':' ∧ hexDigitChar d ≠ '\x00' ∧ (hexDigitChar d = '0' → d = 0) := by
  decide

theorem hexDigits_lt (v : Nat) : ∀ d ∈ hexDigits v, d < 16 := by
  unfold hexDigits
  split
  · simp
  · exact fun d hd => Nat.digits_lt_base (by omega) (List.mem_reverse.mp hd)

theorem hexDigits_value (v : Nat) : (hexDigits v).foldl (fun a d => 16 * a + d) 0 = v := by
  unfold hexDigits
  split
  · simp [*]
  · rw [List.foldl_reverse]
    conv => rhs; rw [← Nat.ofDigits_digits 16 v]
    induction Nat.digits 16 v with
    | nil => rfl
    | cons d ds ih => simp [Nat.ofDigits_cons, ih]; ring

theorem hexDigits_head (v : Nat) : ∃ d ds, hexDigits v = d :: ds ∧ (d = 0 → v = 0) := by
  unfold hexDigits
  split
  · exact ⟨0, [], rfl, fun _ => ‹_›⟩
  · obtain ⟨d, ds, h⟩ := List.exists_cons_of_ne_nil
      (List.reverse_ne_nil_iff.mpr (Nat.digits_ne_nil_iff_ne_zero.mpr ‹_›))
    refine ⟨d, ds, h, fun hd => absurd ?_ (Nat.getLast_digit_ne_zero 16 ‹_›)⟩
    rw [← List.head_reverse (by simp [h])]
    simp [h, hd]

theorem printfHex_no_sep (v : Nat) : ∀ c ∈ printfHex v, c ≠ ',' ∧ c ≠ ':' ∧ c ≠ '\x00' := by
  intro c hc
  obtain ⟨d, hd, rfl⟩ := List.mem_map.mp hc
  obtain ⟨-, -, -, -, h₁, h₂, h₃, -⟩ := hexDigitChar_spec d (hexDigits_lt v d hd)
  exact ⟨h₁, h₂, h₃⟩


theorem hexRun_digits (ds : List Nat) (hds : ∀ d ∈ ds, d < 16) (acc : Nat) (rest : List Char)
    (hrest : ∀ c ∈ rest.head?, hexDigitVal c = none) :
    hexRun acc (ds.map hexDigitChar ++ rest) =
      (ds.foldl (fun a d => 16 * a + d) acc, ds.length, rest) := by
  induction ds generalizing acc with
  | nil =>
    cases rest with
    | nil => rfl
    | cons c cs => simp [hexRun, hrest c rfl]
  | cons d ds ih =>
    rw [List.map_cons, List.cons_append, hexRun, (hexDigitChar_spec d (hds d (.head _))).1]
    simp only [ih (fun x hx => hds x (.tail _ hx)), List.foldl_cons, List.length_cons]

theorem strtol16_printfHex {v : Nat} (hv : v < 2 ^ 63) :
    strtol16 (printfHex v) = ((v : Int), [], false) := by
  obtain ⟨d, ds, hds, hz⟩ := hexDigits_head v
  have hrun := hexRun_digits (hexDigits v) (hexDigits_lt v) 0 [] nofun
  rw [List.append_nil, hexDigits_value, hds] at hrun
  obtain ⟨-, hsp, hm, hp, -, -, -, h0⟩ := hexDigitChar_spec d (hexDigits_lt v d (by simp [hds]))
  have hpre : strtolHexPrefix ((d :: ds).map hexDigitChar) = (d :: ds).map hexDigitChar := by
    by_cases hc : hexDigitChar d = '0'
    · have hds0 := hds
      simp only [hexDigits, if_pos (hz (h0 hc)), List.cons.injEq] at hds0
      rw [← hds0.2, List.map_singleton, hc]
      rfl
    · exact strtolHexPrefix_of_ne _ hc
  rw [printfHex, hds, strtol16, List.map_cons, List.dropWhile_cons_of_neg (by simp [hsp]),
    strtolSign_of_ne _ hm hp, ← List.map_cons]
  simp only [hpre, hrun, List.length_cons, Bool.false_eq_true, if_false, longMax, longMin]
  rw [if_neg (by omega), if_neg (by omega), if_neg (by omega)]


theorem ofInt_toNat_cast (x : BitVec 32) : BitVec.ofInt 32 (x.toNat : Int) = x := by simp

theorem parseRangesLoop_rangeItem (room : Nat) (p : BitVec 32 × BitVec 32) (delim : List Char)
    (out : RangesOut) : (∀ c ∈ delim.head?, c = ',') →
    parseRangesLoop (room + 1) (rangeItem p ++ delim) out =
      let out := { (out.setOffset p.1.toNat).setSize p.2.toNat with rangeCount := out.rangeCount + 1 }
      match delim with
      | [] => (0, out)
      | _ :: cursor => parseRangesLoop room cursor out := by
  intro hdelim
  have hitem : ∀ c ∈ rangeItem p, c ≠ ',' := by
    simp only [rangeItem, List.mem_append, List.mem_cons]
    rintro c (h | rfl | h)
    · exact (printfHex_no_sep _ c h).1
    · decide
    · exact (printfHex_no_sep _ c h).1
  have htake : (rangeItem p ++ delim).takeWhile (fun c => decide (c ≠ ',')) = rangeItem p := by
    rw [List.takeWhile_append_of_pos (by simpa using hitem)]
    rcases delim with _ | ⟨c, cs⟩
    · rw [List.takeWhile_nil, List.append_nil]
    · simp [hdelim c rfl]
  have hdrop : (rangeItem p ++ delim).dropWhile (fun c => decide (c ≠ ',')) = delim := by
    rw [List.dropWhile_append_of_pos (by simpa using hitem)]
    rcases delim with _ | ⟨c, cs⟩
    · rfl
    · simp [hdelim c rfl]
  have hcolon : ∀ c ∈ printfHex p.1.toNat, decide (c ≠ ':') = true := by
    simpa using fun c h => (printfHex_no_sep _ c h).2.1
  have hoff : (rangeItem p).takeWhile (fun c => decide (c ≠ ':')) = printfHex p.1.toNat := by
    rw [rangeItem, List.takeWhile_append_of_pos hcolon]
    simp
  have hsz : ((rangeItem p).dropWhile (fun c => decide (c ≠ ':'))).drop 1 = printfHex p.2.toNat := by
    rw [rangeItem, List.dropWhile_append_of_pos hcolon]
    simp
  rw [parseRangesLoop]
  dsimp only
  have hmem : ':' ∈ rangeItem p := List.mem_append_right _ (.head _)
  rw [htake, hdrop, if_neg (not_not.mpr hmem), hoff, hsz,
    strtol16_printfHex (p.1.isLt.trans (by decide)), strtol16_printfHex (p.2.isLt.trans (by decide))]
  rfl

theorem parseRangesLoop_formatRanges (pairs : List (BitVec 32 × BitVec 32)) (hne : pairs ≠ []) :
    ∀ room, pairs.length ≤ room → ∀ out : RangesOut,
      (parseRangesLoop room (formatRanges pairs) out).1 = 0 ∧
      (parseRangesLoop room (formatRanges pairs) out).2.rangeCount = out.rangeCount + pairs.length ∧
      (List.range' out.rangeCount pairs.length).map (parseRangesLoop room (formatRanges pairs) out).2.ranges =
        pairs.map fun p => ⟨p.1, p.2⟩ := by
  induction pairs with
  | nil => exact absurd rfl hne
  | cons p ps ih =>
    rintro (_ | room) hroom out
    · simp at hroom
    have hp : ((out.setOffset p.1.toNat).setSize p.2.toNat).ranges out.rangeCount = ⟨p.1, p.2⟩ := by
      rw [RangesOut.setSize_setOffset_self, ofInt_toNat_cast, ofInt_toNat_cast]
    cases ps with
    | nil =>
      have h := parseRangesLoop_rangeItem room p [] out nofun
      rw [List.append_nil] at h
      simp only [formatRanges, h]
      exact ⟨trivial, rfl, by simpa using hp⟩
    | cons q qs =>
      rw [formatRanges, parseRangesLoop_rangeItem room p _ out (by simp)]
      obtain ⟨h₁, h₂, h₃⟩ := ih (List.cons_ne_nil _ _) room (by simp at hroom ⊢; omega)
        { (out.setOffset p.1.toNat).setSize p.2.toNat with rangeCount := out.rangeCount + 1 }
      refine ⟨h₁, by simp only [h₂, List.length_cons]; omega, ?_⟩
      rw [List.length_cons, List.range'_succ, List.map_cons, h₃, List.map_cons,
        (parseRangesLoop_frame _ _ _).2 _ (Nat.lt_succ_self _)]
      exact congrArg (· :: _) hp

theorem formatRanges_no_nul (pairs : List (BitVec 32 × BitVec 32)) :
    ∀ c ∈ formatRanges pairs, c ≠ '\x00' := by
  have hitem : ∀ p, ∀ c ∈ rangeItem p, c ≠ '\x00' := by
    simp only [rangeItem, List.mem_append, List.mem_cons]
    rintro p c (h | rfl | h)
    · exact (printfHex_no_sep _ c h).2.2
    · decide
    · exact (printfHex_no_sep _ c h).2.2
  induction pairs using formatRanges.induct with
  | case1 => nofun
  | case2 p => exact hitem p
  | case3 p q ps ih =>
    simp only [formatRanges, List.mem_append, List.mem_cons]
    rintro c (h | rfl | h)
    · exact hitem p c h
    · decide
    · exact ih c h

/-- The usage text's format is read back whole: 1 to `MAX_RANGES` pairs printed as `"%x:%x"`
items joined by commas give 0, that many ranges, and the pairs themselves, in order. -/
theorem parseRanges_formatRanges (pairs : List (BitVec 32 × BitVec 32)) (out : RangesOut)
    (hne : pairs ≠ []) (hlen : pairs.length ≤ maxRanges) :
    (parseRanges true (formatRanges pairs) out).1 = 0 ∧
      (parseRanges true (formatRanges pairs) out).2.rangeCount = pairs.length ∧
      (List.range pairs.length).map (parseRanges true (formatRanges pairs) out).2.ranges =
        pairs.map fun p => ⟨p.1, p.2⟩ := by
  have h := parseRangesLoop_formatRanges pairs hne maxRanges hlen { out with rangeCount := 0 }
  rw [Nat.zero_add, ← List.range_eq_range'] at h
  rwa [parseRanges, if_neg (by decide),
    List.takeWhile_eq_self_iff.mpr (by simpa using formatRanges_no_nul pairs)]

theorem parseRanges_formatRanges_sample :
    [(0x40000, 0x400)] ≠ ([] : List (BitVec 32 × BitVec 32)) ∧ [(0x40000, 0x400)].length ≤ maxRanges ∧
      (parseRanges true (formatRanges [(0x40000, 0x400)]) ⟨7, fun _ => ⟨0, 0⟩⟩).1 = 0 :=
  ⟨by decide, by decide,
    (parseRanges_formatRanges [(0x40000, 0x400)] ⟨7, fun _ => ⟨0, 0⟩⟩ (by decide) (by decide)).1⟩


/-- The items of an `-R` argument: the string up to its NUL, split at every comma. -/
def commaItems (s : List Char) : List (List Char) := (s.takeWhile (· ≠ '\x00')).splitOn ','

/-- One turn of the loop takes the first item of the comma split: `strchr(cursor, ',')`
ends it, and the next turn starts after that comma. -/
theorem splitOn_comma (cursor : List Char) :
    cursor.splitOn ',' = cursor.takeWhile (· ≠ ',') ::
      match cursor.dropWhile (· ≠ ',') with
      | [] => []
      | _ :: rest => rest.splitOn ',' := by
  have hsplit := List.takeWhile_append_dropWhile (fun c => decide (c ≠ ',')) cursor
  have hno : ∀ x ∈ cursor.takeWhile (· ≠ ','), ¬ (x == ',') = true := fun x hx => by
    simpa using List.mem_takeWhile_imp hx
  rcases hd : cursor.dropWhile (· ≠ ',') with _ | ⟨c, rest⟩
  · conv_lhs => rw [← hsplit, hd, List.append_nil]
    exact List.splitOnP_eq_single _ _ hno
  · have hc : c = ',' := by
      have := List.head?_dropWhile_not (fun c => decide (c ≠ ',')) cursor
      rw [hd] at this
      simpa using this
    conv_lhs => rw [← hsplit, hd, hc]
    exact List.splitOnP_first _ _ hno ',' (by simp) rest

/-- An item the loop accepts, with the range it stores: the text on each side of its first colon
is one whole `strtol` numeral that fits in `long`, stored cut to 32 bits. -/
def ItemAccepted (item : List Char) (r : GscvdRoRange) : Prop :=
  ':' ∈ item ∧ ∃ a b : Int, strtol16 (item.takeWhile (· ≠ ':')) = (a, [], false) ∧
    strtol16 ((item.dropWhile (· ≠ ':')).drop 1) = (b, [], false) ∧
    r = ⟨BitVec.ofInt 32 a, BitVec.ofInt 32 b⟩

theorem parseRangesLoop_turn {room : Nat} {cursor : List Char} {out : RangesOut} {a b : Int}
    (hc : ':' ∈ cursor.takeWhile (· ≠ ','))
    (ha : strtol16 ((cursor.takeWhile (· ≠ ',')).takeWhile (· ≠ ':')) = (a, [], false))
    (hb : strtol16 (((cursor.takeWhile (· ≠ ',')).dropWhile (· ≠ ':')).drop 1) = (b, [], false)) :
    parseRangesLoop (room + 1) cursor out =
      let out := { (out.setOffset a).setSize b with rangeCount := out.rangeCount + 1 }
      match cursor.dropWhile (· ≠ ',') with
      | [] => (0, out)
      | _ :: cursor => parseRangesLoop room cursor out := by
  rw [parseRangesLoop]
  dsimp only
  rw [if_neg (not_not.mpr hc), ha, hb]
  rfl

theorem parseRangesLoop_eq_zero_turn {room : Nat} {cursor : List Char} {out : RangesOut}
    (h : (parseRangesLoop (room + 1) cursor out).1 = 0) :
    ∃ a b : Int, ':' ∈ cursor.takeWhile (· ≠ ',') ∧
      strtol16 ((cursor.takeWhile (· ≠ ',')).takeWhile (· ≠ ':')) = (a, [], false) ∧
      strtol16 (((cursor.takeWhile (· ≠ ',')).dropWhile (· ≠ ':')).drop 1) = (b, [], false) ∧
      parseRangesLoop (room + 1) cursor out =
        let out := { (out.setOffset a).setSize b with rangeCount := out.rangeCount + 1 }
        match cursor.dropWhile (· ≠ ',') with
        | [] => (0, out)
        | _ :: cursor => parseRangesLoop room cursor out := by
  rw [parseRangesLoop] at h ⊢
  dsimp only at h ⊢
  generalize cursor.takeWhile (· ≠ ',') = item at h ⊢
  generalize cursor.dropWhile (· ≠ ',') = delim at h ⊢
  generalize strtol16 (item.takeWhile (· ≠ ':')) = ro at h ⊢
  generalize strtol16 ((item.dropWhile (· ≠ ':')).drop 1) = rs at h ⊢
  obtain ⟨a, e, er⟩ := ro
  obtain ⟨b, e', er'⟩ := rs
  by_cases hc : ':' ∉ item
  · rw [if_pos hc] at h
    simp at h
  rw [if_neg hc] at h ⊢
  by_cases h₁ : er = true ∨ e ≠ []
  · rw [if_pos h₁] at h
    simp at h
  rw [if_neg h₁] at h ⊢
  by_cases h₂ : er' = true ∨ e' ≠ []
  · rw [if_pos h₂] at h
    simp at h
  rw [if_neg h₂]
  simp only [not_or, Bool.not_eq_true, ne_eq, not_not] at h₁ h₂
  obtain ⟨rfl, rfl⟩ := h₁
  obtain ⟨rfl, rfl⟩ := h₂
  exact ⟨a, b, not_not.mp hc, rfl, rfl, rfl⟩

/-- A run that returns 0 accepted every item of the comma split, stored one range per item
from `range_count` on, and had room for them all. -/
theorem parseRangesLoop_accepted (room : Nat) (cursor : List Char) (out : RangesOut)
    (h : (parseRangesLoop room cursor out).1 = 0) :
    (cursor.splitOn ',').length ≤ room ∧
      (parseRangesLoop room cursor out).2.rangeCount = out.rangeCount + (cursor.splitOn ',').length ∧
      List.Forall₂ ItemAccepted (cursor.splitOn ',')
        ((List.range' out.rangeCount (cursor.splitOn ',').length).map
          (parseRangesLoop room cursor out).2.ranges) := by
  induction room generalizing cursor out with
  | zero => exact absurd h (by simp [parseRangesLoop])
  | succ room ih =>
    obtain ⟨a, b, hc, ha, hb, heq⟩ := parseRangesLoop_eq_zero_turn h
    have hr : ItemAccepted (cursor.takeWhile (· ≠ ','))
        (((out.setOffset a).setSize b).ranges out.rangeCount) :=
      ⟨hc, a, b, ha, hb, RangesOut.setSize_setOffset_self _ _ _⟩
    rw [heq] at h ⊢
    rw [splitOn_comma]
    generalize cursor.takeWhile (· ≠ ',') = item at hr ⊢
    generalize cursor.dropWhile (· ≠ ',') = delim at h ⊢
    rcases delim with _ | ⟨_, rest⟩
    · exact ⟨by simp, rfl, .cons hr .nil⟩
    · obtain ⟨hle, hcount, hall⟩ := ih rest _ h
      refine ⟨by simp only [List.length_cons]; omega,
        by simp only [hcount, List.length_cons]; omega, ?_⟩
      rw [List.length_cons, List.range'_succ, List.map_cons,
        (parseRangesLoop_frame _ _ _).2 _ (Nat.lt_succ_self _)]
      exact .cons hr hall

theorem parseRangesLoop_of_accepted (room : Nat) (cursor : List Char) (out : RangesOut)
    (hlen : (cursor.splitOn ',').length ≤ room)
    (hall : ∀ item ∈ cursor.splitOn ',', ∃ r, ItemAccepted item r) :
    (parseRangesLoop room cursor out).1 = 0 := by
  induction room generalizing cursor out with
  | zero => exact absurd hlen (by simp [List.splitOn, List.splitOnP_ne_nil])
  | succ room ih =>
    rw [splitOn_comma] at hlen hall
    obtain ⟨_, hc, a, b, ha, hb, -⟩ := hall _ (.head _)
    rw [parseRangesLoop_turn hc ha hb]
    generalize cursor.dropWhile (· ≠ ',') = delim at hlen hall ⊢
    rcases delim with _ | ⟨_, rest⟩
    · rfl
    · exact ih rest _ (by simpa using hlen) fun item hi => hall item (.tail _ hi)

/-- Exactly what `parse_ranges` accepts: at most `MAX_RANGES` comma-separated items, each
accepted, stored one range per item in order. -/
theorem parseRanges_accepts (strdupOk : Bool) (s : List Char) (out : RangesOut) :
    ((parseRanges strdupOk s out).1 = 0 ↔ strdupOk = true ∧ (commaItems s).length ≤ maxRanges ∧
      ∀ item ∈ commaItems s, ∃ r, ItemAccepted item r) ∧
    ((parseRanges strdupOk s out).1 = 0 →
      (parseRanges strdupOk s out).2.rangeCount = (commaItems s).length ∧
      List.Forall₂ ItemAccepted (commaItems s)
        ((List.range (commaItems s).length).map (parseRanges strdupOk s out).2.ranges)) := by
  cases strdupOk with
  | false => exact ⟨by simp [parseRanges], fun h => absurd h (by simp [parseRanges])⟩
  | true =>
    have hrun : parseRanges true s out =
        parseRangesLoop maxRanges (s.takeWhile (· ≠ '\x00')) { out with rangeCount := 0 } := rfl
    rw [hrun, commaItems]
    refine ⟨⟨fun h => ?_, fun ⟨_, hlen, hall⟩ => parseRangesLoop_of_accepted _ _ _ hlen hall⟩,
      fun h => ?_⟩
    · obtain ⟨hlen, -, hall⟩ := parseRangesLoop_accepted _ _ _ h
      refine ⟨rfl, hlen, fun item hi => ?_⟩
      obtain ⟨hl, hget⟩ := List.forall₂_iff_get.mp hall
      obtain ⟨i, rfl⟩ := List.mem_iff_get.mp hi
      exact ⟨_, hget i.1 i.2 (hl ▸ i.2)⟩
    · obtain ⟨-, hcount, hall⟩ := parseRangesLoop_accepted _ _ _ h
      rw [Nat.zero_add] at hcount
      rw [List.range_eq_range']
      exact ⟨hcount, hall⟩

theorem parseRanges_accepts_sample :
    (parseRanges true "-1:10,0x10:".toList ⟨7, fun _ => ⟨0, 0⟩⟩).1 = 0 ∧
      (parseRanges true "-1:10,0x10:".toList ⟨7, fun _ => ⟨0, 0⟩⟩).2.rangeCount =
        (commaItems "-1:10,0x10:".toList).length ∧
      List.Forall₂ ItemAccepted (commaItems "-1:10,0x10:".toList)
        ((List.range (commaItems "-1:10,0x10:".toList).length).map
          (parseRanges true "-1:10,0x10:".toList ⟨7, fun _ => ⟨0, 0⟩⟩).2.ranges) :=
  have h : (parseRanges true "-1:10,0x10:".toList ⟨7, fun _ => ⟨0, 0⟩⟩).1 = 0 := rfl
  ⟨h, (parseRanges_accepts true "-1:10,0x10:".toList ⟨7, fun _ => ⟨0, 0⟩⟩).2 h⟩


/-- A field as the usage text describes it: hexadecimal digits, at least one, after an
optional `0x` or `0X`; its value. -/
def usageNumeral (f : List Char) : Option Nat :=
  let ds := match f with
    | '0' :: x :: ds => if x = 'x' ∨ x = 'X' then ds else f
    | _ => f
  if ds = [] then none else ds.foldlM (fun acc c => (hexDigitVal c).map (16 * acc + ·)) 0

/-- The ranges an `-R` argument lists by the usage text's words ("comma separated colon
delimited hex tuples"): 1 to `MAX_RANGES` items of `uint32_t` numerals. -/
def usageRanges (s : List Char) : Option (List (Nat × Nat)) :=
  let items := s.splitOn ','
  if items.length > maxRanges then none
  else items.mapM fun item =>
    match item.splitOn ':' with
    | [f, g] => do
      let a ← usageNumeral f
      let b ← usageNumeral g
      if a < 2 ^ 32 ∧ b < 2 ^ 32 then some (a, b) else none
    | _ => none

/-- The `-R` argument of the example at the head of `cmd_gscvd.c`. -/
example : usageRanges "818100:10000,f00000:100,f80000:2000,f8c000:1000,0x00804000:0x00000800".toList =
    some [(0x818100, 0x10000), (0xf00000, 0x100), (0xf80000, 0x2000), (0xf8c000, 0x1000),
      (0x804000, 0x800)] := by decide

/-- `parse_ranges` accepts a sign, an empty field and a value past 32 bits, none of which the
usage text allows. -/
theorem parseRanges_accepts_outside_usage (out : RangesOut) :
    (usageRanges "-1:10".toList = none ∧ (parseRanges true "-1:10".toList out).1 = 0 ∧
      (parseRanges true "-1:10".toList out).2.ranges 0 = ⟨0xffffffff, 0x10⟩) ∧
    (usageRanges "100000000:10".toList = none ∧
      (parseRanges true "100000000:10".toList out).1 = 0 ∧
      (parseRanges true "100000000:10".toList out).2.ranges 0 = ⟨0, 0x10⟩) ∧
    (usageRanges ":".toList = none ∧ (parseRanges true ":".toList out).1 = 0 ∧
      (parseRanges true ":".toList out).2.ranges 0 = ⟨0, 0⟩) :=
  ⟨⟨by decide, rfl, rfl⟩, ⟨by decide, rfl, rfl⟩, ⟨by decide, rfl, rfl⟩⟩

end Vboot
