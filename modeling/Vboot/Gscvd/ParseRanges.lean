import Vboot.GscvdRanges

/-!
# Parsing the `-R` ranges of `futility gscvd`

`parse_ranges` of `futility/cmd_gscvd.c`. The string is the characters at `input` up to
its terminating NUL, and `strdup` either copies it or fails. `strchr` and
`strtol(…, 16)` are those of the C standard: `strtol` skips white space, takes a sign and
an optional `0x` or `0X`, converts the longest run of hexadecimal digits after them, and
sets `errno` to `ERANGE` when the value leaves `long`, which is 64 bits wide on the hosts
futility runs on; it sets `errno` for nothing else, and when it converts nothing it
returns 0 with `*endptr` at the start. The `long` it returns is stored into a `uint32_t`
field, that is, modulo `2^32`.
-/
namespace Vboot

/-- `isspace` in the "C" locale. -/
def isCSpace (c : Char) : Bool :=
  c = ' ' || c = '\t' || c = '\n' || c = '\x0b' || c = '\x0c' || c = '\r'

/-- The value of a digit in base 16: `0`-`9`, `a`-`f` or `A`-`F`. -/
def hexDigitVal (c : Char) : Option Nat :=
  if '0' ≤ c ∧ c ≤ '9' then some (c.toNat - '0'.toNat)
  else if 'a' ≤ c ∧ c ≤ 'f' then some (c.toNat - 'a'.toNat + 10)
  else if 'A' ≤ c ∧ c ≤ 'F' then some (c.toNat - 'A'.toNat + 10)
  else none

/-- The longest run of base-16 digits at the head of `cs`, read on from `acc`: its value,
the number of its digits, and what follows it. -/
def hexRun (acc : Nat) : List Char → Nat × Nat × List Char
  | [] => (acc, 0, [])
  | c :: cs =>
    match hexDigitVal c with
    | some d =>
      let r := hexRun (16 * acc + d) cs
      (r.1, r.2.1 + 1, r.2.2)
    | none => (acc, 0, c :: cs)

def longMax : Int := 2 ^ 63 - 1

def longMin : Int := -2 ^ 63

/-- The sign `strtol` reads after the white space: whether it is `-`, and what follows. -/
def strtolSign : List Char → Bool × List Char
  | '-' :: s => (true, s)
  | '+' :: s => (false, s)
  | s => (false, s)

/-- The `0x` or `0X` that base 16 allows before the digits; it is skipped only when a
digit follows it, since otherwise the `0` alone is the numeral. -/
def strtolHexPrefix : List Char → List Char
  | '0' :: x :: c :: rest =>
    if (x = 'x' ∨ x = 'X') ∧ (hexDigitVal c).isSome then c :: rest else '0' :: x :: c :: rest
  | s => s

theorem strtolSign_of_ne {c : Char} (cs : List Char) (h₁ : c ≠ '-') (h₂ : c ≠ '+') :
    strtolSign (c :: cs) = (false, c :: cs) := by
  unfold strtolSign; split <;> simp_all

theorem strtolHexPrefix_of_ne {c : Char} (cs : List Char) (h : c ≠ '0') :
    strtolHexPrefix (c :: cs) = c :: cs := by
  unfold strtolHexPrefix; split <;> simp_all

/-- `strtol(nptr, &endptr, 16)`: the value, the characters from `*endptr` on, and whether
it set `errno`. -/
def strtol16 (nptr : List Char) : Int × List Char × Bool :=
  let (neg, s) := strtolSign (nptr.dropWhile isCSpace)
  let (v, n, rest) := hexRun 0 (strtolHexPrefix s)
  if n = 0 then (0, nptr, false)
  else
    let v : Int := if neg then -v else v
    if v > longMax then (longMax, rest, true)
    else if v < longMin then (longMin, rest, true)
    else (v, rest, false)

/-- `struct gscvd_ro_ranges` as `parse_ranges` writes it: `range_count`, and the array
`ranges`, whose entries it has not written keep what they held. -/
structure RangesOut where
  rangeCount : Nat
  ranges : Nat → GscvdRoRange

namespace RangesOut

/-- `output->ranges[output->range_count].offset = v`. -/
def setOffset (out : RangesOut) (v : Int) : RangesOut :=
  { out with
    ranges := Function.update out.ranges out.rangeCount
      ⟨BitVec.ofInt 32 v, (out.ranges out.rangeCount).size⟩ }

/-- `output->ranges[output->range_count].size = v`. -/
def setSize (out : RangesOut) (v : Int) : RangesOut :=
  { out with
    ranges := Function.update out.ranges out.rangeCount
      ⟨(out.ranges out.rangeCount).offset, BitVec.ofInt 32 v⟩ }

@[simp] theorem setOffset_rangeCount (out : RangesOut) (v : Int) :
    (out.setOffset v).rangeCount = out.rangeCount := rfl

@[simp] theorem setSize_rangeCount (out : RangesOut) (v : Int) :
    (out.setSize v).rangeCount = out.rangeCount := rfl

theorem setOffset_ranges_of_ne (out : RangesOut) (v : Int) {i : Nat} (h : i ≠ out.rangeCount) :
    (out.setOffset v).ranges i = out.ranges i := Function.update_noteq h _ _

theorem setSize_ranges_of_ne (out : RangesOut) (v : Int) {i : Nat} (h : i ≠ out.rangeCount) :
    (out.setSize v).ranges i = out.ranges i := Function.update_noteq h _ _

theorem setSize_setOffset_self (out : RangesOut) (a b : Int) :
    ((out.setOffset a).setSize b).ranges out.rangeCount = ⟨BitVec.ofInt 32 a, BitVec.ofInt 32 b⟩ := by
  simp [setOffset, setSize]

end RangesOut

/-- The loop of `parse_ranges` at `cursor`, with `room` entries of `output->ranges` left:
`rv` when it breaks or ends, and `output`. -/
def parseRangesLoop : (room : Nat) → (cursor : List Char) → RangesOut → Int × RangesOut
  | 0, _, out => (-1, out)
  | room + 1, cursor, out =>
    let item := cursor.takeWhile (· ≠ ',')
    let delim := cursor.dropWhile (· ≠ ',')
    if ':' ∉ item then (-1, out)
    else
      let (offset, e, erange) := strtol16 (item.takeWhile (· ≠ ':'))
      let out := out.setOffset offset
      if erange ∨ e ≠ [] then (-1, out)
      else
        let (size, e, erange) := strtol16 ((item.dropWhile (· ≠ ':')).drop 1)
        let out := out.setSize size
        if erange ∨ e ≠ [] then (-1, out)
        else
          let out := { out with rangeCount := out.rangeCount + 1 }
          match delim with
          | [] => (0, out)
          | _ :: cursor => parseRangesLoop room cursor out

/-- `parse_ranges(input, output)`; `strdupOk` is whether `strdup` found memory. -/
def parseRanges (strdupOk : Bool) (input : List Char) (out : RangesOut) : Int × RangesOut :=
  if !strdupOk then (-1, out)
  else parseRangesLoop maxRanges (input.takeWhile (· ≠ '\x00')) { out with rangeCount := 0 }

/-- Every item the loop stores goes to `output->ranges[output->range_count]` before the count
moves past it: the count never goes down, and no entry below it is written again. -/
theorem parseRangesLoop_frame (room : Nat) (cursor : List Char) (out : RangesOut) :
    out.rangeCount ≤ (parseRangesLoop room cursor out).2.rangeCount ∧
      ∀ i < out.rangeCount, (parseRangesLoop room cursor out).2.ranges i = out.ranges i := by
  induction room generalizing cursor out with
  | zero => exact ⟨Nat.le_refl _, fun _ _ => rfl⟩
  | succ room ih =>
    have hw : ∀ a b : Int, ∀ i < out.rangeCount,
        ((out.setOffset a).setSize b).ranges i = out.ranges i := fun a b i hi => by
      rw [RangesOut.setSize_ranges_of_ne _ _ (by simp; omega),
        RangesOut.setOffset_ranges_of_ne _ _ (by omega)]
    rw [parseRangesLoop]
    dsimp only
    split
    · exact ⟨Nat.le_refl _, fun _ _ => rfl⟩
    split
    · exact ⟨Nat.le_refl _, fun i hi => RangesOut.setOffset_ranges_of_ne _ _ (by simp; omega)⟩
    split
    · exact ⟨Nat.le_refl _, hw _ _⟩
    · split
      · exact ⟨by simp, hw _ _⟩
      · obtain ⟨hle, hfr⟩ := ih _ _
        exact ⟨Nat.le_trans (Nat.le_succ _) hle, fun i hi => (hfr i (Nat.lt_succ_of_lt hi)).trans (hw _ _ i hi)⟩

end Vboot
