import Mathlib.Algebra.Order.Floor
import Mathlib.Data.Rat.Floor
import Mathlib.Algebra.Order.Field.Power
import Mathlib.Tactic.Linarith
import Mathlib.Tactic.IntervalCases
import Mathlib.Data.Nat.Digits

/-!
# The library calls on wire values

The suggestion service stores its state as strings: integers through `strconv.Itoa` and
`strconv.Atoi`, floats through `strconv.FormatFloat(x, 'f', 4, 64)` and
`strconv.ParseFloat`, and the trial list through `strings.Join` and `strings.Split` on `","`.
A float64 is an exact rational here. The parser reads decimal literals (sign, digits, point,
exponent); the forms without an exact rational value (`Inf`, `NaN`) and hexadecimal literals
take its error path. Each parser returns `none` for its error, where Go returns the value 0.
-/

set_option autoImplicit false

namespace Katib

/-! ### Decimal digits -/

/-- The value of a decimal digit character. -/
def digitValue (c : Char) : Nat := c.toNat - '0'.toNat

/-- The value of a run of decimal digits. -/
def digitsValue (digits : List Char) : Nat :=
  digits.foldl (fun acc c => 10 * acc + digitValue c) 0

/-- Splits off the leading run of decimal digits. -/
def digitRun : List Char → List Char × List Char
  | [] => ([], [])
  | c :: cs => if c.isDigit then ((c :: (digitRun cs).1), (digitRun cs).2) else ([], c :: cs)

theorem digitChar_isDigit {k : Nat} (small : k < 10) : (Nat.digitChar k).isDigit = true := by
  interval_cases k <;> rfl

theorem digitValue_digitChar {k : Nat} (small : k < 10) : digitValue (Nat.digitChar k) = k := by
  interval_cases k <;> rfl

theorem digitsValue_append_digit (digits : List Char) (c : Char) :
    digitsValue (digits ++ [c]) = 10 * digitsValue digits + digitValue c := by
  simp [digitsValue, List.foldl_append]

theorem toDigitsCore_digits (fuel n : Nat) (ds : List Char) (enough : n < fuel) :
    ∃ front, Nat.toDigitsCore 10 fuel n ds = front ++ ds ∧ front ≠ [] ∧
      (∀ c ∈ front, c.isDigit = true) ∧ digitsValue front = n := by
  induction fuel generalizing n ds with
  | zero => omega
  | succ fuel ih =>
      have low := digitChar_isDigit (Nat.mod_lt n (by decide : 10 > 0))
      have lowValue := digitValue_digitChar (Nat.mod_lt n (by decide : 10 > 0))
      by_cases last : n / 10 = 0
      · refine ⟨[Nat.digitChar (n % 10)], ?_, by simp, by simpa using low, ?_⟩
        · simp [Nat.toDigitsCore, last]
        · simpa [digitsValue, lowValue] using (Nat.mod_eq_of_lt (by omega : n < 10))
      · obtain ⟨front, written, nonempty, digits, value⟩ :=
          ih (n / 10) (Nat.digitChar (n % 10) :: ds) (by omega)
        refine ⟨front ++ [Nat.digitChar (n % 10)], ?_, by simp, ?_, ?_⟩
        · simp [Nat.toDigitsCore, last, written]
        · intro c member
          rcases List.mem_append.mp member with inFront | isLow
          · exact digits c inFront
          · simpa [List.mem_singleton.mp isLow] using low
        · rw [digitsValue_append_digit, value, lowValue]
          omega

theorem toDigits_digits (n : Nat) :
    Nat.toDigits 10 n ≠ [] ∧ (∀ c ∈ Nat.toDigits 10 n, c.isDigit = true) ∧
      digitsValue (Nat.toDigits 10 n) = n := by
  obtain ⟨front, written, nonempty, digits, value⟩ := toDigitsCore_digits (n + 1) n [] (by omega)
  rw [Nat.toDigits, written, List.append_nil]
  exact ⟨nonempty, digits, value⟩

theorem digitRun_digits_append (digits rest : List Char)
    (allDigits : ∀ c ∈ digits, c.isDigit = true) :
    digitRun (digits ++ rest) = (digits ++ (digitRun rest).1, (digitRun rest).2) := by
  induction digits with
  | nil => rfl
  | cons c cs ih =>
      rw [List.cons_append, digitRun, if_pos (allDigits c (List.mem_cons_self c cs)),
        ih (fun d member => allDigits d (List.mem_cons_of_mem c member))]
      rfl

theorem digitRun_digits (digits : List Char) (allDigits : ∀ c ∈ digits, c.isDigit = true) :
    digitRun digits = (digits, []) := by
  simpa [digitRun] using digitRun_digits_append digits [] allDigits

/-! ### `strconv.Itoa` and `strconv.Atoi` -/

/-- A non-empty run of digits and nothing else. -/
def natOfDigits (cs : List Char) : Option Nat :=
  if (digitRun cs).1 ≠ [] ∧ (digitRun cs).2 = [] then some (digitsValue (digitRun cs).1)
  else none

/-- `strconv.Atoi`: an optional sign, then at least one digit. Ints are unbounded here, so
its 64-bit range check has no counterpart. -/
def strconvAtoi (s : String) : Option Int :=
  match s.data with
  | [] => none
  | c :: cs =>
      if c = '-' then (natOfDigits cs).map fun n : Nat => -(n : Int)
      else if c = '+' then (natOfDigits cs).map Int.ofNat
      else (natOfDigits (c :: cs)).map Int.ofNat

/-- `strconv.Itoa`. -/
def strconvItoa (i : Int) : String := toString i

theorem natOfDigits_toDigits (n : Nat) : natOfDigits (Nat.toDigits 10 n) = some n := by
  obtain ⟨nonempty, digits, value⟩ := toDigits_digits n
  simp [natOfDigits, digitRun_digits _ digits, nonempty, value]

theorem toDigits_head (n : Nat) : ∃ d rest, Nat.toDigits 10 n = d :: rest ∧ d.isDigit = true := by
  obtain ⟨nonempty, digits, _⟩ := toDigits_digits n
  match written : Nat.toDigits 10 n, nonempty with
  | d :: rest, _ => exact ⟨d, rest, rfl, digits d (by simp [written])⟩

theorem ne_of_isDigit {d c : Char} (digit : d.isDigit = true) (other : c.isDigit = false) :
    d ≠ c := by
  rintro rfl
  simp [digit] at other

/-- `strconv.Atoi` reads back what `strconv.Itoa` writes. -/
@[simp] theorem strconvAtoi_strconvItoa (i : Int) : strconvAtoi (strconvItoa i) = some i := by
  cases i with
  | ofNat n =>
      obtain ⟨d, rest, written, digit⟩ := toDigits_head n
      have notMinus := ne_of_isDigit digit (by decide : '-'.isDigit = false)
      have notPlus := ne_of_isDigit digit (by decide : '+'.isDigit = false)
      have text : (strconvItoa (Int.ofNat n)).data = d :: rest := written
      simp only [strconvAtoi, text, notMinus, notPlus, if_false]
      rw [← written, natOfDigits_toDigits]
      rfl
  | negSucc n =>
      have text : (strconvItoa (Int.negSucc n)).data = '-' :: Nat.toDigits 10 (n + 1) := rfl
      simp only [strconvAtoi, text, if_true, natOfDigits_toDigits, Option.map_some']
      rfl

/-! ### Rounding -/

/-- Rounds to the nearest integer, a tie to the even one, as `strconv` rounds a decimal. -/
def roundHalfEven (x : ℚ) : Int :=
  if x - ⌊x⌋ < 1 / 2 then ⌊x⌋
  else if 1 / 2 < x - ⌊x⌋ then ⌊x⌋ + 1
  else if ⌊x⌋ % 2 = 0 then ⌊x⌋ else ⌊x⌋ + 1

/-- The value `strconv.FormatFloat(x, 'f', 4, 64)` writes: `x` rounded to four decimals. -/
def round4 (x : ℚ) : ℚ := (roundHalfEven (x * 10000) : ℚ) / 10000

theorem floor_le_roundHalfEven (x : ℚ) : ⌊x⌋ ≤ roundHalfEven x := by
  unfold roundHalfEven
  split_ifs <;> omega

theorem roundHalfEven_le (x : ℚ) : roundHalfEven x ≤ ⌊x⌋ + 1 := by
  unfold roundHalfEven
  split_ifs <;> omega

@[simp] theorem roundHalfEven_intCast (n : Int) : roundHalfEven n = n := by
  simp [roundHalfEven]

theorem roundHalfEven_nonneg {x : ℚ} (nonneg : 0 ≤ x) : 0 ≤ roundHalfEven x :=
  (Int.floor_nonneg.mpr nonneg).trans (floor_le_roundHalfEven x)

theorem roundHalfEven_nonpos {x : ℚ} (negative : x < 0) : roundHalfEven x ≤ 0 := by
  have below : ⌊x⌋ < 0 := Int.floor_lt.mpr (by simpa using negative)
  have := roundHalfEven_le x
  omega

@[simp] theorem round4_round4 (x : ℚ) : round4 (round4 x) = round4 x := by
  have exact : round4 x * 10000 = (roundHalfEven (x * 10000) : ℚ) := by
    unfold round4
    field_simp
  rw [round4, exact, roundHalfEven_intCast, round4]

@[simp] theorem round4_intCast (n : Int) : round4 n = n := by
  have exact : (n : ℚ) * 10000 = ((n * 10000 : Int) : ℚ) := by push_cast; ring
  rw [round4, exact, roundHalfEven_intCast]
  push_cast
  ring

@[simp] theorem round4_natCast (n : Nat) : round4 n = n := by
  exact_mod_cast round4_intCast n

@[simp] theorem round4_ofNat (n : Nat) [n.AtLeastTwo] :
    round4 (no_index (OfNat.ofNat n)) = OfNat.ofNat n :=
  round4_natCast n

@[simp] theorem round4_zero : round4 0 = 0 := by exact_mod_cast round4_natCast 0

@[simp] theorem round4_one : round4 1 = 1 := by exact_mod_cast round4_natCast 1

theorem le_round4 {x : ℚ} {n : Int} (above : (n : ℚ) ≤ x) : (n : ℚ) ≤ round4 x := by
  have scaled : n * 10000 ≤ ⌊x * 10000⌋ := Int.le_floor.mpr (by push_cast; linarith)
  have rounded := floor_le_roundHalfEven (x * 10000)
  have cast : ((n * 10000 : Int) : ℚ) ≤ (roundHalfEven (x * 10000) : ℚ) := by
    exact_mod_cast scaled.trans rounded
  unfold round4
  rw [le_div_iff₀ (by norm_num)]
  simpa using cast

/-! ### `strconv.FormatFloat` and `strconv.ParseFloat` -/

/-- Four digits of `f < 10000`, with leading zeros. -/
def fourDigits (f : Nat) : List Char :=
  [Nat.digitChar (f / 1000 % 10), Nat.digitChar (f / 100 % 10), Nat.digitChar (f / 10 % 10),
    Nat.digitChar (f % 10)]

/-- `strconv.FormatFloat(x, 'f', 4, 64)`: `x` rounded to four decimals, written
`[-]d…d.dddd`. A negative `x` keeps its sign when it rounds to zero (`-0.0000`). -/
def strconvFormatFloat (x : ℚ) : String :=
  let scaled := (roundHalfEven (x * 10000)).natAbs
  ⟨(if x < 0 then ['-'] else []) ++ Nat.toDigits 10 (scaled / 10000) ++
    '.' :: fourDigits (scaled % 10000)⟩

/-- The exponent of a decimal literal: none, or `e`/`E` and a signed integer. -/
def readExponent : List Char → Option Int
  | [] => some 0
  | c :: cs => if c = 'e' ∨ c = 'E' then strconvAtoi ⟨cs⟩ else none

/-- An unsigned decimal literal: digits, an optional point with digits, an optional exponent,
with a digit on one side of the point at least. -/
def readUnsigned (cs : List Char) : Option ℚ :=
  let whole := digitRun cs
  let frac := match whole.2 with
    | c :: afterPoint => if c = '.' then digitRun afterPoint else ([], whole.2)
    | [] => ([], [])
  if whole.1 = [] ∧ frac.1 = [] then none
  else (readExponent frac.2).map fun e =>
    ((digitsValue whole.1 : ℚ) + digitsValue frac.1 / 10 ^ frac.1.length) * 10 ^ e

/-- `strconv.ParseFloat(s, 64)` on decimal literals. -/
def strconvParseFloat (s : String) : Option ℚ :=
  match s.data with
  | [] => none
  | c :: cs =>
      if c = '-' then (readUnsigned cs).map fun x => -x
      else if c = '+' then readUnsigned cs
      else readUnsigned (c :: cs)

theorem fourDigits_digits {f : Nat} (small : f < 10000) :
    (∀ c ∈ fourDigits f, c.isDigit = true) ∧ digitsValue (fourDigits f) = f := by
  have ten : ∀ k, k % 10 < 10 := fun k => Nat.mod_lt k (by decide)
  refine ⟨?_, ?_⟩
  · simp [fourDigits, digitChar_isDigit (ten _)]
  · simp only [digitsValue, fourDigits, List.foldl, digitValue_digitChar (ten _)]
    omega

theorem length_fourDigits (f : Nat) : (fourDigits f).length = 4 := rfl

theorem readUnsigned_scaled (scaled : Nat) :
    readUnsigned (Nat.toDigits 10 (scaled / 10000) ++ '.' :: fourDigits (scaled % 10000)) =
      some ((scaled : ℚ) / 10000) := by
  obtain ⟨nonempty, digits, value⟩ := toDigits_digits (scaled / 10000)
  obtain ⟨fracDigits, fracValue⟩ := fourDigits_digits (Nat.mod_lt scaled (by decide : 10000 > 0))
  have point : digitRun ('.' :: fourDigits (scaled % 10000)) =
      ([], '.' :: fourDigits (scaled % 10000)) := by
    simp [digitRun]
  simp only [readUnsigned, digitRun_digits_append _ _ digits, point, List.append_nil, if_true,
    digitRun_digits _ fracDigits, nonempty, false_and, if_false, readExponent, Option.map_some',
    value, fracValue, length_fourDigits, zpow_zero, mul_one]
  congr 1
  have split : (scaled : ℚ) = 10000 * ((scaled / 10000 : Nat) : ℚ) + ((scaled % 10000 : Nat) : ℚ) := by
    exact_mod_cast (Nat.div_add_mod scaled 10000).symm
  rw [split]
  ring

/-- `strconv.ParseFloat` reads back what `strconv.FormatFloat(x, 'f', 4, 64)` writes: the
value rounded to four decimals. -/
@[simp] theorem strconvParseFloat_strconvFormatFloat (x : ℚ) :
    strconvParseFloat (strconvFormatFloat x) = some (round4 x) := by
  set scaled := roundHalfEven (x * 10000)
  have magnitude := readUnsigned_scaled scaled.natAbs
  by_cases negative : x < 0
  · have text : (strconvFormatFloat x).data =
        '-' :: (Nat.toDigits 10 (scaled.natAbs / 10000) ++ '.' :: fourDigits (scaled.natAbs % 10000)) := by
      simp [strconvFormatFloat, negative, scaled]
    have cast : (scaled.natAbs : ℚ) = -(scaled : ℚ) := by
      rw [Int.cast_natAbs, abs_of_nonpos (roundHalfEven_nonpos (by linarith))]
      push_cast
      rfl
    simp only [strconvParseFloat, text, if_true, magnitude, Option.map_some', cast, round4]
    congr 1
    ring
  · obtain ⟨d, rest, written, digit⟩ := toDigits_head (scaled.natAbs / 10000)
    have text : (strconvFormatFloat x).data =
        d :: (rest ++ '.' :: fourDigits (scaled.natAbs % 10000)) := by
      simp [strconvFormatFloat, negative, scaled, written]
    have notMinus := ne_of_isDigit digit (by decide : '-'.isDigit = false)
    have notPlus := ne_of_isDigit digit (by decide : '+'.isDigit = false)
    have cast : (scaled.natAbs : ℚ) = (scaled : ℚ) := by
      rw [Int.cast_natAbs, abs_of_nonneg (roundHalfEven_nonneg (by linarith))]
    rw [written, List.cons_append] at magnitude
    simp only [strconvParseFloat, text, notMinus, notPlus, if_false, magnitude, cast, round4]

/-! ### `strings.Split` and `strings.Join` -/

/-- `strings.Split` with a one-character separator: the pieces between separators. An empty
string is one empty piece. -/
def splitChars (sep : Char) : List Char → List (List Char)
  | [] => [[]]
  | c :: cs =>
      if c = sep then [] :: splitChars sep cs
      else match splitChars sep cs with
        | [] => [[c]]
        | piece :: pieces => (c :: piece) :: pieces

/-- `strings.Join` with a one-character separator. -/
def joinChars (sep : Char) : List (List Char) → List Char
  | [] => []
  | [piece] => piece
  | piece :: next :: pieces => piece ++ sep :: joinChars sep (next :: pieces)

/-- `strings.Split(s, sep)`. -/
def stringsSplit (s : String) (sep : Char) : List String := (splitChars sep s.data).map String.mk

/-- `strings.Join(elems, sep)`. -/
def stringsJoin (elems : List String) (sep : Char) : String :=
  ⟨joinChars sep (elems.map String.data)⟩

theorem splitChars_ne_nil (sep : Char) (cs : List Char) : splitChars sep cs ≠ [] := by
  cases cs with
  | nil => simp [splitChars]
  | cons c cs =>
      unfold splitChars
      split
      · simp
      · split <;> simp

theorem splitChars_piece_append (sep : Char) (piece rest : List Char) (clean : sep ∉ piece) :
    splitChars sep (piece ++ rest) =
      match splitChars sep rest with
      | [] => [piece]
      | first :: pieces => (piece ++ first) :: pieces := by
  induction piece with
  | nil =>
      rcases split : splitChars sep rest with _ | ⟨first, pieces⟩
      · exact absurd split (splitChars_ne_nil sep rest)
      · simp [split]
  | cons c cs ih =>
      have other : c ≠ sep := fun same => clean (same ▸ List.mem_cons_self c cs)
      rw [List.cons_append, splitChars, if_neg other,
        ih (fun member => clean (List.mem_cons_of_mem c member))]
      rcases splitChars sep rest with _ | ⟨first, pieces⟩ <;> simp

theorem splitChars_joinChars (sep : Char) (pieces : List (List Char)) (nonempty : pieces ≠ [])
    (clean : ∀ piece ∈ pieces, sep ∉ piece) : splitChars sep (joinChars sep pieces) = pieces := by
  induction pieces with
  | nil => exact absurd rfl nonempty
  | cons piece pieces ih =>
      have cleanHead := clean piece (List.mem_cons_self piece pieces)
      cases pieces with
      | nil =>
          simpa [joinChars, splitChars] using splitChars_piece_append sep piece [] cleanHead
      | cons next rest =>
          have tail := ih (by simp) (fun other member => clean other (List.mem_cons_of_mem _ member))
          rw [joinChars, splitChars_piece_append sep piece _ cleanHead, splitChars, if_pos rfl,
            tail]
          simp

theorem length_splitChars (sep : Char) (cs : List Char) :
    (splitChars sep cs).length = cs.count sep + 1 := by
  induction cs with
  | nil => rfl
  | cons c cs ih =>
      unfold splitChars
      by_cases same : c = sep
      · simp [same, ih]
      · rw [if_neg same]
        have counted : (c :: cs).count sep = cs.count sep := List.count_cons_of_ne (fun reversed => same reversed.symm) cs
        rcases split : splitChars sep cs with _ | ⟨first, pieces⟩
        · exact absurd split (splitChars_ne_nil sep cs)
        · simp only [counted, ← ih, split, List.length_cons]

theorem length_le_count_joinChars (sep : Char) (pieces : List (List Char)) :
    pieces.length ≤ (joinChars sep pieces).count sep + 1 := by
  induction pieces with
  | nil => simp
  | cons piece pieces ih =>
      cases pieces with
      | nil => simp
      | cons next rest =>
          rw [joinChars, List.count_append, List.count_cons_self]
          simp only [List.length_cons] at ih ⊢
          omega

theorem length_le_length_stringsSplit_stringsJoin (elems : List String) (sep : Char) :
    elems.length ≤ (stringsSplit (stringsJoin elems sep) sep).length := by
  have bound := length_le_count_joinChars sep (elems.map String.data)
  simp only [List.length_map] at bound
  simp only [stringsSplit, stringsJoin, List.length_map, length_splitChars]
  exact bound

/-- `strings.Split` undoes `strings.Join` on a non-empty list of pieces without the separator. -/
theorem stringsSplit_stringsJoin (elems : List String) (sep : Char) (nonempty : elems ≠ [])
    (clean : ∀ elem ∈ elems, sep ∉ elem.data) : stringsSplit (stringsJoin elems sep) sep = elems := by
  have pieces := splitChars_joinChars sep (elems.map String.data) (by simpa using nonempty)
    (by simpa using clean)
  simp only [stringsSplit, stringsJoin, pieces, List.map_map]
  exact List.map_id'' (fun _ => rfl) elems

theorem joinChars_cons_cons (sep c : Char) (piece : List Char) (pieces : List (List Char)) :
    joinChars sep ((c :: piece) :: pieces) = c :: joinChars sep (piece :: pieces) := by
  cases pieces <;> rfl

theorem joinChars_splitChars (sep : Char) (cs : List Char) :
    joinChars sep (splitChars sep cs) = cs := by
  induction cs with
  | nil => rfl
  | cons c cs ih =>
      obtain ⟨piece, pieces, split⟩ := List.exists_cons_of_ne_nil (splitChars_ne_nil sep cs)
      rw [split] at ih
      by_cases same : c = sep
      · rw [splitChars, if_pos same, split, joinChars, List.nil_append, ih, same]
      · rw [splitChars, if_neg same, split, joinChars_cons_cons, ih]

theorem sep_not_mem_splitChars (sep : Char) :
    ∀ (cs : List Char), ∀ piece ∈ splitChars sep cs, sep ∉ piece
  | [], piece, member => by
      rw [List.mem_singleton.mp member]
      exact List.not_mem_nil sep
  | c :: cs, piece, member => by
      have rest := sep_not_mem_splitChars sep cs
      obtain ⟨first, pieces, split⟩ := List.exists_cons_of_ne_nil (splitChars_ne_nil sep cs)
      by_cases same : c = sep
      · rw [splitChars, if_pos same] at member
        rcases List.mem_cons.mp member with rfl | later
        · exact List.not_mem_nil sep
        · exact rest piece later
      · rw [splitChars, if_neg same, split] at member
        rw [split] at rest
        rcases List.mem_cons.mp member with rfl | later
        · exact List.not_mem_cons_of_ne_of_not_mem (Ne.symm same)
            (rest first (List.mem_cons_self _ _))
        · exact rest piece (List.mem_cons_of_mem _ later)

theorem stringsJoin_stringsSplit (s : String) (sep : Char) :
    stringsJoin (stringsSplit s sep) sep = s := by
  simp only [stringsJoin, stringsSplit, List.map_map, Function.comp_def, List.map_id',
    joinChars_splitChars]

/-! ### Float to int -/

/-- Go's conversion `int(x)` of a float: rounds toward zero. -/
def truncInt (x : ℚ) : Int := if 0 ≤ x then ⌊x⌋ else ⌈x⌉

theorem truncInt_nonneg {x : ℚ} (nonneg : 0 ≤ x) : 0 ≤ truncInt x := by
  simp only [truncInt, nonneg, if_true]
  exact Int.floor_nonneg.mpr nonneg

theorem truncInt_le_truncInt {x y : ℚ} (nonneg : 0 ≤ x) (le : x ≤ y) : truncInt x ≤ truncInt y := by
  simp only [truncInt, nonneg, nonneg.trans le, if_true]
  exact Int.floor_le_floor le

@[simp] theorem truncInt_intCast (n : Int) : truncInt n = n := by
  by_cases nonneg : (0 : ℚ) ≤ n <;> simp [truncInt, nonneg]

/-- Rounding up and `int(x)` agree on a negative `x`, and on a non-negative one exactly when it
is an integer. -/
theorem ceil_eq_truncInt_iff (x : ℚ) : ⌈x⌉ = truncInt x ↔ x < 0 ∨ (⌈x⌉ : ℚ) = x := by
  by_cases negative : x < 0
  · simp [truncInt, not_le.mpr negative, negative]
  · have nonneg := not_lt.mp negative
    rw [truncInt, if_pos nonneg, or_iff_right negative]
    constructor
    · intro same
      exact le_antisymm (same ▸ Int.floor_le x) (Int.le_ceil x)
    · intro integral
      rw [← integral, Int.floor_intCast, Int.ceil_intCast]

/-- The largest `k` with `b ^ k ≤ y`, searching up from `k` at most `fuel` times. -/
def floorLogAux (b y : ℚ) : Nat → Nat → Nat
  | 0, k => k
  | fuel + 1, k => if b ^ (k + 1) ≤ y then floorLogAux b y fuel (k + 1) else k

/-- `⌊log y / log b⌋` for `b > 1` and `y ≥ 1`. As `b ^ k ≥ 1 + k (b − 1)`, it is at most
`(y − 1) / (b − 1)`, which bounds the search. -/
def floorLog (b y : ℚ) : Nat := floorLogAux b y (⌈(y - 1) / (b - 1)⌉.toNat + 1) 0

/-- `int(math.Trunc(math.Log(x) / math.Log(b)))` in exact arithmetic, for `x, b > 0`.
`log x / log b = log x⁻¹ / log b⁻¹`, so a base below one is inverted. For `b = 1` the
quotient divides by zero: Go gets ±Inf or NaN, whose conversion to int is
implementation-defined, and the exact model takes `0`. -/
def truncLogRatio (x b : ℚ) : Int :=
  if b = 1 then 0
  else if b < 1 then signedFloorLog b⁻¹ x⁻¹
  else signedFloorLog b x
where
  signedFloorLog (b x : ℚ) : Int :=
    if 1 ≤ x then (floorLog b x : Int) else -(floorLog b x⁻¹ : Int)

end Katib
