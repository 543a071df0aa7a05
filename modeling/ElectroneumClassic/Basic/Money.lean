import ElectroneumClassic.Config
import Mathlib.Tactic.FieldSimp
import Mathlib.Tactic.Linarith
import Mathlib.Data.List.Induction
import Mathlib.Data.Rat.Cast.Order

/-!
# Amounts as decimal strings

`print_money` of `cryptonote_format_utils.cpp` writes an amount of atomic
units as a decimal number of coins: `std::to_string` of the amount,
left-padded with zeros to one digit more than the decimal point, with the
point inserted that many digits from the right.  `parse_amount` reads such a
string back: it trims white space, erases surplus trailing zeros of the
fraction, refuses a fraction longer than the decimal point, erases the point,
pads the fraction with zeros to the decimal point and hands the digits to a
cast into `uint64_t` that takes digits only.

Strings are lists of characters.  `default_decimal_point` is an argument of
both functions; it starts as `CRYPTONOTE_DISPLAY_DECIMAL_POINT`, which is 2.
-/

namespace ElectroneumClassic.Cryptonote

/-- The initial `default_decimal_point`. -/
def cryptonoteDisplayDecimalPoint : Nat := Config.CRYPTONOTE_DISPLAY_DECIMAL_POINT

/-- `std::isspace` in the classic locale. -/
def isSpace (c : Char) : Bool :=
  c == ' ' || c == '\t' || c == '\n' || c == '\x0b' || c == '\x0c' || c == '\r'

/-- `boost::algorithm::trim`. -/
def trim (s : List Char) : List Char :=
  ((s.dropWhile isSpace).reverse.dropWhile isSpace).reverse

/-- `string_tools::get_xtype_from_string` for `uint64_t`: every character a digit,
then `boost::lexical_cast`, which refuses an empty string and a value above
`2 ^ 64 - 1`. -/
def getXtypeFromString (strId : List Char) : Option Nat :=
  if strId.all Char.isDigit then
    if strId.isEmpty then none
    else if Nat.ofDigitChars 10 strId 0 < 2 ^ 64 then some (Nat.ofDigitChars 10 strId 0) else none
  else none

/-- The loop of `parse_amount` that erases trailing zeros while the fraction is
longer than the decimal point. -/
def dropSurplusZeros (decimalPoint : Nat) : List Char → Nat → List Char × Nat
  | strAmount, 0 => (strAmount, 0)
  | strAmount, fractionSize + 1 =>
    if decimalPoint < fractionSize + 1 ∧ strAmount.getLast? = some '0' then
      dropSurplusZeros decimalPoint strAmount.dropLast fractionSize
    else (strAmount, fractionSize + 1)

/-- `parse_amount(amount, str_amount)`. -/
def parseAmount (defaultDecimalPoint : Nat) (strAmount : List Char) : Option Nat :=
  let strAmount := trim strAmount
  let cut : Option (List Char × Nat) :=
    match strAmount.idxOf? '.' with
    | some pointIndex =>
      let (strAmount, fractionSize) :=
        dropSurplusZeros defaultDecimalPoint strAmount (strAmount.length - pointIndex - 1)
      if defaultDecimalPoint < fractionSize then none
      else some (strAmount.eraseIdx pointIndex, fractionSize)
    | none => some (strAmount, 0)
  match cut with
  | none => none
  | some (strAmount, fractionSize) =>
    if strAmount.isEmpty then none
    else if fractionSize < defaultDecimalPoint then
      getXtypeFromString (strAmount ++ List.replicate (defaultDecimalPoint - fractionSize) '0')
    else getXtypeFromString strAmount

/-- `print_money(amount, decimal_point)`, where `(unsigned int)-1` stands for
`default_decimal_point`. -/
def printMoney (defaultDecimalPoint amount decimalPoint : Nat) : List Char :=
  let decimalPoint := if decimalPoint = 2 ^ 32 - 1 then defaultDecimalPoint else decimalPoint
  let s := Nat.toDigits 10 amount
  let s := if s.length < decimalPoint + 1 then List.replicate (decimalPoint + 1 - s.length) '0' ++ s else s
  if decimalPoint > 0 then s.take (s.length - decimalPoint) ++ '.' :: s.drop (s.length - decimalPoint) else s

/-- `text` is a number in decimal: the digits `intPart`, then either nothing
(`fracPart` is empty) or a point and the digits `fracPart`; not the point alone. -/
def DecimalForm (text intPart fracPart : List Char) : Prop :=
  (text = intPart ∧ fracPart = [] ∨ text = intPart ++ '.' :: fracPart) ∧
    (∀ c ∈ intPart ++ fracPart, c.isDigit) ∧ intPart ++ fracPart ≠ []

/-- The number a decimal form denotes. -/
def decimalValue (intPart fracPart : List Char) : ℚ :=
  (Nat.ofDigitChars 10 (intPart ++ fracPart) 0 : ℚ) / 10 ^ fracPart.length

/-! ## Lists of characters -/

theorem idxOf?_append_cons {front back : List Char} {c : Char} (first : c ∉ front) :
    (front ++ c :: back).idxOf? c = some front.length := by
  induction front with
  | nil => simp [List.idxOf?_cons]
  | cons d front inductionHypothesis =>
    have other : (d == c) = false := beq_false_of_ne fun same => first (same ▸ List.mem_cons_self)
    rw [List.cons_append, List.idxOf?_cons, other, if_neg Bool.false_ne_true,
      inductionHypothesis fun member => first (List.mem_cons_of_mem d member)]
    rfl

/-- A character that occurs splits a list at its first occurrence. -/
theorem exists_first_split {c : Char} : ∀ {text : List Char}, c ∈ text →
    ∃ front back, text = front ++ c :: back ∧ c ∉ front
  | d :: text, member => by
    by_cases same : d = c
    · exact ⟨[], text, by rw [same]; rfl, List.not_mem_nil⟩
    · obtain ⟨front, back, split, first⟩ :=
        exists_first_split ((List.mem_cons.mp member).resolve_left (Ne.symm same))
      refine ⟨d :: front, back, by rw [split]; rfl, ?_⟩
      rw [List.mem_cons, not_or]
      exact ⟨Ne.symm same, first⟩

theorem trim_of_forall {s : List Char} (clear : ∀ c ∈ s, isSpace c = false) : trim s = s := by
  have keep : ∀ l : List Char, (∀ c ∈ l, isSpace c = false) → l.dropWhile isSpace = l := by
    intro l all
    cases l with
    | nil => rfl
    | cons c rest => simp [all c List.mem_cons_self]
  rw [trim, keep s clear, keep s.reverse fun c member => clear c (List.mem_reverse.mp member),
    List.reverse_reverse]

theorem getXtypeFromString_eq_some_iff {strId : List Char} {value : Nat} :
    getXtypeFromString strId = some value ↔
      (∀ c ∈ strId, c.isDigit) ∧ strId ≠ [] ∧ Nat.ofDigitChars 10 strId 0 = value ∧ value < 2 ^ 64 := by
  unfold getXtypeFromString
  by_cases digits : strId.all Char.isDigit
  · have each : ∀ c ∈ strId, c.isDigit := by simpa using digits
    by_cases empty : strId = []
    · simp [empty]
    · by_cases fits : Nat.ofDigitChars 10 strId 0 < 2 ^ 64
      · simp only [digits, if_true, List.isEmpty_eq_false_iff.mpr empty, Bool.false_eq_true, if_false,
          if_pos fits, Option.some.injEq]
        constructor
        · rintro rfl
          exact ⟨each, empty, rfl, fits⟩
        · rintro ⟨-, -, rfl, -⟩
          rfl
      · simp only [digits, if_true, List.isEmpty_eq_false_iff.mpr empty, Bool.false_eq_true, if_false,
          if_neg fits, reduceCtorEq, false_iff]
        rintro ⟨-, -, rfl, below⟩
        exact fits below
  · have some : ¬ ∀ c ∈ strId, c.isDigit := by simpa using digits
    simp only [digits, Bool.false_eq_true, if_false, reduceCtorEq, false_iff]
    rintro ⟨each, -⟩
    exact some each

/-! ## `parse_amount` -/

/-- The zero-erasing loop keeps a prefix of the fraction: no shorter than the
decimal point or the fraction, with only zeros after it, and ending in a zero
only if it is no longer than the decimal point. -/
theorem dropSurplusZeros_spec (decimalPoint : Nat) (front fraction : List Char) :
    ∃ kept ≤ fraction.length,
      dropSurplusZeros decimalPoint (front ++ fraction) fraction.length = (front ++ fraction.take kept, kept) ∧
      min decimalPoint fraction.length ≤ kept ∧ (∀ c ∈ fraction.drop kept, c = '0') ∧
      (decimalPoint < kept → (fraction.take kept).getLast? ≠ some '0') := by
  induction fraction using List.reverseRecOn with
  | nil => exact ⟨0, le_refl _, by simp [dropSurplusZeros], by simp, by simp, by simp⟩
  | append_singleton rest c inductionHypothesis =>
    have last : (front ++ (rest ++ [c])).getLast? = some c := by
      rw [← List.append_assoc, List.getLast?_append_of_ne_nil _ (List.cons_ne_nil c []), List.getLast?_singleton]
    rw [List.length_append, List.length_singleton, dropSurplusZeros, last]
    simp only [Option.some.injEq]
    by_cases erased : decimalPoint < rest.length + 1 ∧ c = '0'
    · -- the last digit is a surplus zero: the loop goes on with the rest
      obtain ⟨kept, bound, result, longEnough, zeros, ending⟩ := inductionHypothesis
      rw [if_pos erased, ← List.append_assoc, List.dropLast_concat, result]
      refine ⟨kept, by omega, ?_, by omega, ?_, ?_⟩
      · rw [List.take_append_of_le_length bound]
      · rw [List.drop_append_of_le_length bound]
        intro d member
        rcases List.mem_append.mp member with inside | final
        · exact zeros d inside
        · rw [List.mem_singleton.mp final]
          exact erased.2
      · rw [List.take_append_of_le_length bound]
        exact ending
    · -- the loop stops and keeps the whole fraction
      rw [if_neg erased]
      refine ⟨rest.length + 1, le_refl _, ?_, by omega, ?_, ?_⟩
      · rw [show rest.length + 1 = (rest ++ [c]).length by simp, List.take_length]
      · simp
      · intro longer
        rw [show rest.length + 1 = (rest ++ [c]).length by simp, List.take_length, List.getLast?_concat,
          Ne, Option.some.injEq]
        exact fun zero => erased ⟨longer, zero⟩

/-- Without a point, `parse_amount` pads the trimmed string with `d` zeros. -/
theorem parseAmount_of_no_point {d : Nat} {s : List Char} (noPoint : '.' ∉ trim s) :
    parseAmount d s = if trim s = [] then none else getXtypeFromString (trim s ++ List.replicate d '0') := by
  have absent : (trim s).idxOf? '.' = none := List.idxOf?_eq_none_iff.mpr noPoint
  unfold parseAmount
  simp only [absent]
  by_cases empty : trim s = []
  · simp [empty]
  · by_cases positive : 0 < d
    · simp [empty, positive]
    · obtain rfl : d = 0 := by omega
      simp [empty]

/-- With a point, `parse_amount` keeps the digits before it and a prefix of the
fraction, which `dropSurplusZeros_spec` describes. -/
theorem parseAmount_of_point {d : Nat} {s front back : List Char} (cutAt : trim s = front ++ '.' :: back)
    (first : '.' ∉ front) :
    ∃ kept ≤ back.length, min d back.length ≤ kept ∧ (∀ c ∈ back.drop kept, c = '0') ∧
      (d < kept → (back.take kept).getLast? ≠ some '0') ∧
      parseAmount d s = if d < kept ∨ front ++ back.take kept = [] then none
        else getXtypeFromString (front ++ back.take kept ++ List.replicate (d - kept) '0') := by
  obtain ⟨kept, bound, loop, longEnough, zeros, ending⟩ := dropSurplusZeros_spec d (front ++ ['.']) back
  refine ⟨kept, bound, longEnough, zeros, ending, ?_⟩
  have index : (trim s).idxOf? '.' = some front.length := by
    rw [cutAt]
    exact idxOf?_append_cons first
  have size : (trim s).length - front.length - 1 = back.length := by
    rw [cutAt]
    simp
  have erased : ((front ++ ['.']) ++ back.take kept).eraseIdx front.length = front ++ back.take kept := by
    simp [List.eraseIdx_append_of_length_le]
  unfold parseAmount
  simp only [index, size]
  rw [show trim s = (front ++ ['.']) ++ back by rw [cutAt]; simp, loop]
  by_cases refused : d < kept
  · simp [refused]
  · simp only [refused, if_false, erased]
    by_cases empty : front ++ back.take kept = []
    · simp [empty]
    · by_cases padded : kept < d
      · simp [empty, padded]
      · obtain rfl : kept = d := by omega
        simp [empty]

/-! ## What `parse_amount` accepts -/

theorem ofDigitChars_append_zeros (digits : List Char) (count : Nat) :
    Nat.ofDigitChars 10 (digits ++ List.replicate count '0') 0 = Nat.ofDigitChars 10 digits 0 * 10 ^ count := by
  rw [Nat.ofDigitChars_append, Nat.ofDigitChars_replicate_zero, Nat.mul_comm]

/-- A fraction whose digits after `kept` are zeros denotes what its first `kept`
digits padded to `d` digits do, read as units of `10 ^ -d`. -/
theorem decimalValue_of_kept {intPart fracPart : List Char} {d kept : Nat} (bound : kept ≤ fracPart.length)
    (short : kept ≤ d) (zeros : ∀ c ∈ fracPart.drop kept, c = '0') :
    decimalValue intPart fracPart =
      (Nat.ofDigitChars 10 (intPart ++ fracPart.take kept ++ List.replicate (d - kept) '0') 0 : ℚ) / 10 ^ d := by
  have dropped : fracPart.drop kept = List.replicate (fracPart.length - kept) '0' :=
    List.eq_replicate_iff.mpr ⟨by simp, zeros⟩
  have split : intPart ++ fracPart = intPart ++ fracPart.take kept ++ List.replicate (fracPart.length - kept) '0' := by
    rw [List.append_assoc, ← dropped, List.take_append_drop]
  have fracPower : (10 : ℚ) ^ fracPart.length = 10 ^ (fracPart.length - kept) * 10 ^ kept := by
    rw [← pow_add, Nat.sub_add_cancel bound]
  have pointPower : (10 : ℚ) ^ d = 10 ^ (d - kept) * 10 ^ kept := by
    rw [← pow_add, Nat.sub_add_cancel short]
  unfold decimalValue
  rw [split, ofDigitChars_append_zeros, ofDigitChars_append_zeros, fracPower, pointPower]
  push_cast
  rw [mul_comm _ ((10 : ℚ) ^ (fracPart.length - kept)), mul_comm _ ((10 : ℚ) ^ (d - kept)),
    mul_div_mul_left _ _ (pow_ne_zero _ (by norm_num)), mul_div_mul_left _ _ (pow_ne_zero _ (by norm_num))]

theorem point_not_digit : Char.isDigit '.' = false := by decide

/-- What `parse_amount` returns for a decimal form: the fraction is its kept
digits and zeros, and the value is the form's number in units of `10 ^ -d`. -/
theorem parseAmount_of_decimalForm {d : Nat} {s intPart fracPart : List Char}
    (form : DecimalForm (trim s) intPart fracPart) {v : Nat} (parsed : parseAmount d s = some v) :
    (∃ kept zeros, fracPart = kept ++ List.replicate zeros '0' ∧ kept.length ≤ d) ∧
      decimalValue intPart fracPart = v / 10 ^ d ∧ v < 2 ^ 64 := by
  obtain ⟨written, digits, -⟩ := form
  have noPoint : '.' ∉ intPart := fun member =>
    absurd (digits '.' (List.mem_append_left fracPart member)) (by rw [point_not_digit]; decide)
  rcases written with ⟨whole, rfl⟩ | cutAt
  · -- no point: the digits padded with `d` zeros
    rw [parseAmount_of_no_point (by rw [whole]; exact noPoint), whole] at parsed
    split_ifs at parsed
    obtain ⟨-, -, value, fits⟩ := getXtypeFromString_eq_some_iff.mp parsed
    refine ⟨⟨[], 0, rfl, Nat.zero_le d⟩, ?_, fits⟩
    rw [← value, ofDigitChars_append_zeros]
    unfold decimalValue
    push_cast
    rw [List.append_nil, List.length_nil, pow_zero, div_one, mul_div_cancel_right₀ _ (pow_ne_zero _ (by norm_num))]
  · -- a point: the kept prefix of the fraction, padded to `d` digits
    obtain ⟨kept, bound, -, zeros, -, result⟩ := parseAmount_of_point (d := d) cutAt noPoint
    rw [result] at parsed
    split_ifs at parsed with refused
    obtain ⟨-, -, value, fits⟩ := getXtypeFromString_eq_some_iff.mp parsed
    have short : kept ≤ d := by omega
    refine ⟨⟨fracPart.take kept, fracPart.length - kept, ?_, by simp; omega⟩, ?_, fits⟩
    · rw [← List.eq_replicate_iff.mpr ⟨by simp, zeros⟩, List.take_append_drop]
    · rw [decimalValue_of_kept bound short zeros, value]

/-- Whatever `parse_amount` accepts is, once trimmed, a decimal form. -/
theorem decimalForm_of_parseAmount {d : Nat} {s : List Char} {v : Nat}
    (parsed : parseAmount d s = some v) : ∃ intPart fracPart, DecimalForm (trim s) intPart fracPart := by
  by_cases point : '.' ∈ trim s
  · obtain ⟨front, back, cutAt, first⟩ := exists_first_split point
    obtain ⟨kept, bound, longEnough, zeros, -, result⟩ := parseAmount_of_point (d := d) cutAt first
    rw [result] at parsed
    split_ifs at parsed with refused
    obtain ⟨digits, -, -, -⟩ := getXtypeFromString_eq_some_iff.mp parsed
    refine ⟨front, back, Or.inr cutAt, fun c member => ?_, ?_⟩
    · rw [← List.take_append_drop kept back, ← List.append_assoc] at member
      rcases List.mem_append.mp member with kept | dropped
      · exact digits c (List.mem_append_left _ kept)
      · rw [zeros c dropped]
        rfl
    · intro empty
      exact refused (Or.inr (by simp_all))
  · rw [parseAmount_of_no_point point] at parsed
    split_ifs at parsed with empty
    obtain ⟨digits, -, -, -⟩ := getXtypeFromString_eq_some_iff.mp parsed
    refine ⟨trim s, [], Or.inl ⟨rfl, rfl⟩, fun c member => ?_, by simpa using empty⟩
    exact digits c (List.mem_append_left _ (by simpa using member))

/-! ## `print_money` and the round trip -/

theorem isDigit_zero : Char.isDigit '0' = true := by decide

theorem isSpace_of_isDigit {c : Char} (digit : c.isDigit) : isSpace c = false := by
  unfold isSpace
  simp only [Bool.or_eq_false_iff, beq_eq_false_iff_ne, ne_eq]
  refine ⟨⟨⟨⟨⟨?_, ?_⟩, ?_⟩, ?_⟩, ?_⟩, ?_⟩
  all_goals
    rintro rfl
    exact absurd digit (by decide)

/-- The digits `print_money` starts from, left-padded to `d + 1`: digits of the amount. -/
theorem padded_digits (d amount : Nat) :
    ∃ padded : List Char,
      (if (Nat.toDigits 10 amount).length < d + 1 then
          List.replicate (d + 1 - (Nat.toDigits 10 amount).length) '0' ++ Nat.toDigits 10 amount
        else Nat.toDigits 10 amount) = padded ∧
      d + 1 ≤ padded.length ∧ (∀ c ∈ padded, c.isDigit) ∧ Nat.ofDigitChars 10 padded 0 = amount := by
  have digits : ∀ c ∈ Nat.toDigits 10 amount, c.isDigit := fun c member =>
    Nat.isDigit_of_mem_toDigits (by norm_num) (by norm_num) member
  split_ifs with short
  · refine ⟨_, rfl, by simp; omega, fun c member => ?_, ?_⟩
    · rcases List.mem_append.mp member with zero | digit
      · rw [List.eq_of_mem_replicate zero]
        exact isDigit_zero
      · exact digits c digit
    · rw [Nat.ofDigitChars_append, Nat.ofDigitChars_replicate_zero, Nat.mul_zero, Nat.ofDigitChars_ten_toDigits]
  · exact ⟨_, rfl, by omega, digits, Nat.ofDigitChars_ten_toDigits⟩

/-- With a positive decimal point, `print_money` writes a decimal form: the padded
digits of the amount with a point before the last `d`. -/
theorem printMoney_decimalForm {d : Nat} (positive : 0 < d) (amount : Nat) :
    ∃ intPart fracPart, printMoney d amount (2 ^ 32 - 1) = intPart ++ '.' :: fracPart ∧
      fracPart.length = d ∧ (∀ c ∈ intPart ++ fracPart, c.isDigit) ∧ intPart ≠ [] ∧
      Nat.ofDigitChars 10 (intPart ++ fracPart) 0 = amount := by
  obtain ⟨padded, formed, longEnough, digits, value⟩ := padded_digits d amount
  have printed : printMoney d amount (2 ^ 32 - 1) =
      padded.take (padded.length - d) ++ '.' :: padded.drop (padded.length - d) := by
    unfold printMoney
    simp only [if_true, formed, if_pos positive]
  refine ⟨padded.take (padded.length - d), padded.drop (padded.length - d), printed, by simp; omega, ?_, ?_, ?_⟩
  · rw [List.take_append_drop]
    exact digits
  · exact List.ne_nil_of_length_pos (by simp; omega)
  · rw [List.take_append_drop]
    exact value

/-- `parse_amount` reads back what `print_money` writes, for every `uint64_t`
amount and every decimal point. -/
theorem parseAmount_printMoney (d : Nat) {amount : Nat} (fits : amount < 2 ^ 64) :
    parseAmount d (printMoney d amount (2 ^ 32 - 1)) = some amount := by
  rcases Nat.eq_zero_or_pos d with rfl | positive
  · -- no point at all: the digits of the amount
    have printed : printMoney 0 amount (2 ^ 32 - 1) = Nat.toDigits 10 amount := by
      unfold printMoney
      simp
    have digits : ∀ c ∈ Nat.toDigits 10 amount, c.isDigit := fun c member =>
      Nat.isDigit_of_mem_toDigits (by norm_num) (by norm_num) member
    have clear : ∀ c ∈ Nat.toDigits 10 amount, isSpace c = false := fun c member =>
      isSpace_of_isDigit (digits c member)
    rw [printed, parseAmount_of_no_point, trim_of_forall clear, if_neg Nat.toDigits_ne_nil, List.replicate_zero,
      List.append_nil]
    · exact getXtypeFromString_eq_some_iff.mpr ⟨digits, Nat.toDigits_ne_nil, Nat.ofDigitChars_ten_toDigits, fits⟩
    · rw [trim_of_forall clear]
      exact fun member => absurd (digits '.' member) (by rw [point_not_digit]; decide)
  · obtain ⟨intPart, fracPart, printed, size, digits, nonempty, value⟩ := printMoney_decimalForm positive amount
    have clear : ∀ c ∈ printMoney d amount (2 ^ 32 - 1), isSpace c = false := by
      rw [printed]
      intro c member
      rcases List.mem_append.mp member with front | back
      · exact isSpace_of_isDigit (digits c (List.mem_append_left _ front))
      · rcases List.mem_cons.mp back with rfl | rest
        · decide
        · exact isSpace_of_isDigit (digits c (List.mem_append_right _ rest))
    have noPoint : '.' ∉ intPart := fun member =>
      absurd (digits '.' (List.mem_append_left _ member)) (by rw [point_not_digit]; decide)
    obtain ⟨kept, bound, longEnough, -, -, result⟩ :=
      parseAmount_of_point (d := d) (by rw [trim_of_forall clear]; exact printed) noPoint
    -- the fraction is exactly `d` digits long, so the loop erases nothing
    have whole : kept = d := by omega
    rw [result, whole, if_neg (by simp [nonempty]), Nat.sub_self, List.replicate_zero, List.append_nil,
      List.take_of_length_le (by omega)]
    exact getXtypeFromString_eq_some_iff.mpr ⟨digits, by simp [nonempty], value, fits⟩

/-- With the configured decimal point, `parse_amount` reads back every `uint64_t`
amount `print_money` writes; a string it accepts is, once trimmed, a decimal
number equal to the returned value over `10 ^ 2`, whose fraction has at most
two digits before trailing zeros; and a decimal number that is not a whole
number of hundredths below `2 ^ 64` is refused. -/
theorem parse_amount_print_money :
    (∀ amount : Nat, amount < 2 ^ 64 →
      parseAmount cryptonoteDisplayDecimalPoint
        (printMoney cryptonoteDisplayDecimalPoint amount (2 ^ 32 - 1)) = some amount) ∧
    (∀ (s : List Char) (v : Nat), parseAmount cryptonoteDisplayDecimalPoint s = some v →
      ∃ intPart fracPart, DecimalForm (trim s) intPart fracPart ∧
        (∃ kept zeros, fracPart = kept ++ List.replicate zeros '0' ∧ kept.length ≤ cryptonoteDisplayDecimalPoint) ∧
        decimalValue intPart fracPart = v / 10 ^ cryptonoteDisplayDecimalPoint ∧ v < 2 ^ 64) ∧
    (∀ s intPart fracPart : List Char, DecimalForm (trim s) intPart fracPart →
      (¬ ∃ v : Nat, v < 2 ^ 64 ∧ decimalValue intPart fracPart = v / 10 ^ cryptonoteDisplayDecimalPoint) →
      parseAmount cryptonoteDisplayDecimalPoint s = none) := by
  refine ⟨fun amount fits => parseAmount_printMoney _ fits, fun s v parsed => ?_,
    fun s intPart fracPart form refused => ?_⟩
  · obtain ⟨intPart, fracPart, form⟩ := decimalForm_of_parseAmount parsed
    exact ⟨intPart, fracPart, form, parseAmount_of_decimalForm form parsed⟩
  · cases parsed : parseAmount cryptonoteDisplayDecimalPoint s with
    | none => rfl
    | some v =>
      obtain ⟨-, value, fits⟩ := parseAmount_of_decimalForm form parsed
      exact absurd ⟨v, fits, value⟩ refused

theorem parse_amount_print_money_on_cents :
    parseAmount cryptonoteDisplayDecimalPoint
        (printMoney cryptonoteDisplayDecimalPoint 1234 (2 ^ 32 - 1)) = some 1234 ∧
      (∃ intPart fracPart, DecimalForm (trim ['5', '.']) intPart fracPart ∧
        (∃ kept zeros, fracPart = kept ++ List.replicate zeros '0' ∧ kept.length ≤ cryptonoteDisplayDecimalPoint) ∧
        decimalValue intPart fracPart = ((500 : Nat) : ℚ) / 10 ^ cryptonoteDisplayDecimalPoint ∧ 500 < 2 ^ 64) ∧
      parseAmount cryptonoteDisplayDecimalPoint ['1', '.', '2', '3', '4'] = none :=
  ⟨parse_amount_print_money.1 1234 (by decide),
    parse_amount_print_money.2.1 ['5', '.'] 500 (by decide),
    parse_amount_print_money.2.2 ['1', '.', '2', '3', '4'] ['1'] ['2', '3', '4']
      (by
        refine ⟨Or.inr (by decide), ?_, by simp⟩
        intro c member
        simp only [List.cons_append, List.nil_append, List.mem_cons, List.not_mem_nil,
          or_false] at member
        rcases member with rfl | rfl | rfl | rfl <;> decide)
      (by
        rintro ⟨v, -, value⟩
        have digits : Nat.ofDigitChars 10 (['1'] ++ ['2', '3', '4']) 0 = 1234 := by decide
        rw [decimalValue, digits, cryptonoteDisplayDecimalPoint,
          Config.CRYPTONOTE_DISPLAY_DECIMAL_POINT] at value
        have tenths : (1234 : ℚ) = 10 * v := by
          norm_num at value
          linarith
        norm_cast at tenths
        omega)⟩

example : printMoney 2 7 (2 ^ 32 - 1) = ['0', '.', '0', '7'] := by decide

example : parseAmount 2 [' ', '5', '.', '\t'] = some 500 := by decide

example : parseAmount 2 ['1', '.', '2', '3', '4'] = none := by decide

end ElectroneumClassic.Cryptonote
