/-
This file proves that a stored integer is read back from its own text. The digits are read from
left to right, and every number on the way lies between zero and the one that all digits give, so
none of them leaves the range that the last one is in.

Other texts are read as well, those with a plus or with zeros in front. The numerals of a kind are
all of them.
-/

import SqlRecords.Number.Integer
import SqlRecords.Proofs.Text.Digits

namespace SqlRecords.Integer

variable {kind : IntegerKind}

/-- The number with a sign and an absolute value. -/
def signed (negative : Bool) (magnitude : Nat) : Int :=
  if negative then -(magnitude : Int) else magnitude

theorem signed_extend (negative : Bool) (magnitude digit : Nat) :
    signed negative magnitude * 10 + (if negative then -(digit : Int) else digit) =
      signed negative (10 * magnitude + digit) := by
  cases negative <;> simp only [signed, if_true, Bool.false_eq_true, if_false] <;> omega

/-- A number between zero and one in the range of a kind is in that range. -/
theorem inRange_of_le {negative : Bool} {less more : Nat} (smaller : less ≤ more)
    (least_le : kind.least ≤ signed negative more)
    (le_greatest : signed negative more ≤ kind.greatest) :
    kind.least ≤ signed negative less ∧ signed negative less ≤ kind.greatest := by
  have zeroLeast : kind.least ≤ 0 := (zero kind).least_le
  have zeroGreatest : 0 ≤ kind.greatest := (zero kind).le_greatest
  cases negative <;> simp only [signed, if_true, Bool.false_eq_true, if_false] at * <;> omega

theorem ofInt?_of_inRange {number : Int} (least_le : kind.least ≤ number)
    (le_greatest : number ≤ kind.greatest) :
    ofInt? kind number = some ⟨number, least_le, le_greatest⟩ := by
  unfold ofInt?
  rw [dif_pos ⟨least_le, le_greatest⟩]

/-- Digits are read to the end when the number that they all give is one of the kind. -/
theorem readDigits_eq_ok (negative : Bool) (digits : List Char)
    (allDigits : ∀ digit ∈ digits, digit.isDigit = true) (number : Integer kind) (magnitude : Nat)
    (start : number.value = signed negative magnitude) (result : Integer kind)
    (whole : result.value = signed negative (Nat.ofDigitChars 10 digits magnitude)) :
    readDigits negative number digits = .ok result := by
  induction digits generalizing number magnitude with
  | nil =>
    obtain ⟨value, _, _⟩ := number
    obtain ⟨other, _, _⟩ := result
    cases start
    cases whole
    rfl
  | cons digit digits inductionHypothesis =>
    obtain ⟨isDigit, further⟩ := List.forall_mem_cons.mp allDigits
    rw [Nat.ofDigitChars_cons] at whole
    have inRange := inRange_of_le (le_ofDigitChars digits _) (whole ▸ result.least_le)
      (whole ▸ result.le_greatest)
    have extended : number.extend negative (digit.toNat - '0'.toNat) =
        some ⟨_, inRange.1, inRange.2⟩ := by
      unfold extend
      rw [start, signed_extend, ofInt?_of_inRange inRange.1 inRange.2]
    rw [readDigits, if_pos isDigit, extended]
    exact inductionHypothesis further _ _ rfl whole

/-! ### Signs -/

/-- A row of digits is read without a sign. -/
theorem ofText_digits (digits : List Char) (nonempty : digits ≠ [])
    (allDigits : ∀ digit ∈ digits, digit.isDigit = true) :
    ofText kind digits = readDigits false (zero kind) digits := by
  have noSign (sign : Char) (mark : sign.isDigit = false) (rest : List Char) :
      digits ≠ sign :: rest := by
    rintro rfl
    rw [allDigits sign List.mem_cons_self] at mark
    cases mark
  unfold ofText
  split
  case h_1 => exact absurd rfl nonempty
  case h_2 => exact absurd rfl (noSign '+' rfl _)
  case h_3 => exact absurd rfl (noSign '-' rfl _)
  case h_4 => exact absurd rfl (noSign '+' rfl _)
  case h_5 => exact absurd rfl (noSign '-' rfl _)
  case h_6 => rfl

theorem ofText_minus (digits : List Char) (nonempty : digits ≠ [])
    (isSigned : kind.isSigned = true) :
    ofText kind ('-' :: digits) = readDigits true (zero kind) digits := by
  rw [ofText, if_pos isSigned]
  exact nonempty

theorem ofText_plus (digits : List Char) (nonempty : digits ≠ []) :
    ofText kind ('+' :: digits) = readDigits false (zero kind) digits := by
  rw [ofText]
  exact nonempty

theorem isSigned_of_neg (number : Integer kind) (negative : number.value < 0) :
    kind.isSigned = true := by
  cases signed : kind.isSigned with
  | true => rfl
  | false =>
    have zeroLeast : kind.least = 0 := by
      cases kind <;> first | rfl | cases signed
    have least := number.least_le
    omega

theorem readDigits_zeroPadded (negative : Bool) (width : Nat) (number : Integer kind)
    (sign : number.value = signed negative number.value.natAbs) :
    readDigits negative (zero kind) (Text.zeroPadded width number.value.natAbs) = .ok number := by
  refine readDigits_eq_ok negative _ (fun digit => isDigit_of_mem_zeroPadded) _ 0 ?_ number ?_
  · cases negative <;> rfl
  · rw [ofDigitChars_zeroPadded]
    exact sign

/-! ### Texts of integers -/

/-- The decimal digits of an integer with zeros in front up to a width, behind the sign of a
negative one. -/
def paddedText (width : Nat) (number : Int) : List Char :=
  if number < 0 then '-' :: Text.zeroPadded width number.natAbs
  else Text.zeroPadded width number.natAbs

/-- A stored integer is read back from its text, whatever zeros stand in front. -/
theorem ofText_paddedText (width : Nat) (number : Integer kind) :
    ofText kind (paddedText width number.value) = .ok number := by
  unfold paddedText
  split
  case isTrue negative =>
    rw [ofText_minus _ zeroPadded_ne_nil (isSigned_of_neg number negative)]
    refine readDigits_zeroPadded true width number ?_
    rw [signed, if_pos rfl]
    omega
  case isFalse positive =>
    rw [ofText_digits _ zeroPadded_ne_nil fun digit => isDigit_of_mem_zeroPadded]
    refine readDigits_zeroPadded false width number ?_
    rw [signed, if_neg Bool.false_ne_true]
    omega

/-- A stored integer is read back from its own text. -/
theorem ofText_intText (number : Integer kind) :
    ofText kind (intText number.value) = .ok number := by
  have unpadded : paddedText 0 number.value = intText number.value := by
    unfold paddedText intText
    rw [zeroPadded_zero]
  rw [← unpadded]
  exact ofText_paddedText 0 number

/-! ### Numerals -/

/-- The texts that stand for an integer of a kind: a row of digits, alone, behind a plus or behind
a minus. A kind without negative members has no numerals with a minus, not even one of zero. -/
inductive IsNumeral (kind : IntegerKind) : List Char → Int → Prop
  | digits {digits : List Char} (nonempty : digits ≠ [])
    (allDigits : ∀ digit ∈ digits, digit.isDigit = true) :
    IsNumeral kind digits (Nat.ofDigitChars 10 digits 0)
  | plus {digits : List Char} (nonempty : digits ≠ [])
    (allDigits : ∀ digit ∈ digits, digit.isDigit = true) :
    IsNumeral kind ('+' :: digits) (Nat.ofDigitChars 10 digits 0)
  | minus {digits : List Char} (isSigned : kind.isSigned = true) (nonempty : digits ≠ [])
    (allDigits : ∀ digit ∈ digits, digit.isDigit = true) :
    IsNumeral kind ('-' :: digits) (-(Nat.ofDigitChars 10 digits 0 : Int))

/-- The text of an integer is a numeral of it, in a kind with negative members if it is negative
itself. -/
theorem isNumeral_intText (number : Int) (isSigned : number < 0 → kind.isSigned = true) :
    IsNumeral kind (intText number) number := by
  have digits := Nat.ofDigitChars_ten_toDigits (n := number.natAbs)
  have allDigits : ∀ digit ∈ Nat.toDigits 10 number.natAbs, digit.isDigit = true :=
    fun _ => isDigit_of_mem_toDigits
  unfold intText
  split
  case isTrue negative =>
    have numeral : IsNumeral kind _ _ := .minus (isSigned negative) Nat.toDigits_ne_nil allDigits
    rw [digits] at numeral
    rwa [show -(number.natAbs : Int) = number by omega] at numeral
  case isFalse positive =>
    have numeral : IsNumeral kind _ _ := .digits Nat.toDigits_ne_nil allDigits
    rw [digits] at numeral
    rwa [show (number.natAbs : Int) = number by omega] at numeral

/-- A text is a numeral of at most one integer, whatever the kinds. -/
theorem IsNumeral.unique {other : IntegerKind} {characters : List Char} {first second : Int}
    (left : IsNumeral kind characters first) (right : IsNumeral other characters second) :
    first = second := by
  have noSign {sign : Char} (mark : sign.isDigit = false) {digits : List Char}
      (allDigits : ∀ digit ∈ sign :: digits, digit.isDigit = true) : False := by
    rw [allDigits sign List.mem_cons_self] at mark
    cases mark
  cases left with
  | digits _ allDigits =>
    cases right with
    | digits => rfl
    | plus => exact (noSign rfl allDigits).elim
    | minus => exact (noSign rfl allDigits).elim
  | plus =>
    cases right with
    | digits _ allDigits => exact (noSign rfl allDigits).elim
    | plus => rfl
  | minus =>
    cases right with
    | digits _ allDigits => exact (noSign rfl allDigits).elim
    | minus => rfl

theorem ofInt?_eq_some_iff (number : Int) (integer : Integer kind) :
    ofInt? kind number = some integer ↔ integer.value = number := by
  constructor
  · intro found
    unfold ofInt? at found
    split at found
    case isTrue => rw [← Option.some.inj found]
    case isFalse => cases found
  · rintro rfl
    exact ofInt?_of_inRange integer.least_le integer.le_greatest

theorem extend_eq_some {negative : Bool} {number longer : Integer kind} {magnitude digit : Nat}
    (start : number.value = signed negative magnitude)
    (extended : number.extend negative digit = some longer) :
    longer.value = signed negative (10 * magnitude + digit) := by
  rw [(ofInt?_eq_some_iff _ _).mp extended, start, signed_extend]

/-- What was read to the end is a row of digits and gives their number. -/
theorem of_readDigits_eq_ok {negative : Bool} {digits : List Char} {number result : Integer kind}
    {magnitude : Nat} (start : number.value = signed negative magnitude)
    (read : readDigits negative number digits = .ok result) :
    (∀ digit ∈ digits, digit.isDigit = true) ∧
      result.value = signed negative (Nat.ofDigitChars 10 digits magnitude) := by
  induction digits generalizing number magnitude with
  | nil =>
    refine ⟨fun _ member => absurd member List.not_mem_nil, ?_⟩
    rw [← Except.ok.inj read, start]
    rfl
  | cons digit digits inductionHypothesis =>
    rw [readDigits] at read
    split at read
    case isTrue isDigit =>
      split at read
      case h_1 longer extended =>
        obtain ⟨further, whole⟩ := inductionHypothesis (extend_eq_some start extended) read
        refine ⟨List.forall_mem_cons.mpr ⟨isDigit, further⟩, ?_⟩
        rw [Nat.ofDigitChars_cons]
        exact whole
      case h_2 => cases read
    case isFalse => cases read

theorem value_zero (negative : Bool) : (zero kind).value = signed negative 0 := by
  cases negative <;> rfl

theorem isNumeral_of_ofText {characters : List Char} {number : Integer kind}
    (read : ofText kind characters = .ok number) : IsNumeral kind characters number.value := by
  unfold ofText at read
  split at read
  case h_1 => cases read
  case h_2 => cases read
  case h_3 => cases read
  case h_4 digits more =>
    obtain ⟨allDigits, whole⟩ := of_readDigits_eq_ok (value_zero false) read
    rw [whole]
    exact .plus more allDigits
  case h_5 digits more =>
    split at read
    case isTrue isSigned =>
      obtain ⟨allDigits, whole⟩ := of_readDigits_eq_ok (value_zero true) read
      rw [whole]
      exact .minus isSigned more allDigits
    case isFalse => cases read
  case h_6 digits nonempty _ _ _ _ =>
    obtain ⟨allDigits, whole⟩ := of_readDigits_eq_ok (value_zero false) read
    rw [whole]
    exact .digits nonempty allDigits

/-- A text is read as an integer of a kind exactly if it is a numeral of that integer. -/
theorem ofText_eq_ok_iff (characters : List Char) (number : Integer kind) :
    ofText kind characters = .ok number ↔ IsNumeral kind characters number.value := by
  refine ⟨isNumeral_of_ofText, fun numeral => ?_⟩
  generalize same : number.value = value at numeral
  cases numeral with
  | digits nonempty allDigits =>
    rw [ofText_digits characters nonempty allDigits]
    exact readDigits_eq_ok false _ allDigits _ 0 (value_zero false) number same
  | plus nonempty allDigits =>
    rw [ofText_plus _ nonempty]
    exact readDigits_eq_ok false _ allDigits _ 0 (value_zero false) number same
  | minus isSigned nonempty allDigits =>
    rw [ofText_minus _ nonempty isSigned]
    exact readDigits_eq_ok true _ allDigits _ 0 (value_zero true) number same

end SqlRecords.Integer
