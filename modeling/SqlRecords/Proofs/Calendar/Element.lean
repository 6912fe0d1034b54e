/-
This file reads the elements of a date or time back from their text. Each element of a spelling
is read back from the part that it spells and leaves what follows, so the front of a spelling is,
by induction over its elements. A fraction of a second takes all digits it finds, and is
therefore the last element of its spelling.

A spelling that asks for a mark where the text has another one, or has ended, refuses the text.
-/

import SqlRecords.Calendar.Reader
import SqlRecords.Proofs.Text.Digits

namespace SqlRecords

namespace Calendar

/-! ### Numbers -/

theorem readNumber_zeroPadded {count number : Nat} (positive : 0 < count)
    (fits : number < 10 ^ count) (rest : List Char) :
    readNumber count (Text.zeroPadded count number ++ rest) = some (number, rest) := by
  have length := length_zeroPadded positive fits
  have allDigits : (Text.zeroPadded count number).all Char.isDigit = true :=
    List.all_eq_true.mpr fun digit => isDigit_of_mem_zeroPadded
  unfold readNumber
  rw [List.take_left' length, List.drop_left' length]
  show (if _ then some (Nat.ofDigitChars 10 (Text.zeroPadded count number) 0, rest) else _) = _
  rw [if_pos ⟨length, allDigits⟩, ofDigitChars_zeroPadded]

/-- A year without a sign is read as a number. -/
theorem readYear_of_noSign (characters : List Char)
    (noSign : ∀ first ∈ characters.head?, first.isDigit = true) :
    readYear characters =
      (readNumber 4 characters).map fun (number, rest) => ((number : Int), rest) := by
  unfold readYear
  split
  case h_1 => exact absurd (noSign '-' rfl) (by decide)
  case h_2 => exact absurd (noSign '+' rfl) (by decide)
  case h_3 => rfl

theorem takeWhile_of_forall {test : Char → Bool} {characters : List Char}
    (passes : ∀ character ∈ characters, test character = true) :
    characters.takeWhile test = characters := by
  have whole : (characters ++ []).takeWhile test = characters ++ List.takeWhile test [] :=
    List.takeWhile_append_of_pos passes
  rwa [List.takeWhile_nil, List.append_nil] at whole

/-- A fraction of a second takes all digits that it finds. -/
theorem readFraction_digits {most : Nat} (digits : List Char) (nonempty : digits ≠ [])
    (allDigits : ∀ digit ∈ digits, digit.isDigit = true) (fits : digits.length ≤ most) :
    readFraction most digits = some (nanosecondsOf digits, []) := by
  have taken : (digits.take most).takeWhile Char.isDigit = digits := by
    rw [List.take_of_length_le fits]
    exact takeWhile_of_forall allDigits
  unfold readFraction
  rw [taken, if_neg (by rwa [List.isEmpty_iff]), List.drop_length]

theorem nanosecondsOf_zeroPadded {count number : Nat} (positive : 0 < count) (le : count ≤ 9)
    (fits : number < 10 ^ count) :
    nanosecondsOf (Text.zeroPadded count number) = number * 10 ^ (9 - count) := by
  have length := length_zeroPadded positive fits
  unfold nanosecondsOf
  rw [List.take_of_length_le (by rwa [length])]
  show Nat.ofDigitChars 10 (Text.zeroPadded count number) 0 *
    10 ^ (9 - (Text.zeroPadded count number).length) = _
  rw [length, ofDigitChars_zeroPadded]

/-! ### Elements -/

/-- The text of an element for the parts of a date-time. A fraction of a second has the given
number of digits. -/
def Element.spell (parts : Fields) (digits : Nat) : Element → List Char
  | year => (if parts.year < 0 then ['-'] else []) ++ Text.zeroPadded 4 parts.year.natAbs
  | month => Text.zeroPadded 2 parts.month
  | day => Text.zeroPadded 2 parts.day
  | hour => Text.zeroPadded 2 parts.hour
  | minute => Text.zeroPadded 2 parts.minute
  | second => Text.zeroPadded 2 parts.second
  | fraction => Text.zeroPadded digits (parts.nanosecond / 10 ^ (9 - digits))
  | mark character => [character]

/-- The parts that have been read, with that of an element filled in. -/
def Element.fill (parts fields : Fields) : Element → Fields
  | year => { fields with year := parts.year }
  | month => { fields with month := parts.month }
  | day => { fields with day := parts.day }
  | hour => { fields with hour := parts.hour }
  | minute => { fields with minute := parts.minute }
  | second => { fields with second := parts.second }
  | fraction => { fields with nanosecond := parts.nanosecond }
  | mark _ => fields

/-- Whether the parts have no more digits than their elements. -/
structure Fields.Fits (parts : Fields) : Prop where
  year : parts.year.natAbs < 10 ^ 4
  month : parts.month < 10 ^ 2
  day : parts.day < 10 ^ 2
  hour : parts.hour < 10 ^ 2
  minute : parts.minute < 10 ^ 2
  second : parts.second < 10 ^ 2
  nanosecond : parts.nanosecond < 10 ^ 9

variable {parts : Fields} {digits : Nat}

theorem readYear_spell (fits : parts.Fits) (rest : List Char) :
    readYear (Element.year.spell parts digits ++ rest) = some (parts.year, rest) := by
  have number := readNumber_zeroPadded (by decide : 0 < 4) fits.year rest
  show readYear ((if parts.year < 0 then ['-'] else []) ++ _ ++ rest) = _
  split
  case isTrue negative =>
    show (readNumber 4 (Text.zeroPadded 4 parts.year.natAbs ++ rest)).map _ = _
    rw [number]
    show some (-(parts.year.natAbs : Int), rest) = _
    rw [Int.ofNat_natAbs_of_nonpos (Int.le_of_lt negative), Int.neg_neg]
  case isFalse positive =>
    have noSign : (parts.year.natAbs : Int) = parts.year :=
      Int.natAbs_of_nonneg (Int.not_lt.mp positive)
    rw [List.nil_append, readYear_of_noSign _ fun first => isDigit_of_mem_head?, number]
    show some ((parts.year.natAbs : Int), rest) = _
    rw [noSign]

/-- An element other than a fraction is read back from its text. -/
theorem read_spell (fits : parts.Fits) (fields : Fields) (rest : List Char) (element : Element)
    (whole : element ≠ .fraction) :
    element.read fields (element.spell parts digits ++ rest) =
      some (element.fill parts fields, rest) := by
  have two : 0 < 2 := by decide
  obtain ⟨_, _, _, _, _, _, _⟩ := id fits
  cases element with
  | fraction => exact absurd rfl whole
  | mark character => exact if_pos rfl
  | year =>
    rw [Element.read, readYear_spell fits]
    rfl
  | month | day | hour | minute | second =>
    rw [Element.read, Element.spell, readNumber_zeroPadded two (by assumption)]
    rfl

/-- A fraction is read back from digits that leave nothing of it out. -/
theorem readFraction_spell (fits : parts.Fits) (positive : 0 < digits) (le : digits ≤ 9)
    (exact : 10 ^ (9 - digits) ∣ parts.nanosecond) (fields : Fields) :
    Element.fraction.read fields (Element.fraction.spell parts digits) =
      some (Element.fraction.fill parts fields, []) := by
  have short : parts.nanosecond / 10 ^ (9 - digits) < 10 ^ digits := by
    refine Nat.div_lt_of_lt_mul ?_
    rw [← Nat.pow_add, Nat.sub_add_cancel le]
    exact fits.nanosecond
  have length : (Text.zeroPadded digits (parts.nanosecond / 10 ^ (9 - digits))).length ≤ 32 := by
    rw [length_zeroPadded positive short]
    exact Nat.le_trans le (by decide)
  rw [Element.read, Element.spell, readFraction_digits _ zeroPadded_ne_nil
    (fun digit => isDigit_of_mem_zeroPadded) length, nanosecondsOf_zeroPadded positive le short,
    Nat.div_mul_cancel exact]
  rfl

/-! ### Spellings -/

/-- The elements at the front of a spelling, without fractions, are read back from their text. -/
theorem readSpelling_append (fits : parts.Fits) (digits : Nat) (spelling behind : List Element)
    (whole : Element.fraction ∉ spelling) (fields : Fields) (rest : List Char) :
    readSpelling (spelling ++ behind) fields
        (spelling.flatMap (Element.spell parts digits) ++ rest) =
      readSpelling behind (spelling.foldl (Element.fill parts) fields) rest := by
  induction spelling generalizing fields with
  | nil => rfl
  | cons element spelling inductionHypothesis =>
    obtain ⟨first, others⟩ := not_or.mp (mt List.mem_cons.mpr whole)
    rw [List.flatMap_cons, List.append_assoc, List.cons_append, readSpelling,
      read_spell fits fields _ element (Ne.symm first)]
    exact inductionHypothesis others _

theorem readSpelling_whole (fits : parts.Fits) (digits : Nat) (spelling : List Element)
    (whole : Element.fraction ∉ spelling) (fields : Fields) :
    readSpelling spelling fields (spelling.flatMap (Element.spell parts digits)) =
      some (spelling.foldl (Element.fill parts) fields) := by
  have read := readSpelling_append fits digits spelling [] whole fields []
  rwa [List.append_nil, List.append_nil] at read

theorem readSpelling_fraction (fits : parts.Fits) (positive : 0 < digits) (le : digits ≤ 9)
    (exact : 10 ^ (9 - digits) ∣ parts.nanosecond) (spelling : List Element)
    (whole : Element.fraction ∉ spelling) (fields : Fields) :
    readSpelling (spelling ++ [Element.fraction]) fields
        ((spelling ++ [Element.fraction]).flatMap (Element.spell parts digits)) =
      some ((spelling ++ [Element.fraction]).foldl (Element.fill parts) fields) := by
  rw [List.flatMap_append, readSpelling_append fits digits spelling _ whole, List.foldl_append,
    List.flatMap_cons, List.flatMap_nil, List.append_nil, readSpelling,
    readFraction_spell fits positive le exact]
  rfl

/-- A text that ends or goes on with another character is not in a spelling that asks for a
mark there. -/
theorem readSpelling_otherMark (fits : parts.Fits) (digits : Nat) (spelling behind : List Element)
    (whole : Element.fraction ∉ spelling) (mark : Char) (fields : Fields) (rest : List Char)
    (other : ∀ first ∈ rest.head?, first ≠ mark) :
    readSpelling (spelling ++ .mark mark :: behind) fields
        (spelling.flatMap (Element.spell parts digits) ++ rest) = none := by
  rw [readSpelling_append fits digits spelling _ whole]
  cases rest with
  | nil => rfl
  | cons first rest =>
    show (if first = mark then _ else _ : Option (Fields × List Char)).bind _ = _
    rw [if_neg (other first rfl)]
    rfl

/-! ### Times of day -/

/-- Hour, minute and second with the marks between them. -/
def wholeClock : List Element :=
  [.hour, .mark ':', .minute, .mark ':', .second]

/-- The elements of a time, with a fraction of a second unless it would have no digits. -/
def clock (digits : Nat) : List Element :=
  if digits = 0 then wholeClock else wholeClock ++ [.mark '.', .fraction]

/-- A time behind other elements is read back from digits that leave nothing of it out. -/
theorem readSpelling_clock (fits : parts.Fits) (le : digits ≤ 9)
    (exact : 10 ^ (9 - digits) ∣ parts.nanosecond) (front : List Element)
    (whole : Element.fraction ∉ front)
    (start : (front.foldl (Element.fill parts) .blank).nanosecond = 0) :
    readSpelling (front ++ clock digits) .blank
        ((front ++ clock digits).flatMap (Element.spell parts digits)) =
      some ((clock 9).foldl (Element.fill parts) (front.foldl (Element.fill parts) .blank)) := by
  have wholeAll {behind : List Element} (others : Element.fraction ∉ behind) :
      Element.fraction ∉ front ++ behind :=
    mt List.mem_append.mp (not_or.mpr ⟨whole, others⟩)
  by_cases none : digits = 0
  case pos =>
    subst none
    have zero : parts.nanosecond = 0 := Nat.eq_zero_of_dvd_of_lt exact fits.nanosecond
    have elements : clock 0 = wholeClock := if_pos rfl
    rw [elements, readSpelling_whole fits 0 _ (wholeAll (by decide)), List.foldl_append]
    show some { front.foldl (Element.fill parts) .blank with
        hour := parts.hour, minute := parts.minute, second := parts.second } =
      some { front.foldl (Element.fill parts) .blank with
        hour := parts.hour, minute := parts.minute, second := parts.second,
        nanosecond := parts.nanosecond }
    rw [zero.trans start.symm]
  case neg =>
    have elements : clock digits = wholeClock ++ [.mark '.'] ++ [.fraction] := if_neg none
    have read := readSpelling_fraction fits (Nat.pos_of_ne_zero none) le exact
      (front ++ (wholeClock ++ [.mark '.'])) (wholeAll (by decide)) .blank
    rw [List.append_assoc, ← elements, List.foldl_append, elements] at read
    rw [elements]
    exact read

end Calendar

end SqlRecords
