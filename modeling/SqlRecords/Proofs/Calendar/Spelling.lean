/-
This file reads dates and times back from their texts. A text may say less than the time has: its
fraction, or its second with it, may be cut off, and what is read back is then the time without
them. The readers try several spellings in turn; since a text is in one spelling at most, it is
enough to read it in the spelling of its own elements.
-/

import SqlRecords.Proofs.Calendar.Around
import SqlRecords.Proofs.Calendar.Element
import SqlRecords.Proofs.Calendar.Marks

namespace SqlRecords

/-! ### Dates and times by their parts -/

theorem monthLength_le {year : Int} {month : Nat} : monthLength year month ≤ 31 := by
  unfold monthLength
  split
  · split <;> decide
  · split <;> decide

theorem Date.ofParts_parts (date : Date) :
    Date.ofParts date.year date.month date.day = .ok date := by
  unfold Date.ofParts
  rw [dif_pos ⟨date.month_pos, date.month_le⟩, dif_pos ⟨date.year_ge, date.year_le⟩,
    dif_pos ⟨date.day_pos, date.day_le⟩]

theorem Date.ofParts?_parts (date : Date) :
    Date.ofParts? date.year date.month date.day = some date := by
  unfold Date.ofParts?
  rw [date.ofParts_parts]
  rfl

theorem Time.ofParts?_parts (time : Time) :
    Time.ofParts? time.hour time.minute time.second time.nanosecond = some time := by
  unfold Time.ofParts?
  rw [dif_pos ⟨time.hour_lt, time.minute_lt, time.second_lt, time.nanosecond_lt⟩]

namespace Calendar

/-! ### Readers of several spellings -/

section Readers

variable {characters : List Char} {moment : DateTime} {date : Date}

theorem readBareDate_eq_some_iff :
    readBareDate characters = some date ↔ ∃ fields,
      readSpelling dateSpelling .blank (unwrap characters) = some fields ∧
        fields.date? = some date := by
  have single : ([dateSpelling].map markCounts).Nodup := by decide
  unfold readBareDate
  simp only [readFirst_eq_some_iff single, List.mem_singleton, exists_eq_left]

/-- A date-time is read in one of its own spellings, or else as a date. -/
theorem readDateTime_eq_some_iff :
    readDateTime characters = some moment ↔
      (∃ spelling ∈ dateTimeSpellings, ∃ fields,
        readSpelling spelling .blank (unwrap characters) = some fields ∧
          fields.dateTime? = some moment) ∨
      ∃ date, readBareDate characters = some date ∧ date.midnight = moment := by
  obtain ⟨noDate, distinct⟩ := List.nodup_cons.mp nodup_markCounts_dateTime
  unfold readDateTime
  rw [← readFirst_eq_some_iff distinct, ← Option.map_eq_some_iff]
  cases own : readFirst dateTimeSpellings Fields.dateTime? characters with
  | none =>
    simp only [reduceCtorEq, false_or]
    rfl
  | some other =>
    have refused : readBareDate characters = none :=
      Option.eq_none_iff_forall_ne_some.mpr fun date read => by
        obtain ⟨fields, bare, -⟩ := readBareDate_eq_some_iff.mp read
        obtain ⟨spelling, member, others, clock, -⟩ := (readFirst_eq_some_iff distinct).mp own
        refine noDate (List.mem_map.mpr ⟨spelling, member, ?_⟩)
        rw [markCounts_of_readSpelling clock, markCounts_of_readSpelling bare]
    rw [refused]
    simp only [Option.map_none, reduceCtorEq, or_false]
    rfl

theorem readDateTime_of_readBareDate (read : readBareDate characters = some date) :
    readDateTime characters = some date.midnight :=
  readDateTime_eq_some_iff.mpr (.inr ⟨date, read, rfl⟩)

/-- A date is read as the date of the date-time, whichever of the two comes first. -/
theorem readDate_eq : readDate characters = (readDateTime characters).map DateTime.date := by
  unfold readDate
  cases bare : readBareDate characters with
  | none => rfl
  | some date =>
    rw [readDateTime_of_readBareDate bare]
    rfl

/-- What is read as a date-time is no time stamp, and is taken as universal time. -/
theorem readZoned_of_readDateTime (read : readDateTime characters = some moment) :
    readZoned characters = some (.universal moment) := by
  have noStamp : readStamp (Text.strip Text.isBlank characters) = none := by
    rcases readDateTime_eq_some_iff.mp read with ⟨spelling, member, fields, clock, -⟩ | bare
    · exact readStamp_eq_none (List.mem_cons_of_mem _ member) clock
    · obtain ⟨date, bare, -⟩ := bare
      obtain ⟨fields, bare, -⟩ := readBareDate_eq_some_iff.mp bare
      exact readStamp_eq_none List.mem_cons_self bare
  unfold readZoned
  rw [noStamp, read]
  rfl

end Readers

/-! ### Texts -/

/-- The text of a time with a number of digits for the fraction of its second. -/
def clockText (time : Time) (digits : Nat) : List Char :=
  Text.zeroPadded 2 time.hour ++ [':'] ++ Text.zeroPadded 2 time.minute ++ [':'] ++
    Text.zeroPadded 2 time.second ++
    if digits = 0 then [] else ['.'] ++ Text.zeroPadded digits (time.nanosecond / 10 ^ (9 - digits))

theorem isEdge_of_mem_head?_zeroPadded {width number : Nat} {rest : List Char} {character : Char}
    (first : character ∈ (Text.zeroPadded width number ++ rest).head?) :
    isEdge character = true := by
  unfold isEdge
  rw [isDigit_of_mem_head? first, Bool.true_or]

theorem isEdge_of_mem_getLast?_zeroPadded {width number : Nat} {front : List Char}
    {character : Char} (last : character ∈ (front ++ Text.zeroPadded width number).getLast?) :
    isEdge character = true := by
  unfold isEdge
  rw [isDigit_of_mem_getLast? last, Bool.true_or]

theorem isEdge_of_mem_head?_date {date : Date} {rest : List Char} {character : Char}
    (first : character ∈ (date.characters ++ rest).head?) : isEdge character = true := by
  unfold Date.characters at first
  simp only [List.append_assoc] at first
  split at first
  case isTrue =>
    cases first
    rfl
  case isFalse => exact isEdge_of_mem_head?_zeroPadded first

theorem isEdge_of_mem_getLast?_clock (front : List Char) {time : Time} {digits : Nat}
    {character : Char} (last : character ∈ (front ++ clockText time digits).getLast?) :
    isEdge character = true := by
  unfold clockText at last
  split at last
  case isTrue =>
    rw [List.append_nil, ← List.append_assoc] at last
    exact isEdge_of_mem_getLast?_zeroPadded last
  case isFalse =>
    rw [← List.append_assoc _ ['.'], ← List.append_assoc] at last
    exact isEdge_of_mem_getLast?_zeroPadded last

/-! ### Dates and times -/

/-- The parts of a date-time. -/
def partsOf (moment : DateTime) : Fields :=
  ⟨moment.date.year, moment.date.month, moment.date.day, moment.time.hour, moment.time.minute,
    moment.time.second, moment.time.nanosecond⟩

theorem fits_partsOf (moment : DateTime) : (partsOf moment).Fits := by
  obtain ⟨⟨year, month, day, _, _, _, _, _, dayFits⟩, time⟩ := moment
  obtain ⟨hour, minute, second, nanosecond, _, _, _, _⟩ := time
  have monthFits : monthLength year month ≤ 31 := monthLength_le
  refine ⟨?_, ?_, ?_, ?_, ?_, ?_, ?_⟩ <;> simp only [partsOf] <;> omega

theorem dateTime?_partsOf (moment : DateTime) : (partsOf moment).dateTime? = some moment := by
  show (Date.ofParts? moment.date.year moment.date.month moment.date.day).bind _ = _
  rw [Date.ofParts?_parts]
  show (Time.ofParts? moment.time.hour moment.time.minute moment.time.second
    moment.time.nanosecond).bind _ = _
  rw [Time.ofParts?_parts]
  rfl

theorem date_eq_spell (moment : DateTime) (digits : Nat) :
    moment.date.characters = dateSpelling.flatMap (Element.spell (partsOf moment) digits) := by
  unfold Date.characters dateSpelling
  simp only [Element.spell, List.append_assoc, List.flatMap_cons, List.flatMap_nil,
    List.append_nil]
  rfl

theorem clockText_eq_spell (moment : DateTime) (digits : Nat) :
    clockText moment.time digits =
      (clock digits).flatMap (Element.spell (partsOf moment) digits) := by
  unfold clockText clock wholeClock
  split
  case isTrue =>
    simp only [List.append_assoc, List.flatMap_cons, List.flatMap_nil, List.append_nil]
    rfl
  case isFalse =>
    simp only [List.append_assoc, List.cons_append, List.nil_append, List.flatMap_cons,
      List.flatMap_nil, List.append_nil]
    rfl


/-! ### Times cut to what is said -/

/-- How much of a time its text says: hour and minute alone, or the second too with some digits of
its fraction. -/
inductive Detail where
  | minute
  | second (digits : Nat) (fits : digits ≤ 9)

namespace Detail

/-- The digits that are said of the fraction of a second. -/
def digits : Detail → Nat
  | minute => 0
  | second digits _ => digits

/-- The elements of a time. -/
def elements : Detail → List Element
  | minute => [.hour, .mark ':', .minute]
  | second digits _ => clock digits

/-- The text of a time. -/
def text (time : Time) : Detail → List Char
  | minute => Text.zeroPadded 2 time.hour ++ [':'] ++ Text.zeroPadded 2 time.minute
  | second digits _ => clockText time digits

/-- A time without what its text does not say. -/
def cut (time : Time) : Detail → Time
  | minute =>
    { Time.midnight with
      hour := time.hour
      minute := time.minute
      hour_lt := time.hour_lt
      minute_lt := time.minute_lt }
  | second digits _ =>
    { time with
      nanosecond := time.nanosecond / 10 ^ (9 - digits) * 10 ^ (9 - digits)
      nanosecond_lt := Nat.lt_of_le_of_lt (Nat.div_mul_le_self _ _) time.nanosecond_lt }

/-- What is cut off does not stand in the text. -/
theorem text_cut (detail : Detail) (time : Time) :
    detail.text (detail.cut time) = detail.text time := by
  cases detail with
  | minute => rfl
  | second digits fits =>
    have same : (cut time (second digits fits)).nanosecond / 10 ^ (9 - digits) =
        time.nanosecond / 10 ^ (9 - digits) := Nat.mul_div_cancel _ (Nat.pow_pos (by decide))
    show clockText (cut time (second digits fits)) digits = clockText time digits
    unfold clockText
    rw [same]
    rfl

theorem cut_cut (detail : Detail) (time : Time) :
    detail.cut (detail.cut time) = detail.cut time := by
  cases detail with
  | minute => rfl
  | second digits fits =>
    unfold cut
    simp only [Nat.mul_div_cancel _ (Nat.pow_pos (by decide : 0 < 10))]

theorem text_eq_spell (detail : Detail) (moment : DateTime) :
    detail.text moment.time =
      detail.elements.flatMap (Element.spell (partsOf moment) detail.digits) := by
  cases detail with
  | minute => simp [text, elements, Element.spell, partsOf]
  | second digits fits => exact clockText_eq_spell moment digits

theorem elements_mem (detail : Detail) : detail.elements ∈ timeSpellings := by
  cases detail with
  | minute => decide
  | second digits fits =>
    show clock digits ∈ timeSpellings
    unfold clock
    split <;> decide

/-- A time behind other elements is read in the spelling of its own elements. -/
theorem readSpelling_elements (detail : Detail) (moment : DateTime)
    (whole : detail.cut moment.time = moment.time) (front : List Element)
    (noFraction : Element.fraction ∉ front)
    (start : (front.foldl (Element.fill (partsOf moment)) .blank).second = 0 ∧
      (front.foldl (Element.fill (partsOf moment)) .blank).nanosecond = 0) :
    readSpelling (front ++ detail.elements) .blank
        ((front ++ detail.elements).flatMap (Element.spell (partsOf moment) detail.digits)) =
      some ((clock 9).foldl (Element.fill (partsOf moment))
        (front.foldl (Element.fill (partsOf moment)) .blank)) := by
  have fits := fits_partsOf moment
  cases detail with
  | minute =>
    have noFractions : Element.fraction ∉ front ++ [.hour, .mark ':', .minute] :=
      mt List.mem_append.mp (not_or.mpr ⟨noFraction, by decide⟩)
    rw [elements, readSpelling_whole fits _ _ noFractions, List.foldl_append]
    generalize front.foldl (Element.fill (partsOf moment)) .blank = filled at start
    have second : filled.second = moment.time.second :=
      start.1.trans (congrArg Time.second whole)
    have nanosecond : filled.nanosecond = moment.time.nanosecond :=
      start.2.trans (congrArg Time.nanosecond whole)
    obtain ⟨_, _, _, _, _, _, _⟩ := filled
    cases second
    cases nanosecond
    rfl
  | second digits le =>
    have exact : 10 ^ (9 - digits) ∣ moment.time.nanosecond :=
      ⟨_, ((Nat.mul_comm _ _).trans (congrArg Time.nanosecond whole)).symm⟩
    exact readSpelling_clock fits le exact front noFraction start.2

end Detail

/-! ### Reading printed texts -/

section Printed

variable {characters : List Char} {detail : Detail} {date : Date} {time : Time} {digits : Nat}

/-- A printed time is read as the time without what was not printed. -/
theorem readTime_of_unwrap (text : unwrap characters = detail.text time) :
    readTime characters = some (detail.cut time) := by
  -- The parts of a date do not stand in the text, so any date will do.
  let moment : DateTime := ⟨⟨0, 1, 1, by decide, by decide, by decide, by decide, by decide,
    by decide⟩, detail.cut time⟩
  have reads := detail.readSpelling_elements moment (detail.cut_cut time) [] (by decide)
    ⟨rfl, rfl⟩
  rw [List.nil_append, ← detail.text_eq_spell moment, detail.text_cut, ← text] at reads
  exact (readFirst_eq_some_iff nodup_markCounts_time).mpr
    ⟨_, detail.elements_mem, _, reads, (detail.cut time).ofParts?_parts⟩

/-- A printed date-time is read as the date-time without what was not printed. -/
theorem readDateTime_of_unwrap {separator : Char} (listed : separator ∈ [' ', 'T'])
    (text : unwrap characters = date.characters ++ [separator] ++ detail.text time) :
    readDateTime characters = some ⟨date, detail.cut time⟩ := by
  let moment : DateTime := ⟨date, detail.cut time⟩
  have member :
      dateSpelling ++ [Element.mark separator] ++ detail.elements ∈ dateTimeSpellings := by
    refine List.mem_flatMap.mpr ⟨detail.elements, detail.elements_mem, ?_⟩
    simp only [List.mem_cons, List.not_mem_nil, or_false] at listed
    rcases listed with rfl | rfl
    · exact List.mem_cons_self
    · exact List.mem_cons_of_mem _ List.mem_cons_self
  have noFraction : Element.fraction ∉ dateSpelling ++ [Element.mark separator] := by
    simp [dateSpelling]
  have reads := detail.readSpelling_elements moment (detail.cut_cut time)
    (dateSpelling ++ [Element.mark separator]) noFraction ⟨rfl, rfl⟩
  have spelled : unwrap characters =
      (dateSpelling ++ [Element.mark separator] ++ detail.elements).flatMap
        (Element.spell (partsOf moment) detail.digits) := by
    rw [text, List.flatMap_append, List.flatMap_append, ← detail.text_eq_spell moment,
      detail.text_cut, ← date_eq_spell moment]
    rfl
  rw [← spelled] at reads
  exact readDateTime_eq_some_iff.mpr (.inl ⟨_, member, _, reads, dateTime?_partsOf moment⟩)

/-- A date is read back from its text. -/
theorem readBareDate_of_unwrap (text : unwrap characters = date.characters) :
    readBareDate characters = some date := by
  have reads := readSpelling_whole (fits_partsOf date.midnight) 0 dateSpelling (by decide) .blank
  have spelled : unwrap characters = date.midnight.date.characters := text
  rw [← date_eq_spell date.midnight 0, ← spelled] at reads
  exact readBareDate_eq_some_iff.mpr ⟨_, reads, date.ofParts?_parts⟩

/-! ### Printed texts with something around them -/

theorem edged_date (date : Date) : IsEdged date.characters where
  nonempty := by simp [Date.characters]
  first character member := by
    rw [← List.append_nil date.characters] at member
    exact isEdge_of_mem_head?_date member
  last character member := isEdge_of_mem_getLast?_zeroPadded member

theorem edged_detail (detail : Detail) (time : Time) : IsEdged (detail.text time) where
  nonempty := by cases detail <;> simp [Detail.text, clockText]
  first character member := by
    cases detail with
    | minute =>
      rw [Detail.text, List.append_assoc] at member
      exact isEdge_of_mem_head?_zeroPadded member
    | second digits fits =>
      rw [Detail.text, clockText] at member
      simp only [List.append_assoc] at member
      exact isEdge_of_mem_head?_zeroPadded member
  last character member := by
    cases detail with
    | minute => exact isEdge_of_mem_getLast?_zeroPadded member
    | second digits fits => exact isEdge_of_mem_getLast?_clock [] member

/-- A date-time with anything between its date and its time. -/
theorem edged_dateTime (date : Date) (between : List Char) (detail : Detail) (time : Time) :
    IsEdged (date.characters ++ between ++ detail.text time) where
  nonempty := by simp [(edged_date date).nonempty]
  first character member := by
    rw [List.append_assoc] at member
    exact isEdge_of_mem_head?_date member
  last character member := by
    have nonempty := (edged_detail detail time).nonempty
    rw [List.getLast?_append_of_ne_nil _ nonempty] at member
    exact (edged_detail detail time).last character member

/-- The texts that a date-time is printed as, each with what it says of the date-time. Years from 0
on have four digits and no sign. -/
inductive Prints (moment : DateTime) : List Char → DateTime → Prop where
  | date : Prints moment moment.date.characters moment.date.midnight
  | dateTime (separator : Char) (listed : separator ∈ [' ', 'T']) (detail : Detail) :
    Prints moment (moment.date.characters ++ [separator] ++ detail.text moment.time)
      ⟨moment.date, detail.cut moment.time⟩

theorem Prints.edged {moment said : DateTime} {inner : List Char}
    (prints : Prints moment inner said) : IsEdged inner := by
  cases prints with
  | date => exact edged_date moment.date
  | dateTime separator listed detail => exact edged_dateTime moment.date [separator] detail _

/-- A printed date-time is read as what the text says, whatever is around it. -/
theorem readDateTime_of_prints {moment said : DateTime} {inner : List Char}
    (prints : Prints moment inner said) (wraps : Wraps inner characters) :
    readDateTime characters = some said := by
  have alone := unwrap_of_wraps prints.edged wraps
  cases prints with
  | date => exact readDateTime_of_readBareDate (readBareDate_of_unwrap alone)
  | dateTime separator listed detail => exact readDateTime_of_unwrap listed alone

/-- A printed time is read as what the text says, whatever is around it. -/
theorem readTime_of_wraps (wraps : Wraps (detail.text time) characters) :
    readTime characters = some (detail.cut time) :=
  readTime_of_unwrap (unwrap_of_wraps (edged_detail detail time) wraps)

/-! ### Texts that say everything -/

/-- Nothing is cut off a time whose text has enough digits for its fraction. -/
theorem cut_eq_self (fits : digits ≤ 9) (exact : 10 ^ (9 - digits) ∣ time.nanosecond) :
    (Detail.second digits fits).cut time = time := by
  unfold Detail.cut
  simp only [Nat.div_mul_cancel exact]

/-- A time is read back from a text with enough digits for its fraction. -/
theorem readTime_clockText (le : digits ≤ 9) (exact : 10 ^ (9 - digits) ∣ time.nanosecond) :
    readTime (clockText time digits) = some time := by
  have read := readTime_of_wraps (.bare ((Detail.second digits le).text time))
  rwa [cut_eq_self le exact] at read

/-- A date-time is read back from a text with enough digits for its fraction. -/
theorem readDateTime_clockText {moment : DateTime} (le : digits ≤ 9)
    (exact : 10 ^ (9 - digits) ∣ moment.time.nanosecond) :
    readDateTime (moment.date.characters ++ [' '] ++ clockText moment.time digits) =
      some moment := by
  have prints : Prints moment _ _ := .dateTime ' ' (by decide) (.second digits le)
  have read := readDateTime_of_prints prints (.bare _)
  rwa [cut_eq_self le exact] at read

theorem readBareDate_date (date : Date) : readBareDate date.characters = some date :=
  readBareDate_of_unwrap (unwrap_eq_self (edged_date date))

/-- A date is read back from its text, as its first moment where a date-time is wanted. -/
theorem readDateTime_date (date : Date) : readDateTime date.characters = some date.midnight :=
  readDateTime_of_readBareDate (readBareDate_date date)

end Printed

end Calendar

end SqlRecords
