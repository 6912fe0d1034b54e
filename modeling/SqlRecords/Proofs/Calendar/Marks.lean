/-
This file shows that a text says in which spelling it is. Numbers take digits and signs only, so
any other character of a text that is read stands for a mark of its spelling, and the text has as
many of each mark as the spelling. The spellings of dates and date-times differ in their marks, and
so do those of times: no text is read in two of them, and the order in which they are tried does
not matter.

Time stamps are counted in the same way. They end in a letter or in an offset, which has a mark of
its own, and so differ from the texts in any of the spellings.
-/

import Mathlib.Data.List.Basic
import Mathlib.Data.List.Count
import Mathlib.Data.List.Nodup
import Mathlib.Data.Option.Basic
import SqlRecords.Calendar.Reader
import SqlRecords.Proofs.Text.Blank

namespace SqlRecords.Calendar

/-! ### Marks that are taken -/

/-- Whether a character is no part of a number: neither a digit nor a sign. -/
def isMark (character : Char) : Bool :=
  !character.isDigit && character != '-' && character != '+'

section Counting

variable {mark : Char} {characters rest : List Char} {count most number : Nat}

theorem isDigit_of_isMark (outside : isMark mark = true) : mark.isDigit = false := by
  unfold isMark at outside
  simp only [Bool.and_eq_true, Bool.not_eq_true'] at outside
  exact outside.1.1

theorem count_append_digits (outside : isMark mark = true) {digits : List Char}
    (allDigits : ∀ digit ∈ digits, digit.isDigit = true) :
    (digits ++ rest).count mark = rest.count mark := by
  have none : mark ∉ digits := fun member => by
    have impossible := allDigits mark member
    rw [isDigit_of_isMark outside] at impossible
    cases impossible
  rw [List.count_append, List.count_eq_zero.mpr none, Nat.zero_add]

theorem count_of_readNumber (outside : isMark mark = true)
    (read : readNumber count characters = some (number, rest)) :
    characters.count mark = rest.count mark := by
  unfold readNumber at read
  dsimp only at read
  split at read
  case isTrue digits =>
    cases read
    conv_lhs => rw [← List.take_append_drop count characters]
    exact count_append_digits outside (List.all_eq_true.mp digits.2)
  case isFalse => cases read

theorem count_of_readYear (outside : isMark mark = true) {year : Int}
    (read : readYear characters = some (year, rest)) :
    characters.count mark = rest.count mark := by
  have minus : '-' ≠ mark := by
    rintro rfl
    cases outside
  have plus : '+' ≠ mark := by
    rintro rfl
    cases outside
  unfold readYear at read
  split at read
  all_goals
    obtain ⟨⟨number, behind⟩, digits, equal⟩ := Option.map_eq_some_iff.mp read
    cases equal
    have same := count_of_readNumber outside digits
  case h_1 => rwa [List.count_cons_of_ne minus]
  case h_2 => rwa [List.count_cons_of_ne plus]
  case h_3 => exact same

theorem count_of_readFraction (outside : isMark mark = true)
    (read : readFraction most characters = some (number, rest)) :
    characters.count mark = rest.count mark := by
  unfold readFraction at read
  dsimp only at read
  split at read
  case isTrue => cases read
  case isFalse =>
    cases read
    generalize given : (characters.take most).takeWhile Char.isDigit = digits
    have start : digits <+: characters := by
      rw [← given]
      exact (List.takeWhile_prefix _).trans (List.take_prefix _ _)
    have allDigits : ∀ digit ∈ digits, digit.isDigit = true := by
      rw [← given]
      exact fun digit member => List.mem_takeWhile_imp member
    obtain ⟨behind, equal⟩ := start
    rw [← equal, List.drop_left]
    exact count_append_digits outside allDigits

/-- An element takes a mark only if it is one. -/
theorem count_of_read (outside : isMark mark = true) {element : Element} {fields result : Fields}
    (read : element.read fields characters = some (result, rest)) :
    characters.count mark = rest.count mark + [element].count (.mark mark) := by
  cases element with
  | mark character =>
    cases characters with
    | nil => cases read
    | cons first behind =>
      rw [Element.read] at read
      split at read
      case isTrue same =>
        cases read
        subst same
        simp only [List.count_cons, List.count_nil, Nat.zero_add, beq_iff_eq, Element.mark.injEq]
      case isFalse => cases read
  | year =>
    obtain ⟨⟨number, behind⟩, numberRead, equal⟩ := Option.bind_eq_some_iff.mp read
    cases equal
    exact count_of_readYear outside numberRead
  | month | day | hour | minute | second =>
    obtain ⟨⟨number, behind⟩, numberRead, equal⟩ := Option.bind_eq_some_iff.mp read
    cases equal
    exact count_of_readNumber outside numberRead
  | fraction =>
    obtain ⟨⟨number, behind⟩, numberRead, equal⟩ := Option.bind_eq_some_iff.mp read
    cases equal
    exact count_of_readFraction outside numberRead

/-- A text that is read in a spelling has the marks of the spelling. -/
theorem count_of_readSpelling (outside : isMark mark = true) {spelling : List Element}
    {fields result : Fields} (read : readSpelling spelling fields characters = some result) :
    characters.count mark = spelling.count (.mark mark) := by
  induction spelling generalizing fields characters with
  | nil =>
    cases characters with
    | nil => rfl
    | cons first behind => cases read
  | cons element spelling inductionHypothesis =>
    obtain ⟨⟨filled, behind⟩, first, others⟩ := Option.bind_eq_some_iff.mp read
    rw [count_of_read outside first, inductionHypothesis others, Nat.add_comm]
    exact List.count_append.symm

end Counting

/-! ### Spellings that differ in their marks -/

section Spellings

variable {characters : List Char} {spelling first second : List Element}
  {spellings : List (List Element)}

/-- How often the marks of the spellings stand in one of them. The hyphens of dates are left out,
since a year may have a sign. -/
def markCounts (spelling : List Element) : List Nat :=
  [' ', 'T', ':', '.'].map fun mark => spelling.count (.mark mark)

theorem markCounts_of_readSpelling {fields result : Fields}
    (read : readSpelling spelling fields characters = some result) :
    markCounts spelling = [' ', 'T', ':', '.'].map fun mark => characters.count mark := by
  have outside : ∀ mark ∈ [' ', 'T', ':', '.'], isMark mark = true := List.all_eq_true.mp rfl
  exact List.map_congr_left fun mark member =>
    (count_of_readSpelling (outside mark member) read).symm

/-- The spellings of dates and date-times differ in their marks. -/
theorem nodup_markCounts_dateTime :
    ((dateSpelling :: dateTimeSpellings).map markCounts).Nodup := by
  decide

/-- The spellings of times differ in their marks. -/
theorem nodup_markCounts_time : (timeSpellings.map markCounts).Nodup := by
  decide

/-- No text is read in two spellings that differ in their marks. -/
theorem pairwise_not_read (distinct : (spellings.map markCounts).Nodup) (characters : List Char) :
    spellings.Pairwise fun first second =>
      ¬ ((readSpelling first .blank characters).isSome = true ∧
        (readSpelling second .blank characters).isSome = true) := by
  refine (List.pairwise_map.mp distinct).imp fun differ => ?_
  rintro ⟨read, alsoRead⟩
  obtain ⟨fields, read⟩ := Option.isSome_iff_exists.mp read
  obtain ⟨others, alsoRead⟩ := Option.isSome_iff_exists.mp alsoRead
  exact differ ((markCounts_of_readSpelling read).trans (markCounts_of_readSpelling alsoRead).symm)

/-- Among spellings that differ in their marks a text has at most one. -/
theorem eq_of_readSpelling (distinct : (spellings.map markCounts).Nodup)
    (firstMember : first ∈ spellings) (secondMember : second ∈ spellings)
    {fields others : Fields} (read : readSpelling first .blank characters = some fields)
    (alsoRead : readSpelling second .blank characters = some others) : first = second :=
  List.inj_on_of_nodup_map distinct firstMember secondMember
    ((markCounts_of_readSpelling read).trans (markCounts_of_readSpelling alsoRead).symm)

variable {Result : Type} {build : Fields → Option Result} {result : Result}

/-- The first spelling that gives a result is the only one. -/
theorem readFirst_eq_some_iff (distinct : (spellings.map markCounts).Nodup) :
    readFirst spellings build characters = some result ↔
      ∃ spelling ∈ spellings, ∃ fields,
        readSpelling spelling .blank (unwrap characters) = some fields ∧
          build fields = some result := by
  simp only [← Option.bind_eq_some_iff]
  unfold readFirst
  constructor
  · exact List.exists_of_findSome?_eq_some
  · rintro ⟨spelling, member, built⟩
    cases found : spellings.findSome? fun spelling =>
        (readSpelling spelling .blank (unwrap characters)).bind build with
    | none => exact absurd built (by rw [List.findSome?_eq_none_iff.mp found _ member]; nofun)
    | some other =>
      obtain ⟨another, anotherMember, otherBuilt⟩ := List.exists_of_findSome?_eq_some found
      obtain ⟨fields, read, -⟩ := Option.bind_eq_some_iff.mp built
      obtain ⟨others, alsoRead, -⟩ := Option.bind_eq_some_iff.mp otherBuilt
      obtain rfl := eq_of_readSpelling distinct member anotherMember read alsoRead
      exact otherBuilt.symm.trans built

theorem readFirst_eq_none
    (refused : ∀ spelling ∈ spellings,
      readSpelling spelling .blank (unwrap characters) = none) :
    readFirst spellings build characters = none := by
  unfold readFirst
  refine List.findSome?_eq_none_iff.mpr fun spelling member => ?_
  rw [refused spelling member]
  rfl

/-- Spellings that differ in their marks can be tried in any order. -/
theorem readFirst_eq_of_perm (distinct : (spellings.map markCounts).Nodup)
    {others : List (List Element)} (same : others.Perm spellings) :
    readFirst others build characters = readFirst spellings build characters := by
  have alsoDistinct : (others.map markCounts).Nodup := (same.map markCounts).nodup_iff.mpr distinct
  refine Option.ext fun result => ?_
  rw [readFirst_eq_some_iff distinct, readFirst_eq_some_iff alsoDistinct]
  simp only [same.mem_iff]

end Spellings

/-! ### Time stamps -/

section Stamps

variable {mark : Char} {characters rest : List Char} {number : Nat}

theorem count_of_mark (outside : isMark mark = true) {character : Char} {fields result : Fields}
    (read : (Element.mark character).read fields characters = some (result, rest)) :
    characters.count mark = [character].count mark + rest.count mark := by
  have same : [Element.mark character].count (.mark mark) = [character].count mark := by
    simp only [List.count_singleton, beq_iff_eq, Element.mark.injEq]
  rw [count_of_read outside read, same, Nat.add_comm]

theorem exists_eq_cons_of_readSeparator (read : readSeparator characters = some rest) :
    ∃ separator, characters = separator :: rest := by
  unfold readSeparator at read
  split at read
  case h_1 => cases read
  case h_2 separator behind =>
    split at read
    case isTrue =>
      cases read
      exact ⟨separator, rfl⟩
    case isFalse => cases read

theorem count_of_readStampFraction (outside : isMark mark = true) (noPoint : mark ≠ '.')
    (read : readStampFraction characters = some (number, rest)) :
    characters.count mark = rest.count mark := by
  unfold readStampFraction at read
  split at read
  case h_1 =>
    rw [List.count_cons_of_ne noPoint.symm]
    exact count_of_readFraction outside read
  case h_2 =>
    cases read
    rfl

/-- An offset is a letter, or has one mark. -/
theorem count_of_readOffset {offset : Int} (read : readOffset characters = some (offset, [])) :
    ∃ ending ∈ ['Z', 'z', ':'], ∀ mark, isMark mark = true →
      characters.count mark = [ending].count mark := by
  unfold readOffset at read
  split at read
  case h_1 =>
    cases read
    exact ⟨'Z', by decide, fun _ _ => rfl⟩
  case h_2 =>
    cases read
    exact ⟨'z', by decide, fun _ _ => rfl⟩
  case h_3 sign _ _ _ =>
    obtain ⟨_, guarded, read⟩ := Option.bind_eq_some_iff.mp read
    obtain ⟨⟨hour, behindHour⟩, hourRead, read⟩ := Option.bind_eq_some_iff.mp read
    obtain ⟨⟨_, behindMark⟩, markRead, read⟩ := Option.bind_eq_some_iff.mp read
    obtain ⟨⟨minute, behindMinute⟩, minuteRead, read⟩ := Option.bind_eq_some_iff.mp read
    obtain ⟨_, _, equal⟩ := Option.bind_eq_some_iff.mp read
    cases equal
    refine ⟨':', by decide, fun mark outside => ?_⟩
    have noSign : sign ≠ mark := by
      rintro rfl
      rcases (Option.guard_eq_some' _).mp guarded with rfl | rfl <;> cases outside
    rw [List.count_cons_of_ne noSign, count_of_readNumber outside hourRead,
      count_of_mark outside markRead, count_of_readNumber outside minuteRead, List.count_nil,
      Nat.add_zero]
  case h_4 => cases read

/-- The marks of a time stamp, without those in front of the fraction of its second and between
the parts of its date. -/
theorem count_of_readStamp {zoned : ZonedDateTime} (read : readStamp characters = some zoned) :
    ∃ separator, ∃ ending ∈ ['Z', 'z', ':'], ∀ mark, isMark mark = true → mark ≠ '.' →
      characters.count mark = [separator, ':', ':', ending].count mark := by
  obtain ⟨⟨year, behindYear⟩, yearRead, read⟩ := Option.bind_eq_some_iff.mp read
  obtain ⟨⟨_, behindFirst⟩, firstRead, read⟩ := Option.bind_eq_some_iff.mp read
  obtain ⟨⟨month, behindMonth⟩, monthRead, read⟩ := Option.bind_eq_some_iff.mp read
  obtain ⟨⟨_, behindSecond⟩, secondRead, read⟩ := Option.bind_eq_some_iff.mp read
  obtain ⟨⟨day, behindDay⟩, dayRead, read⟩ := Option.bind_eq_some_iff.mp read
  obtain ⟨clock, separatorRead, read⟩ := Option.bind_eq_some_iff.mp read
  obtain ⟨⟨hour, behindHour⟩, hourRead, read⟩ := Option.bind_eq_some_iff.mp read
  obtain ⟨⟨_, behindThird⟩, thirdRead, read⟩ := Option.bind_eq_some_iff.mp read
  obtain ⟨⟨minute, behindMinute⟩, minuteRead, read⟩ := Option.bind_eq_some_iff.mp read
  obtain ⟨⟨_, behindFourth⟩, fourthRead, read⟩ := Option.bind_eq_some_iff.mp read
  obtain ⟨⟨second, behindSeconds⟩, secondsRead, read⟩ := Option.bind_eq_some_iff.mp read
  obtain ⟨⟨nanosecond, behindFraction⟩, fractionRead, read⟩ := Option.bind_eq_some_iff.mp read
  obtain ⟨⟨offset, behind⟩, offsetRead, read⟩ := Option.bind_eq_some_iff.mp read
  obtain ⟨_, ended, -⟩ := Option.bind_eq_some_iff.mp read
  have nothing : behind = [] := List.isEmpty_iff.mp ((Option.guard_eq_some' _).mp ended)
  subst nothing
  obtain ⟨ending, listed, offsetMarks⟩ := count_of_readOffset offsetRead
  obtain ⟨separator, taken⟩ := exists_eq_cons_of_readSeparator separatorRead
  refine ⟨separator, ending, listed, fun mark outside noPoint => ?_⟩
  have noHyphen : ['-'].count mark = 0 := by
    refine List.count_eq_zero.mpr fun member => ?_
    obtain rfl := List.mem_singleton.mp member
    cases outside
  have clockMarks : clock.count mark = [':', ':', ending].count mark := by
    rw [count_of_readNumber outside hourRead, count_of_mark outside thirdRead,
      count_of_readNumber outside minuteRead, count_of_mark outside fourthRead,
      count_of_readNumber outside secondsRead,
      count_of_readStampFraction outside noPoint fractionRead, offsetMarks mark outside]
    simp only [List.count_cons, List.count_nil]
    omega
  rw [count_of_readNumber outside yearRead, count_of_mark outside firstRead, noHyphen,
    count_of_readNumber outside monthRead, count_of_mark outside secondRead, noHyphen,
    count_of_readNumber outside dayRead, taken, Nat.zero_add, Nat.zero_add, List.count_cons,
    List.count_cons, clockMarks]

/-- A time stamp ends in a letter or has three marks in its clock and its offset. -/
theorem marks_of_readStamp {zoned : ZonedDateTime} (read : readStamp characters = some zoned) :
    1 ≤ characters.count 'Z' ∨ 1 ≤ characters.count 'z' ∨ 3 ≤ characters.count ':' := by
  obtain ⟨separator, ending, listed, marks⟩ := count_of_readStamp read
  rw [marks 'Z' rfl (by decide), marks 'z' rfl (by decide), marks ':' rfl (by decide)]
  simp only [List.mem_cons, List.not_mem_nil, or_false] at listed
  rcases listed with rfl | rfl | rfl
  all_goals simp [List.count_cons]

/-- A text in a spelling of a date or date-time is no time stamp, with its quotes or without. -/
theorem readStamp_eq_none {spelling : List Element} {fields result : Fields}
    (member : spelling ∈ dateSpelling :: dateTimeSpellings)
    (read : readSpelling spelling fields (unwrap characters) = some result) :
    readStamp (Text.strip Text.isBlank characters) = none := by
  obtain ⟨before, after, around, quotesBefore, quotesAfter⟩ :=
    exists_around_strip isQuote (Text.strip Text.isBlank characters)
  -- Quotes are none of the marks of a time stamp, so taking them off loses nothing.
  have same {mark : Char} (outside : isMark mark = true) (noQuote : isQuote mark = false) :
      (Text.strip Text.isBlank characters).count mark = spelling.count (.mark mark) := by
    have none {quotes : List Char} (all : ∀ quote ∈ quotes, isQuote quote = true) :
        quotes.count mark = 0 :=
      List.count_eq_zero.mpr fun member => by
        have impossible := all mark member
        rw [noQuote] at impossible
        cases impossible
    rw [around, List.count_append, List.count_append, none quotesBefore, none quotesAfter,
      Nat.zero_add, Nat.add_zero]
    exact count_of_readSpelling outside read
  have few : ∀ spelling ∈ dateSpelling :: dateTimeSpellings, spelling.count (.mark 'Z') = 0 ∧
      spelling.count (.mark 'z') = 0 ∧ spelling.count (.mark ':') ≤ 2 := by decide
  refine Option.eq_none_iff_forall_not_mem.mpr fun zoned stamp => ?_
  have marks := marks_of_readStamp stamp
  rw [same (by decide) (by decide), same (by decide) (by decide),
    same (by decide) (by decide)] at marks
  have bounds := few spelling member
  omega

end Stamps

end SqlRecords.Calendar
