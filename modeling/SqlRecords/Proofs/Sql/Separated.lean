/-
This file says what the loop writes that all statements share. Where the writers of its items
only append, so does the loop, and its text is made of the texts of the items that have any,
with the separator between them. It fails exactly as the first item that fails.

The loop writes a separator before it knows whether an item has any text, and cuts it off if not:
what is left of a text cut to the length it had is the text as it was, because nothing but
appending has happened to it since. One turn of the loop is described first; what a run writes
follows by induction. For the
statements the texts of the items are known beforehand. In general an item may look at the text it
continues; then each of them adds a piece to what the items before it have left, and what is said
about the texts holds of these pieces.
-/

import Mathlib.Data.List.Induction
import SqlRecords.Proofs.Results
import SqlRecords.Proofs.Sql.Writing
import SqlRecords.Proofs.Text.Utf8

namespace SqlRecords

namespace TextWriter

variable {Failure Item : Type}

/-! ### One turn of the loop -/

theorem utf8ByteSize_append_eq_iff (before text : String) :
    (before ++ text).utf8ByteSize = before.utf8ByteSize ↔ text = "" := by
  rw [String.utf8ByteSize_append, Nat.add_eq_left, String.utf8ByteSize_eq_zero_iff]

/-- Cut to the length it had, a text that was appended to is as it was. -/
theorem run_truncate_append (before piece : String) :
    (truncate before.utf8ByteSize : TextWriter Failure Unit).run.run (before ++ piece) =
      (.ok (), before) := by
  show (Except.ok (), Text.textBefore before.utf8ByteSize (Text.encodeUtf8 (before ++ piece))) = _
  rw [Text.textBefore_append]

section Turn

variable {writeItem : Item → TextWriter Failure Unit} (separator : String) (separate : Bool)
  {item : Item} (rest : List Item) {before piece : String}

/-- A turn begins with a separator if one is due, and ends with a look at what the item added. -/
theorem run_separatedFrom_turn (before : String) :
    (separatedFrom writeItem separator separate (item :: rest)).run.run before =
      ((writeItem item >>= fun _ => do
        if (← get).utf8ByteSize =
            (before ++ if separate then separator else "").utf8ByteSize then
          truncate before.utf8ByteSize
          separatedFrom writeItem separator separate rest
        else
          separatedFrom writeItem separator true rest) : TextWriter Failure Unit).run.run
        (before ++ if separate then separator else "") := by
  cases separate with
  | true => rfl
  | false =>
    rw [if_neg Bool.false_ne_true, String.append_empty]
    rfl

/-- An item that adds nothing leaves the loop as it was. Otherwise the loop goes on behind what the
item added, with a separator in front of that if one is due. -/
theorem run_separatedFrom_of_ok
    (written : (writeItem item).run.run (before ++ if separate then separator else "") =
      (.ok (), before ++ (if separate then separator else "") ++ piece)) :
    (separatedFrom writeItem separator separate (item :: rest)).run.run before =
      if piece = "" then (separatedFrom writeItem separator separate rest).run.run before
      else
        (separatedFrom writeItem separator true rest).run.run
          (before ++ (if separate then separator else "") ++ piece) := by
  rw [run_separatedFrom_turn, run_bind_of_ok _ written]
  by_cases empty : piece = ""
  · subst empty
    rw [String.append_empty]
    refine (congrFun (if_pos rfl) (before ++ if separate then separator else "")).trans ?_
    exact run_bind_of_ok _ (run_truncate_append before _)
  · generalize before ++ (if separate then separator else "") = mark
    have longer := mt (utf8ByteSize_append_eq_iff mark piece).mp empty
    exact (congrFun (if_neg longer) (mark ++ piece)).trans (if_neg empty).symm

/-- An item that fails ends the loop there, with what it added before it failed. -/
theorem run_separatedFrom_of_error {failure : Failure}
    (written : (writeItem item).run.run (before ++ if separate then separator else "") =
      (.error failure, before ++ (if separate then separator else "") ++ piece)) :
    (separatedFrom writeItem separator separate (item :: rest)).run.run before =
      (.error failure, before ++ (if separate then separator else "") ++ piece) := by
  rw [run_separatedFrom_turn, run_bind_of_error _ written]

/-- A turn whose item is written by a writer that only appends. -/
theorem run_separatedFrom_cons (appends : (writeItem item).Appends) (before : String) :
    (separatedFrom writeItem separator separate (item :: rest)).run.run before =
      match (writeItem item).run.run "" with
      | (.ok _, text) =>
        if text = "" then (separatedFrom writeItem separator separate rest).run.run before
        else
          (separatedFrom writeItem separator true rest).run.run
            (before ++ (if separate then separator else "") ++ text)
      | (.error failure, text) =>
        (.error failure, before ++ (if separate then separator else "") ++ text) := by
  have written := appends (before ++ if separate then separator else "")
  rcases result : (writeItem item).run.run "" with ⟨failure | value, text⟩
  · rw [result] at written
    exact run_separatedFrom_of_error separator separate rest written
  · rw [result] at written
    exact run_separatedFrom_of_ok separator separate rest written

end Turn

/-! ### Runs of the loop -/

variable {writeItem : Item → TextWriter Failure Unit}

theorem appends_separatedFrom (separator : String) (separate : Bool) (items : List Item)
    (appends : ∀ item, (writeItem item).Appends) :
    (separatedFrom writeItem separator separate items).Appends := by
  intro before
  induction items generalizing separate before with
  | nil => exact appends_pure () before
  | cons item rest inductionHypothesis =>
    rw [run_separatedFrom_cons separator separate rest (appends item) before,
      run_separatedFrom_cons separator separate rest (appends item) ""]
    rcases (writeItem item).run.run "" with ⟨failure | value, text⟩
    · simp only [String.empty_append, String.append_assoc]
    · by_cases empty : text = ""
      · simp only [if_pos empty]
        exact inductionHypothesis separate before
      · simp only [if_neg empty]
        rw [inductionHypothesis true (before ++ _ ++ text),
          inductionHypothesis true ("" ++ _ ++ text)]
        simp only [String.empty_append, String.append_assoc]

theorem appends_separated (separator : String) (items : List Item)
    (appends : ∀ item, (writeItem item).Appends) :
    (separated writeItem separator items).Appends :=
  appends_separatedFrom separator false items appends

/-- Texts with a separator between them, and one in front of them if there is a text to separate
them from. -/
def separatedText (separator : String) (separate : Bool) (texts : List String) : String :=
  (if separate && !texts.isEmpty then separator else "") ++ separator.intercalate texts

theorem separatedText_nil (separator : String) (separate : Bool) :
    separatedText separator separate [] = "" := by
  simp [separatedText]

theorem separatedText_false (separator : String) (texts : List String) :
    separatedText separator false texts = separator.intercalate texts :=
  String.empty_append

theorem separatedText_cons (separator : String) (separate : Bool) (text : String)
    (texts : List String) :
    separatedText separator separate (text :: texts) =
      (if separate then separator else "") ++ text ++ separatedText separator true texts := by
  cases texts with
  | nil => simp [separatedText]
  | cons next further => simp [separatedText, String.append_assoc]

theorem outcome_separatedFrom_cons (separator : String) (separate : Bool) {item : Item}
    (rest : List Item) (appends : (writeItem item).Appends) (before : String) :
    (separatedFrom writeItem separator separate (item :: rest)).outcome before =
      (writeItem item).toText >>= fun text =>
        if text = "" then (separatedFrom writeItem separator separate rest).outcome before
        else
          (separatedFrom writeItem separator true rest).outcome
            (before ++ (if separate then separator else "") ++ text) := by
  unfold toText runOn
  rw [outcome, run_separatedFrom_cons separator separate rest appends before]
  rcases (writeItem item).run.run "" with ⟨failure | value, text⟩
  · rfl
  · by_cases empty : text = ""
    · simp only [if_pos empty]
      exact (if_pos empty).symm
    · simp only [if_neg empty]
      exact (if_neg empty).symm

/-- The loop writes the texts of its items that are not empty. -/
theorem outcome_separatedFrom (separator : String) (separate : Bool) (items : List Item)
    (appends : ∀ item, (writeItem item).Appends) (before : String) :
    (separatedFrom writeItem separator separate items).outcome before =
      (items.mapM fun item => (writeItem item).toText).map fun texts =>
        ((), before ++ separatedText separator separate (texts.filter (· ≠ ""))) := by
  induction items generalizing separate before with
  | nil =>
    show Except.ok ((), before) = Except.ok ((), before ++ separatedText separator separate [])
    rw [separatedText_nil, String.append_empty]
  | cons item rest inductionHypothesis =>
    rw [outcome_separatedFrom_cons separator separate rest (appends item) before, List.mapM_cons]
    cases (writeItem item).toText with
    | error failure => rfl
    | ok text =>
      show (if text = "" then _ else _) = _
      by_cases empty : text = ""
      · subst empty
        rw [if_pos rfl, inductionHypothesis]
        cases rest.mapM fun item => (writeItem item).toText <;> rfl
      · rw [if_neg empty, inductionHypothesis]
        cases rest.mapM fun item => (writeItem item).toText with
        | error failure => rfl
        | ok texts =>
          show Except.ok _ = Except.ok ((), _)
          rw [List.filter_cons_of_pos (by simpa using empty), separatedText_cons]
          simp only [String.append_assoc]

/-- The loop over items that all have texts writes these texts with the separator between
them. -/
theorem toText_separated (separator : String) (items : List Item)
    (appends : ∀ item, (writeItem item).Appends)
    (nonempty : ∀ item ∈ items, ∀ text, (writeItem item).toText = .ok text → text ≠ "") :
    (separated writeItem separator items).toText =
      (items.mapM fun item => (writeItem item).toText).map separator.intercalate := by
  rw [toText_eq_outcome, separated, outcome_separatedFrom separator false items appends]
  cases written : items.mapM fun item => (writeItem item).toText with
  | error failure => rfl
  | ok texts =>
    have all : ∀ text ∈ texts, text ≠ "" := by
      intro text member
      obtain ⟨item, itemMember, itemText⟩ :=
        exists_mem_of_forall₂ ((mapM_eq_ok_iff _ _ _).mp written) member
      exact nonempty item itemMember text itemText
    show Except.ok ("" ++ separatedText separator false (texts.filter (· ≠ ""))) = Except.ok _
    rw [List.filter_eq_self.mpr (by simpa using all), separatedText_false, String.empty_append]

/-! ### Items that look at the text they continue -/

/-- A writer that leaves the text it starts on as it is and puts a piece behind it, whether it
fails or not. The piece may depend on that text. -/
def OnlyAdds (writer : TextWriter Failure Unit) : Prop :=
  ∀ before : String, ∃ piece, (writer.run.run before).2 = before ++ piece

/-- A text with pieces behind it, of which those that are not empty have the separator between
them. -/
def withPieces (separator before : String) (pieces : List String) : String :=
  before ++ separator.intercalate (pieces.filter (· ≠ ""))

/-- What an item finds behind the pieces of the items before it: a separator follows if one of
them is not empty. -/
def aheadOf (separator before : String) (pieces : List String) : String :=
  withPieces separator before pieces ++ if pieces.any (· ≠ "") then separator else ""

/-- How items are taken in turn: each finds the pieces of those before it and adds a piece of its
own. -/
inductive InTurn (writeItem : Item → TextWriter Failure Unit) (separator before : String) :
    List Item → List String → Prop
  | start : InTurn writeItem separator before [] []
  | turn {items : List Item} {pieces : List String} {item : Item} {piece : String}
    (earlier : InTurn writeItem separator before items pieces)
    (written : (writeItem item).run.run (aheadOf separator before pieces) =
      (.ok (), aheadOf separator before pieces ++ piece)) :
    InTurn writeItem separator before (items ++ [item]) (pieces ++ [piece])

theorem withPieces_concat_empty (separator before : String) (pieces : List String) :
    withPieces separator before (pieces ++ [""]) = withPieces separator before pieces := by
  rw [withPieces, List.filter_append, List.filter_singleton]
  exact congrArg (before ++ separator.intercalate ·) (List.append_nil _)

theorem withPieces_concat (separator before : String) (pieces : List String) {piece : String}
    (nonempty : piece ≠ "") :
    withPieces separator before (pieces ++ [piece]) = aheadOf separator before pieces ++ piece := by
  have kept : [piece].filter (· ≠ "") = [piece] := List.filter_eq_self.mpr (by simpa using nonempty)
  rw [aheadOf, withPieces, withPieces, List.filter_append, kept]
  cases some : pieces.any (· ≠ "") with
  | false =>
    have none : pieces.filter (· ≠ "") = [] :=
      List.filter_eq_nil_iff.mpr (List.any_eq_false.mp some)
    rw [none, if_neg Bool.false_ne_true]
    simp
  | true =>
    have further : pieces.filter (· ≠ "") ≠ [] := by
      obtain ⟨other, member, holds⟩ := List.any_eq_true.mp some
      exact List.ne_nil_of_mem (List.mem_filter.mpr ⟨member, holds⟩)
    rw [String.intercalate_append_of_ne_nil further (List.cons_ne_nil _ _),
      String.intercalate_singleton, if_pos rfl]
    simp only [String.append_assoc]

/-- Behind items that were taken in turn, the loop goes on with the others as if it had started
on their pieces. -/
theorem run_separatedFrom_of_inTurn {separator before : String} {items : List Item}
    {pieces : List String} (taken : InTurn writeItem separator before items pieces)
    (rest : List Item) :
    (separatedFrom writeItem separator false (items ++ rest)).run.run before =
      (separatedFrom writeItem separator (pieces.any (· ≠ "")) rest).run.run
        (withPieces separator before pieces) := by
  induction taken generalizing rest with
  | start =>
    show _ = (separatedFrom writeItem separator false rest).run.run (before ++ "")
    rw [String.append_empty]
    rfl
  | @turn items pieces item piece earlier written inductionHypothesis =>
    rw [List.append_assoc, List.singleton_append, inductionHypothesis,
      run_separatedFrom_of_ok separator _ rest written, List.any_append]
    by_cases empty : piece = ""
    · subst empty
      rw [if_pos rfl, withPieces_concat_empty]
      simp
    · rw [if_neg empty, withPieces_concat separator before pieces empty]
      simp [empty, aheadOf]

/-- Items are taken in turn up to the end or up to the first that fails. -/
theorem exists_inTurn (separator before : String) (items : List Item)
    (adds : ∀ item ∈ items, (writeItem item).OnlyAdds) :
    (∃ pieces, InTurn writeItem separator before items pieces) ∨
      ∃ visited item later pieces failure piece, items = visited ++ item :: later ∧
        InTurn writeItem separator before visited pieces ∧
        (writeItem item).run.run (aheadOf separator before pieces) =
          (.error failure, aheadOf separator before pieces ++ piece) := by
  induction items using List.reverseRecOn with
  | nil => exact .inl ⟨[], .start⟩
  | append_singleton items item inductionHypothesis =>
    obtain ⟨earlier, last⟩ := List.forall_mem_append.mp adds
    rcases inductionHypothesis earlier with
      ⟨pieces, taken⟩ | ⟨visited, failing, later, pieces, failure, piece, rfl, taken, failed⟩
    · obtain ⟨piece, added⟩ :=
        List.forall_mem_singleton.mp last (aheadOf separator before pieces)
      rcases result : (writeItem item).run.run (aheadOf separator before pieces) with
        ⟨failure | value, text⟩
      · rw [result] at added
        subst added
        exact .inr ⟨items, item, [], pieces, failure, piece, rfl, taken, result⟩
      · rw [result] at added
        subst added
        exact .inl ⟨pieces ++ [piece], .turn taken result⟩
    · exact .inr ⟨visited, failing, later ++ [item], pieces, failure, piece,
        (List.append_assoc _ _ _), taken, failed⟩

/-- The loop over items that only add takes them in turn. If none of them fails, it leaves the
text it started on with the pieces that are not empty behind it, with the separator between them.
Otherwise it ends with the first that fails, whatever items come behind that one: the text has the
pieces of the items before it, a separator if one of these is not empty, and what the item added
before it failed. -/
theorem separated_in_turn (separator before : String) (items : List Item)
    (adds : ∀ item ∈ items, (writeItem item).OnlyAdds) :
    (∃ pieces, InTurn writeItem separator before items pieces ∧
      (separated writeItem separator items).runOn before =
        (.ok (), before ++ separator.intercalate (pieces.filter (· ≠ "")))) ∨
    ∃ visited item later pieces failure piece, items = visited ++ item :: later ∧
      InTurn writeItem separator before visited pieces ∧
      (writeItem item).runOn (aheadOf separator before pieces) =
        (.error failure, aheadOf separator before pieces ++ piece) ∧
      ∀ others, (separated writeItem separator (visited ++ item :: others)).runOn before =
        (.error failure,
          before ++ separator.intercalate (pieces.filter (· ≠ "")) ++
            (if pieces.any (· ≠ "") then separator else "") ++ piece) := by
  rcases exists_inTurn separator before items adds with
    ⟨pieces, taken⟩ | ⟨visited, item, later, pieces, failure, piece, split, taken, failed⟩
  · refine .inl ⟨pieces, taken, ?_⟩
    have ended := run_separatedFrom_of_inTurn taken []
    rw [List.append_nil] at ended
    exact ended
  · refine .inr ⟨visited, item, later, pieces, failure, piece, split, taken, failed,
      fun others => ?_⟩
    have reached := run_separatedFrom_of_inTurn taken (item :: others)
    exact reached.trans (run_separatedFrom_of_error separator _ others failed)

/-- Writes an item and fails behind an exclamation mark. -/
def writeUpToMark (item : String) : TextWriter String Unit := do
  write item
  if item = "!" then throw "stop"

theorem onlyAdds_writeUpToMark (item : String) : (writeUpToMark item).OnlyAdds := by
  intro before
  refine ⟨item, ?_⟩
  unfold writeUpToMark
  rw [run_bind_of_ok _ (run_write item before)]
  by_cases stops : item = "!"
  · rw [if_pos stops]
    rfl
  · rw [if_neg stops]
    rfl

/-- Items of which some are empty, and one that stops the loop. -/
def stoppedItems : List String := ["", "a", "", "b", "", "!", "c"]

theorem separated_in_turn_stopped :
    (∀ item ∈ stoppedItems, (writeUpToMark item).OnlyAdds) ∧
    ((∃ pieces, InTurn writeUpToMark ", " "x: " stoppedItems pieces ∧
      (separated writeUpToMark ", " stoppedItems).runOn "x: " =
        (.ok (), "x: " ++ ", ".intercalate (pieces.filter (· ≠ "")))) ∨
    ∃ visited item later pieces failure piece, stoppedItems = visited ++ item :: later ∧
      InTurn writeUpToMark ", " "x: " visited pieces ∧
      (writeUpToMark item).runOn (aheadOf ", " "x: " pieces) =
        (.error failure, aheadOf ", " "x: " pieces ++ piece) ∧
      ∀ others, (separated writeUpToMark ", " (visited ++ item :: others)).runOn "x: " =
        (.error failure,
          "x: " ++ ", ".intercalate (pieces.filter (· ≠ "")) ++
            (if pieces.any (· ≠ "") then ", " else "") ++ piece)) := by
  have adds : ∀ item ∈ stoppedItems, (writeUpToMark item).OnlyAdds :=
    fun item _ => onlyAdds_writeUpToMark item
  exact ⟨adds, separated_in_turn ", " "x: " stoppedItems adds⟩

-- The item that fails has a separator in front of it and nothing behind it.
example : (separated writeUpToMark ", " stoppedItems).runOn "x: " =
    (.error "stop", "x: a, b, !") := by
  cbv

end TextWriter

end SqlRecords
