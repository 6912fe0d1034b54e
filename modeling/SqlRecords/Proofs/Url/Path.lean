/-
This file says which bytes the path of a url stands for when a text was set as its path. The text
is cut at its slashes, and the segments of dots, which stand for places, are resolved. A segment
may be spelled with escapes and still be one of dots, so a text with escapes may lose whole
segments on top of the characters that its escapes take the place of.

No walk along segments makes more bytes of them. So the path of a text with escapes is always too
short, and the path of any other text without segments of dots has just the bytes of the text.
-/

import SqlRecords.Proofs.Text.Split
import SqlRecords.Proofs.Url.Percent
import SqlRecords.Url

namespace SqlRecords.Url

variable {segment rest after : List Char} {walked segments : List (List Char)}

/-! ### Slashes -/

theorem startsWithByte_of_append_slash (starts : StartsWithByte (segment ++ '/' :: rest)) :
    StartsWithByte segment := by
  match segment with
  | [] =>
    cases rest with
    | nil => exact starts
    | cons => exact absurd starts.1 (by decide)
  | [_] => exact absurd starts.2 (by decide)
  | _ :: _ :: _ => exact starts

/-- A slash is never part of an escape. -/
theorem decodeBytes_append_slash (segment rest : List Char) :
    decodeBytes (segment ++ '/' :: rest) = decodeBytes segment ++ 0x2F :: decodeBytes rest := by
  induction segment using escape_induction with
  | nil => exact decodeBytes_plain fun both => absurd both.1 (by decide)
  | escape first second high low further isFirst isSecond inductionHypothesis =>
    show decodeBytes ('%' :: first :: second :: (further ++ '/' :: rest)) = _
    rw [decodeBytes_escape isFirst isSecond, decodeBytes_escape isFirst isSecond,
      inductionHypothesis]
    rfl
  | plain character further noEscape inductionHypothesis =>
    have stillNone : ¬(character = '%' ∧ StartsWithByte (further ++ '/' :: rest)) :=
      fun both => noEscape ⟨both.1, startsWithByte_of_append_slash both.2⟩
    show decodeBytes (character :: (further ++ '/' :: rest)) = _
    rw [decodeBytes_plain stillNone, decodeBytes_plain noEscape, inductionHypothesis,
      List.append_assoc]

/-- The number of bytes of segments, each with a slash behind it. -/
def weight : List (List Char) → Nat
  | [] => 0
  | segment :: segments => (decodeBytes segment).length + 1 + weight segments

theorem weight_nil : weight [] = 0 :=
  rfl

theorem weight_cons (segment : List Char) (segments : List (List Char)) :
    weight (segment :: segments) = (decodeBytes segment).length + 1 + weight segments :=
  rfl

theorem weight_append (front back : List (List Char)) :
    weight (front ++ back) = weight front + weight back := by
  induction front with
  | nil => exact (Nat.zero_add _).symm
  | cons segment front inductionHypothesis =>
    rw [List.cons_append, weight_cons, weight_cons, inductionHypothesis]
    exact (Nat.add_assoc _ _ _).symm

theorem weight_reverse (segments : List (List Char)) :
    weight segments.reverse = weight segments := by
  induction segments with
  | nil => rfl
  | cons segment segments inductionHypothesis =>
    rw [List.reverse_cons, weight_append, inductionHypothesis, Nat.add_comm]
    rfl

theorem length_decodeBytes_intercalate (segments : List (List Char)) :
    (decodeBytes (List.intercalate ['/'] segments)).length = weight segments - 1 := by
  induction segments with
  | nil => rfl
  | cons segment others inductionHypothesis =>
    cases others with
    | nil =>
      rw [List.intercalate_singleton, weight_cons, weight_nil]
      rfl
    | cons second others =>
      rw [List.intercalate_cons_cons, List.append_assoc, List.singleton_append,
        decodeBytes_append_slash, List.length_append, List.length_cons, inductionHypothesis,
        weight_cons segment, weight_cons second]
      omega

/-! ### Walks -/

theorem weight_goBack_le (walked : List (List Char)) : weight (goBack walked) ≤ weight walked := by
  fun_cases goBack walked with
  | case1 => exact Nat.le_refl _
  | case2 => exact Nat.le_refl _
  | case3 =>
    rw [weight_cons]
    exact Nat.le_add_left _ _

/-- A walk makes no bytes. -/
theorem weight_walk_le (walked segments : List (List Char)) :
    weight (walk walked segments) ≤ weight walked + weight segments := by
  have empty : (decodeBytes []).length = 0 := rfl
  fun_induction walk walked segments with
  | case1 => exact Nat.le_refl _
  | case2 walked =>
    have back := weight_goBack_le walked
    rw [weight_cons, weight_cons, weight_nil, empty]
    omega
  | case3 =>
    rw [weight_cons, weight_cons, weight_nil, empty]
    omega
  | case4 =>
    rw [weight_cons, weight_cons, weight_nil]
    omega
  | case5 walked segment _ _ _ inductionHypothesis =>
    have back := weight_goBack_le walked
    rw [weight_cons]
    omega
  | case6 walked segment _ _ _ _ inductionHypothesis =>
    rw [weight_cons]
    omega
  | case7 walked segment _ _ _ _ inductionHypothesis =>
    rw [weight_cons] at inductionHypothesis ⊢
    omega

/-- A walk along segments that are no places keeps them all. -/
theorem walk_of_forall (noPlaces : ∀ segment ∈ segments, ¬isHere segment = true ∧
    ¬isAbove segment = true) : walk walked segments = segments.reverse ++ walked := by
  fun_induction walk walked segments with
  | case1 => rfl
  | case2 walked last above => exact absurd above (noPlaces last List.mem_cons_self).2
  | case3 walked last _ here => exact absurd here (noPlaces last List.mem_cons_self).1
  | case4 => rfl
  | case5 walked segment _ _ above => exact absurd above (noPlaces segment List.mem_cons_self).2
  | case6 walked segment _ _ _ here => exact absurd here (noPlaces segment List.mem_cons_self).1
  | case7 walked segment rest _ _ _ inductionHypothesis =>
    rw [inductionHypothesis fun other member => noPlaces other (List.mem_cons_of_mem _ member),
      List.reverse_cons, List.append_assoc]
    rfl

/-! ### Segments of dots -/

theorem eq_or_eq_toUpper_of_toLower {character lower : Char}
    (equal : character.toLower = lower) : character = lower ∨ character = lower.toUpper := by
  subst equal
  by_cases same : character.toLower = character
  case pos => exact .inl same.symm
  case neg =>
    have small : character.toNat < 128 := by
      unfold Char.toLower at same
      split at same
      case isTrue upper => exact Nat.lt_of_le_of_lt upper.2 (by decide)
      case isFalse => exact absurd rfl same
    have back := Text.of_forall_code (fun character => character.toLower ≠ character →
      character.toLower.toUpper = character) (by decide) small
    exact .inr (back same).symm

/-- A dot, written or escaped, stands for the byte of a dot. -/
theorem exists_behind_dot {dot : List Char} (isDot : dot = ['.'] ∨ dot = ['%', '2', 'e'])
    (equal : segment.map Char.toLower = dot ++ after) :
    ∃ rest, decodeBytes segment = 0x2E :: decodeBytes rest ∧ rest.map Char.toLower = after := by
  rcases isDot with rfl | rfl
  · obtain ⟨character, rest, rfl, isDot, further⟩ := List.map_eq_cons_iff.mp equal
    have written : character = '.' := (eq_or_eq_toUpper_of_toLower isDot).elim id id
    subst written
    exact ⟨rest, decodeBytes_plain fun both => absurd both.1 (by decide), further⟩
  · obtain ⟨mark, _, rfl, isPercent, equal⟩ := List.map_eq_cons_iff.mp equal
    obtain ⟨first, _, rfl, isTwo, equal⟩ := List.map_eq_cons_iff.mp equal
    obtain ⟨second, rest, rfl, isFourteen, further⟩ := List.map_eq_cons_iff.mp equal
    have percent : mark = '%' := (eq_or_eq_toUpper_of_toLower isPercent).elim id id
    have two : first = '2' := (eq_or_eq_toUpper_of_toLower isTwo).elim id id
    have fourteen : Text.hexDigit? second = some 14 := by
      rcases eq_or_eq_toUpper_of_toLower isFourteen with rfl | rfl <;> rfl
    subst percent two
    have value : Text.hexDigit? '2' = some 2 := rfl
    exact ⟨rest, decodeBytes_escape value fourteen, further⟩

theorem decodeBytes_of_isHere (here : isHere segment = true) : decodeBytes segment = [0x2E] := by
  obtain ⟨dots, member, equal⟩ := List.any_eq_true.mp here
  have each : ∀ dots ∈ [".", "%2e"], dots.toList = ['.'] ∨ dots.toList = ['%', '2', 'e'] := by
    decide
  have spelled := (eq_of_beq equal).trans (List.append_nil _).symm
  obtain ⟨rest, decodes, nothing⟩ := exists_behind_dot (each dots member) spelled
  obtain rfl := List.map_eq_nil_iff.mp nothing
  exact decodes

theorem decodeBytes_of_isAbove (above : isAbove segment = true) :
    decodeBytes segment = [0x2E, 0x2E] := by
  obtain ⟨dots, member, equal⟩ := List.any_eq_true.mp above
  have each : ∀ dots ∈ ["..", "%2e%2e", "%2e.", ".%2e"],
      ∃ first ∈ [['.'], ['%', '2', 'e']], ∃ second ∈ [['.'], ['%', '2', 'e']],
        dots.toList = first ++ second := by decide
  obtain ⟨first, isFirst, second, isSecond, both⟩ := each dots member
  rw [List.mem_cons, List.mem_singleton] at isFirst isSecond
  obtain ⟨rest, decodes, further⟩ := exists_behind_dot isFirst ((eq_of_beq equal).trans both)
  have spelled := further.trans (List.append_nil _).symm
  obtain ⟨behind, decodesRest, nothing⟩ := exists_behind_dot isSecond spelled
  obtain rfl := List.map_eq_nil_iff.mp nothing
  rw [decodes, decodesRest]
  rfl

theorem ownBytes_injective {left right : List Char} (equal : ownBytes left = ownBytes right) :
    left = right := by
  have same : Text.encodeUtf8 (String.ofList left) = Text.encodeUtf8 (String.ofList right) := by
    rw [← ownBytes_toList, ← ownBytes_toList, String.toList_ofList, String.toList_ofList, equal]
  exact String.ofList_inj.mp (Text.encodeUtf8_injective same)

/-- Without escapes, only the segments that are dots stand for places. -/
theorem not_isPlace_percentEncode (noEscape : ¬HasEscape segment)
    (noDots : segment ≠ ['.'] ∧ segment ≠ ['.', '.']) :
    ¬isHere (percentEncode keptInPath segment) = true ∧
      ¬isAbove (percentEncode keptInPath segment) = true := by
  have decodes := decodeBytes_percentEncode_path segment
  rw [decodeBytes_eq_ownBytes noEscape] at decodes
  constructor
  · intro here
    exact noDots.1 (ownBytes_injective (decodes.symm.trans (decodeBytes_of_isHere here)))
  · intro above
    exact noDots.2 (ownBytes_injective (decodes.symm.trans (decodeBytes_of_isAbove above)))

/-! ### Whole paths -/

theorem percentEncode_intercalate {kept : Char → Bool} (keepsSlash : kept '/' = true)
    (pieces : List (List Char)) :
    percentEncode kept (List.intercalate ['/'] pieces) =
      List.intercalate ['/'] (pieces.map (percentEncode kept)) := by
  induction pieces with
  | nil => rfl
  | cons first others inductionHypothesis =>
    cases others with
    | nil =>
      rw [List.map_singleton, List.intercalate_singleton, List.intercalate_singleton]
    | cons second others =>
      rw [List.map_cons] at inductionHypothesis
      rw [List.map_cons, List.map_cons, List.intercalate_cons_cons, List.intercalate_cons_cons,
        List.append_assoc, List.append_assoc, List.singleton_append, List.singleton_append,
        ← inductionHypothesis, ← percentEncode_cons_kept keepsSlash]
      exact List.flatMap_append

variable {scheme path : List Char}

/-- A walk along the segments of a path leaves no more bytes than the path stands for. -/
theorem length_decodeBytes_walk_le (path : List Char) :
    (decodeBytes (List.intercalate ['/']
      (walk [] ((Text.splitAt '/' path).map (percentEncode keptInPath))).reverse)).length ≤
        (decodeBytes path).length := by
  have keepsSlash : keptInPath '/' = true := by decide
  have whole := percentEncode_intercalate keepsSlash (Text.splitAt '/' path)
  rw [Text.intercalate_splitAt] at whole
  rw [← decodeBytes_percentEncode_path path, whole, length_decodeBytes_intercalate,
    length_decodeBytes_intercalate, weight_reverse]
  have walked := weight_walk_le [] ((Text.splitAt '/' path).map (percentEncode keptInPath))
  rw [weight_nil, Nat.zero_add] at walked
  exact Nat.sub_le_sub_right walked 1

/-- A walk along the segments of a path without escapes and without dots leaves the path. -/
theorem intercalate_walk (noEscape : ¬HasEscape path)
    (noDots : ∀ segment ∈ Text.splitAt '/' path, segment ≠ ['.'] ∧ segment ≠ ['.', '.']) :
    List.intercalate ['/']
        (walk [] ((Text.splitAt '/' path).map (percentEncode keptInPath))).reverse =
      percentEncode keptInPath path := by
  have noPlaces : ∀ segment ∈ (Text.splitAt '/' path).map (percentEncode keptInPath),
      ¬isHere segment = true ∧ ¬isAbove segment = true := by
    intro encoded member
    obtain ⟨segment, inside, rfl⟩ := List.mem_map.mp member
    refine not_isPlace_percentEncode (fun hasEscape => noEscape ?_) (noDots segment inside)
    exact hasEscape.of_isInfix (Text.isInfix_of_mem_splitAt inside)
  rw [walk_of_forall noPlaces, List.append_nil, List.reverse_reverse,
    ← percentEncode_intercalate (by decide), Text.intercalate_splitAt]

/-- The path of a url stands for the text that was set exactly if that has no escapes. -/
theorem exists_pathOf_eq (notSpecial : isSpecial scheme = false)
    (seen : ∀ character ∈ path, ¬isPassedOver character = true)
    (noDots : ∀ segment ∈ Text.splitAt '/' path, segment ≠ ['.'] ∧ segment ≠ ['.', '.']) :
    ∃ encoding, pathOf scheme path = '/' :: encoding ∧
      (decodeBytes encoding = ownBytes path ↔ ¬HasEscape path) := by
  have allSeen : path.filter (!isPassedOver ·) = path := by
    refine List.filter_eq_self.mpr fun character member => ?_
    exact (Bool.not_eq_true' _).mpr (Bool.eq_false_iff.mpr (seen character member))
  refine ⟨List.intercalate ['/']
    (walk [] ((Text.splitAt '/' path).map (percentEncode keptInPath))).reverse, ?_, ?_, ?_⟩
  · unfold pathOf
    rw [notSpecial, allSeen]
    rfl
  · intro equal hasEscape
    have short := Nat.lt_of_le_of_lt (length_decodeBytes_walk_le path)
      (length_decodeBytes_lt hasEscape)
    exact Nat.ne_of_lt short (congrArg List.length equal)
  · intro noEscape
    rw [intercalate_walk noEscape noDots, decodeBytes_percentEncode_path,
      decodeBytes_eq_ownBytes noEscape]

end SqlRecords.Url
