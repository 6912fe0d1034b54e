/-
This file says what a url is made of that was written as a scheme and a plain host. The characters
of plain hosts mean nothing to a reader of urls, so all of them are the host, as they are.
-/

import Mathlib.Data.List.Basic
import SqlRecords.Proofs.Text.Blank
import SqlRecords.Proofs.Text.Split
import SqlRecords.Proofs.Url.Percent
import SqlRecords.Url

namespace SqlRecords.Url

variable {character : Char} {host : List Char}

/-! ### The characters of plain hosts -/

/-- Whether a character may stand in a plain host: a lower case letter, a digit, a dot or a
hyphen. -/
def isNameCharacter (character : Char) : Bool :=
  character.isLower || character.isDigit || character == '.' || character == '-'

theorem toNat_lt_of_isNameCharacter (isName : isNameCharacter character = true) :
    character.toNat < 128 := by
  unfold isNameCharacter at isName
  rw [Bool.or_eq_true, Bool.or_eq_true, Bool.or_eq_true, beq_iff_eq, beq_iff_eq] at isName
  rcases isName with ((lower | digit) | rfl) | rfl
  · unfold Char.isLower at lower
    rw [Bool.and_eq_true, decide_eq_true_eq, decide_eq_true_eq] at lower
    exact Nat.lt_of_le_of_lt lower.2 (by decide)
  · exact Nat.lt_of_le_of_lt (Char.isDigit_iff_toNat.mp digit).2 (by decide)
  · decide
  · decide

/-- What a character of a plain host name means to the reader of a url: nothing but itself. -/
structure IsOrdinary (character : Char) : Prop where
  visible : ¬character ≤ ' '
  seen : isPassedOver character = false
  inAuthority : endsAuthority false character = false
  allowed : forbiddenInHost character = false
  kept : keptInHost character = true
  noSign : character ≠ '@'
  noColon : character ≠ ':'
  notOpening : character ≠ '['
  notClosing : character ≠ ']'

theorem isOrdinary_of_isNameCharacter (isName : isNameCharacter character = true) :
    IsOrdinary character := by
  have facts := Text.of_forall_code (fun character => isNameCharacter character = true →
    ¬character ≤ ' ' ∧ isPassedOver character = false ∧ endsAuthority false character = false ∧
      forbiddenInHost character = false ∧ keptInHost character = true ∧
      character ≠ '@' ∧ character ≠ ':' ∧ character ≠ '[' ∧ character ≠ ']') (by decide)
    (toNat_lt_of_isNameCharacter isName)
  obtain ⟨visible, seen, inAuthority, allowed, kept, noSign, noColon, notOpening, notClosing⟩ :=
    facts isName
  exact ⟨visible, seen, inAuthority, allowed, kept, noSign, noColon, notOpening, notClosing⟩

/-! ### Reading plain hosts -/

theorem hostPart_of_forall (ordinary : ∀ character ∈ host, IsOrdinary character) :
    hostPart false host = host := by
  induction host with
  | nil => rfl
  | cons character rest inductionHypothesis =>
    obtain ⟨first, later⟩ := List.forall_mem_cons.mp ordinary
    rw [hostPart, if_neg fun both => first.noColon both.1, if_neg first.notOpening,
      if_neg first.notClosing, inductionHypothesis later]

theorem readHost_of_forall (ordinary : ∀ character ∈ host, IsOrdinary character) :
    readHost false host = .ok host := by
  have allowed : host.any forbiddenInHost = false :=
    List.any_eq_false.mpr fun character member => by
      rw [(ordinary character member).allowed]
      exact Bool.false_ne_true
  have kept : percentEncode keptInHost host = host :=
    percentEncode_of_forall fun character member => (ordinary character member).kept
  unfold readHost
  split
  case h_1 => exact absurd rfl (ordinary _ List.mem_cons_self).notOpening
  case h_2 =>
    show (if host.any forbiddenInHost then _ else _) = _
    rw [allowed, kept]
    rfl

theorem readAuthority_of_forall (nonempty : host ≠ [])
    (ordinary : ∀ character ∈ host, IsOrdinary character) :
    readAuthority "mysql".toList host false = .ok ⟨[], [], some host, none⟩ := by
  have noSign : '@' ∉ host := fun member => (ordinary _ member).noSign rfl
  have isFile : isFile "mysql".toList = false := by decide
  have isSpecial : isSpecial "mysql".toList = false := by decide
  unfold readAuthority
  rw [isFile, isSpecial, Text.splitAtLast?_eq_none noSign]
  dsimp only [Option.getD_none]
  rw [hostPart_of_forall ordinary, List.drop_length, readHost_of_forall ordinary,
    if_neg Bool.false_ne_true, if_neg fun all => nonempty (List.isEmpty_iff.mp all.1)]
  show Except.ok (Authority.mk [] [] (if host.isEmpty = true then none else some host) none) = _
  rw [if_neg fun isEmpty => nonempty (List.isEmpty_iff.mp isEmpty)]

theorem readBehindSlashes_of_forall (nonempty : host ≠ [])
    (ordinary : ∀ character ∈ host, IsOrdinary character) :
    readBehindSlashes "mysql".toList host =
      .ok ⟨"mysql".toList, [], [], some host, none, [], none, none⟩ := by
  have isSpecial : isSpecial "mysql".toList = false := by decide
  have goesOn : ∀ character ∈ host, (!endsAuthority false character) = true := by
    intro character member
    rw [(ordinary character member).inAuthority]
    rfl
  unfold readBehindSlashes
  dsimp only
  rw [isSpecial, List.dropWhile_eq_nil_iff.mpr goesOn, List.takeWhile_eq_self_iff.mpr goesOn,
    List.isEmpty_nil, Bool.not_true, readAuthority_of_forall nonempty ordinary]
  rfl

/-- A scheme and a plain host are a url that has nothing else. -/
theorem ofText_of_forall (nonempty : host ≠ [])
    (ordinary : ∀ character ∈ host, IsOrdinary character) :
    ofText ("mysql://".toList ++ host) =
      .ok ⟨"mysql".toList, [], [], some host, none, [], none, none⟩ := by
  have stripped : Text.strip (fun character => decide (character ≤ ' '))
      ("mysql://".toList ++ host) = "mysql://".toList ++ host := by
    refine strip_eq_self ?_ ?_
    · rintro _ ⟨rfl⟩
      decide
    · rw [List.getLast?_append_of_ne_nil _ nonempty]
      exact fun character member =>
        decide_eq_false (ordinary character (List.mem_of_getLast? member)).visible
  have filtered : ("mysql://".toList ++ host).filter (!isPassedOver ·) =
      "mysql://".toList ++ host := by
    refine congrArg ("mysql://".toList ++ ·) (List.filter_eq_self.mpr fun character member => ?_)
    rw [(ordinary character member).seen]
    rfl
  have scheme : readScheme ("mysql://".toList ++ host) =
      some ("mysql".toList, "//".toList ++ host) := rfl
  have start : authorityStart? "mysql".toList ("//".toList ++ host) = some host := rfl
  unfold ofText
  dsimp only
  rw [stripped, filtered, scheme]
  dsimp only
  rw [start]
  exact readBehindSlashes_of_forall nonempty ordinary

end SqlRecords.Url
