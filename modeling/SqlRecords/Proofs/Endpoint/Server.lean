/-
This file follows the place of a server into an endpoint. A place is a host, or a host and a port
with a colon between them, and the port is what stands behind the last colon. A host without
colons and an address in brackets are both told from their port that way.

An address without a port has a last colon as well. It is taken for one only if another colon
stands right before that colon; otherwise the end of the address is read as a port, which it never
is, and the address is refused.
-/

import Mathlib.Data.List.Basic
import SqlRecords.Endpoint
import SqlRecords.Proofs.Number.IntegerText
import SqlRecords.Proofs.Text.Blank
import SqlRecords.Proofs.Text.Split

namespace SqlRecords.Endpoint

/-! ### Hosts -/

/-- The hosts of servers: names without colons and without white space at their ends, and
addresses in brackets. -/
inductive IsHost : List Char → Prop
  | plain {host : List Char} (nonempty : host ≠ []) (noColon : ':' ∉ host)
    (first : ∀ character ∈ host.head?, Text.isBlank character = false)
    (last : ∀ character ∈ host.getLast?, Text.isBlank character = false) : IsHost host
  | bracketed (address : List Char) : IsHost ('[' :: address ++ [']'])

/-- Whether a host has a last colon that no colon stands right before. -/
def HasLoneColon (host : List Char) : Prop :=
  ∃ front group, host = front ++ ':' :: group ∧ ':' ∉ group ∧ front.getLast? ≠ some ':'

variable {host before after : List Char}

namespace IsHost

theorem ne_nil (isHost : IsHost host) : host ≠ [] := by
  cases isHost with
  | plain nonempty => exact nonempty
  | bracketed => exact List.cons_ne_nil _ _

theorem first (isHost : IsHost host) :
    ∀ character ∈ host.head?, Text.isBlank character = false := by
  cases isHost with
  | plain _ _ first => exact first
  | bracketed =>
    rintro _ ⟨rfl⟩
    exact isBlank_of_visible (by decide) (by decide)

theorem getLast?_bracketed (address : List Char) :
    ('[' :: address ++ [']']).getLast? = some ']' :=
  List.getLast?_concat

theorem last (isHost : IsHost host) :
    ∀ character ∈ host.getLast?, Text.isBlank character = false := by
  cases isHost with
  | plain _ _ _ last => exact last
  | bracketed address =>
    rw [getLast?_bracketed]
    rintro _ ⟨rfl⟩
    exact isBlank_of_visible (by decide) (by decide)

theorem getLast?_ne_colon (isHost : IsHost host) : host.getLast? ≠ some ':' := by
  cases isHost with
  | plain _ noColon => exact fun last => noColon (List.mem_of_getLast? last)
  | bracketed address =>
    rw [getLast?_bracketed]
    decide

theorem closing_mem_of_colon {front group : List Char} (isHost : IsHost (front ++ ':' :: group)) :
    ']' ∈ group := by
  generalize equal : front ++ ':' :: group = host at isHost
  cases isHost with
  | plain _ noColon => exact absurd (equal ▸ List.mem_append_right front List.mem_cons_self) noColon
  | bracketed address =>
    have last := congrArg List.getLast? equal
    rw [getLast?_bracketed, List.getLast?_append_of_ne_nil _ (List.cons_ne_nil _ _)] at last
    cases group with
    | nil => exact absurd last (by decide)
    | cons => exact List.mem_of_getLast? last

/-- What stands behind a colon of a host is no port. -/
theorem ofText_ne_ok {front group : List Char} (isHost : IsHost (front ++ ':' :: group))
    (port : Integer .uint16) : Integer.ofText .uint16 group ≠ .ok port := by
  have closing := isHost.closing_mem_of_colon
  have noDigit {digits : List Char} (allDigits : ∀ digit ∈ digits, digit.isDigit = true) :
      ']' ∉ digits := fun member => absurd (allDigits _ member) (by decide)
  intro read
  have numeral := (Integer.ofText_eq_ok_iff group port).mp read
  generalize port.value = number at numeral
  cases numeral with
  | digits _ allDigits => exact noDigit allDigits closing
  | plus _ allDigits =>
    rcases List.mem_cons.mp closing with sign | member
    · exact absurd sign (by decide)
    · exact noDigit allDigits member
  | minus isSigned => exact absurd isSigned (by decide)

end IsHost

/-! ### Servers -/

section Servers

variable (user password : String) {database : String}

/-- The endpoint of a server depends on its place without the white space around. -/
theorem ofServer_eq {place : List Char} {server : String} (nonempty : place ≠ [])
    (trims : Text.trim server = String.ofList place) (hasDatabase : Text.trim database ≠ "") :
    ofServer server user password database =
      match Text.splitAtLast? ':' place with
      | none => .ok ⟨String.ofList place, none, user, password, database⟩
      | some (host, port) =>
        if host.getLast? = some ':' then
          .ok ⟨String.ofList place, none, user, password, database⟩
        else
          match Integer.ofText .uint16 port with
          | .ok port => .ok ⟨String.ofList host, some port, user, password, database⟩
          | .error reason => .error (.invalidPort (String.ofList place) reason) := by
  have hasPlace : (String.ofList place).isEmpty = false :=
    String.isEmpty_eq_false_iff.mpr fun empty => nonempty (String.ofList_eq_empty_iff.mp empty)
  have hasName := String.isEmpty_eq_false_iff.mpr hasDatabase
  unfold ofServer
  rw [trims]
  dsimp only
  rw [hasPlace, hasName, String.toList_ofList]
  rfl

theorem intText_port (port : Integer .uint16) :
    Integer.intText port.value = Nat.toDigits 10 port.value.natAbs :=
  if_neg (Int.not_lt.mpr (by exact port.least_le))

/-- A host and a port are split at the colon between them. -/
theorem ofServer_port (isHost : IsHost host)
    (blankBefore : ∀ character ∈ before, Text.isBlank character = true)
    (blankAfter : ∀ character ∈ after, Text.isBlank character = true)
    (hasDatabase : Text.trim database ≠ "") (port : Integer .uint16) :
    ofServer (String.ofList (before ++ (host ++ ':' :: Integer.intText port.value) ++ after)) user
        password database =
      .ok ⟨String.ofList host, some port, user, password, database⟩ := by
  have nonempty : host ++ ':' :: Integer.intText port.value ≠ [] :=
    List.append_ne_nil_of_left_ne_nil isHost.ne_nil _
  have first : ∀ character ∈ (host ++ ':' :: Integer.intText port.value).head?,
      Text.isBlank character = false := by
    rw [List.head?_append_of_ne_nil _ isHost.ne_nil]
    exact isHost.first
  have last : ∀ character ∈ (host ++ ':' :: Integer.intText port.value).getLast?,
      Text.isBlank character = false := by
    rw [List.append_cons, intText_port, List.getLast?_append_of_ne_nil _ Nat.toDigits_ne_nil]
    exact fun character member =>
      isBlank_of_isDigit (isDigit_of_mem_toDigits (List.mem_of_getLast? member))
  have noColon : ':' ∉ Integer.intText port.value := by
    rw [intText_port]
    exact fun member => absurd (isDigit_of_mem_toDigits member) (by decide)
  have trims := trim_ofList nonempty blankBefore blankAfter first last
  rw [ofServer_eq user password nonempty trims hasDatabase, Text.splitAtLast?_append noColon]
  dsimp only
  rw [if_neg isHost.getLast?_ne_colon, Integer.ofText_intText]

/-- A host alone is taken for one, unless its last colon is taken for that of a port. -/
theorem ofServer_host (isHost : IsHost host)
    (blankBefore : ∀ character ∈ before, Text.isBlank character = true)
    (blankAfter : ∀ character ∈ after, Text.isBlank character = true)
    (hasDatabase : Text.trim database ≠ "") :
    (¬HasLoneColon host →
        ofServer (String.ofList (before ++ host ++ after)) user password database =
          .ok ⟨String.ofList host, none, user, password, database⟩) ∧
      (HasLoneColon host →
        ∃ reason, ofServer (String.ofList (before ++ host ++ after)) user password database =
          .error (.invalidPort (String.ofList host) reason)) := by
  have trims := trim_ofList isHost.ne_nil blankBefore blankAfter isHost.first isHost.last
  rw [ofServer_eq user password isHost.ne_nil trims hasDatabase]
  constructor
  · intro noLoneColon
    by_cases colon : ':' ∈ host
    case neg => rw [Text.splitAtLast?_eq_none colon]
    case pos =>
      obtain ⟨front, group, rfl, noColon⟩ := Text.exists_last_of_mem colon
      have behindColon : front.getLast? = some ':' :=
        Decidable.not_not.mp fun alone => noLoneColon ⟨front, group, rfl, noColon, alone⟩
      rw [Text.splitAtLast?_append noColon]
      exact if_pos behindColon
  · rintro ⟨front, group, rfl, noColon, alone⟩
    rw [Text.splitAtLast?_append noColon]
    dsimp only
    rw [if_neg alone]
    cases read : Integer.ofText .uint16 group with
    | ok port => exact absurd read (isHost.ofText_ne_ok port)
    | error reason => exact ⟨reason, rfl⟩

/-- A server is split into its host and its port, whatever white space stands around them, and a
host alone is taken for one exactly if it has no last colon by itself. Otherwise it is refused. -/
theorem ofServer_splits (isHost : IsHost host)
    (blankBefore : ∀ character ∈ before, Text.isBlank character = true)
    (blankAfter : ∀ character ∈ after, Text.isBlank character = true)
    (hasDatabase : Text.trim database ≠ "") (port : Integer .uint16) :
    ofServer (String.ofList (before ++ (host ++ ':' :: Integer.intText port.value) ++ after)) user
        password database =
      .ok ⟨String.ofList host, some port, user, password, database⟩ ∧
    (ofServer (String.ofList (before ++ host ++ after)) user password database =
        .ok ⟨String.ofList host, none, user, password, database⟩ ↔ ¬HasLoneColon host) ∧
    (HasLoneColon host →
      ∃ reason, ofServer (String.ofList (before ++ host ++ after)) user password database =
        .error (.invalidPort (String.ofList host) reason)) := by
  obtain ⟨taken, refused⟩ := ofServer_host user password isHost blankBefore blankAfter hasDatabase
  have split := ofServer_port user password isHost blankBefore blankAfter hasDatabase port
  refine ⟨split, ⟨?_, taken⟩, refused⟩
  intro accepted loneColon
  obtain ⟨reason, refuses⟩ := refused loneColon
  rw [accepted] at refuses
  cases refuses

/-- An address whose last group stands behind a single colon is known by its port, and refused
without one. -/
theorem ofServer_splits_linkLocal :
    IsHost "[fe80::1:2]".toList ∧
      ofServer " [fe80::1:2]:3306" "root" "secret" "shop" =
        .ok ⟨"[fe80::1:2]", some ⟨3306, by decide, by decide⟩, "root", "secret", "shop"⟩ ∧
      ∃ reason, ofServer " [fe80::1:2]" "root" "secret" "shop" =
        .error (.invalidPort "[fe80::1:2]" reason) := by
  have isHost : IsHost "[fe80::1:2]".toList := .bracketed "fe80::1:2".toList
  have blankBefore : ∀ character ∈ [' '], Text.isBlank character = true :=
    List.forall_mem_singleton.mpr (by decide)
  have blankAfter : ∀ character ∈ [], Text.isBlank character = true :=
    fun _ member => absurd member List.not_mem_nil
  have hasDatabase : Text.trim "shop" ≠ "" := by decide
  have loneColon : HasLoneColon "[fe80::1:2]".toList :=
    ⟨"[fe80::1".toList, "2]".toList, by decide, by decide, by decide⟩
  obtain ⟨split, -, refused⟩ := ofServer_splits "root" "secret" isHost blankBefore blankAfter
    hasDatabase ⟨3306, by decide, by decide⟩
  exact ⟨isHost, split, refused loneColon⟩

end Servers

end SqlRecords.Endpoint
