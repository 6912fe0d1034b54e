/-
This file says which column a field declares, from what its attributes say.

Arguments may be spread over several attributes, with attributes of others in between; only their
order counts. Each of them has a meaning of its own or none, and the first one without a meaning
decides the error. Otherwise the column is described by the meanings alone: the last name and the
last database type, the flags that are given anywhere, and the last word on whether the column is
nullable. So the order matters where two meanings are about the same, and nowhere else.

What one more meaning changes is shown for one step; the description of a whole column follows from
it by induction on the list of meanings, from its end.
-/

import SqlRecords.Declaration.Written
import SqlRecords.Proofs.Results
import Mathlib.Data.List.Induction
import Mathlib.Data.List.Perm.Basic

namespace SqlRecords.Declaration

open Source (AttributeForm FieldForm Token TypeForm)

/-! ### What an argument says -/

namespace FieldArgument

/-- What the tokens of an argument say about a field: a name and a text, a name and a word that can
name something, or the name of a flag. -/
inductive Means : List Token → FieldArgument → Prop
  | name {joint : Bool} {literal text : String}
    (content : Source.textContent? literal = some text) :
    Means [.word "name", .sign '=' joint, .literal literal] (.name text)
  | tag {joint : Bool} {word : String} (nameable : Token.isName word = true) :
    Means [.word "db_type", .sign '=' joint, .word word] (.tag word)
  | flag (flag : Flag) : Means [.word flag.name] (.flag flag)

end FieldArgument

theorem readPathRest_of_not_colons {isLast : Bool} {tokens : List Token}
    (free : Token.after? "::" tokens = none) (bound : Nat) :
    readPathRest isLast bound tokens = .ok ("", tokens) := by
  cases bound with
  | zero => rfl
  | succ bound => rw [readPathRest, free]

/-- What is read behind the first word of a path is nothing, or has a blank in it. -/
theorem readPathRest_blank {isLast : Bool} {bound : Nat} {tokens behind : List Token}
    {others : String} (read : readPathRest isLast bound tokens = .ok (others, behind)) :
    others = "" ∧ behind = tokens ∨ ' ' ∈ others.toList := by
  cases bound with
  | zero =>
    cases read
    exact .inl ⟨rfl, rfl⟩
  | succ bound =>
    rw [readPathRest] at read
    split at read
    · obtain ⟨⟨further, rest⟩, -, equal⟩ := (bind_eq_ok_iff _ _ _).mp read
      cases equal
      refine .inr ?_
      rw [String.toList_append, String.toList_append]
      exact List.mem_append_left _ (List.mem_append_left _ (by decide))
    · cases read
    · cases read
      exact .inl ⟨rfl, rfl⟩

theorem readPath_word {rest : List Token} (free : Token.after? "::" rest = none) (word : String)
    (isLast : Bool) :
    (Argument.mk (.word word :: rest) isLast).readPath = .ok (word, rest) := by
  change (readPathRest isLast rest.length rest >>= fun read =>
    Except.ok ("" ++ word ++ read.1, read.2)) = _
  rw [readPathRest_of_not_colons free]
  change Except.ok ("" ++ word ++ "", rest) = _
  rw [String.append_empty, String.empty_append]

/-- A path without blanks is a single word. -/
theorem tokens_eq_of_readPath {argument : Argument} {path : String} {rest : List Token}
    (read : argument.readPath = .ok (path, rest)) (solid : ' ' ∉ path.toList) :
    argument.tokens = .word path :: rest := by
  rw [Argument.readPath] at read
  split at read
  next word behind begins =>
    obtain ⟨⟨others, last⟩, readRest, equal⟩ := (bind_eq_ok_iff _ _ _).mp read
    cases equal
    rw [String.toList_append, String.toList_append, List.mem_append, List.mem_append] at solid
    cases rooted : Token.after? "::" argument.tokens with
    | none =>
      rw [rooted] at begins
      obtain ⟨rfl, rfl⟩ | blank := readPathRest_blank readRest
      · rw [show argument.tokens = .word word :: rest from begins]
        congr 2
        rw [String.append_empty]
        exact (String.empty_append).symm
      · exact absurd (.inr blank) solid
    | some inner =>
      rw [rooted] at solid
      have blank : ' ' ∈ ":: ".toList := by decide
      exact absurd (.inl (.inl blank)) solid
  next =>
    split at read
    · cases read
    · split at read <;> cases read

theorem complete_eq_ok_iff {Meaning : Type} (meaning result : Meaning) (rest : List Token) :
    complete meaning rest = .ok result ↔ rest = [] ∧ meaning = result := by
  cases rest with
  | nil => exact ⟨fun equal => ⟨rfl, Except.ok.inj equal⟩, fun ⟨_, equal⟩ => congrArg _ equal⟩
  | cons token rest =>
    constructor
    · intro equal
      cases equal
    · rintro ⟨equal, -⟩
      cases equal

theorem readTextValue_eq_some_iff (tokens behind : List Token) (text : String) :
    readTextValue tokens = some (text, behind) ↔
      ∃ joint literal, tokens = .sign '=' joint :: .literal literal :: behind ∧
        Source.textContent? literal = some text := by
  constructor
  · intro read
    rw [readTextValue.eq_def] at read
    split at read
    next joint literal rest =>
      obtain ⟨content, known, equal⟩ := Option.map_eq_some_iff.mp read
      cases equal
      exact ⟨joint, literal, rfl, known⟩
    next => cases read
  · rintro ⟨joint, literal, rfl, known⟩
    rw [readTextValue, known, Option.map_some]

theorem readNameValue_eq_some_iff (tokens behind : List Token) (word : String) :
    readNameValue tokens = some (word, behind) ↔
      ∃ joint, tokens = .sign '=' joint :: .word word :: behind ∧ Token.isName word = true := by
  constructor
  · intro read
    rw [readNameValue.eq_def] at read
    split at read
    next joint found rest =>
      split at read
      next nameable =>
        cases read
        exact ⟨joint, rfl, nameable⟩
      next => cases read
    next => cases read
  · rintro ⟨joint, rfl, nameable⟩
    rw [readNameValue, if_pos nameable]

theorem flagOfName?_eq_some_iff (name : String) (flag : Flag) :
    flagOfName? name = some flag ↔ flag.name = name := by
  constructor
  · intro found
    exact eq_of_beq (List.find?_some (p := fun known : Flag => known.name == name) found)
  · rintro rfl
    cases flag <;> rfl

namespace FieldArgument

/-- An argument has a meaning exactly if its tokens say it. -/
theorem ofArgument_eq_ok_iff (argument : Argument) (meaning : FieldArgument) :
    ofArgument argument = .ok meaning ↔ Means argument.tokens meaning := by
  constructor
  · intro read
    obtain ⟨⟨path, rest⟩, readPath, read⟩ := (bind_eq_ok_iff _ _ _).mp read
    dsimp only at read
    split at read
    next isName =>
      subst isName
      rw [tokens_eq_of_readPath readPath (by decide)]
      split at read
      next text behind value =>
        obtain ⟨rfl, rfl⟩ := (complete_eq_ok_iff _ _ _).mp read
        obtain ⟨joint, literal, rfl, content⟩ := (readTextValue_eq_some_iff _ _ _).mp value
        exact .name content
      next => cases read
    next =>
      split at read
      next isTag =>
        subst isTag
        rw [tokens_eq_of_readPath readPath (by decide)]
        split at read
        next word behind value =>
          obtain ⟨rfl, rfl⟩ := (complete_eq_ok_iff _ _ _).mp read
          obtain ⟨joint, rfl, nameable⟩ := (readNameValue_eq_some_iff _ _ _).mp value
          exact .tag nameable
        next => cases read
      next =>
        split at read
        next flag found =>
          split at read
          · cases read
          · obtain ⟨rfl, rfl⟩ := (complete_eq_ok_iff _ _ _).mp read
            obtain rfl := (flagOfName?_eq_some_iff _ _).mp found
            rw [tokens_eq_of_readPath readPath (by cases flag <;> decide)]
            exact .flag flag
        next => cases read
  · obtain ⟨tokens, isLast⟩ := argument
    intro meant
    cases meant with
    | @name joint literal text content =>
      have free : Token.after? "::" [.sign '=' joint, .literal literal] = none := by
        cases joint <;> rfl
      refine (bind_eq_ok_iff _ _ _).mpr ⟨_, readPath_word free "name" isLast, ?_⟩
      dsimp only
      rw [if_pos rfl, (readTextValue_eq_some_iff _ [] text).mpr ⟨joint, literal, rfl, content⟩]
      rfl
    | @tag joint word nameable =>
      have free : Token.after? "::" [.sign '=' joint, .word word] = none := by
        cases joint <;> rfl
      refine (bind_eq_ok_iff _ _ _).mpr ⟨_, readPath_word free "db_type" isLast, ?_⟩
      dsimp only
      rw [if_neg (by decide), if_pos rfl,
        (readNameValue_eq_some_iff _ [] word).mpr ⟨joint, rfl, nameable⟩]
      rfl
    | flag flag =>
      cases flag <;> rfl

end FieldArgument

/-! ### Arguments of several attributes -/

/-- Whether attributes have some arguments, in this order. Attributes of others have none, whatever
stands in them. -/
inductive Holds : List AttributeForm → List Argument → Prop
  | nil : Holds [] []
  | foreign {first : AttributeForm} {others : List AttributeForm} {arguments : List Argument}
    (different : first.path ≠ [.word attributeName]) (further : Holds others arguments) :
    Holds (first :: others) arguments
  | own {first : AttributeForm} {others : List AttributeForm} {arguments : List Argument}
    {inside : List Token} (same : first.path = [.word attributeName])
    (listed : first.content = .list inside) (further : Holds others arguments) :
    Holds (first :: others) (splitArguments 0 [] inside ++ arguments)

/-- How the arguments are spread over attributes does not matter for what is read. -/
theorem readAttributes_of_holds {Meaning : Type} (read : Argument → Except Error Meaning)
    {attributes : List AttributeForm} {arguments : List Argument}
    (holds : Holds attributes arguments) :
    readAttributes read (attributes.map Attribute.ofForm) = arguments.mapM read := by
  induction holds with
  | nil => rfl
  | @foreign first others arguments different _ inductionHypothesis =>
    rw [← inductionHypothesis, List.map_cons, Attribute.ofForm, if_neg different]
    unfold readAttributes
    rw [List.mapM_cons]
    cases (others.map Attribute.ofForm).mapM (Attribute.read read) <;> rfl
  | @own first others arguments inside same listed _ inductionHypothesis =>
    rw [List.mapM_append, ← inductionHypothesis, List.map_cons, Attribute.ofForm, if_pos same,
      listed]
    unfold readAttributes
    rw [List.mapM_cons, Attribute.read]
    cases (splitArguments 0 [] inside).mapM read with
    | error failure => rfl
    | ok meanings => cases (others.map Attribute.ofForm).mapM (Attribute.read read) <;> rfl

/-! ### The column that is described -/

namespace FieldArgument

/-- The name of the column, if it is said. -/
def name? : FieldArgument → Option String
  | name text => some text
  | tag _ | flag _ => none

/-- The name of the database type, if it is said. -/
def tag? : FieldArgument → Option String
  | tag word => some word
  | name _ | flag _ => none

/-- Whether the column is nullable, if something is said that decides it. -/
def nullability? : FieldArgument → Option Bool
  | flag .primaryKey => some false
  | flag .nullable => some true
  | flag .generated | flag .skip | name _ | tag _ => none

end FieldArgument

/-- Whether a type is written as that of optional contents: as a path to `Option`, with exactly one
type in angle brackets behind it. -/
def IsOptional (type : TypeForm) : Prop :=
  ∃ path front, type.shape = .path path ∧ path.isQualified = false ∧
    path.segments = front ++ [("Option", some [true])]

/-- What a column is like when some things are said about its field, one after the other. -/
structure IsDescribed (form : FieldForm) (name : String) (said : List FieldArgument)
    (column : DeclaredColumn) : Prop where
  field : column.field = name
  type : column.type = form.type.tokens
  name : column.name = (said.filterMap FieldArgument.name?).getLast?.getD (Text.lowerCase name)
  tag : column.tag = (said.filterMap FieldArgument.tag?).getLast?
  primaryKey : column.primaryKey = true ↔ .flag .primaryKey ∈ said
  generated : column.generated = true ↔ .flag .generated ∈ said
  mapped : column.mapped = false ↔ .flag .skip ∈ said
  nullable : column.nullable = true ↔
    (said.filterMap FieldArgument.nullability?).getLast? = some true ∨
      said.filterMap FieldArgument.nullability? = [] ∧ IsOptional form.type

theorem isOptionalType_eq_true_iff (type : TypeForm) :
    isOptionalType type = true ↔ IsOptional type := by
  unfold isOptionalType IsOptional
  cases type.shape with
  | path path =>
    change path.isOptional = true ↔ _
    rw [Source.PathForm.isOptional, Bool.and_eq_true, Bool.not_eq_true', beq_iff_eq,
      List.getLast?_eq_some_iff]
    constructor
    · rintro ⟨free, front, segments⟩
      exact ⟨path, front, rfl, free, segments⟩
    · rintro ⟨other, front, same, free, segments⟩
      cases same
      exact ⟨free, front, segments⟩
  | soleBound bare =>
    constructor
    · intro equal
      cases equal
    · rintro ⟨path, front, equal, -⟩
      cases equal
  | other =>
    constructor
    · intro equal
      cases equal
    · rintro ⟨path, front, equal, -⟩
      cases equal

section Description

variable {form : FieldForm} {name : String} {said : List FieldArgument} {column : DeclaredColumn}

theorem isDescribed_plain (form : FieldForm) (name : String) :
    IsDescribed form name []
      (.plain name form.type.tokens (isOptionalType form.type)) where
  field := rfl
  type := rfl
  name := rfl
  tag := rfl
  primaryKey := iff_of_false Bool.false_ne_true List.not_mem_nil
  generated := iff_of_false Bool.false_ne_true List.not_mem_nil
  mapped := iff_of_false Bool.noConfusion List.not_mem_nil
  nullable := by
    rw [DeclaredColumn.plain, isOptionalType_eq_true_iff]
    exact ⟨fun optional => .inr ⟨rfl, optional⟩, fun said => said.elim nofun And.right⟩

/-- One more thing that is said changes the description where it is about it. -/
theorem IsDescribed.concat (described : IsDescribed form name said column)
    (further : FieldArgument) :
    IsDescribed form name (said ++ [further]) (column.apply further) := by
  obtain ⟨field, type, columnName, tag, primaryKey, generated, mapped, nullable⟩ := described
  cases further
  case' flag flag => cases flag
  all_goals
    constructor <;> simp [DeclaredColumn.apply, DeclaredColumn.setFlag, FieldArgument.name?,
      FieldArgument.tag?, FieldArgument.nullability?, field, type, columnName, tag, primaryKey,
      generated, mapped, nullable]

theorem isDescribed_foldl (form : FieldForm) (name : String) (said : List FieldArgument) :
    IsDescribed form name said (said.foldl DeclaredColumn.apply
      (.plain name form.type.tokens (isOptionalType form.type))) := by
  induction said using List.reverseRecOn with
  | nil => exact isDescribed_plain form name
  | append_singleton said further inductionHypothesis =>
    rw [List.foldl_append]
    exact inductionHypothesis.concat further

/-- The description leaves nothing open. -/
theorem IsDescribed.unique {other : DeclaredColumn} (first : IsDescribed form name said column)
    (second : IsDescribed form name said other) : column = other := by
  have primaryKey := Bool.eq_iff_iff.mpr (first.primaryKey.trans second.primaryKey.symm)
  have generated := Bool.eq_iff_iff.mpr (first.generated.trans second.generated.symm)
  have mapped : column.mapped = other.mapped := by
    rw [← Bool.not_inj_iff, Bool.eq_iff_iff, Bool.not_eq_true', Bool.not_eq_true']
    exact first.mapped.trans second.mapped.symm
  have nullable := Bool.eq_iff_iff.mpr (first.nullable.trans second.nullable.symm)
  cases column
  cases other
  rw [DeclaredColumn.mk.injEq]
  exact ⟨first.field.trans second.field.symm, first.type.trans second.type.symm,
    first.name.trans second.name.symm, first.tag.trans second.tag.symm, primaryKey, generated,
    nullable, mapped⟩

end Description

/-! ### Columns of fields -/

section Column

variable {form : FieldForm} {name : String} {arguments : List Argument}

theorem column_ofForm (named : form.name = some name) (holds : Holds form.attributes arguments) :
    (Field.ofForm form).column = (arguments.mapM FieldArgument.ofArgument).map fun said =>
      said.foldl DeclaredColumn.apply
        (.plain name form.type.tokens (isOptionalType form.type)) := by
  rw [Field.column, Field.ofForm]
  dsimp only
  rw [named, readAttributes_of_holds _ holds]
  cases arguments.mapM FieldArgument.ofArgument <;> rfl

theorem mapM_ofArgument_eq_ok_iff (arguments : List Argument) (said : List FieldArgument) :
    arguments.mapM FieldArgument.ofArgument = .ok said ↔
      List.Forall₂ FieldArgument.Means (arguments.map Argument.tokens) said := by
  rw [mapM_eq_ok_iff, List.forall₂_map_left_iff]
  exact ⟨fun all => all.imp fun argument meaning => (FieldArgument.ofArgument_eq_ok_iff _ _).mp,
    fun all => all.imp fun argument meaning => (FieldArgument.ofArgument_eq_ok_iff _ _).mpr⟩

theorem column_eq_ok_iff (named : form.name = some name)
    (holds : Holds form.attributes arguments) (column : DeclaredColumn) :
    (Field.ofForm form).column = .ok column ↔
      ∃ said, List.Forall₂ FieldArgument.Means (arguments.map Argument.tokens) said ∧
        IsDescribed form name said column := by
  rw [column_ofForm named holds, map_eq_ok_iff]
  constructor
  · rintro ⟨said, read, rfl⟩
    exact ⟨said, (mapM_ofArgument_eq_ok_iff _ _).mp read, isDescribed_foldl form name said⟩
  · rintro ⟨said, meant, described⟩
    exact ⟨said, (mapM_ofArgument_eq_ok_iff _ _).mpr meant,
      (isDescribed_foldl form name said).unique described⟩

theorem column_eq_error_iff (named : form.name = some name)
    (holds : Holds form.attributes arguments) (error : Error) :
    (Field.ofForm form).column = .error error ↔
      ∃ before bad after, arguments = before ++ bad :: after ∧
        (∀ earlier ∈ before, ∃ meaning, FieldArgument.Means earlier.tokens meaning) ∧
          FieldArgument.ofArgument bad = .error error := by
  have same : (Field.ofForm form).column = .error error ↔
      arguments.mapM FieldArgument.ofArgument = .error error := by
    rw [column_ofForm named holds]
    cases arguments.mapM FieldArgument.ofArgument with
    | error failure => exact ⟨fun equal => congrArg _ (Except.error.inj equal),
        fun equal => congrArg _ (Except.error.inj equal)⟩
    | ok said => exact ⟨nofun, nofun⟩
  rw [same, mapM_eq_error_iff]
  simp only [FieldArgument.ofArgument_eq_ok_iff]

end Column

/-! ### Arguments in another order -/

theorem eq_of_perm_of_length_le_one {Item : Type} {first second : List Item}
    (perm : first.Perm second) (short : first.length ≤ 1) : first = second := by
  match first, short with
  | [], _ => exact perm.nil_eq
  | [item], _ => exact List.singleton_perm.mp perm

/-- Unless a column is said to be both a key and nullable, everything that is said on whether it is
nullable agrees. -/
theorem exists_nullability_eq {said : List FieldArgument}
    (agree : ¬(.flag .primaryKey ∈ said ∧ .flag .nullable ∈ said)) :
    ∃ value, ∀ other ∈ said.filterMap FieldArgument.nullability?, other = value := by
  by_cases key : .flag .primaryKey ∈ said
  · refine ⟨false, fun other member => ?_⟩
    obtain ⟨argument, among, decides⟩ := List.mem_filterMap.mp member
    match argument, decides with
    | .flag .primaryKey, equal => exact (Option.some.inj equal).symm
    | .flag .nullable, _ => exact absurd ⟨key, among⟩ agree
  · refine ⟨true, fun other member => ?_⟩
    obtain ⟨argument, among, decides⟩ := List.mem_filterMap.mp member
    match argument, decides with
    | .flag .primaryKey, _ => exact absurd among key
    | .flag .nullable, equal => exact (Option.some.inj equal).symm

theorem filterMap_nullability?_eq_of_perm {said others : List FieldArgument}
    (perm : said.Perm others) (agree : ¬(.flag .primaryKey ∈ said ∧ .flag .nullable ∈ said)) :
    said.filterMap FieldArgument.nullability? = others.filterMap FieldArgument.nullability? := by
  obtain ⟨value, all⟩ := exists_nullability_eq agree
  have uniform := List.eq_replicate_of_mem all
  have reordered := perm.filterMap FieldArgument.nullability?
  rw [uniform] at reordered ⊢
  exact List.replicate_perm.mp reordered

/-- What is said in another order describes the same column, apart from whether it is nullable. -/
theorem IsDescribed.eq_of_perm {form other : FieldForm} {name : String}
    {said others : List FieldArgument} {column changed : DeclaredColumn}
    (described : IsDescribed form name said column)
    (otherwise : IsDescribed other name others changed) (sameType : other.type = form.type)
    (perm : said.Perm others) (oneName : (said.filterMap FieldArgument.name?).length ≤ 1)
    (oneTag : (said.filterMap FieldArgument.tag?).length ≤ 1) :
    changed = { column with nullable := changed.nullable } ∧
      (changed.nullable ≠ column.nullable →
        .flag .primaryKey ∈ said ∧ .flag .nullable ∈ said) := by
  have names := eq_of_perm_of_length_le_one (perm.filterMap FieldArgument.name?) oneName
  have tags := eq_of_perm_of_length_le_one (perm.filterMap FieldArgument.tag?) oneTag
  constructor
  · refine otherwise.unique ⟨described.field, sameType ▸ described.type, names ▸ described.name,
      tags ▸ described.tag, described.primaryKey.trans perm.mem_iff,
      described.generated.trans perm.mem_iff, described.mapped.trans perm.mem_iff,
      otherwise.nullable⟩
  · refine not_imp_comm.mp fun agree => ?_
    have same := filterMap_nullability?_eq_of_perm perm agree
    rw [Bool.eq_iff_iff, otherwise.nullable, described.nullable, same, sameType]

/-! ### The law of field attributes -/

/-- The column of a named field depends on its arguments alone, whichever attributes hold them. It
is refused exactly if some argument means nothing, for the reason of the first such one; otherwise
it is described by what the arguments say. In another order, arguments that say at most one name and
one database type can only differ on whether the column is nullable, and only if they say both that
it is a key and that it is nullable. -/
theorem column_of_arguments (form : FieldForm) (name : String) (arguments : List Argument)
    (named : form.name = some name) (holds : Holds form.attributes arguments) :
    ((∃ error, (Field.ofForm form).column = .error error) ↔
      ∃ bad ∈ arguments, ∀ meaning, ¬FieldArgument.Means bad.tokens meaning) ∧
    (∀ error, (Field.ofForm form).column = .error error ↔
      ∃ before bad after, arguments = before ++ bad :: after ∧
        (∀ earlier ∈ before, ∃ meaning, FieldArgument.Means earlier.tokens meaning) ∧
          FieldArgument.ofArgument bad = .error error) ∧
    (∀ column, (Field.ofForm form).column = .ok column ↔
      ∃ said, List.Forall₂ FieldArgument.Means (arguments.map Argument.tokens) said ∧
        IsDescribed form name said column) ∧
    ∀ (other : FieldForm) (others : List Argument) (said : List FieldArgument),
      other.name = some name → other.type = form.type → Holds other.attributes others →
      (arguments.map Argument.tokens).Perm (others.map Argument.tokens) →
      List.Forall₂ FieldArgument.Means (arguments.map Argument.tokens) said →
      (said.filterMap FieldArgument.name?).length ≤ 1 →
      (said.filterMap FieldArgument.tag?).length ≤ 1 →
      ∃ column changed, (Field.ofForm form).column = .ok column ∧
        (Field.ofForm other).column = .ok changed ∧
        changed = { column with nullable := changed.nullable } ∧
        (changed.nullable ≠ column.nullable →
          .flag .primaryKey ∈ said ∧ .flag .nullable ∈ said) := by
  refine ⟨?_, column_eq_error_iff named holds, column_eq_ok_iff named holds, ?_⟩
  · constructor
    · rintro ⟨error, failed⟩
      obtain ⟨before, bad, after, rfl, -, failing⟩ :=
        (column_eq_error_iff named holds error).mp failed
      refine ⟨bad, List.mem_append_right _ List.mem_cons_self, fun meaning meant => ?_⟩
      rw [(FieldArgument.ofArgument_eq_ok_iff bad meaning).mpr meant] at failing
      cases failing
    · rintro ⟨bad, member, meaningless⟩
      cases result : (Field.ofForm form).column with
      | error error => exact ⟨error, rfl⟩
      | ok column =>
        obtain ⟨said, meant, -⟩ := (column_eq_ok_iff named holds column).mp result
        rw [List.forall₂_map_left_iff] at meant
        obtain ⟨position, found⟩ := List.mem_iff_getElem?.mp member
        obtain ⟨meaning, -, means⟩ := exists_getElem?_of_forall₂ meant found
        exact absurd means (meaningless meaning)
  · intro other others said otherNamed sameType otherHolds perm meant oneName oneTag
    obtain ⟨reordered, otherMeant, reorder⟩ := List.perm_comp_forall₂ perm.symm meant
    have described := isDescribed_foldl form name said
    have otherwise := isDescribed_foldl other name reordered
    exact ⟨_, _, (column_eq_ok_iff named holds _).mpr ⟨said, meant, described⟩,
      (column_eq_ok_iff otherNamed otherHolds _).mpr ⟨reordered, otherMeant, otherwise⟩,
      described.eq_of_perm otherwise sameType reorder.symm oneName oneTag⟩

/-- An attribute of this library with some tokens in parentheses. -/
def ownAttribute (inside : List Token) : AttributeForm :=
  ⟨[.word attributeName], .list inside, []⟩

/-- A field `id` of the type `Option<i32>` with some attributes. -/
def optionalField (attributes : List AttributeForm) : FieldForm where
  attributes := attributes
  name := some "id"
  type := {
    tokens := [.word "Option", .sign '<' false, .word "i32", .sign '>' false]
    shape := .path ⟨[.word "Option"], [.sign '<' false, .word "i32", .sign '>' false], false, false,
      [("Option", some [true])]⟩ }
  tokens := []

/-- A comma, and a name for the column. -/
def commaAndName : List Token :=
  [.sign ',' false, .word "name", .sign '=' false, .literal "\"n\""]

/-- The flag for keys and a name in one attribute, behind that of someone else, and the flag for
nullable columns in another. -/
def keyFirst : List AttributeForm :=
  [⟨[.word "doc"], .value, []⟩, ownAttribute (.word "primary_key" :: commaAndName),
    ownAttribute [.word "nullable", .sign ',' false]]

/-- The same arguments in one attribute, the other way around. -/
def keyLast : List AttributeForm :=
  [ownAttribute (.word "nullable" :: commaAndName ++ [.sign ',' false, .word "primary_key"])]

theorem column_of_arguments_reordered :
    ∃ column changed, (Field.ofForm (optionalField keyFirst)).column = .ok column ∧
      (Field.ofForm (optionalField keyLast)).column = .ok changed ∧
      column.name = "n" ∧ column.primaryKey = true ∧ column.nullable = true ∧
      changed = { column with nullable := false } := by
  have first : Holds keyFirst (splitArguments 0 [] (.word "primary_key" :: commaAndName) ++
      (splitArguments 0 [] [.word "nullable", .sign ',' false] ++ [])) :=
    .foreign (by decide) (.own rfl rfl (.own rfl rfl .nil))
  have last : Holds keyLast (splitArguments 0 []
      (.word "nullable" :: commaAndName ++ [.sign ',' false, .word "primary_key"]) ++ []) :=
    .own rfl rfl .nil
  obtain ⟨-, -, -, reorder⟩ := column_of_arguments (optionalField keyFirst) "id" _ rfl first
  obtain ⟨column, changed, declared, otherwise, same, -⟩ := reorder (optionalField keyLast) _
    [.flag .primaryKey, .name "n", .flag .nullable] rfl rfl last (by decide)
    (.cons (.flag .primaryKey) (.cons (.name (by decide)) (.cons (.flag .nullable) .nil)))
    (by decide) (by decide)
  refine ⟨column, changed, declared, otherwise, ?_⟩
  have firstColumn : (Field.ofForm (optionalField keyFirst)).column = .ok
      { field := "id", type := (optionalField []).type.tokens, name := "n", tag := none,
        primaryKey := true, generated := false, nullable := true, mapped := true } := by rfl
  have lastColumn : (Field.ofForm (optionalField keyLast)).column = .ok
      { field := "id", type := (optionalField []).type.tokens, name := "n", tag := none,
        primaryKey := true, generated := false, nullable := false, mapped := true } := by rfl
  rw [firstColumn] at declared
  rw [lastColumn] at otherwise
  cases declared
  cases otherwise
  exact ⟨rfl, rfl, rfl, rfl⟩

end SqlRecords.Declaration
