/-
This file reads items: functions, types, modules and whatever else can be declared.

An item is read behind its attributes. Some items are allowed for macros to see though they mean
nothing; these are kept as they are written, with their attributes, and every reader of items
says whether it read one of them.
-/

import SqlRecords.Source.FunctionGrammar
import SqlRecords.Source.RecordGrammar

namespace SqlRecords.Source

variable (inner : Readers)

/-- An item that was read: whether it is kept as it is written, and its tokens. -/
abbrev ItemReader := Reader (Bool × List Token)

/-- Reads an item that is not kept as it is written. -/
def regular (reader : Reader (List Token)) : ItemReader := do
  return (false, ← reader)

/-- Reads an item that is kept as it is written. -/
def written (reader : Reader (List Token)) : ItemReader := do
  return (true, ← reader)

/-! ### Values, types and macros -/

/-- Reads an equals sign and a value, if there is one. -/
def readDefinition : Reader (List Token) :=
  Reader.given (Token.beginsWith "=") (Reader.inOrder [Reader.sign "=", inner.expressionTokens])

/-- Reads a constant. It is kept as it is written if it has parameters or conditions on them, or
if it has to have a value and has none. -/
def readConstantItem (front : Reader (List Token)) (needsValue : Bool) : ItemReader := do
  let name ← Reader.inOrder [front, Reader.word "const", Reader.name <|> Reader.word "_"]
  let isGeneric ← Reader.ahead (Token.beginsWith "<")
  let type ← Reader.inOrder [readGenerics inner, Reader.sign ":", inner.typeTokens]
  let value ← readDefinition inner
  let isConditional ← Reader.ahead (Token.beginsWord ["where"])
  let rest ← Reader.inOrder [readConditions inner, Reader.sign ";"]
  return (isGeneric || isConditional || needsValue && value.isEmpty, name ++ type ++ value ++ rest)

/-- Where the conditions on the parameters of a type stand. -/
inductive ConditionsPlace where
  | beforeDefinition
  | behindDefinition
  | anywhere
deriving DecidableEq, Repr

/-- The name of a type that was read, with what it is bound by and what it stands for. -/
structure TypeItemForm where
  front : List Token
  /-- whether a colon stands behind the name -/
  isBound : Bool
  bounds : List Token
  /-- the conditions in front of the definition -/
  conditions : List Token
  definition : List Token
  /-- the conditions behind the definition, and the semicolon -/
  rest : List Token

/-- The tokens of the name of a type. -/
def TypeItemForm.tokens (item : TypeItemForm) : List Token :=
  item.front ++ item.bounds ++ item.conditions ++ item.definition ++ item.rest

/-- Reads what the name of a type is bound by. -/
def readItemBounds : Reader (List Token) := do
  let colon ← Reader.sign ":"
  let ends := fun tokens =>
    Token.beginsWord ["where"] tokens || Token.beginsWithAny ["=", ";"] tokens
  return behindColon colon (← readBounds inner .usual ends)

/-- Reads the name of a type. -/
def readTypeItem (marks : Reader (List Token)) (place : ConditionsPlace) :
    Reader TypeItemForm := do
  let front ← Reader.inOrder [marks, Reader.word "type", Reader.name, readGenerics inner]
  let isBound ← Reader.ahead (Token.beginsWith ":")
  let bounds ← if isBound then readItemBounds inner else pure []
  let hasConditions ← Reader.ahead (Token.beginsWord ["where"])
  let conditions ← if place = .behindDefinition then pure [] else readConditions inner
  let definition ← Reader.given (Token.beginsWith "=")
    (Reader.inOrder [Reader.sign "=", inner.typeTokens])
  let isLate := place = .behindDefinition || place = .anywhere && !hasConditions
  let late ← if isLate then readConditions inner else pure []
  return ⟨front, isBound, bounds, conditions, definition, late ++ (← Reader.sign ";")⟩

/-- Reads the name of a type that has to stand for another one, and is kept as it is written
otherwise. -/
def readTypeAlias (marks : Reader (List Token)) (place : ConditionsPlace) : ItemReader := do
  let item ← readTypeItem inner marks place
  return (item.isBound || item.definition.isEmpty, item.tokens)

/-- Whether tokens begin with the path of a macro. -/
def beginsMacroPath (tokens : List Token) : Bool :=
  Token.beginsName tokens || Token.beginsWord ["self", "super", "crate"] tokens ||
    Token.beginsWith "::" tokens

/-- Reads a macro that stands for items; a name may stand behind its mark. -/
def readItemMacro (name : Reader (List Token)) : Reader (List Token) := do
  let front ← Reader.inOrder [readModulePath, Reader.sign "!", name]
  let isBlock ← Reader.ahead (Token.opens .brace)
  let group ← Reader.anyGroup
  return front ++ group ++ (← if isBlock then pure [] else Reader.sign ";")

/-- Reads the name behind the mark of a macro, if there is one. -/
def readMacroName : Reader (List Token) :=
  Reader.given (fun tokens => Token.beginsName tokens || Token.beginsWord ["try"] tokens)
    Reader.anyWord

/-- Reads the definition of a macro. -/
def readMacroDefinition : Reader (List Token) :=
  Reader.inOrder [readVisibility, Reader.word "macro", Reader.name,
    Reader.given (Token.opens .parenthesis) Reader.anyGroup, Reader.anyGroupOf .brace]

/-- Reads items in braces, which may begin with attributes of what they stand in. -/
def readItemBlock (item : Reader (List Token)) : Reader (List Token) := do
  let items := Reader.many (fun tokens => !Token.atEnd tokens) item
  Reader.group .brace (Reader.inOrder [readInnerAttributes inner, List.flatten <$> items])

/-! ### Traits -/

/-- Reads what belongs to a trait behind its attributes and marks. -/
def readTraitMember : ItemReader := do
  let tokens ← get
  if beginsFunction false tokens then
    let (_, read) ← readFunction inner (pure [])
    return (false, read)
  else if Token.beginsWord ["const"] tokens then
    readConstantItem inner (pure []) false
  else if Token.beginsWord ["type"] tokens then
    regular (TypeItemForm.tokens <$> readTypeItem inner (pure []) .behindDefinition)
  else
    failure

/-- Reads what belongs to a trait. Marks are kept as they are written. -/
def readTraitItem : ItemReader := do
  let attributes ← readAttributes inner
  let marks ← Reader.inOrder [readVisibility, Reader.optionalWord "default"]
  if ← Reader.ahead fun tokens => marks.isEmpty && beginsMacroPath tokens then
    return (false, attributes ++ (← readItemMacro (pure [])))
  else
    let (isWritten, read) ← readTraitMember inner
    return (isWritten || !marks.isEmpty, attributes ++ marks ++ read)

/-- Reads the rest of a trait behind its name and parameters. -/
def readTraitRest : Reader (List Token) := do
  let ends := fun tokens => Token.beginsWord ["where"] tokens || Token.opens .brace tokens
  let bounds ← Reader.given (Token.beginsWith ":") do
    let colon ← Reader.sign ":"
    return behindColon colon (← readBounds inner .usual ends)
  return bounds ++ (← Reader.inOrder [readConditions inner,
    readItemBlock inner (Reader.mayBeAsWritten (readTraitItem inner))])

/-- Reads the rest of a trait that is another name for bounds. -/
def readTraitAliasRest : Reader (List Token) := do
  let mark ← Reader.sign "="
  let ends := fun tokens => Token.beginsWord ["where"] tokens || Token.beginsWith ";" tokens
  let bounds ← readBounds inner .plain ends
  return mark ++ bounds ++ (← Reader.inOrder [readConditions inner, Reader.sign ";"])

/-- Reads a trait. -/
def readTrait : Reader (List Token) := do
  let visibility ← readVisibility
  let marks ← Reader.inOrder [Reader.optionalWord "unsafe", Reader.optionalWord "auto"]
  let name ← Reader.inOrder [Reader.word "trait", Reader.name, readGenerics inner]
  let rest ← if ← Reader.ahead fun tokens => marks.isEmpty && Token.beginsWith "=" tokens then
      readTraitAliasRest inner
    else readTraitRest inner
  return visibility ++ marks ++ name ++ rest

/-! ### Implementations -/

/-- Reads the word that makes something replaceable. -/
def readDefaultMark : Reader (List Token) :=
  Reader.given (fun tokens => Token.beginsWord ["default"] tokens &&
    !Token.beginsWith "!" (Token.behindFirst tokens)) Reader.anyWord

/-- Reads what belongs to an implementation. -/
def readImplementationItem : ItemReader := do
  let attributes ← readAttributes inner
  let marks ← Reader.inOrder [readVisibility, readDefaultMark]
  let tokens ← get
  let (isWritten, read) ←
    if beginsFunction false tokens then readFunction inner (pure [])
    else if Token.beginsWord ["const"] tokens then readConstantItem inner (pure []) true
    else if Token.beginsWord ["type"] tokens then
      readTypeAlias inner (pure []) .behindDefinition
    else if marks.isEmpty && beginsMacroPath tokens then regular (readItemMacro (pure []))
    else failure
  return (isWritten, attributes ++ marks ++ read)

/-- Reads the word for a constant implementation, which a question mark may precede. -/
def readConstantImplementation : Reader (List Token) :=
  Reader.given (fun tokens => Token.beginsWord ["const"] tokens ||
      Token.beginsWith "?" tokens && Token.beginsWord ["const"] (Token.behindFirst tokens))
    (Reader.inOrder [Reader.optionalSign "?", Reader.word "const"])

/-- Reads what is implemented and for what, and says whether it is kept as it is written, which
it is when it is no path that is implemented. An exclamation mark says that a trait is not
implemented for a type, so it needs a type for which it is not. -/
def readImplemented : ItemReader := do
  let polarity ← Reader.given (fun tokens => Token.beginsWith "!" tokens &&
    !Token.opens .brace (Token.behindFirst tokens)) (Reader.sign "!")
  let type ← inner.type true
  if ← Reader.ahead (Token.beginsWord ["for"]) then
    let subject ← Reader.inOrder [Reader.word "for", inner.typeTokens]
    let isPath := match type.shape with
      | .path path => !path.isQualified
      | _ => false
    return (!isPath, polarity ++ type.tokens ++ subject)
  else if polarity.isEmpty then
    return (false, type.tokens)
  else
    failure

/-- Reads an implementation. -/
def readImplementation : ItemReader := do
  let visibility ← readVisibility
  let front ← Reader.inOrder [Reader.optionalWord "default", Reader.optionalWord "unsafe",
    Reader.word "impl", Reader.given beginsGenerics (readGenerics inner)]
  let constant ← readConstantImplementation
  let (isWritten, implemented) ← readImplemented inner
  let rest ← Reader.inOrder [readConditions inner,
    readItemBlock inner (Reader.mayBeAsWritten (readImplementationItem inner))]
  return (isWritten || !visibility.isEmpty || !constant.isEmpty,
    visibility ++ front ++ constant ++ implemented ++ rest)

/-! ### Foreign items -/

/-- Reads a foreign function. It is kept as it is written if it has a body or is called safe. -/
def readForeignFunction : ItemReader := do
  let isSafe ← Reader.ahead fun tokens =>
    (readFunctionMarks true tokens).any fun read => read.1.contains (.word "safe")
  let signature ← readSignature inner true
  if ← Reader.ahead (Token.opens .brace) then
    return (true, signature ++ (← readAttributedBlock inner))
  else
    return (isSafe, signature ++ (← Reader.sign ";"))

/-- Whether tokens begin a foreign place in memory. -/
def beginsForeignStatic (tokens : List Token) : Bool :=
  Token.beginsWord ["static"] tokens || Token.beginsWord ["safe", "unsafe"] tokens &&
    Token.beginsWord ["static"] (Token.behindFirst tokens)

/-- Reads a foreign place in memory. It is kept as it is written if it has a value or is called
safe or unsafe. -/
def readForeignStatic : ItemReader := do
  let mark ← Reader.given (Token.beginsWord ["safe", "unsafe"]) Reader.anyWord
  let place ← Reader.inOrder [Reader.word "static", Reader.optionalWord "mut", Reader.name,
    Reader.sign ":", inner.typeTokens]
  let value ← readDefinition inner
  return (!mark.isEmpty || !value.isEmpty, mark ++ place ++ value ++ (← Reader.sign ";"))

/-- Reads a foreign type. It is kept as it is written if it has bounds or stands for another
one. -/
def readForeignType : ItemReader := do
  let item ← readTypeItem inner (pure []) .anywhere
  return (item.isBound || !item.definition.isEmpty, item.tokens)

/-- Reads a foreign item. -/
def readForeignItem : ItemReader := do
  let attributes ← readAttributes inner
  let visibility ← readVisibility
  let tokens ← get
  let (isWritten, read) ←
    if beginsFunction true tokens then readForeignFunction inner
    else if beginsForeignStatic tokens then readForeignStatic inner
    else if Token.beginsWord ["type"] tokens then readForeignType inner
    else if visibility.isEmpty && beginsMacroPath tokens then
      regular (readItemMacro (pure []))
    else failure
  return (isWritten, attributes ++ visibility ++ read)

/-- Reads foreign items with the word for them. -/
def readForeignItems : Reader (List Token) :=
  Reader.inOrder [Reader.optionalWord "unsafe", readConvention,
    readItemBlock inner (Reader.mayBeAsWritten (readForeignItem inner))]

/-! ### Modules and imports -/

/-- Reads another name for something imported. -/
def readAnotherName : Reader (List Token) :=
  Reader.inOrder [Reader.word "as", Reader.name <|> Reader.word "_"]

/-- Reads what is imported. A double colon may stand in front of it if a flag says so. -/
def readImports (rooted : Bool) : Reader (List Token) := do
  let tokens ← get
  if Token.beginsName tokens || Token.beginsWord ["self", "super", "crate", "try"] tokens then
    let word ← Reader.anyWord
    if ← Reader.ahead (Token.beginsWith "::") then
      return word ++ (← Reader.inOrder [Reader.sign "::", inner.imports false])
    else
      return word ++ (← Reader.given (Token.beginsWord ["as"]) readAnotherName)
  else if Token.beginsWith "*" tokens then
    Reader.sign "*"
  else
    Reader.group .brace (Reader.commaSeparated do
      let root ← if rooted then Reader.optionalSign "::" else pure []
      return root ++ (← inner.imports (rooted && root.isEmpty)))

/-- Reads an import. -/
def readImport : Reader (List Token) := do
  let front ← Reader.inOrder [readVisibility, Reader.word "use"]
  let root ← Reader.optionalSign "::"
  return front ++ root ++ (← Reader.inOrder [inner.imports root.isEmpty, Reader.sign ";"])

/-- Reads the import of a library. -/
def readLibraryImport : Reader (List Token) :=
  Reader.inOrder [readVisibility, Reader.word "extern", Reader.word "crate",
    Reader.name <|> Reader.word "self",
    Reader.given (Token.beginsWord ["as"]) readAnotherName, Reader.sign ";"]

/-- Reads an item with its attributes. -/
def readAttributedItem : Reader (List Token) :=
  Reader.mayBeAsWritten do
    let attributes ← readAttributes inner
    let (isWritten, read) ← inner.item
    return (isWritten, attributes ++ read)

/-- Reads a module. -/
def readModule : Reader (List Token) := do
  let front ← Reader.inOrder [readVisibility, Reader.optionalWord "unsafe", Reader.word "mod",
    Reader.name <|> Reader.word "try"]
  if ← Reader.ahead (Token.beginsWith ";") then return front ++ (← Reader.sign ";")
  else return front ++ (← readItemBlock inner (readAttributedItem inner))

/-! ### Items -/

/-- Reads a place in memory. It is kept as it is written if it lacks a type or a value. -/
def readStatic : ItemReader := do
  let front ← Reader.inOrder
    [readVisibility, Reader.word "static", Reader.optionalWord "mut", Reader.name]
  let type ← readColonType inner
  let value ← readDefinition inner
  if type.isEmpty && value.isEmpty then failure
  else return (type.isEmpty || value.isEmpty, front ++ type ++ value ++ (← Reader.sign ";"))

/-- Reads an item that begins with the word for what is foreign; what follows the word comes as
an argument. -/
def readExternal (behind : List Token) : Reader (List Token) :=
  if Token.beginsWord ["crate"] behind then readLibraryImport
  else readForeignItems inner

/-- Reads an item that is marked as unsafe and is no function; what follows the mark comes as an
argument. -/
def readUnsafe (behind : List Token) : ItemReader :=
  if Token.beginsWord ["trait", "auto"] behind then regular (readTrait inner)
  else if Token.beginsWord ["impl"] behind then readImplementation inner
  else if Token.beginsWord ["extern"] behind then regular (readForeignItems inner)
  else if Token.beginsWord ["mod"] behind then regular (readModule inner)
  else failure

/-- Reads an item by the tokens behind its visibility. -/
def readItemBy (ahead : List Token) : ItemReader :=
  let second := Token.behindFirst ahead
  let begins := fun word => Token.beginsWord [word] ahead
  if beginsFunction false ahead then readFunction inner readVisibility
  else if begins "extern" then regular (readExternal inner second)
  else if begins "use" then regular (readImport inner)
  else if begins "static" then readStatic inner
  else if begins "const" then readConstantItem inner readVisibility true
  else if begins "unsafe" then readUnsafe inner second
  else if begins "mod" then regular (readModule inner)
  else if begins "type" then readTypeAlias inner readVisibility .beforeDefinition
  else if begins "struct" then regular (RecordForm.tokens <$> readRecord inner)
  else if begins "enum" then regular (readEnumeration inner)
  else if begins "union" && Token.beginsName second then regular (readUnion inner)
  else if begins "trait" || begins "auto" && Token.beginsWord ["trait"] second then
    regular (readTrait inner)
  else if begins "impl" || begins "default" && !Token.beginsWith "!" second then
    readImplementation inner
  else if begins "macro" then written readMacroDefinition
  else if beginsMacroPath ahead then regular (readItemMacro readMacroName)
  else failure

/-- Reads an item behind its attributes. -/
def readItem : ItemReader := fun tokens => do
  let (_, ahead) ← readVisibility tokens
  readItemBy inner ahead tokens

end SqlRecords.Source
