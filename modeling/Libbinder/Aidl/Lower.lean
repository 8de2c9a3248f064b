import Libbinder.Aidl.GoModel

/-!
# Lowering

`Lower` of `internal/aidl/gomodel/lower.go`: the declarations of a file and of
its dependencies are entered into scopes, and then every declaration of the
file is turned into its Go model.

Scopes are numbered in the order in which they are made, and the root is the
first one.  A map is the list of its assignments, the latest first.  Lowering
reports through its state; it has no error result, but an evaluation inside it
can panic.
-/

namespace Libbinder.Aidl

open Go
open Go.Scanner (bytesOf Operator)

/-! ## Scopes -/

inductive NamedKind where
  | interface
  | parcelable
  | enum
  | union
  deriving DecidableEq, Repr

structure NamedSymbol where
  kind : NamedKind
  aidlName : Name
  goName : Name
  scope : Option Nat
  decl : Decl
  packageName : Name

structure Scope where
  parent : Option Nat
  symbols : List (Name × NamedSymbol)

/-- The scopes and the map `byQName`. -/
structure SymbolTable where
  scopes : List Scope
  byQName : List (Name × NamedSymbol)

namespace SymbolTable

def root : Nat :=
  0

def empty : SymbolTable where
  scopes := [⟨none, []⟩]
  byQName := []

/-- A new scope inside another one. -/
def addScope (table : SymbolTable) (parent : Nat) : SymbolTable :=
  { table with scopes := table.scopes ++ [⟨some parent, []⟩] }

/-- `scope.symbols[name] = sym`. -/
def setSymbol (table : SymbolTable) (scope : Nat) (name : Name)
    (sym : NamedSymbol) : SymbolTable :=
  { table with
    scopes :=
      table.scopes.modify scope fun old =>
        { old with symbols := (name, sym) :: old.symbols } }

/-- `byQName[qualified] = sym`. -/
def setQName (table : SymbolTable) (qualified : Name) (sym : NamedSymbol) : SymbolTable :=
  { table with byQName := (qualified, sym) :: table.byQName }

/-- `scope.symbols[name]`. -/
def symbol (table : SymbolTable) (scope : Nat) (name : Name) : Option NamedSymbol :=
  table.scopes[scope]?.bind fun found => found.symbols.lookup name

end SymbolTable

open SymbolTable

/-- The qualified name `registerDecl` gives to a declaration. -/
def qualifiedName (file : File) (owner : Option NamedSymbol) (name : Name) : Name :=
  let inOwner :=
    match owner with
    | none => name
    | some outer => qualify outer.aidlName name
  if file.packageName = [] then inOwner else qualify file.packageName inOwner

/-- The Go name `registerDecl` gives to a declaration. -/
def declGoName (owner : Option NamedSymbol) (name : Name) : Name :=
  match owner with
  | none => exportName name
  | some outer => outer.goName ++ exportName name

/-- `registerDecl`; `mainPackage` is the package of the lowered file. -/
def registerDecl (mainPackage : Name) (file : File) (current : Nat)
    (owner : Option NamedSymbol) (name : Name) (kind : NamedKind)
    (decl : Decl) (scope : Option Nat) (table : SymbolTable) : NamedSymbol × SymbolTable :=
  let qualified := qualifiedName file owner name
  let sym : NamedSymbol :=
    { kind := kind
      aidlName := qualified
      goName := declGoName owner name
      scope := scope
      decl := decl
      packageName := file.packageName }
  let visible :=
    if current ≠ root ∨ owner.isSome ∨ file.packageName = mainPackage then
      table.setSymbol current name sym
    else
      table
  let named := visible.setQName qualified sym
  if file.packageName = [] then
    (sym, named)
  else
    (sym, named.setQName (trimLeading (file.packageName ++ bytesOf ".") qualified) sym)

/-- `collectNestedDecl`. -/
def collectNestedDecl (mainPackage : Name) (file : File) (current : Nat)
    (owner : NamedSymbol) (member : InterfaceMember) (table : SymbolTable) : SymbolTable :=
  let register (name : Name) (kind : NamedKind) (decl : Decl) :=
    (registerDecl mainPackage file current (some owner) name kind decl none table).2
  match member with
  | .parcelable decl => register decl.name .parcelable (.parcelable decl)
  | .enum decl => register decl.name .enum (.enum decl)
  | .union decl => register decl.name .union (.union decl)
  | .method _ => table
  | .const _ => table

mutual

/-- `collectDecl`. -/
def collectDecl (mainPackage : Name) (file : File) (current : Nat)
    (owner : Option NamedSymbol) (table : SymbolTable) :
    Decl → SymbolTable
  | .interface decl =>
    let nested := table.scopes.length
    let registered :=
      registerDecl mainPackage file current owner decl.name .interface
        (.interface decl) (some nested) (table.addScope current)
    decl.members.foldl
      (fun table member =>
        collectNestedDecl mainPackage file nested registered.1 member table)
      registered.2
  | .parcelable ⟨annotations, name, typeParams, structured, consts, fields,
      decls⟩ =>
    let decl : Decl :=
      .parcelable ⟨annotations, name, typeParams, structured, consts, fields, decls⟩
    if decls.isEmpty then
      (registerDecl mainPackage file current owner name .parcelable decl none table).2
    else
      let nested := table.scopes.length
      let registered :=
        registerDecl mainPackage file current owner name .parcelable decl
          (some nested) (table.addScope current)
      collectDecls mainPackage file nested (some registered.1) registered.2 decls
  | .enum decl =>
    (registerDecl mainPackage file current owner decl.name .enum (.enum decl) none table).2
  | .union decl =>
    (registerDecl mainPackage file current owner decl.name .union (.union decl) none table).2

/-- `collectDecl` over the declarations of one scope. -/
def collectDecls (mainPackage : Name) (file : File) (current : Nat)
    (owner : Option NamedSymbol) (table : SymbolTable) :
    List Decl → SymbolTable
  | [] => table
  | decl :: rest =>
    collectDecls mainPackage file current owner
      (collectDecl mainPackage file current owner table decl) rest

end

/-- `collectTopLevel`. -/
def collectTopLevel (mainPackage : Name) (table : SymbolTable) (file : File) : SymbolTable :=
  collectDecls mainPackage file root none table file.decls

/-! ## The state of lowering -/

/-- The part of `lowerState` that is fixed once the scopes are filled. -/
structure LowerContext where
  file : File
  options : LowerOptions
  table : SymbolTable

/-- The part of `lowerState` that lowering changes. -/
structure LowerState where
  diags : List Diagnostic
  interfaces : List Interface
  parcelables : List Parcelable
  enums : List Enum
  unions : List Union
  externalRefs : List Name

/-- A method of `lowerState`. -/
abbrev LowerM (α : Type) :=
  Action LowerState Empty α

/-- Append a diagnostic. -/
def report (diagnostic : Diagnostic) : LowerM Unit :=
  modify fun s => { s with diags := s.diags ++ [diagnostic] }

/-- Append a diagnostic under a condition. -/
def reportIf (condition : Bool) (diagnostic : Diagnostic) : LowerM Unit :=
  if condition then report diagnostic else return ()

/-! ## Types -/

namespace LowerContext

/-- The first symbol of a name in a scope and those around it. -/
def lookupScopes (context : LowerContext) (name : Name) : Nat → Option Nat → Option NamedSymbol
  | 0, _ => none
  | _ + 1, none => none
  | fuel + 1, some scope =>
    match context.table.symbol scope name with
    | some sym => some sym
    | none => context.lookupScopes name fuel (context.table.scopes[scope]?.bind Scope.parent)

/-- A lookup in `byQName`. -/
def lookupQName (context : LowerContext) (name : Name) : Option NamedSymbol :=
  context.table.byQName.lookup name

/-- A lookup in `byQName` inside the package of the file. -/
def lookupPackage (context : LowerContext) (name : Name) : Option NamedSymbol :=
  if context.file.packageName = [] then none
  else context.lookupQName (qualify context.file.packageName name)

/-- `importAliases[name]`. -/
def importAlias (context : LowerContext) (name : Name) : Option Name :=
  context.file.imports.reverse.find? fun path =>
    path ≠ [] ∧ lastSegment path = name

/-- `lookupType`. -/
def lookupType (context : LowerContext) (current : Option Nat)
    (name : Name) : Option NamedSymbol :=
  if name.contains '.' then
    (context.lookupQName name).or (context.lookupPackage name)
  else
    ((((context.importAlias name).bind context.lookupQName).or
      (context.lookupScopes name context.table.scopes.length current)).or
        (context.lookupPackage name)).or
          ((context.file.imports.filter fun path =>
            lastSegment path = name).findSome? context.lookupQName)

end LowerContext

/-- A builtin type that cannot be nil. -/
def plainBuiltin (kind : TypeKind) (name : Name) (goExpr : String)
    (nullable : Bool) : GoType :=
  if nullable then
    { kind := .unsupported, aidlName := name, goExpr := exportName name,
      nullable := true, isBuiltin := true }
  else
    { kind := kind, aidlName := name, goExpr := bytesOf goExpr, isBuiltin := true }

/-- A builtin type whose nullable form is a pointer. -/
def pointerBuiltin (kind : TypeKind) (name : Name) (goExpr : String)
    (nullable : Bool) : GoType :=
  { kind := kind, aidlName := name,
    goExpr := if nullable then bytesOf ("*" ++ goExpr) else bytesOf goExpr,
    nullable := nullable, isBuiltin := true }

/-- `builtinType`. -/
def builtinType (name : Name) (nullable : Bool) : Option GoType :=
  if name = bytesOf "void" then
    some { kind := .void, aidlName := bytesOf "void", goExpr := [] }
  else if name = bytesOf "boolean" then
    some (plainBuiltin .bool name "bool" nullable)
  else if name = bytesOf "byte" then
    some (plainBuiltin .byte name "int8" nullable)
  else if name = bytesOf "char" then
    some (plainBuiltin .char name "uint16" nullable)
  else if name = bytesOf "int" then
    some (plainBuiltin .int32 name "int32" nullable)
  else if name = bytesOf "long" then
    some (plainBuiltin .int64 name "int64" nullable)
  else if name = bytesOf "float" then
    some (plainBuiltin .float32 name "float32" nullable)
  else if name = bytesOf "double" then
    some (plainBuiltin .float64 name "float64" nullable)
  else if name = bytesOf "String" then
    some (pointerBuiltin .string name "string" nullable)
  else if name = bytesOf "IBinder" then
    some
      { kind := .binder, aidlName := name,
        goExpr := bytesOf "binder.Binder", nullable := true,
        isBuiltin := true }
  else if name = bytesOf "FileDescriptor" then
    some (plainBuiltin .fileDescriptor name "binder.FileDescriptor" nullable)
  else if name = bytesOf "ParcelFileDescriptor" then
    some (pointerBuiltin .parcelFileDescriptor name "binder.ParcelFileDescriptor" nullable)
  else
    none

def NamedKind.typeKind : NamedKind → TypeKind
  | .interface => .interface
  | .parcelable => .parcelable
  | .enum => .enum
  | .union => .union

/-- The mapping of an opaque parcelable, if it has one. -/
def LowerContext.customOf (context : LowerContext) (sym : NamedSymbol) :
    Option CustomParcelableConfig :=
  match sym.kind, sym.decl with
  | .parcelable, .parcelable decl =>
    if decl.structured then none
    else context.options.customParcelables.lookup sym.aidlName
  | _, _ => none

/-- The type of a symbol. -/
def lowerSymbol (context : LowerContext) (sym : NamedSymbol)
    (nullable : Bool) : LowerM GoType :=
  let typed (goExpr : Name) : GoType :=
    { kind := sym.kind.typeKind, aidlName := sym.aidlName,
      declPackage := sym.packageName, goExpr := goExpr,
      nullable := nullable, namedGo := sym.goName }
  match context.customOf sym with
  | some config => do
    let goExpr := qualify (customImportAlias config.goPackage) config.goType
    if nullable then
      reportIf (!config.nullable) (.nullableCustomParcelable sym.aidlName)
      return typed (bytesOf "*" ++ goExpr)
    else
      return typed goExpr
  | none =>
    if nullable then
      match sym.kind with
      | .parcelable => return typed (bytesOf "*" ++ sym.goName)
      | .union => return typed (bytesOf "*" ++ sym.goName)
      | .interface => return typed sym.goName
      | .enum => do
        report (.nullableNotSupported sym.kind.typeKind sym.aidlName)
        return typed sym.goName
    else
      return typed sym.goName

/-- `appendIfMissing`. -/
def appendIfMissing (values : List Name) (value : Name) : List Name :=
  if values.contains value then values else values ++ [value]

/-- `lowerType` of a name that is neither a container nor an array. -/
def lowerNamed (context : LowerContext) (current : Option Nat) (name : Name)
    (nullable : Bool) : LowerM GoType :=
  match builtinType name nullable with
  | some builtin => return builtin
  | none =>
    match context.lookupType current name with
    | some sym => lowerSymbol context sym nullable
    | none => do
      report (.unresolvedType name)
      modify fun s =>
        { s with externalRefs := appendIfMissing s.externalRefs name }
      let named := exportName (lastSegment name)
      return { kind := .external, aidlName := name, goExpr := named,
               nullable := nullable, namedGo := named,
               declPackage := packageOf name }

/-- The untyped half of a raw map. -/
def anyType : GoType :=
  { kind := .unsupported, goExpr := bytesOf "any" }

/--
`lowerType`, absent for its nil result.  The base of an array has the name of
the array, which is no container, so its own lowering is that of a name.
-/
def lowerType (context : LowerContext) (current : Option Nat) : TypeRef → LowerM (Option GoType)
  | ⟨_, name, typeArgs, array, fixedArrayLen, nullable⟩ =>
    if name = [] then do
      report .emptyTypeReference
      return none
    else if name = bytesOf "List" then
      match typeArgs with
      | [arg] => do
        match ← lowerType context current arg with
        | none => return none
        | some elem =>
          return some
            { kind := .slice, goExpr := bytesOf "[]" ++ elem.goExpr,
              elem := some elem, isList := true, nullable := true }
      | args => do
        report (.listArguments args.length)
        return none
    else if name = bytesOf "Map" then
      match typeArgs with
      | [] =>
        return some
          { kind := .map, goExpr := bytesOf "map[any]any",
            key := some anyType, value := some anyType, nullable := true }
      | [keyArg, valueArg] => do
        match ← lowerType context current keyArg with
        | none => return none
        | some key =>
          match ← lowerType context current valueArg with
          | none => return none
          | some value =>
            return some
              { kind := .map,
                goExpr := bytesOf "map[" ++ key.goExpr ++ bytesOf "]" ++ value.goExpr,
                key := some key, value := some value, nullable := true }
      | args => do
        report (.mapArguments args.length)
        return none
    else if array then do
      let elem ← lowerNamed context current name false
      match fixedArrayLen with
      | some length => do
        reportIf nullable (.nullableFixedArray name)
        return some
          { kind := .array, goExpr := bytesOf "[]" ++ elem.goExpr,
            elem := some elem, fixedLen := length, isArray := true,
            nullable := nullable }
      | none =>
        return some
          { kind := .slice, goExpr := bytesOf "[]" ++ elem.goExpr,
            elem := some elem, isArray := true, nullable := true }
    else do
      let lowered ← lowerNamed context current name nullable
      return some lowered

/-! ## Expressions -/

/-- `token.Token.String` of an operator. -/
def operatorText : Operator → String
  | .add => "+"
  | .sub => "-"
  | .mul => "*"
  | .quo => "/"
  | .rem => "%"
  | .and => "&"
  | .or => "|"
  | .xor => "^"
  | .shl => "<<"
  | .shr => ">>"
  | .andNot => "&^"
  | .addAssign => "+="
  | .subAssign => "-="
  | .mulAssign => "*="
  | .quoAssign => "/="
  | .remAssign => "%="
  | .andAssign => "&="
  | .orAssign => "|="
  | .xorAssign => "^="
  | .shlAssign => "<<="
  | .shrAssign => ">>="
  | .andNotAssign => "&^="
  | .land => "&&"
  | .lor => "||"
  | .arrow => "<-"
  | .inc => "++"
  | .dec => "--"
  | .eql => "=="
  | .lss => "<"
  | .gtr => ">"
  | .assign => "="
  | .not => "!"
  | .tilde => "~"
  | .neq => "!="
  | .leq => "<="
  | .geq => ">="
  | .define => ":="
  | .ellipsis => "..."
  | .lparen => "("
  | .lbrack => "["
  | .lbrace => "\x7b"
  | .comma => ","
  | .period => "."
  | .rparen => ")"
  | .rbrack => "]"
  | .rbrace => "\x7d"
  | .semicolon => ";"
  | .colon => ":"

/-- `lookupEnumMemberGoName`. -/
def lookupEnumMemberGoName (context : LowerContext) (current : Option Nat)
    (qname : Name) : Option Name :=
  if qname.contains '.' then
    match context.lookupType current (packageOf qname) with
    | some sym =>
      match sym.kind, sym.decl with
      | .enum, .enum decl =>
        (decl.members.find? fun member =>
          member.name = lastSegment qname).map fun member =>
            sym.goName ++ exportName member.name
      | _, _ => none
    | none => none
  else
    none

/-- `renderValueExpr`; the unary node of `*` is a `StarExpr`. -/
def renderValueExpr (context : LowerContext) (current : Option Nat)
    (names : List (Name × Name)) : Expr → Except RenderError Name
  | .basicLit _ value => .ok value
  | .ident name =>
    if name = bytesOf "true" ∨ name = bytesOf "false" ∨ name = bytesOf "nil" then
      .ok name
    else
      .ok ((names.lookup name).getD name)
  | .selectorExpr x sel =>
    match selectorName x sel with
    | none => .error .unsupportedSelector
    | some full =>
      .ok (((names.lookup full).or (lookupEnumMemberGoName context current full)).getD full)
  | .parenExpr x => do
    let inner ← renderValueExpr context current names x
    return bytesOf "(" ++ inner ++ bytesOf ")"
  | .unaryExpr op x =>
    if op = .mul then .error .unsupportedExpression
    else do
      let inner ← renderValueExpr context current names x
      return bytesOf (operatorText op) ++ inner
  | .binaryExpr x op y => do
    let left ← renderValueExpr context current names x
    let right ← renderValueExpr context current names y
    return bytesOf "(" ++ left ++ bytesOf (operatorText op) ++ right ++ bytesOf ")"

/-- `lowerValueExpression`. -/
def lowerValueExpression (context : LowerContext) (current : Option Nat)
    (src : Name) (names : List (Name × Name)) : LowerM Name :=
  if trimSpace src = [] then
    return []
  else
    match parse src with
    | none => do
      report (.invalidExpression src)
      return []
    | some node =>
      match renderValueExpr context current names node with
      | .error reason => do
        report (.lowerExpression src reason)
        return []
      | .ok value => return value

/-- The rendered expression, or its normalized text when there is none. -/
def lowerValue (context : LowerContext) (current : Option Nat) (src : Name)
    (names : List (Name × Name)) : LowerM Name := do
  let value ← lowerValueExpression context current src names
  if value = [] then return normalize src else return value

/-- The default value of a field, which may have none. -/
def lowerDefault (context : LowerContext) (current : Option Nat)
    (src : Name) (names : List (Name × Name)) : LowerM Name :=
  if src = [] then return [] else lowerValue context current src names

/-- `registerNameAliases`. -/
def registerNameAliases (names : List (Name × Name)) (full goName : Name) : List (Name × Name) :=
  (aliases full).foldl
    (fun names known =>
      if (names.lookup known).isSome then names
      else names ++ [(known, goName)])
    names

/-- An evaluation whose error is handled and whose panic is not. -/
def evaluated {α : Type} (result : Except (Fault EvalError) α) : LowerM (Except EvalError α) :=
  match result with
  | .ok value => return .ok value
  | .error (.error reason) => return .error reason
  | .error .panic => Action.abort

/-! ## Fields and constants -/

def nullableNames : List Name :=
  [bytesOf "nullable", bytesOf "android.annotation.Nullable"]

def vintfStabilityNames : List Name :=
  [bytesOf "VintfStability", bytesOf "android.annotation.VintfStability"]

def fixedSizeNames : List Name :=
  [bytesOf "FixedSize", bytesOf "android.annotation.FixedSize"]

def backingNames : List Name :=
  [bytesOf "Backing", bytesOf "android.annotation.Backing"]

/-- `applyFieldTypeAnnotations`. -/
def applyFieldTypeAnnotations (field : Field) : TypeRef :=
  if hasAnnotation field.annotations nullableNames ∨
      hasAnnotation field.type.annotations nullableNames then
    { field.type with nullable := true }
  else
    field.type

/-- The names and the values of the constants of a declaration so far. -/
structure Constants (V : Type) where
  names : List (Name × Name)
  values : Env V

/-- The variables of the loop of `lowerInterface`. -/
structure InterfaceLoop (V : Type) where
  iface : Interface
  constants : Constants V
  txCode : UInt32

/-- The variables of the loop of `lowerEnum`; an unknown next value is absent. -/
structure EnumLoop (V : Type) where
  members : List GoEnumMember
  constants : Constants V
  next : Option Int64

section

variable {V : Type} (arithmetic : Arithmetic V) (context : LowerContext)

/--
A constant of an interface or of a parcelable; absent when its type could not
be lowered.
-/
def lowerConst (current : Option Nat) (sym : NamedSymbol)
    (constants : Constants V) (decl : ConstDecl) :
    LowerM (Option (Const × Constants V)) := do
  match ← lowerType context current decl.type with
  | none => return none
  | some type =>
    let value ← lowerValue context current decl.value constants.names
    let goName := sym.goName ++ exportName decl.name
    let full := qualify sym.aidlName decl.name
    let values ←
      match ← evaluated (eval arithmetic decl.value constants.values) with
      | .ok result => pure (registerValueAliases constants.values full result)
      | .error _ => pure constants.values
    return some
      ({ name := decl.name, goName := goName, type := type, value := value },
        { names := registerNameAliases constants.names full goName, values := values })

/-! ## Methods -/

/-- The parameters of a method in its inputs and outputs. -/
def lowerArgs (current : Option Nat) (method : Method) : List Field → LowerM (Option Method)
  | [] => return some method
  | arg :: rest => do
    match ← lowerType context current (applyFieldTypeAnnotations arg) with
    | none => return none
    | some type =>
      let field : GoField :=
        { name := arg.name, goName := lowerName arg.name, direction := arg.direction, type := type }
      match arg.direction with
      | .output => lowerArgs current { method with outputs := method.outputs ++ [field] } rest
      | .inout =>
        lowerArgs current
          { method with
            inputs := method.inputs ++ [field]
            outputs := method.outputs ++ [{ field with goName := field.goName ++ bytesOf "Out" }] }
          rest
      | .unspecified | .input =>
        lowerArgs current { method with inputs := method.inputs ++ [field] } rest

/-- The return type of a method; absent when it could not be lowered. -/
def lowerResult (current : Option Nat) (method : Method) (ref : TypeRef) : LowerM (Option Method) :=
  if ref.name = bytesOf "void" then
    return some method
  else do
    match ← lowerType context current ref with
    | none => return none
    | some type =>
      return some
        { method with
          result := some { name := bytesOf "ret", goName := bytesOf "ret", type := type } }

/-- `lowerMethod`, absent for its nil result. -/
def lowerMethod (current : Option Nat) (iface : Interface)
    (decl : MethodDecl) (txCode : UInt32) : LowerM (Option Method) := do
  let start : Method :=
    { name := decl.name, goName := exportName decl.name,
      transactionCode := txCode, oneway := iface.oneway || decl.oneway }
  let returnRef :=
    if hasAnnotation decl.annotations nullableNames then
      { decl.result with nullable := true }
    else
      decl.result
  match ← lowerResult context current start returnRef with
  | none => return none
  | some returning =>
    match ← lowerArgs context current returning decl.args with
    | none => return none
    | some method =>
      reportIf (method.oneway && method.result.isSome) (.onewayReturn iface.goName method.goName)
      reportIf (method.oneway && !method.outputs.isEmpty)
        (.onewayOutputs iface.goName method.goName)
      return some method

/--
The code of a method and the counter after its transaction was looked at.
-/
def methodTxCode (current : Option Nat) (iface : Interface)
    (constants : Constants V) (decl : MethodDecl) (txCode : UInt32) : LowerM (UInt32 × UInt32) :=
  if decl.transaction = [] then
    return (txCode, txCode)
  else do
    let valueExpr ← lowerValue context current decl.transaction constants.names
    match ← evaluated (evalInt64 arithmetic decl.transaction constants.values) with
    | .error reason => do
      report (.invalidTransaction iface.goName decl.name decl.transaction reason)
      return (txCode, txCode)
    | .ok value =>
      if value ≤ 0 then do
        report (.nonPositiveTransaction iface.goName decl.name valueExpr)
        return (txCode, txCode)
      else
        let code := value.toUInt64.toUInt32
        let next := code + 1
        return (code, if next > txCode then next else txCode)

/-- A method of an interface. -/
def lowerInterfaceMethod (current : Option Nat) (loop : InterfaceLoop V)
    (decl : MethodDecl) : LowerM (InterfaceLoop V) := do
  let codes ← methodTxCode arithmetic context current loop.iface loop.constants decl loop.txCode
  match ← lowerMethod context current loop.iface decl codes.1 with
  | none => return { loop with txCode := codes.2 }
  | some method =>
    return { loop with
      iface := { loop.iface with methods := loop.iface.methods ++ [method] }
      txCode := if decl.transaction = [] then codes.2 + 1 else codes.2 }

/-- A constant of an interface. -/
def lowerInterfaceConst (current : Option Nat) (sym : NamedSymbol)
    (loop : InterfaceLoop V) (decl : ConstDecl) :
    LowerM (InterfaceLoop V) := do
  match ← lowerConst arithmetic context current sym loop.constants decl with
  | none => return loop
  | some (const, constants) =>
    return { loop with
      iface := { loop.iface with consts := loop.iface.consts ++ [const] }
      constants := constants }

/-! ## Enumerations and unions -/

/-- `enumBackingType`. -/
def enumBackingType (annotations : List Annotation) : LowerM GoType :=
  let args :=
    (annotations.filter fun ann => backingNames.contains ann.name).flatMap
      fun ann => ann.args.filter fun arg => arg.name = bytesOf "type"
  let backing := (args.getLast?.map fun arg => trimQuotes arg.value).getD (bytesOf "int")
  let int := plainBuiltin .int32 (bytesOf "int") "int32" false
  if backing = bytesOf "byte" then
    return plainBuiltin .byte (bytesOf "byte") "int8" false
  else if backing = bytesOf "int" then
    return int
  else if backing = bytesOf "long" then
    return plainBuiltin .int64 (bytesOf "long") "int64" false
  else do
    report (.unsupportedBacking backing)
    return int

/-- A member of an enumeration. -/
def lowerEnumMember (current : Option Nat) (sym : NamedSymbol)
    (loop : EnumLoop V) (member : EnumMember) : LowerM (EnumLoop V) := do
  let goName := sym.goName ++ exportName member.name
  let full := qualify sym.aidlName member.name
  let known (value : Int64) : Env V :=
    registerValueAliases loop.constants.values full (arithmetic.makeInt64 value)
  let add (value : Name) (values : Env V) (next : Option Int64) : EnumLoop V :=
    { members := loop.members ++ [{ name := member.name, goName := goName, value := value }]
      constants :=
        { names := registerNameAliases loop.constants.names full goName, values := values }
      next := next }
  if member.value = [] then
    match loop.next with
    | none => do
      report (.enumValueRequired sym.goName member.name)
      return add (bytesOf "0") loop.constants.values none
    | some next => return add (bytesOf (toString next.toInt)) (known next) (some (next + 1))
  else do
    let value ← lowerValue context current member.value loop.constants.names
    match ← evaluated (evalInt64 arithmetic member.value loop.constants.values) with
    | .ok found => return add value (known found) (some (found + 1))
    | .error _ => return add value loop.constants.values none

/-- `lowerEnum`. -/
def lowerEnum (current : Nat) (decl : EnumDecl) : LowerM Unit :=
  match context.table.symbol current decl.name with
  | none => return ()
  | some sym => do
    let underlying ← enumBackingType decl.annotations
    let loop ←
      decl.members.foldlM
        (lowerEnumMember arithmetic context (some current) sym)
        { members := [], constants := ⟨[], []⟩, next := some 0 }
    modify fun s =>
      { s with
        enums :=
          s.enums ++
            [{ aidlName := sym.aidlName, goName := sym.goName,
               underlying := underlying, members := loop.members }] }

/-- The fields of a union; absent when one of them could not be lowered. -/
def lowerUnionFields (current : Option Nat) (fields : List GoField) :
    List Field → LowerM (Option (List GoField))
  | [] => return some fields
  | field :: rest => do
    match ← lowerType context current (applyFieldTypeAnnotations field) with
    | none => return none
    | some type =>
      lowerUnionFields current
        (fields ++ [{ name := field.name, goName := exportName field.name, type := type }])
        rest

/-- `lowerUnion`. -/
def lowerUnion (current : Nat) (decl : UnionDecl) : LowerM Unit :=
  match context.table.symbol current decl.name with
  | none => return ()
  | some sym => do
    match ← lowerUnionFields context (some current) [] decl.fields with
    | none => return ()
    | some fields =>
      modify fun s =>
        { s with
          unions :=
            s.unions ++
              [{ aidlName := sym.aidlName, goName := sym.goName,
                 fixedSize := hasAnnotation decl.annotations fixedSizeNames,
                 fields := fields }] }

/-! ## Parcelables and interfaces -/

/-- The constants of a parcelable; absent when a type could not be lowered. -/
def lowerParcelableConsts (current : Option Nat) (sym : NamedSymbol)
    (consts : List Const) (constants : Constants V) :
    List ConstDecl → LowerM (Option (List Const × Constants V))
  | [] => return some (consts, constants)
  | decl :: rest => do
    match ← lowerConst arithmetic context current sym constants decl with
    | none => return none
    | some (const, known) => lowerParcelableConsts current sym (consts ++ [const]) known rest

/-- The fields of a parcelable; absent when a type could not be lowered. -/
def lowerParcelableFields (current : Option Nat)
    (names : List (Name × Name)) (fields : List GoField) :
    List Field → LowerM (Option (List GoField))
  | [] => return some fields
  | field :: rest => do
    match ← lowerType context current (applyFieldTypeAnnotations field) with
    | none => return none
    | some type =>
      let defaultValue ← lowerDefault context current field.defaultValue names
      lowerParcelableFields current names
        (fields ++
          [{ name := field.name, goName := exportName field.name,
             type := type, defaultValue := defaultValue }])
        rest

/-- The custom codec of an opaque parcelable. -/
def customParcelable (sym : NamedSymbol) (structured : Bool) : Option CustomParcelable :=
  if structured then none
  else
    (context.options.customParcelables.lookup sym.aidlName).map fun config =>
      { goPackage := config.goPackage, goType := config.goType,
        writeFunc := config.writeFunc, readFunc := config.readFunc,
        nullable := config.nullable,
        importAlias := customImportAlias config.goPackage }

/--
The part of `lowerParcelable` before its nested declarations; absent when it
returns early.
-/
def lowerParcelableBody (sym : NamedSymbol) (fieldScope : Nat)
    (annotations : List Annotation) (structured : Bool)
    (consts : List ConstDecl) (fields : List Field) :
    LowerM (Option Unit) := do
  match ← lowerParcelableConsts arithmetic context (some fieldScope) sym [] ⟨[], []⟩ consts with
  | none => return none
  | some (lowered, constants) =>
    match ← lowerParcelableFields context (some fieldScope) constants.names [] fields with
    | none => return none
    | some goFields =>
      modify fun s =>
        { s with
          parcelables :=
            s.parcelables ++
              [{ aidlName := sym.aidlName, goName := sym.goName,
                 structured := structured,
                 fixedSize := hasAnnotation annotations fixedSizeNames,
                 custom := customParcelable context sym structured,
                 consts := lowered, fields := goFields }] }
      return some ()

/-- The interface before its members. -/
def startInterface (sym : NamedSymbol) (annotations : List Annotation)
    (oneway : Bool) (name : Name) : Interface :=
  let stable := hasAnnotation annotations vintfStabilityNames
  let config :=
    if stable then context.options.stableInterfaces.lookup sym.aidlName
    else none
  { aidlName := sym.aidlName, goName := sym.goName,
    descriptor := descriptorName context.file.packageName name,
    oneway := oneway, stable := stable,
    version := (config.map StableInterfaceConfig.version).getD 0,
    hash := (config.map StableInterfaceConfig.hash).getD [] }

mutual

/-- `lowerDecl`. -/
def lowerDecl (current : Nat) : Decl → LowerM Unit
  | .interface decl => lowerInterface current decl
  | .parcelable decl => lowerParcelable current decl
  | .enum decl => lowerEnum arithmetic context current decl
  | .union decl => lowerUnion context current decl

/-- `lowerDecl` over the declarations of one scope. -/
def lowerDecls (current : Nat) : List Decl → LowerM Unit
  | [] => return ()
  | decl :: rest => do
    lowerDecl current decl
    lowerDecls current rest

/-- `lowerParcelable`. -/
def lowerParcelable (current : Nat) : ParcelableDecl → LowerM Unit
  | ⟨annotations, name, _, structured, consts, fields, decls⟩ =>
    match context.table.symbol current name with
    | none => return ()
    | some sym => do
      let fieldScope := sym.scope.getD current
      match ← lowerParcelableBody arithmetic context sym fieldScope
          annotations structured consts fields with
      | none => return ()
      | some () => lowerDecls fieldScope decls

/-- `lowerInterface`; a symbol of another kind may have no scope. -/
def lowerInterface (current : Nat) : InterfaceDecl → LowerM Unit
  | ⟨annotations, oneway, name, members⟩ =>
    match context.table.symbol current name with
    | none => return ()
    | some sym => do
      let loop ←
        lowerMembers sym
          { iface := startInterface context sym annotations oneway name
            constants := ⟨[], []⟩
            txCode := 1 }
          members
      modify fun s => { s with interfaces := s.interfaces ++ [loop.iface] }

/-- The loop of `lowerInterface`. -/
def lowerMembers (sym : NamedSymbol) (loop : InterfaceLoop V) :
    List InterfaceMember → LowerM (InterfaceLoop V)
  | [] => return loop
  | member :: rest => do
    let next ← lowerMember sym loop member
    lowerMembers sym next rest

/-- One member of an interface. -/
def lowerMember (sym : NamedSymbol) (loop : InterfaceLoop V) :
    InterfaceMember → LowerM (InterfaceLoop V)
  | .const decl => lowerInterfaceConst arithmetic context sym.scope sym loop decl
  | .method decl => lowerInterfaceMethod arithmetic context sym.scope loop decl
  | .parcelable decl =>
    match sym.scope with
    | none => Action.abort
    | some scope => do
      lowerParcelable scope decl
      return loop
  | .enum decl =>
    match sym.scope with
    | none => Action.abort
    | some scope => do
      lowerEnum arithmetic context scope decl
      return loop
  | .union decl =>
    match sym.scope with
    | none => Action.abort
    | some scope => do
      lowerUnion context scope decl
      return loop

end

/-- `Lower`. -/
def File.lower (file : File) (options : LowerOptions) :
    EStateM.Result (Fault Empty) LowerState Unit :=
  let table :=
    options.dependencyFiles.foldl (collectTopLevel file.packageName)
      (collectTopLevel file.packageName .empty file)
  lowerDecls arithmetic ⟨file, options, table⟩ root file.decls
    { diags := [], interfaces := [], parcelables := [], enums := [],
      unions := [], externalRefs := [] }

end

end Libbinder.Aidl
