import Libbinder.Aidl.Lower

/-!
# Validation

`ValidateFile` of `internal/aidl/resolve`.  Like lowering it reports through
its state and can panic inside an evaluation.  A diagnostic keeps what its text
is made of; a location is the text `%s` of the source.
-/

namespace Libbinder.Aidl

open Go
open Go.Scanner (bytesOf)

namespace Resolve

/-- The declarations an annotation can stand on, as `validateDeclAnnotations`
names them. -/
inductive DeclKind where
  | interface
  | parcelable
  | union
  deriving DecidableEq, Repr

inductive Diagnostic where
  /-- `duplicate declaration %q` -/
  | duplicateDeclaration (name : Name)
  /-- `duplicate interface member %q in %s` -/
  | duplicateInterfaceMember (member iface : Name)
  /-- `duplicate parcelable member %q in %s` -/
  | duplicateParcelableMember (member parcelable : Name)
  /-- `const %s.%s has invalid expression %q: %v` -/
  | invalidConst (iface const value : Name) (reason : EvalError)
  /-- `parcelable %s const %s has invalid expression %q: %v` -/
  | invalidParcelableConst (parcelable const value : Name) (reason : EvalError)
  /-- `parcelable %s annotated @FixedSize but field %s is not fixed-size` -/
  | parcelableNotFixedSize (parcelable field : Name)
  /-- `union %s annotated @FixedSize but field %s is not fixed-size` -/
  | unionNotFixedSize (union field : Name)
  /-- `enum %s member %s has invalid value %q: %v` -/
  | invalidEnumValue (enum member value : Name) (reason : EvalError)
  /--
  `enum %s member %s requires an explicit value after a non-evaluable
  expression`
  -/
  | enumValueRequired (enum member : Name)
  /-- `%s has invalid default expression %q: %v` -/
  | invalidDefault (location value : Name)
  /-- `%s has invalid fixed array length %d` -/
  | invalidFixedArrayLength (location : Name) (length : Int)
  /-- `@%s does not take arguments` -/
  | takesNoArguments (ann : Name)
  /-- `@%s is only valid on parcelable or union declarations` -/
  | onlyOnParcelableOrUnion (ann : Name)
  /-- `@%s requires a structured parcelable declaration` -/
  | requiresStructured (ann : Name)
  /-- `@%s is not valid on %s declarations` -/
  | notValidOn (ann : Name) (kind : DeclKind)
  /-- `@%s only supports the named argument type=...` -/
  | onlyTypeArgument (ann : Name)
  /-- `@%s requires type="byte"|"int"|"long"` -/
  | backingRequired (ann : Name)
  /-- `enum %s has unsupported backing type %q` -/
  | unsupportedBacking (enum backing : Name)
  /-- `@%s is not valid on enum declarations` -/
  | notValidOnEnum (ann : Name)
  /-- `%s uses @%s on non-nullable type %s` -/
  | notNullable (location ann type : Name)
  /-- `%s uses invalid @%s(heap=%s): %v` -/
  | invalidHeap (location ann value : Name) (reason : EvalError)
  /-- `%s uses invalid @%s argument %s: %v` -/
  | invalidArgument (location ann value : Name) (reason : EvalError)
  /-- `%s uses unsupported @%s argument %s` -/
  | unsupportedArgument (location ann argument : Name)
  deriving DecidableEq, Repr

/-- The maps of the validator that are fixed once they are filled. -/
structure Context where
  packageName : Name
  declsByQName : List (Name × Decl)
  declsByName : List (Name × Decl)

/-- A method of the validator. -/
abbrev ValidateM (α : Type) :=
  Action (List Diagnostic) Empty α

/-- `addf`. -/
def report (diagnostic : Diagnostic) : ValidateM Unit :=
  modify fun diags => diags ++ [diagnostic]

/-- An evaluation whose error is handled and whose panic is not. -/
def evaluated {α : Type} (result : Except (Fault EvalError) α) : ValidateM (Except EvalError α) :=
  match result with
  | .ok value => return .ok value
  | .error (.error reason) => return .error reason
  | .error .panic => Action.abort

/-! ## Names -/

/-- The method `qualifiedName`. -/
def qualifiedName (packageName : Name) (scope : List Name) (name : Name) : Name :=
  join (bytesOf ".") ((if packageName = [] then [] else [packageName]) ++ scope ++ [name])

/-- Enter a value under the aliases of a name that are not yet taken. -/
def registerAliasesIn {V : Type} (entries : List (Name × V)) (qname : Name)
    (value : V) : List (Name × V) :=
  (aliases qname).foldl
    (fun entries known =>
      if (entries.lookup known).isSome then entries
      else entries ++ [(known, value)])
    entries

/-- Enter one declaration. -/
def collectOne (scope : List Name) (context : Context) (decl : Decl) : Context :=
  let qname := qualifiedName context.packageName scope decl.name
  if (context.declsByQName.lookup qname).isSome then context
  else
    { context with
      declsByQName := context.declsByQName ++ [(qname, decl)]
      declsByName := registerAliasesIn context.declsByName qname decl }

mutual

/-- The body of the loop of `collectDecls`. -/
def collectDecl (scope : List Name) (context : Context) : Decl → Context
  | .interface ⟨annotations, oneway, name, members⟩ =>
    if name = [] then context
    else
      collectMembers (scope ++ [name])
        (collectOne scope context (.interface ⟨annotations, oneway, name, members⟩))
        members
  | .parcelable ⟨annotations, name, typeParams, structured, consts, fields,
      decls⟩ =>
    if name = [] then context
    else
      collectDecls (scope ++ [name])
        (collectOne scope context
          (.parcelable ⟨annotations, name, typeParams, structured, consts, fields, decls⟩))
        decls
  | .enum decl => if decl.name = [] then context else collectOne scope context (.enum decl)
  | .union decl => if decl.name = [] then context else collectOne scope context (.union decl)

/-- `collectDecls`. -/
def collectDecls (scope : List Name) (context : Context) : List Decl → Context
  | [] => context
  | decl :: rest => collectDecls scope (collectDecl scope context decl) rest

/-- `collectDecls` over the nested declarations of an interface. -/
def collectMembers (scope : List Name) (context : Context) : List InterfaceMember → Context
  | [] => context
  | member :: rest => collectMembers scope (collectMember scope context member) rest

/-- The body of that loop. -/
def collectMember (scope : List Name) (context : Context) : InterfaceMember → Context
  | .method _ => context
  | .const _ => context
  | .parcelable ⟨annotations, name, typeParams, structured, consts, fields,
      decls⟩ =>
    if name = [] then context
    else
      collectDecls (scope ++ [name])
        (collectOne scope context
          (.parcelable ⟨annotations, name, typeParams, structured, consts, fields, decls⟩))
        decls
  | .enum decl => if decl.name = [] then context else collectOne scope context (.enum decl)
  | .union decl => if decl.name = [] then context else collectOne scope context (.union decl)

end

namespace Context

/-- `lookupType`. -/
def lookupType (context : Context) (name : Name) : Option Decl :=
  if name = [] then none
  else
    ((context.declsByQName.lookup name).or
      (if context.packageName = [] then none
        else context.declsByQName.lookup (qualify context.packageName name))).or
        (context.declsByName.lookup name)

/-- `lookupQName`. -/
def lookupQName (context : Context) (scope : List Name) (name : Name) : Name :=
  if name.contains '.' then
    if (context.declsByQName.lookup name).isSome then name
    else if context.packageName = [] then name
    else qualify context.packageName name
  else
    qualifiedName context.packageName scope name

/-- `isNullableType`. -/
def isNullableType (context : Context) (ref : TypeRef) : Bool :=
  if ref.array || ref.name = bytesOf "List" then true
  else if
      [bytesOf "String", bytesOf "IBinder", bytesOf "ParcelFileDescriptor"].contains ref.name then
    true
  else if
      [bytesOf "void", bytesOf "boolean", bytesOf "byte", bytesOf "char",
        bytesOf "int", bytesOf "long", bytesOf "float", bytesOf "double",
        bytesOf "FileDescriptor"].contains ref.name then
    false
  else
    match context.lookupType ref.name with
    | some (.enum _) => false
    | _ => true

/-- `applyFieldAnnotations`, which does not look at those of the type. -/
def applyFieldAnnotations (field : Field) : TypeRef :=
  if hasAnnotation field.annotations nullableNames then
    { field.type with nullable := true }
  else
    field.type

/-- All of the checks in order, each with the names seen before it. -/
def allSeen {α : Type} (check : α → List Name → Bool × List Name) :
    List α → List Name → Bool × List Name
  | [], seen => (true, seen)
  | value :: rest, seen =>
    let checked := check value seen
    if checked.1 then allSeen check rest checked.2 else (false, checked.2)

/--
`isFixedSizeType` together with its map `seen`.  Every declaration that is
entered is seen first, and an array is entered at most once before it, so the
fuel that `validateFile` gives does not run out.
-/
def isFixedSizeType (context : Context) (scope : List Name) :
    Nat → TypeRef → List Name → Bool × List Name
  | 0, _, seen => (false, seen)
  | fuel + 1, ref, seen =>
    if ref.nullable then (false, seen)
    else if ref.array then
      if ref.fixedArrayLen.isNone then (false, seen)
      else
        context.isFixedSizeType scope fuel { ref with array := false, fixedArrayLen := none } seen
    else if ref.name = bytesOf "List" then (false, seen)
    else if
        [bytesOf "boolean", bytesOf "byte", bytesOf "char", bytesOf "int",
          bytesOf "long", bytesOf "float",
          bytesOf "double"].contains ref.name then
      (true, seen)
    else if
        [bytesOf "String", bytesOf "IBinder", bytesOf "FileDescriptor",
          bytesOf "ParcelFileDescriptor"].contains ref.name then
      (false, seen)
    else
      let fields (annotations : List Annotation) (fields : List Field) :=
        if hasAnnotation annotations fixedSizeNames then
          let qname := context.lookupQName scope ref.name
          if seen.contains qname then (true, seen)
          else
            allSeen
              (fun field seen =>
                context.isFixedSizeType scope fuel (applyFieldAnnotations field) seen)
              fields (qname :: seen)
        else
          (false, seen)
      match context.lookupType ref.name with
      | some (.enum _) => (true, seen)
      | some (.parcelable decl) => fields decl.annotations decl.fields
      | some (.union decl) => fields decl.annotations decl.fields
      | _ => (false, seen)

/-- Enough fuel for every name under which a declaration can be found. -/
def fixedSizeFuel (context : Context) : Nat :=
  2 * (2 * context.declsByQName.length + context.declsByName.length) + 2

end Context

/-! ## Checks -/

/-- `validateDeclAnnotations`. -/
def validateDeclAnnotations (kind : DeclKind)
    (annotations : List Annotation) (structured : Bool) : ValidateM Unit :=
  annotations.forM fun ann => do
    if vintfStabilityNames.contains ann.name then
      if ann.args ≠ [] then
        report (.takesNoArguments ann.name)
    else if fixedSizeNames.contains ann.name then
      if ann.args ≠ [] then
        report (.takesNoArguments ann.name)
      if kind = .interface then
        report (.onlyOnParcelableOrUnion ann.name)
      if kind = .parcelable ∧ ¬ structured then
        report (.requiresStructured ann.name)
    else if (nullableNames ++ backingNames).contains ann.name then
      report (.notValidOn ann.name kind)

/-- The backing type an annotation names, and its other arguments. -/
def validateBackingArgs (ann : Annotation) : Name → List AnnotationArg → ValidateM Name
  | backing, [] => return backing
  | backing, arg :: rest => do
    if arg.name = [] ∨ arg.name = bytesOf "type" then
      validateBackingArgs ann (trimQuotes arg.value) rest
    else
      report (.onlyTypeArgument ann.name)
      validateBackingArgs ann backing rest

/-- `validateEnumAnnotations`. -/
def validateEnumAnnotations (decl : EnumDecl) : ValidateM Unit :=
  decl.annotations.forM fun ann => do
    if backingNames.contains ann.name then
      let backing ← validateBackingArgs ann [] ann.args
      if backing = [] then
        report (.backingRequired ann.name)
      else if ¬ [bytesOf "byte", bytesOf "int", bytesOf "long"].contains
          backing then
        report (.unsupportedBacking decl.name backing)
    else if (vintfStabilityNames ++ nullableNames ++ fixedSizeNames).contains
        ann.name then
      report (.notValidOnEnum ann.name)

section

variable {V : Type} (arithmetic : Arithmetic V) (context : Context)

/-- `validateNullableAnnotation`. -/
def validateNullableAnnotation (annotations : List Annotation)
    (ref : TypeRef) (location : Name) : ValidateM Unit :=
  (annotations.filter fun ann => nullableNames.contains ann.name).forM
    fun ann => do
      if ¬ context.isNullableType ref then
        report (.notNullable location ann.name ref.name)
      ann.args.forM fun arg => do
        if arg.name = bytesOf "heap" then
          match ← evaluated (evalBool arithmetic arg.value []) with
          | .ok _ => return ()
          | .error reason => report (.invalidHeap location ann.name arg.value reason)
        else if arg.name = [] then
          match ← evaluated (evalBool arithmetic arg.value []) with
          | .ok _ => return ()
          | .error reason => report (.invalidArgument location ann.name arg.value reason)
        else
          report (.unsupportedArgument location ann.name arg.name)

mutual

/-- `validateTypeRef`. -/
def validateTypeRef (location : Name) : TypeRef → ValidateM Unit
  | ⟨annotations, name, typeArgs, array, fixedArrayLen, nullable⟩ => do
    validateNullableAnnotation arithmetic context annotations
      ⟨annotations, name, typeArgs, array, fixedArrayLen, nullable⟩ location
    validateTypeRefs location typeArgs
    match array, fixedArrayLen with
    | true, some length =>
      if length < 0 then
        report (.invalidFixedArrayLength location length)
    | _, _ => return ()

/-- `validateTypeRef` over the type arguments. -/
def validateTypeRefs (location : Name) : List TypeRef → ValidateM Unit
  | [] => return ()
  | ref :: rest => do
    validateTypeRef location ref
    validateTypeRefs location rest

end

/-- `validateField`. -/
def validateField (field : Field) (location : Name) : ValidateM Unit := do
  validateNullableAnnotation arithmetic context field.annotations field.type location
  validateTypeRef arithmetic context location field.type
  if field.defaultValue ≠ [] then
    match parse field.defaultValue with
    | none => report (.invalidDefault location field.defaultValue)
    | some _ => return ()

/-- `validateMethod`. -/
def validateMethod (owner : Name) (decl : MethodDecl) : ValidateM Unit := do
  let named := qualify owner decl.name
  let location := bytesOf "method " ++ named ++ bytesOf " return"
  validateNullableAnnotation arithmetic context decl.annotations decl.result location
  validateTypeRef arithmetic context location decl.result
  decl.args.forM fun arg =>
    validateField arithmetic context arg
      (bytesOf "method " ++ named ++ bytesOf " argument " ++ arg.name)

/-- `validateConst`; the result is the environment after it. -/
def validateConst (owner : Name) (env : Env V) (decl : ConstDecl) : ValidateM (Env V) := do
  validateTypeRef arithmetic context (bytesOf "const " ++ qualify owner decl.name) decl.type
  match ← evaluated (eval arithmetic decl.value env) with
  | .error reason => do
    report (.invalidConst owner decl.name decl.value reason)
    return env
  | .ok value =>
    return registerAliasesIn env (qualifiedName context.packageName [owner] decl.name) value

/-- `validateParcelableConst`; the result is the environment after it. -/
def validateParcelableConst (scope : List Name) (owner : Name) (env : Env V)
    (decl : ConstDecl) : ValidateM (Env V) := do
  validateTypeRef arithmetic context
    (bytesOf "parcelable " ++ owner ++ bytesOf " const " ++ decl.name)
    decl.type
  match ← evaluated (eval arithmetic decl.value env) with
  | .error reason => do
    report (.invalidParcelableConst owner decl.name decl.value reason)
    return env
  | .ok value =>
    return registerAliasesIn env
      (qualifiedName context.packageName (scope ++ [owner]) decl.name) value

/-- A member of an enumeration; an unknown next value is absent. -/
def validateEnumMember (scope : List Name) (decl : EnumDecl)
    (loop : Env V × Option Int64) (member : EnumMember) :
    ValidateM (Env V × Option Int64) := do
  let full := qualify (qualifiedName context.packageName scope decl.name) member.name
  let known (value : Int64) : Env V := registerAliasesIn loop.1 full (arithmetic.makeInt64 value)
  if member.value = [] then
    match loop.2 with
    | none => do
      report (.enumValueRequired decl.name member.name)
      return loop
    | some next => return (known next, some (next + 1))
  else
    match ← evaluated (evalInt64 arithmetic member.value loop.1) with
    | .error reason => do
      report (.invalidEnumValue decl.name member.name member.value reason)
      return (loop.1, none)
    | .ok value => return (known value, some (value + 1))

/-- `validateEnum`. -/
def validateEnum (scope : List Name) (decl : EnumDecl) : ValidateM Unit := do
  validateEnumAnnotations decl
  let _ ← decl.members.foldlM (validateEnumMember arithmetic context scope decl) ([], some 0)
  return ()

/-- The fields of a declaration that is annotated as of fixed size. -/
def validateFixedSize (scope : List Name) (annotations : List Annotation)
    (fields : List Field) (describe : Name → Diagnostic) : ValidateM Unit :=
  if hasAnnotation annotations fixedSizeNames then
    fields.forM fun field => do
      let checked :=
        context.isFixedSizeType scope context.fixedSizeFuel (Context.applyFieldAnnotations field) []
      if ¬ checked.1 then
        report (describe field.name)
  else
    return ()

/-- `validateUnion`. -/
def validateUnion (scope : List Name) (decl : UnionDecl) : ValidateM Unit := do
  validateDeclAnnotations .union decl.annotations true
  decl.fields.forM fun field =>
    validateField arithmetic context field
      (bytesOf "union " ++ decl.name ++ bytesOf " field " ++ field.name)
  validateFixedSize context scope decl.annotations decl.fields (.unionNotFixedSize decl.name)

/-- The constants of a parcelable; the result is what was seen. -/
def validateParcelableConsts (scope : List Name) (owner : Name) :
    List Name → Env V → List ConstDecl → ValidateM (List Name)
  | seen, _, [] => return seen
  | seen, env, decl :: rest => do
    if seen.contains decl.name then
      report (.duplicateParcelableMember decl.name owner)
      validateParcelableConsts scope owner seen env rest
    else
      let known ← validateParcelableConst arithmetic context scope owner env decl
      validateParcelableConsts scope owner (decl.name :: seen) known rest

/-- The fields of a parcelable; the result is what was seen. -/
def validateParcelableFields (owner : Name) : List Name → List Field → ValidateM (List Name)
  | seen, [] => return seen
  | seen, field :: rest => do
    if seen.contains field.name then
      report (.duplicateParcelableMember field.name owner)
      validateParcelableFields owner seen rest
    else
      validateField arithmetic context field
        (bytesOf "parcelable " ++ owner ++ bytesOf " field " ++ field.name)
      validateParcelableFields owner (field.name :: seen) rest

/-- The names of the nested declarations of a parcelable. -/
def validateNestedNames (owner : Name) : List Name → List Decl → ValidateM Unit
  | _, [] => return ()
  | seen, decl :: rest => do
    if decl.name = [] then
      validateNestedNames owner seen rest
    else if seen.contains decl.name then
      report (.duplicateParcelableMember decl.name owner)
      validateNestedNames owner seen rest
    else
      validateNestedNames owner (decl.name :: seen) rest

mutual

/-- `validateDecl`. -/
def validateDecl (scope : List Name) : Decl → ValidateM Unit
  | .interface ⟨annotations, _, name, members⟩ => do
    validateDeclAnnotations .interface annotations true
    validateMembers scope name [] [] members
  | .parcelable decl => validateParcelable scope decl
  | .enum decl => validateEnum arithmetic context scope decl
  | .union decl => validateUnion arithmetic context scope decl

/-- `validateDecls` with the names seen so far. -/
def validateDecls (scope : List Name) : List Name → List Decl → ValidateM Unit
  | _, [] => return ()
  | seen, decl :: rest => do
    if decl.name ≠ [] ∧ seen.contains decl.name then
      report (.duplicateDeclaration decl.name)
      validateDecls scope seen rest
    else
      validateDecl scope decl
      validateDecls scope (decl.name :: seen) rest

/-- `validateParcelable`. -/
def validateParcelable (scope : List Name) : ParcelableDecl → ValidateM Unit
  | ⟨annotations, name, _, structured, consts, fields, decls⟩ => do
    validateDeclAnnotations .parcelable annotations structured
    let fieldScope := scope ++ [name]
    let seenConsts ← validateParcelableConsts arithmetic context scope name [] [] consts
    let seen ← validateParcelableFields arithmetic context name seenConsts fields
    validateNestedNames name seen decls
    validateDecls fieldScope [] decls
    validateFixedSize context fieldScope annotations fields (.parcelableNotFixedSize name)

/-- The loop of `validateInterface`. -/
def validateMembers (scope : List Name) (owner : Name) :
    List Name → Env V → List InterfaceMember → ValidateM Unit
  | _, _, [] => return ()
  | seen, env, member :: rest => do
    if member.name ≠ [] ∧ seen.contains member.name then
      report (.duplicateInterfaceMember member.name owner)
      validateMembers scope owner seen env rest
    else
      let known ← validateMember scope owner env member
      validateMembers scope owner (member.name :: seen) known rest

/-- One member of an interface; the result is the environment after it. -/
def validateMember (scope : List Name) (owner : Name) (env : Env V) :
    InterfaceMember → ValidateM (Env V)
  | .method decl => do
    validateMethod arithmetic context owner decl
    return env
  | .const decl => validateConst arithmetic context owner env decl
  | .parcelable decl => do
    validateParcelable (scope ++ [owner]) decl
    return env
  | .enum decl => do
    validateEnum arithmetic context (scope ++ [owner]) decl
    return env
  | .union decl => do
    validateUnion arithmetic context (scope ++ [owner]) decl
    return env

end

end

/-- `ValidateFile`. -/
def validateFile {V : Type} (arithmetic : Arithmetic V) (file : File) :
    EStateM.Result (Fault Empty) (List Diagnostic) Unit :=
  let context := collectDecls [] ⟨file.packageName, [], []⟩ file.decls
  validateDecls arithmetic context [] [] file.decls []

end Resolve

end Libbinder.Aidl
