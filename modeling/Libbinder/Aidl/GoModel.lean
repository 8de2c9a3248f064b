import Libbinder.Aidl.Eval

/-!
# The Go model of an AIDL file

The types of `internal/aidl/gomodel/model.go` that lowering fills in, its
options and its diagnostics.  A diagnostic keeps what its text is made of.  The
package and the source path of the generated file are left out.
-/

namespace Libbinder.Aidl

inductive TypeKind where
  | void
  | bool
  | byte
  | char
  | int32
  | int64
  | float32
  | float64
  | string
  | binder
  | fileDescriptor
  | parcelFileDescriptor
  | interface
  | parcelable
  | enum
  | union
  | slice
  | array
  | map
  | external
  | unsupported
  deriving DecidableEq, Repr

/-- The type `Type` of the model. -/
structure GoType where
  kind : TypeKind
  aidlName : Name := []
  declPackage : Name := []
  goExpr : Name
  nullable : Bool := false
  fixedLen : Int := 0
  elem : Option GoType := none
  key : Option GoType := none
  value : Option GoType := none
  namedGo : Name := []
  isList : Bool := false
  isArray : Bool := false
  isBuiltin : Bool := false

structure GoField where
  name : Name
  goName : Name
  direction : Direction := .unspecified
  type : GoType
  defaultValue : Name := []

structure Const where
  name : Name
  goName : Name
  type : GoType
  value : Name

structure Method where
  name : Name
  goName : Name
  transactionCode : UInt32
  oneway : Bool
  inputs : List GoField := []
  result : Option GoField := none
  outputs : List GoField := []

structure Interface where
  aidlName : Name
  goName : Name
  descriptor : Name
  oneway : Bool
  stable : Bool
  version : Int32 := 0
  hash : Name := []
  consts : List Const := []
  methods : List Method := []

structure CustomParcelableConfig where
  goPackage : Name
  goType : Name
  writeFunc : Name
  readFunc : Name
  nullable : Bool
  deriving DecidableEq, Repr

structure CustomParcelable where
  goPackage : Name
  goType : Name
  writeFunc : Name
  readFunc : Name
  nullable : Bool
  importAlias : Name
  deriving DecidableEq, Repr

structure Parcelable where
  aidlName : Name
  goName : Name
  structured : Bool
  fixedSize : Bool
  custom : Option CustomParcelable := none
  consts : List Const := []
  fields : List GoField := []

structure GoEnumMember where
  name : Name
  goName : Name
  value : Name
  deriving DecidableEq, Repr

structure Enum where
  aidlName : Name
  goName : Name
  underlying : GoType
  members : List GoEnumMember := []

structure Union where
  aidlName : Name
  goName : Name
  fixedSize : Bool
  fields : List GoField := []

structure StableInterfaceConfig where
  version : Int32
  hash : Name
  deriving DecidableEq, Repr

/-- `LowerOptions`; the maps are keyed by AIDL names. -/
structure LowerOptions where
  customParcelables : List (Name × CustomParcelableConfig)
  stableInterfaces : List (Name × StableInterfaceConfig)
  dependencyFiles : List File

/-- The errors of `renderValueExpr`. -/
inductive RenderError where
  /-- `unsupported selector` -/
  | unsupportedSelector
  /-- `unsupported expression %T` -/
  | unsupportedExpression
  deriving DecidableEq, Repr

inductive Diagnostic where
  /-- `empty type reference` -/
  | emptyTypeReference
  /-- `List requires exactly one type argument, got %d` -/
  | listArguments (count : Nat)
  /-- `Map requires zero or two type arguments, got %d` -/
  | mapArguments (count : Nat)
  /-- `nullable fixed-size array %q is not supported` -/
  | nullableFixedArray (name : Name)
  /-- `unresolved type %q` -/
  | unresolvedType (name : Name)
  /-- `nullable custom parcelable %q requires sidecar nullable support` -/
  | nullableCustomParcelable (aidlName : Name)
  /-- `nullable %s is not supported for type %q` -/
  | nullableNotSupported (kind : TypeKind) (aidlName : Name)
  /-- `invalid expression %q: %v` -/
  | invalidExpression (src : Name)
  /-- `lower expression %q: %v` -/
  | lowerExpression (src : Name) (reason : RenderError)
  /-- `method %s.%s has invalid transaction id %q: %v` -/
  | invalidTransaction (iface method transaction : Name) (reason : EvalError)
  /-- `method %s.%s has invalid non-positive transaction id %q` -/
  | nonPositiveTransaction (iface method valueExpr : Name)
  /-- `oneway method %s.%s must not return a value` -/
  | onewayReturn (iface method : Name)
  /-- `oneway method %s.%s must not declare out or inout parameters` -/
  | onewayOutputs (iface method : Name)
  /--
  `enum %s member %s requires an explicit value after a non-evaluable
  expression`
  -/
  | enumValueRequired (enum member : Name)
  /-- `unsupported enum backing type %q` -/
  | unsupportedBacking (backing : Name)
  deriving DecidableEq, Repr

end Libbinder.Aidl
