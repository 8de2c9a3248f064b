import Libbinder.Go.Strings

/-!
# AIDL syntax trees

The declarations of `internal/aidl/ast`.  An expression is kept as its source
text, and an array type is a flag on the reference to its element type.
-/

namespace Libbinder.Aidl

/-- A Go string: names, and the source texts of expressions. -/
abbrev Name :=
  List UInt8

structure AnnotationArg where
  name : Name
  value : Name
  deriving DecidableEq, Repr

structure Annotation where
  name : Name
  args : List AnnotationArg
  deriving DecidableEq, Repr

/-- The direction of a parameter; `unspecified` is the empty string. -/
inductive Direction where
  | unspecified
  | input
  | output
  | inout
  deriving DecidableEq, Repr

structure TypeRef where
  annotations : List Annotation
  name : Name
  typeArgs : List TypeRef
  array : Bool
  fixedArrayLen : Option Int
  nullable : Bool

structure Field where
  annotations : List Annotation
  direction : Direction
  type : TypeRef
  name : Name
  defaultValue : Name

/-- A method; the text of its transaction is empty when it has none. -/
structure MethodDecl where
  annotations : List Annotation
  oneway : Bool
  result : TypeRef
  name : Name
  args : List Field
  transaction : Name

structure ConstDecl where
  annotations : List Annotation
  type : TypeRef
  name : Name
  value : Name

structure EnumMember where
  name : Name
  value : Name
  deriving DecidableEq, Repr

structure EnumDecl where
  annotations : List Annotation
  name : Name
  members : List EnumMember
  deriving DecidableEq, Repr

structure UnionDecl where
  annotations : List Annotation
  name : Name
  fields : List Field

mutual

structure InterfaceDecl where
  annotations : List Annotation
  oneway : Bool
  name : Name
  members : List InterfaceMember

inductive InterfaceMember where
  | method (decl : MethodDecl)
  | const (decl : ConstDecl)
  | parcelable (decl : ParcelableDecl)
  | enum (decl : EnumDecl)
  | union (decl : UnionDecl)

structure ParcelableDecl where
  annotations : List Annotation
  name : Name
  typeParams : List Name
  structured : Bool
  consts : List ConstDecl
  fields : List Field
  decls : List Decl

inductive Decl where
  | interface (decl : InterfaceDecl)
  | parcelable (decl : ParcelableDecl)
  | enum (decl : EnumDecl)
  | union (decl : UnionDecl)

end

/-- A source file; an import is the path it names. -/
structure File where
  packageName : Name
  imports : List Name
  decls : List Decl

/-- The name a declaration introduces. -/
def Decl.name : Decl → Name
  | .interface decl => decl.name
  | .parcelable decl => decl.name
  | .enum decl => decl.name
  | .union decl => decl.name

/-- `interfaceMemberName`. -/
def InterfaceMember.name : InterfaceMember → Name
  | .method decl => decl.name
  | .const decl => decl.name
  | .parcelable decl => decl.name
  | .enum decl => decl.name
  | .union decl => decl.name

/-- Whether one of the annotations has one of the names. -/
def hasAnnotation (annotations : List Annotation) (names : List Name) : Bool :=
  annotations.any fun ann => names.contains ann.name

end Libbinder.Aidl
