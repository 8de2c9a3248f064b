import Libbinder.Go.Action

/-!
# Error values

The public sentinels of the binder package.  The errors built by
`fmt.Errorf("%w: ...", sentinel, ...)` are a sentinel together with the text
after it; `errors.Is` sees only the sentinel.
-/

namespace Libbinder

/-- The sentinel error values the modelled functions wrap or return. -/
inductive Sentinel where
  | deadObject
  | failedTxn
  | badType
  | badParcelable
  | permissionDenied
  | unsupported
  | noService
  | closed
  | unknownTransaction
  | unexpectedEOF
deriving DecidableEq, Repr

/-- The text of a sentinel. -/
def Sentinel.text : Sentinel → String
  | .deadObject => "binder: dead object"
  | .failedTxn => "binder: failed transaction"
  | .badType => "binder: bad type"
  | .badParcelable => "binder: bad parcelable"
  | .permissionDenied => "binder: permission denied"
  | .unsupported => "binder: unsupported operation"
  | .noService => "binder: service not found"
  | .closed => "binder: binder is closed"
  | .unknownTransaction => "binder: unknown transaction"
  | .unexpectedEOF => "unexpected EOF"

/-- A sentinel, or a sentinel wrapped with a detail text. -/
structure BinderError where
  sentinel : Sentinel
  detail : Option String
deriving DecidableEq, Repr

namespace BinderError

/-- The sentinel itself, unwrapped. -/
def plain (sentinel : Sentinel) : BinderError :=
  ⟨sentinel, none⟩

/-- `fmt.Errorf("%w: <detail>", ErrBadParcelable)`. -/
def badParcelable (detail : String) : BinderError :=
  ⟨.badParcelable, some detail⟩

/-- `fmt.Errorf("%w: <detail>", ErrUnsupported)`. -/
def unsupported (detail : String) : BinderError :=
  ⟨.unsupported, some detail⟩

/-- The text of the error. -/
def text (error : BinderError) : String :=
  match error.detail with
  | none => error.sentinel.text
  | some detail => error.sentinel.text ++ ": " ++ detail

end BinderError

end Libbinder
