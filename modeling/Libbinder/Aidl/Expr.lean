import Libbinder.Go.Numbers
import Libbinder.Go.ParseExpr
import Libbinder.Go.Strings

/-!
# Constant expressions

`Normalize` and `Parse` of `internal/aidl/expr`: an AIDL expression is turned
into Go source by text replacement and read by the Go parser.
-/

namespace Libbinder.Aidl

open Go

/-! ## The source -/

/-- The bytes of the class `[fLdD]`, in either case. -/
def isSuffixByte (byte : UInt8) : Bool :=
  byte == 'f' || byte == 'F' || byte == 'l' || byte == 'L' || byte == 'd' || byte == 'D'

/-- A single byte of a pattern. -/
def exactly (expected byte : UInt8) : Bool :=
  byte == expected

/-- The exponent mark, in either case. -/
def isExponentMark (byte : UInt8) : Bool :=
  byte == 'e' || byte == 'E'

/-- The class `[+\-]`. -/
def isSign (byte : UInt8) : Bool :=
  byte == '+' || byte == '-'

/-- The mark of a hexadecimal literal, in either case. -/
def isHexMark (byte : UInt8) : Bool :=
  byte == 'x' || byte == 'X'

/-- `\d+\.\d*|\.\d+|\d+` -/
def mantissaRE : Regex :=
  .alt
    (.seq (.many1 isDecimal) (.seq (.byteIn (exactly '.')) (.many isDecimal)))
    (.alt (.seq (.byteIn (exactly '.')) (.many1 isDecimal)) (.many1 isDecimal))

/-- `(?:[eE][+\-]?\d+)?` -/
def exponentRE : Regex :=
  .optional (.seq (.byteIn isExponentMark) (.seq (.optional (.byteIn isSign)) (.many1 isDecimal)))

/-- `0[xX][0-9a-fA-F]+` -/
def hexadecimalRE : Regex :=
  .seq (.byteIn (exactly '0')) (.seq (.byteIn isHexMark) (.many1 isHex))

/-- The suffix pattern, whose group is the literal without its suffix. -/
def numericLiteralSuffixRE : Pattern where
  lead := .boundary
  group := .alt (.seq mantissaRE exponentRE) hexadecimalRE
  trail := .seq (.byteIn isSuffixByte) .boundary
  consumes := by
    rintro inWord text rest ⟨left, right, rfl, ⟨byte, rfl, -⟩, -⟩
    simp

/-- The replacement of `~` by `^`. -/
def caret (byte : UInt8) : UInt8 :=
  if byte = '~' then '^' else byte

/-- `Normalize`. -/
def normalize (src : List UInt8) : List UInt8 :=
  let trimmed := trimSpace src
  if trimmed = [] then
    []
  else
    numericLiteralSuffixRE.replaceAll (trimmed.map caret)

/-- `Parse`; the texts of its errors are those of the Go parser. -/
def parse (src : List UInt8) : Option Expr :=
  let normalized := normalize src
  if normalized = [] then none else parseExpr normalized

/-! ## Matches of the suffix pattern -/

/-- Bytes that may stand next to each other inside a match. -/
def Linked (left right : UInt8) : Prop :=
  isWordByte right ∨ right = '.' ∨ (isSign right ∧ isExponentMark left)

end Libbinder.Aidl
