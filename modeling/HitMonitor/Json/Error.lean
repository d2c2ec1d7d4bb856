import HitMonitor.Decimal.Shortest
import HitMonitor.Grid
import HitMonitor.Storage.FileTree
import HitMonitor.Text.Quoted

/-!
# Document errors

A document is refused because its text is not well formed, because it ends too early, or because a
value is not what its place asks for.  The last kind says what was found and what was expected.
-/

namespace HitMonitor

/-- Floats in error reports: without an exponent from 0.00001 to below 10^16, otherwise with a
signed exponent that is not filled up with zeros. -/
def reportedFloat : Notation where
  positionalFrom := -5
  positionalTo := 15
  exponentDigits := 1

/-- A value as far as it has been looked at. -/
inductive FoundValue where
  | null
  | boolean (value : Bool)
  | integer (value : Int)
  | float (value : Float)
  | string (text : String)
  | sequence
  | map

def FoundValue.text : FoundValue → String
  | .null => "null"
  | .boolean value => s!"boolean `{value}`"
  | .integer value => s!"integer `{value}`"
  | .float value => "floating point `" ++ reportedFloat.writeFloat value ++ "`"
  | .string text => "string " ++ quoted text
  | .sequence => "sequence"
  | .map => "map"

/-- Why a well-formed value does not fit its place. -/
inductive DataFault where
  | invalidType (found : FoundValue) (expected : String)
  | invalidInteger (value : Int) (expected : String)
  | missingField (key : String)
  | duplicateField (key : String)
  | invalidLength (length : Nat) (expected : String)
  | unknownVariant (name : String) (known : List String)
  | grid (error : GridError)

def DataFault.message : DataFault → String
  | .invalidType found expected => s!"invalid type: {found.text}, expected {expected}"
  | .invalidInteger value expected => s!"invalid value: integer `{value}`, expected {expected}"
  | .missingField key => s!"missing field `{key}`"
  | .duplicateField key => s!"duplicate field `{key}`"
  | .invalidLength length expected => s!"invalid length {length}, expected {expected}"
  | .unknownVariant name known =>
      s!"unknown variant `{name}`, expected one of " ++
        ", ".intercalate (known.map fun variant => s!"`{variant}`")
  | .grid error => error.message

inductive JsonError where
  /-- A value does not fit its place. -/
  | data (fault : DataFault)
  /-- The text is not well formed, or holds a number too large to be told. -/
  | malformed
  /-- The text ends before the document does. -/
  | unexpectedEnd
  /-- The text cannot be read. -/
  | unreadable (fault : FileFault)

def JsonError.message : JsonError → String
  | .data fault => fault.message
  | .malformed => "malformed document"
  | .unexpectedEnd => "unexpected end of document"
  | .unreadable fault => fault.message

end HitMonitor
