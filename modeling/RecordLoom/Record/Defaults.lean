import RecordLoom.Code.Node
import RecordLoom.Entity.Basic

/-!
Default values of properties as expressions of generated code.  A default that a property's type
cannot take is left out; a missing value is what an optional property has without one.
-/

namespace RecordLoom.Record

open RecordLoom.Catalog
open RecordLoom.Code
open RecordLoom.Entity
open RecordLoom.Number

def callNode (name : String) (arguments : List Argument) : Node :=
  .call (.mk name arguments none false false none)

def bare (value : Node) : Argument := .mk none value

def labelled (label : String) (value : Node) : Argument := .mk (some label) value

inductive DefaultNumber where
  | whole (value : Int)
  | fractional (value : Double)
  deriving DecidableEq, Repr

namespace DefaultNumber

def literal : DefaultNumber → Node
  | whole n => .intLiteral n
  | fractional x => .doubleLiteral x

def text : DefaultNumber → String
  | whole n => toString n
  | fractional x => x.text

def isZero : DefaultNumber → Bool
  | whole n => n == 0
  | fractional x => x.isZero

def toInt? : DefaultNumber → Option Int
  | whole n => some n
  | fractional x => x.toInt?

def toDouble : DefaultNumber → Except ConversionFault Double
  | whole n => (Double.ofInt? n).elim (.error .beyondDouble) .ok
  | fractional x => .ok x

def express (number : DefaultNumber) : ValueType → Except ConversionFault (Option Node)
  | .integer => .ok (number.toInt?.map .intLiteral)
  | .double => number.toDouble.map fun x => some (.doubleLiteral x)
  | .string => .ok (some (.stringLiteral number.text))
  | .bool => .ok (some (.boolLiteral (!number.isZero)))
  | .decimal => .ok (some (callNode "Decimal" [bare number.literal]))
  | .date => .ok (some (callNode "Date" [labelled "timeIntervalSince1970" number.literal]))
  | _ => .ok none

end DefaultNumber

def truthWords : List (String × Bool) :=
  [("true", true), ("yes", true), ("1", true), ("false", false), ("no", false), ("0", false)]

def expressText (s : String) : ValueType → Option Node
  | .string => some (.stringLiteral s)
  | .integer => (readInt? s).map .intLiteral
  | .double => ((readDouble? s).filter (·.isFinite)).map .doubleLiteral
  | .bool => (truthWords.lookup (Text.lower s)).map .boolLiteral
  | _ => none

def expressBoolean (value : Bool) : ValueType → Option Node
  | .bool => some (.boolLiteral value)
  | .integer => some (.intLiteral (if value then 1 else 0))
  | _ => none

def expressBytes (bytes : List UInt8) : ValueType → Option Node
  | .byteArray => some (.intArrayLiteral (bytes.map fun byte => (byte.toNat : Int)))
  | .data => some (.dataLiteral bytes)
  | _ => none

def express (type : ValueType) : Literal → Except ConversionFault (Option Node)
  | .integer n => (DefaultNumber.whole n).express type
  | .real x => (DefaultNumber.fractional x).express type
  | .boolean value => .ok (expressBoolean value type)
  | .text s => .ok (expressText s type)
  | .blob bytes => .ok (expressBytes bytes type)
  | .null | .expression _ => .ok none

def absentValue (p : Property) : Option Node := if p.isOptional then some .nilLiteral else none

/-- The default of a property's parameter; a parameter without one has to be given. -/
def defaultExpression (p : Property) : Except ConversionFault (Option Node) :=
  match p.default with
  | none =>
      let isKey := p.primaryKey && p.valueType == .uuid
      .ok (if isKey then some (callNode "UUID" []) else absentValue p)
  | some literal => (express p.valueType literal).map fun node => node.orElse fun _ => absentValue p

/-- Whether a default is left out because the property's type cannot take it. -/
def losesDefault (p : Property) : Bool :=
  match p.default with
  | none => false
  | some .null => !p.isOptional
  | some literal => express p.valueType literal matches .ok none

end RecordLoom.Record
