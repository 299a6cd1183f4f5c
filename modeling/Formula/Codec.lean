import Formula.Bindings
import Formula.Json.Printer
import Formula.Json.Reader

/-!
# Codecs

Operands and bindings are stored as JSON texts, which a library of its own writes and reads. `Codec` is what
is used of such a library; nothing is laid down here about what its functions do. `Codec.standard` is the one
that programs run with.
-/

namespace Formula

namespace Operand

/-- The JSON form of an operand: a single member tells whether it is a number or a variable. -/
def toJson : Operand → Json
  | .number x => .object [("Number", .real x)]
  | .variable name => .object [("Variable", .string name)]

/-- The operand of which a value, as written, is the JSON form. -/
def ofJson? : Json → Option Operand
  | .object [(key, .integer n)] => if key = "Number" then some (.number (Number.ofInt n)) else none
  | .object [(key, .real x)] => if key = "Number" then some (.number x) else none
  | .object [(key, .string s)] => if key = "Variable" then some (.variable s) else none
  | _ => none

end Operand

namespace Binding

/-- Reads a value as written: an operand if it has the form of one. -/
def ofJson (value : Json) : Binding :=
  match Operand.ofJson? value with
  | some o => .operand o
  | none => .raw value.canonical

/-- The JSON form of what a variable is bound to. -/
def toJson : Binding → Json
  | .operand o => o.toJson
  | .raw value => value

end Binding

/-- The bindings in an object as written. -/
def Bindings.ofMembers? : Json → Option Bindings
  | .object members => some (.ofList (members.map fun (name, value) => (name, Binding.ofJson value)))
  | _ => none

/-- A library that stores operands and bindings as JSON texts. Between what is stored and its text there is a
value, with the members of its objects as they are written. -/
structure Codec where
  /-- The text of a value. -/
  write : Json → List Char
  /-- The value of a text. -/
  read? : List Char → Option Json
  /-- The float that a numeral is read as where it is not read as an integer. -/
  real? : List Char → Option Float
  /-- The float that an integer is read as where a float is wanted. -/
  ofInteger : Int → Float
  encodeOperand : Operand → Json
  decodeOperand? : Json → Option Operand
  encodeBinding : Binding → Json
  decodeBinding? : Json → Option Binding
  /-- What is kept of a value where any value may be. -/
  decodeJson? : Json → Option Json
  decodeBindings? : Json → Option Bindings

namespace Codec

variable (codec : Codec)

def writeOperand (o : Operand) : String := String.ofList (codec.write (codec.encodeOperand o))

def readOperand? (text : String) : Option Operand := (codec.read? text.toList).bind codec.decodeOperand?

def writeBinding (b : Binding) : String := String.ofList (codec.write (codec.encodeBinding b))

def readBinding? (text : String) : Option Binding := (codec.read? text.toList).bind codec.decodeBinding?

/-- Reads bindings from the text of a JSON object. -/
def readBindings? (text : String) : Option Bindings := (codec.read? text.toList).bind codec.decodeBindings?

/-- The codec of this library's own reader and printer, in which all conversions round to the nearest float. -/
def standard : Codec where
  write := Json.write
  read? := Json.read?
  real? := Number.parseFinite?
  ofInteger := Number.ofInt
  encodeOperand := Operand.toJson
  decodeOperand? := Operand.ofJson?
  encodeBinding := Binding.toJson
  decodeBinding? value := some (Binding.ofJson value)
  decodeJson? value := some value.canonical
  decodeBindings? := Bindings.ofMembers?

end Codec

/-- Reads bindings from the text of a JSON object. -/
def Bindings.ofJson? (text : String) : Option Bindings := Codec.standard.readBindings? text

end Formula
