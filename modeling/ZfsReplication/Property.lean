import ZfsReplication.Text.Unicode
import ZfsReplication.Decimal.Layout
import ZfsReplication.Decimal.Read

/-!
# Property values

A property of a dataset or snapshot is a name with a value and a source, each read from the text
that `zfs get -p` prints. A value is an integer when the trimmed text is all ASCII digits and fits a
signed 64-bit word; the texts `-`, `none` (in any letter case) and the empty text mean no value; a
finite decimal floating-point text is a float; anything else is text.
-/

set_option autoImplicit false

namespace ZfsReplication

open Decimal

/-- A typed property value. -/
inductive PropertyValue where
  /-- A signed 64-bit integer. -/
  | integer (i : Int)
  | float (x : Float)
  | text (s : String)

namespace PropertyValue

/-- Reads a value from its text; `none` for an absent value. -/
def parse (raw : String) : Option PropertyValue :=
  let cs := Text.trimBy Text.isBlank raw.toList
  if !cs.isEmpty && cs.all Char.isDigit && digitsValue cs ≤ maxSigned64 then
    some (.integer (digitsValue cs))
  else if cs.isEmpty || cs == ['-'] || spellsIgnoringCase cs "none" then none
  else
    match readFloat cs with
    | some x => if x.isFinite then some (.float x) else some (.text (String.ofList cs))
    | none => some (.text (String.ofList cs))

/-- The integer held, if any. -/
def integer? : PropertyValue → Option Int
  | .integer i => some i
  | _ => none

/-- The text held, if any. -/
def text? : PropertyValue → Option String
  | .text s => some s
  | _ => none

/-- The text of a value: an integer in decimal, a float positionally with its shortest digits, a
text as it is. -/
def render : PropertyValue → String
  | .integer i => toString i
  | .float x => Layout.plain.renderFloat x
  | .text s => s

/-- Values are equal when they are of one kind with equal contents; floats compare bit for bit. -/
def beq : PropertyValue → PropertyValue → Bool
  | .integer a, .integer b => a == b
  | .float a, .float b => a.toBits == b.toBits
  | .text a, .text b => a == b
  | _, _ => false

instance : BEq PropertyValue := ⟨beq⟩

end PropertyValue

/-- A named property with its value and source, each possibly absent. -/
structure Property where
  name : String
  value : Option PropertyValue
  source : Option PropertyValue

namespace Property

/-- A property read from the texts of its name, value and source. -/
def ofTexts (name value source : String) : Property :=
  ⟨name, PropertyValue.parse value, PropertyValue.parse source⟩

/-- A property without value or source. -/
def absent (name : String) : Property := ⟨name, none, none⟩

/-- The integer value, if the value is one. -/
def integer? (p : Property) : Option Int := p.value.bind PropertyValue.integer?

/-- The text value, if the value is one. -/
def text? (p : Property) : Option String := p.value.bind PropertyValue.text?

end Property

end ZfsReplication
