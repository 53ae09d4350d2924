import UsbSession.Text.Blank
import UsbSession.Text.Numeral

/-!
# Vendor and product ids

A 16-bit id, written as four hexadecimal digits and read with blanks around it and an optional
`0x` in front. The id zero stands for any id where devices are listed.

* `Id.covers_any`: the zero id matches every value;
* `Id.parse_empty`: a text of blanks is refused as empty.
-/

namespace UsbSession

open Text

/-- A vendor or product id. -/
structure Id where
  /-- The 16-bit value. -/
  value : UInt16
  deriving DecidableEq, Repr, Inhabited

namespace Id

/-- The id that matches every value where devices are listed. -/
def any : Id := ⟨0⟩

/-- Whether the id matches every value. -/
def isAny (id : Id) : Bool := id == any

/-- Whether the id, taken as a pattern, matches a value. -/
def covers (pattern : Id) (value : UInt16) : Bool :=
  pattern.isAny || pattern.value == value

/-- The order of the values. -/
def compare (a b : Id) : Ordering := Ord.compare a.value.toNat b.value.toNat

/-- Four lowercase hexadecimal digits. -/
def toText (id : Id) : String := String.ofList (hexDigits 4 id.value.toNat)

instance : ToString Id := ⟨toText⟩

/-- The id with its value in decimal, as records show it. -/
def describe (id : Id) : String := s!"Id({id.value.toNat})"

/-- Reads a hexadecimal id: blanks around it and one leading `0x` are ignored. -/
def parse (text : String) : Except NumeralError Id :=
  (readUnsigned 16 (bitLimit 16) (dropHexMark (trim text.toList))).map fun n => ⟨UInt16.ofNat n⟩

@[simp] theorem covers_any (value : UInt16) : any.covers value = true := by
  simp [covers, isAny]

theorem parse_empty {text : String} (h : dropHexMark (trim text.toList) = []) :
    parse text = .error .empty := by
  simp [parse, h, readUnsigned, Except.map]

end Id

end UsbSession
