import PadMapping.Text.Blank
import PadMapping.Text.Number

/-!
# Device ids

A device is named by one line of text: its name, then in brackets its vendor and product
number in hexadecimal, as in `Wireless Controller (Vendor: 054c Product: 0ce6)`.

Such a line is read leniently, since it may have been written by hand: each number is the
longest run of hexadecimal digits after the first place where its label is followed by one,
wherever in the text that is.
-/

namespace PadMapping

/-- What a device id tells about the device. The numbers are kept as they are written. -/
structure DeviceId where
  vendor : String
  product : String
  name : String
deriving DecidableEq, Repr

/-- What can be missing in a device id. -/
inductive DeviceId.Fault where
  | noVendor (id : String)
  | noProduct (id : String)
deriving DecidableEq, Repr

/-- The wording shown for a fault. -/
def DeviceId.Fault.message : DeviceId.Fault → String
  | .noVendor id => "no vendor id in device id '" ++ id ++ "'"
  | .noProduct id => "no product id in device id '" ++ id ++ "'"

namespace DeviceId

/-- The name of a device that reports none. -/
def unknownName : String := "Unknown Gamepad"

/-- What stands in front of the vendor number. -/
def vendorLabel : String := "Vendor: "

/-- What stands in front of the product number. -/
def productLabel : String := "Product: "

/-- A 16-bit number in four hexadecimal digits. -/
def fourDigits (n : UInt16) : String := String.ofList (Text.hexPadded 4 n.toNat)

/-- The id of a device. -/
def format (name : Option String) (vendor product : UInt16) : String :=
  name.getD unknownName ++ " (" ++ vendorLabel ++ fourDigits vendor ++ " " ++ productLabel
    ++ fourDigits product ++ ")"

/-- The hexadecimal digits at the front of what comes after `label`, if the text begins with
the label and there are any. -/
def digitsAfter? (label text : List Char) : Option (List Char) :=
  match label.isPrefixOf? text with
  | none => none
  | some rest =>
    let digits := rest.takeWhile Text.isHexDigit
    if digits.isEmpty then none else some digits

/-- The digits after the first occurrence of `label` that is followed by one. -/
def find? (label : List Char) : List Char → Option (List Char)
  | [] => digitsAfter? label []
  | c :: rest => (digitsAfter? label (c :: rest)).or (find? label rest)

/-- The name in a device id: what comes before the first bracket. -/
def nameOf (id : String) : String :=
  Text.trim (String.ofList (id.toList.takeWhile (· ≠ '(')))

/-- Reads a device id. -/
def parse (id : String) : Except Fault DeviceId :=
  match find? vendorLabel.toList id.toList, find? productLabel.toList id.toList with
  | none, _ => .error (.noVendor id)
  | some _, none => .error (.noProduct id)
  | some vendor, some product =>
    .ok ⟨String.ofList vendor, String.ofList product, nameOf id⟩

end DeviceId

end PadMapping
