import GuestSupervisor.Host.Program
import GuestSupervisor.Json.Basic
import GuestSupervisor.Text.Basic
import GuestSupervisor.Text.Blank

/-!
# USB devices of the host

The listing tool prints one device on a line, such as
`Bus 001 Device 002: ID 0a5c:4500 Broadcom Corp.`

## Main Definitions

* `UsbDevice`: a device on its bus with its ids.
* `UsbDevice.ofLine?`, `UsbDevice.ofListing`: reading the tool's output.
* `UsbDevice.ofHost`: running the tool.
* `UsbDevice.line`: a device as the tool prints it.
* `isUsbId`: whether a text is an id, four hexadecimal digits.
-/

namespace GuestSupervisor

open Text

/-- Whether a text is four hexadecimal digits. -/
def isUsbId (id : List Char) : Bool := id.length == 4 && id.all isHexDigit

/-- A USB device. The ids are in lower case. -/
structure UsbDevice where
  bus : String
  device : String
  vendorId : String
  productId : String
  /-- What the device calls itself; possibly nothing. -/
  name : String
  /-- Vendor and product in one text, as the tool prints them. -/
  id : String
  deriving DecidableEq, Repr, Inhabited

namespace UsbDevice

/-- The device on a line of the listing. -/
def ofLine? (line : List Char) : Option UsbDevice := do
  let rest ← "Bus ".toList.isPrefixOf? (trim line)
  let (bus, rest) ← splitOnceOn " Device ".toList rest
  let (device, rest) ← splitOnceOn ": ID ".toList rest
  let (id, name) := (splitOnce ' ' rest).getD (rest, [])
  let (vendor, product) ← splitOnce ':' id
  if isUsbId vendor && isUsbId product then
    some
      { bus := String.ofList bus
        device := String.ofList device
        vendorId := String.ofList (asciiLower vendor)
        productId := String.ofList (asciiLower product)
        name := String.ofList (trim name)
        id := String.ofList (asciiLower id) }
  else none

/-- The devices in a listing, in its order. Other lines are passed over. -/
def ofListing (output : List Char) : List UsbDevice := (lines output).filterMap ofLine?

/-- The devices of a host, as its listing tool tells them. Without the tool there are
none. -/
def ofHost (host : Host) : List UsbDevice × Host :=
  match host.run "lsusb" [] [] with
  | (.ok completed, host) =>
    (if completed.success then ofListing (Utf8.decodeLossy completed.output) else [], host)
  | (.error _, host) => ([], host)

/-- The line on which the tool lists a device. -/
def line (d : UsbDevice) : List Char :=
  "Bus ".toList ++ d.bus.toList ++ " Device ".toList ++ d.device.toList ++ ": ID ".toList
    ++ d.id.toList ++ (if d.name.isEmpty then [] else ' ' :: d.name.toList)

/-- A device as the API shows it. -/
def toJson (d : UsbDevice) : Json :=
  .object
    [ ("bus", .string d.bus), ("device", .string d.device), ("vendor_id", .string d.vendorId),
      ("product_id", .string d.productId), ("name", .string d.name), ("id", .string d.id) ]

end UsbDevice

end GuestSupervisor
