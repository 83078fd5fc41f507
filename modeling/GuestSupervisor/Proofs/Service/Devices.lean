import GuestSupervisor.Proofs.Monitor.Command
import GuestSupervisor.Proofs.Service.LiveDisks
import GuestSupervisor.Proofs.Supervisor.Retry

/-!
# The device that is detached is the one that was attached

A device is added to the guest under a name that is made of its ids, and removed under a name that
is made of its ids.  Two requests may spell the ids differently.  The names are the same exactly if
the ids are, once the blanks around them and the capitals are taken away.

## Main Definitions

* `Api.Request.AsksAbout` — a request about a device.
* `Api.Request.Orders` — a request with the line that is made of it.

## Main Statements

* `Service.exists_orders_of_accepted` — a request that succeeds has written its line.
* `Service.removed_eq_added_iff` — when the device that is removed is the one that was added.
* `Service.device_lines` — which commands have lines, and what the lines tell.
-/

namespace GuestSupervisor

open Api Supervisor Monitor Text ControlCommand

/-! ## Requests about devices -/

/-- **A request about a device**, with the command that is made of its ids. -/
inductive Api.Request.AsksAbout (request : Request) : (String → String → ControlCommand) → Prop
  | attach (method : request.method = "POST")
      (path : (Target.ofText request.target.toList).path = ["", "api", "usb", "attach"]) :
      AsksAbout request .usbAttach
  | detach (method : request.method = "POST")
      (path : (Target.ofText request.target.toList).path = ["", "api", "usb", "detach"]) :
      AsksAbout request .usbDetach

/-- **A request with the line that is made of it**: its body is read, it has both ids, and they can
stand on a line. -/
structure Api.Request.Orders (request : Request) (make : String → String → ControlCommand)
    (r : UsbRequest) (line : String) : Prop where
  asks : request.AsksAbout make
  read : request.read UsbRequest.record.readText = .ok r
  spoken : ∃ vendor product, r.ids? = some (vendor, product) ∧
    (make vendor product).line? = .ok line

/-- A monitor that does not answer is no success. -/
theorem Api.status_ofChannel (e : ChannelError) : (ApiError.ofChannel e).response.status ≠ .ok := by
  cases e <;> simp [ApiError.ofChannel, ApiError.response, Response.failed]

/-- **The ids of a request** are without the blanks around them and without capitals. -/
theorem Api.UsbRequest.toList_of_ids? {r : UsbRequest} {vendor product : String}
    (ids : r.ids? = some (vendor, product)) :
    vendor.toList = asciiLower (trim r.vendorId.toList) ∧
      product.toList = asciiLower (trim r.productId.toList) := by
  unfold UsbRequest.ids? at ids
  simp only at ids
  split at ids
  · cases ids
  · obtain ⟨rfl, rfl⟩ := Prod.mk.inj (Option.some.inj ids)
    exact ⟨String.toList_ofList, String.toList_ofList⟩

namespace Service

variable {service : Service} {request attach detach : Request} {w : Schedule}
  {make : String → String → ControlCommand} {r r' : UsbRequest} {line line' : String}

/-- A request about a device is handled by sending a command. -/
theorem handle_of_asksAbout (asks : request.AsksAbout make) :
    service.handle request w
      = withBody request UsbRequest.record.readText w fun r => sendAboutDevice make r w := by
  cases asks with
  | attach method path =>
    have asked : Operation.ofRequest request.method (Target.ofText request.target.toList).path
        = .ok .attachUsbDevice := by
      rw [method, path]
      rfl
    exact handle_of_operation method asked
  | detach method path =>
    have asked : Operation.ofRequest request.method (Target.ofText request.target.toList).path
        = .ok .detachUsbDevice := by
      rw [method, path]
      rfl
    exact handle_of_operation method asked

/-- **A request about a device that succeeds has written its line**, and nothing else. -/
theorem exists_orders_of_accepted (asks : request.AsksAbout make)
    (accepted : (service.handle request w).1.status = .ok) :
    ∃ r vendor product line, request.Orders make r line ∧ r.ids? = some (vendor, product) ∧
      (Schedule.surroundings none (make vendor product)).written none (make vendor product) w
        = lineBytes line := by
  rw [handle_of_asksAbout asks, withBody] at accepted
  cases read : request.read UsbRequest.record.readText with
  | error status =>
    rw [read] at accepted
    exact absurd accepted (Api.ne_ok_of_read read)
  | ok r =>
    simp only [read, sendAboutDevice] at accepted
    cases ids : r.ids? with
    | none => simp [ids, Response.failed] at accepted
    | some both =>
      obtain ⟨vendor, product⟩ := both
      simp only [ids, send] at accepted
      cases answered : (w.request none (make vendor product)).1 with
      | error e =>
        rw [answered] at accepted
        exact absurd accepted (Api.status_ofChannel e)
      | ok reply =>
        obtain ⟨line, spoken, written⟩ := Schedule.written_of_request_eq_ok answered
        exact ⟨r, vendor, product, line, ⟨asks, read, vendor, product, ids, spoken⟩, ids, written⟩

/-- **When the device that is removed is the one that was added.** -/
theorem removed_eq_added_iff (ordered : attach.Orders .usbAttach r line)
    (ordered' : detach.Orders .usbDetach r' line') :
    ∃ added removed, addedAs? line.toList = some added ∧ removed? line'.toList = some removed ∧
      (removed = added ↔
        asciiLower (trim r.vendorId.toList) = asciiLower (trim r'.vendorId.toList) ∧
          asciiLower (trim r.productId.toList) = asciiLower (trim r'.productId.toList)) := by
  obtain ⟨-, -, vendor, product, ids, spoken⟩ := ordered
  obtain ⟨-, -, vendor', product', ids', spoken'⟩ := ordered'
  obtain ⟨⟨proper, -⟩, -⟩ := line?_usbAttach_iff.mp spoken
  obtain ⟨⟨proper', -⟩, -⟩ := line?_usbDetach_iff.mp spoken'
  obtain ⟨vendorText, productText⟩ := UsbRequest.toList_of_ids? ids
  obtain ⟨vendorText', productText'⟩ := UsbRequest.toList_of_ids? ids'
  refine ⟨_, _, addedAs?_of_line? spoken, removed?_of_line? spoken', ?_⟩
  rw [← vendorText, ← productText, ← vendorText', ← productText', String.toList_inj,
    String.toList_inj, String.toList_inj, usbDeviceName_inj proper' proper]
  exact and_congr eq_comm eq_comm

/-- **Which commands have lines, and what the lines tell.**  A command has none exactly if a path in
it is broken over lines, or is no text, or an id in it is no id.  A line is one line, and of one
command.  The device that is detached is the one that was attached exactly if the ids of the two
requests are the same, however they are spelt, and a request that succeeds has written its line. -/
theorem device_lines :
    (∀ command : ControlCommand, (∃ e, command.line? = .error e) ↔ command.Refused)
      ∧ (∀ (command : ControlCommand) (line : String), command.line? = .ok line →
          '\n' ∉ line.toList ∧ '\r' ∉ line.toList)
      ∧ (∀ (command command' : ControlCommand) (line : String),
          command.line? = .ok line → command'.line? = .ok line → command = command')
      ∧ (∀ (attach detach : Request) (r r' : UsbRequest) (line line' : String),
          attach.Orders .usbAttach r line → detach.Orders .usbDetach r' line' →
          ∃ added removed, addedAs? line.toList = some added
            ∧ removed? line'.toList = some removed
            ∧ (removed = added ↔
              asciiLower (trim r.vendorId.toList) = asciiLower (trim r'.vendorId.toList)
                ∧ asciiLower (trim r.productId.toList) = asciiLower (trim r'.productId.toList)))
      ∧ ∀ (service : Service) (request : Request) (w : Schedule)
          (make : String → String → ControlCommand),
          request.AsksAbout make → (service.handle request w).1.status = .ok →
          ∃ r vendor product line, request.Orders make r line ∧ r.ids? = some (vendor, product)
            ∧ (Schedule.surroundings none (make vendor product)).written none
                (make vendor product) w = lineBytes line :=
  ⟨fun _ => exists_error_iff, fun _ _ => oneLine_of_line?, fun _ _ _ => eq_of_line?_eq,
    fun _ _ _ _ _ _ => removed_eq_added_iff, fun _ _ _ _ => exists_orders_of_accepted⟩

/-- A request to attach a device, in capitals and with a blank. -/
def attachment : Request :=
  postRequest "/api/usb/attach" "\x7b\"vendor_id\":\" 0A5C\",\"product_id\":\"4500\"\x7d"

/-- A request to detach the same device. -/
def detachment : Request :=
  postRequest "/api/usb/detach" "\x7b\"vendor_id\":\"0a5c\",\"product_id\":\"4500 \"\x7d"

theorem asksAbout_attachment : attachment.AsksAbout .usbAttach := by
  have path : (Target.ofText "/api/usb/attach".toList).path = ["", "api", "usb", "attach"] := by cbv
  exact .attach rfl path

theorem asksAbout_detachment : detachment.AsksAbout .usbDetach := by
  have path : (Target.ofText "/api/usb/detach".toList).path = ["", "api", "usb", "detach"] := by cbv
  exact .detach rfl path

theorem orders_attachment : attachment.Orders .usbAttach ⟨" 0A5C", "4500"⟩
    "device_add usb-host,vendorid=0x0a5c,productid=0x4500,id=usbdev_0a5c_4500" where
  asks := asksAbout_attachment
  read := by decide +kernel
  spoken := ⟨"0a5c", "4500", by decide +kernel, by decide +kernel⟩

theorem orders_detachment : detachment.Orders .usbDetach ⟨"0a5c", "4500 "⟩
    "device_del usbdev_0a5c_4500" where
  asks := asksAbout_detachment
  read := by decide +kernel
  spoken := ⟨"0a5c", "4500", by decide +kernel, by decide +kernel⟩

/-- An instance was started. -/
def oneGuest : Schedule :=
  (plainService.handle (postRequest "/api/start" "") (plainService.schedule oneDiskHost 0)).2

/-- The device that was attached is the one that is detached, though it is spelt in another way, and
attaching it wrote a line. -/
theorem device_lines_respelt :
    (∃ name,
        addedAs? "device_add usb-host,vendorid=0x0a5c,productid=0x4500,id=usbdev_0a5c_4500".toList
            = some name
          ∧ removed? "device_del usbdev_0a5c_4500".toList = some name)
      ∧ ((plainService.handle attachment oneGuest).1.status = .ok
        ∧ ∃ r vendor product line, attachment.Orders .usbAttach r line
          ∧ r.ids? = some (vendor, product)
          ∧ (Schedule.surroundings none (.usbAttach vendor product)).written none
              (.usbAttach vendor product) oneGuest = lineBytes line) := by
  obtain ⟨-, -, -, names, writes⟩ := device_lines
  have accepted : (plainService.handle attachment oneGuest).1.status = .ok := by decide +kernel
  refine ⟨?_, accepted, writes plainService attachment oneGuest .usbAttach asksAbout_attachment
    accepted⟩
  obtain ⟨added, removed, adds, removes, same⟩ :=
    names attachment detachment _ _ _ _ orders_attachment orders_detachment
  have agree : removed = added := same.mpr (by decide +kernel)
  exact ⟨added, adds, agree ▸ removes⟩

end Service

end GuestSupervisor
