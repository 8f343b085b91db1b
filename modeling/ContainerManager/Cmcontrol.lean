import ContainerManager.External

/-!
# The command line client

The requests of `cmcontrol.c` and what is printed of a response. A printed text is absent when an
array was read outside of its bounds.
-/

namespace ContainerManager

variable {n : ℕ}

/-! ### The client -/

/-- `status_string`. -/
def statusString : List String :=
  ["disable", "not started", "started", "reboot", "shutdown", "dead", "exit"]

/-- The status is one that the client knows. -/
def ExtifGuestInfo.Known (guest : ExtifGuestInfo) : Prop := 0 ≤ guest.status ∧ guest.status ≤ 6

instance (guest : ExtifGuestInfo) : Decidable guest.Known := inferInstanceAs (Decidable (_ ∧ _))

/-- The lines of a guest but for the closing brace. -/
def printGuestJson (guest : ExtifGuestInfo) : Option (List Char) :=
  if guest.Known then do
    let status ← statusString[guest.status.toNat]?
    some ("\t\t\x7b\n".toList ++
      ("\t\t\t\"guest-name\": \"".toList ++ guest.guestName.toList ++ "\",\n".toList) ++
      ("\t\t\t\"role-name\": \"".toList ++ guest.roleName.toList ++ "\",\n".toList) ++
      ("\t\t\t\"status\": \"".toList ++ status.toList ++ "\"\n".toList))
  else some []

/-- The loop over the guests, from this one on. -/
def printGuestsJson (response : ExtifGetResponse) (i : ℕ) : Option (List Char) := do
  let guest ← response.guests[i]?
  let lines ← printGuestJson guest
  if ↑(i + 1) < response.numOfGuests then
    let rest ← printGuestsJson response (i + 1)
    some (lines ++ "\t\t\x7d,\n".toList ++ rest)
  else some (lines ++ "\t\t\x7d\n".toList)
termination_by (response.numOfGuests - i).toNat

/-- `%32s` and the like: blanks to the left up to a width. -/
def padded (width : ℕ) (text : String) : List Char :=
  List.replicate (width - text.utf8ByteSize) ' ' ++ text.toList

/-- The line of a guest in the table. -/
def printGuestTable (guest : ExtifGuestInfo) : Option (List Char) :=
  if guest.Known then do
    let status ← statusString[guest.status.toNat]?
    some ("        ".toList ++ padded 32 guest.guestName ++ ",".toList ++
      padded 12 guest.roleName ++ ",".toList ++ padded 12 status ++ " \n".toList)
  else some []

/-- The loop of the table, from this guest on. -/
def printGuestsTable (response : ExtifGetResponse) (i : ℕ) : Option (List Char) :=
  if (i : ℤ) < response.numOfGuests then do
    let guest ← response.guests[i]?
    let line ← printGuestTable guest
    let rest ← printGuestsTable response (i + 1)
    some (line ++ rest)
  else some []
termination_by (response.numOfGuests - i).toNat

/-- `cm_get_guest_list`, once the response was read. -/
def cmGetGuestList (json : ℤ) (response : ExtifGetResponse) : Option (List Char) :=
  if response.command = 0xa1000 then
    if json = 1 then do
      let guests ← printGuestsJson response 0
      some ("\x7b\n".toList ++ "\t\"guest-status\": [\n".toList ++ guests ++ "\t]\n".toList ++
        "\x7d\n".toList)
    else do
      let guests ← printGuestsTable response 0
      some ("HEADER: ".toList ++ padded 32 "name" ++ ",".toList ++ padded 12 "role" ++
        ",".toList ++ padded 12 "status" ++ " \n".toList ++ guests)
  else some []

/-! ### All requests -/

/-- What `cmcontrol` is called for. -/
inductive CmRequest where
  | getGuestList (json : ℤ)
  | lifecycle (code : ℕ) (name : String)
  | change (code : ℕ) (name : String)
  /-- the number, when the argument has one -/
  | testTrigger (value : Option ℤ)
deriving DecidableEq, Repr

/-- `strncpy` into a name field that was set to zero, up to its last byte. -/
def packetName (name : String) : String := CString.clip (128 - 1) name

/-- The command and the subcommand of `cm_get_guest_lifecycle`. -/
def lifecycleCodes (code : ℕ) : Option (ℕ × ℕ) :=
  if code = 20 then some (0x2000, 1)
  else if code = 21 then some (0x2001, 1)
  else if code = 22 then some (0x2000, 2)
  else if code = 23 then some (0x2001, 2)
  else if code = 24 then some (0x2000, 3)
  else if code = 25 then some (0x2001, 3)
  else none

/-- `cm_control_lifecycle_messages`, up to the name. -/
def cmControlLifecycleMessages : List String :=
  ["Success to shutdown guest: name = ", "Success to shutdown guest: role = ",
    "Success to reboot guest: name = ", "Success to reboot guest: role = ",
    "Success to force reboot guest: name = ", "Success to force reboot guest: role = "]

namespace CmRequest

/-- Whether the client comes as far as `cm_socket_setup`. -/
def Connects : CmRequest → Prop
  | .testTrigger value => value ≠ none
  | _ => True

instance (request : CmRequest) : Decidable request.Connects := by
  cases request <;> unfold Connects <;> infer_instance

/-- The packet that the client writes, unless it does not know the code. -/
def packet : CmRequest → Option ExtifPacket
  | .getGuestList _ => some { size := 4, command := 0x1000 }
  | .lifecycle code name => (lifecycleCodes code).map fun codes =>
    { size := 136, command := codes.1, subcommand := codes.2, guestName := packetName name }
  | .change code name =>
    if code = 30 then some { size := 132, command := 0x3000, guestName := packetName name }
    else none
  | .testTrigger value => value.map fun value => { size := 8, command := 0xf000, code := value }

/-- The size of the response that the client reads. -/
def responseSize : CmRequest → ℕ
  | .getGuestList _ => 4168
  | _ => 8

end CmRequest

/-- The size of a response on the wire. -/
def ExtifResponse.size (response : ExtifResponse) : ℕ :=
  match response.payload with
  | .guests _ _ => 4168
  | .response _ => 8

/-- The response as the structure of the get command, which was zero before the read. -/
def ExtifResponse.asGet (response : ExtifResponse) : ExtifGetResponse :=
  match response.payload with
  | .guests guests numOfGuests => ⟨response.command, guests, numOfGuests⟩
  | .response _ => { ExtifGetResponse.blank with command := response.command }

/-- `cm_get_guest_lifecycle`, once the response was read. -/
def cmGetGuestLifecycle (code : ℕ) (name : String) (response : ExtifResponse) :
    Option (List Char) :=
  if response.command = 0xa2000 then
    match response.payload with
    | .guests _ _ => none
    | .response value =>
      if value = 0 then
        (cmControlLifecycleMessages[code - 20]?).map fun message =>
          message.toList ++ name.toList ++ "\n".toList
      else if value = -1 then
        some ("Unknown guest name: ".toList ++ name.toList ++ ".\n".toList)
      else if value = -2 then
        some ("Unknown guest role: ".toList ++ name.toList ++ ".\n".toList)
      else if value = -100 then some "Error response.\n".toList
      else some "Unknown error.\n".toList
  else some "No response from container-manager\n".toList

/-- `cm_get_guest_change`, once the response was read. -/
def cmGetGuestChange (name : String) (response : ExtifResponse) : Option (List Char) :=
  if response.command = 0xa3000 then
    match response.payload with
    | .guests _ _ => none
    | .response value =>
      if value = 0 then
        some ("Success to exchange active guest to ".toList ++ name.toList ++ ".\n".toList)
      else if value = -1 then
        some ("Guest name ".toList ++ name.toList ++ " does not find.\n".toList)
      else if value = -100 then some "Error response.\n".toList
      else some "Unknown error.\n".toList
  else some []

/-- `cm_test_trigger`, once the response was read. -/
def cmTestTrigger (response : ExtifResponse) : Option (List Char) :=
  if response.command = 0xaf000 then
    match response.payload with
    | .guests _ _ => none
    | .response value =>
      some ("Container manager return test trigger = ".toList ++ (toString value).toList ++
        "\n".toList)
  else some []

/-- What the client prints of a response. -/
def CmRequest.print (request : CmRequest) (response : ExtifResponse) : Option (List Char) :=
  match request with
  | .getGuestList json => cmGetGuestList json response.asGet
  | .lifecycle code name => cmGetGuestLifecycle code name response
  | .change _ name => cmGetGuestChange name response
  | .testTrigger _ => cmTestTrigger response

end ContainerManager
