import V2XHub.Lib.AssocList
import V2XHub.Lib.Run

/-!
# The dynamic message sign

The plugin writes the texts of its configuration to the changeable memory of a sign, one slot for
each message, and activates a message by its number. It keeps a flag with each text that says that
the sign has it, a flag for all of them, and the id that is shown.

All calls are SNMP requests that may fail, and what they do to the sign is part of the step. The
signs are in the model as far as they are spoken to: by address, the texts in their slots and the
activation that they accepted last.
-/

namespace V2XHub.Dms

open V2XHub.Lib

/-! ## Signs -/

/-- `INTip` and `INTport`. -/
abbrev Peer := String × String

/-- The port as `setConfigs` writes it: five characters of the decimal text of an `int`. -/
def portText (port : UInt32) : String :=
  let number : Int := if port.toNat < 0x80000000 then port.toNat else port.toNat - 0x100000000
  String.ofList ((toString number).toList.take 5)

def peerOf (ip : String) (port : UInt32) : Peer := (ip, portText port)

structure Sign where
  slots : Int → Option String := fun _ => none
  /-- the activation that was accepted last, `0` for a blank sign -/
  activated : Option Int := none

/-- What happens to the calls of `AssignMessageOnSign`: the responses of `getDMSMsgStatus`, and what
the sign does. -/
structure Assignment where
  /-- `notUsedReq` has emptied the slot -/
  cleared : Bool := true
  notUsed : Int := 1
  modifying : Int := 2
  /-- the text was stored -/
  stored : Bool := true
  validated : Int := 4

/-- What happens to `setDMSMsgActivate`. -/
inductive Activation where
  | accepted
  | refused
  /-- the sign accepts it, and its response is lost -/
  | lost
  deriving DecidableEq

/-! ## The plugin -/

structure SignMessage where
  dmsText : String
  isDmsTextInitialized : Bool := false

/-- `_signMessages`, ordered by id. -/
abbrev SignMessages := List (Int × SignMessage)

def SignMessages.set (messageId : Int) (message : SignMessage) : SignMessages → SignMessages
  | [] => [(messageId, message)]
  | entry :: rest =>
      if messageId < entry.1 then (messageId, message) :: entry :: rest
      else if messageId = entry.1 then (messageId, message) :: rest
      else entry :: SignMessages.set messageId message rest

/-- `DmsPlugin`, with the signs. Message 0 is the blanking message. Before the first `setConfigs`
the controller has no address to speak of. -/
structure DmsPlugin where
  isSignMessagesInitialized : Bool := false
  isDmsControllerInitialized : Bool := false
  enableDms : Bool := false
  dmsIpAddress : String := ""
  dmsPort : UInt32 := 0
  peer : Peer := peerOf "" 0
  signMessages : SignMessages := [(0, { dmsText := "" })]
  msgIdRequested : Int := 0
  msgIdShown : Int := -1
  signs : Peer → Sign := fun _ => {}

/-- The values of a configuration update. -/
structure Config where
  enableDms : Bool
  dmsIpAddress : String
  dmsPort : UInt32
  messages : Int → String

namespace DmsPlugin

/-- The sign that the controller speaks to has changed. -/
def setSign (s : DmsPlugin) (f : Sign → Sign) : DmsPlugin :=
  { s with signs := fun p => if p = s.peer then f (s.signs p) else s.signs p }

def setSlot (s : DmsPlugin) (messageNumber : Int) (text : Option String) : DmsPlugin :=
  s.setSign fun sign =>
    { sign with slots := fun m => if m = messageNumber then text else sign.slots m }

/-- `AssignMessageOnSign`, which is called without activating. -/
def assignMessageOnSign (s : DmsPlugin) (messageNumber : Int) (message : String) (o : Assignment) :
    DmsPlugin × Bool :=
  let s := if s.msgIdRequested = messageNumber then { s with msgIdShown := -1 } else s
  if messageNumber = 0 then (s, false)
  else
    let s := if o.cleared then s.setSlot messageNumber none else s
    if o.notUsed ≠ 1 then (s, false)
    else if o.modifying ≠ 2 then (s, false)
    else
      let s := if o.stored then s.setSlot messageNumber (some message) else s
      (s, o.validated = 4)

/-- The text of a message, if it has been written to the sign. -/
def setMessage (s : DmsPlugin) (messageId : Int) (text : String) (initialized : Bool) : DmsPlugin :=
  let message := { dmsText := text, isDmsTextInitialized := initialized }
  { s with signMessages := s.signMessages.set messageId message }

/-- A message is sent to the sign. -/
def sendMessage (s : DmsPlugin) (messageId : Int) (text : String) (o : Assignment) :
    DmsPlugin × Bool :=
  match s.assignMessageOnSign messageId text o with
  | (s, true) => (s.setMessage messageId text true, true)
  | (s, false) => (s, false)

/-- The first part of `AddSignMessage`: a text that is new or has changed. -/
def putMessage (s : DmsPlugin) (messageId : Int) (text : String) : DmsPlugin :=
  match s.signMessages.lookup messageId with
  | some message =>
      if message.dmsText = text then s
      else { (s.setMessage messageId text false) with isSignMessagesInitialized := false }
  | none => { (s.setMessage messageId text false) with isSignMessagesInitialized := false }

def addSignMessage (s : DmsPlugin) (messageId : Int) (text : String) (sendToSign : Bool)
    (o : Assignment) : DmsPlugin × Bool :=
  let s := s.putMessage messageId text
  let initialized := (s.signMessages.lookup messageId).any SignMessage.isDmsTextInitialized
  if s.enableDms = false ∨ s.isDmsControllerInitialized = false ∨ initialized = true ∨
      sendToSign = false then
    (s, true)
  else if messageId = 0 then (s.setMessage 0 text true, true)
  else s.sendMessage messageId text o

/-- `ActivateMessage`. Blanking is message 1 of another memory. -/
def activateMessage (s : DmsPlugin) (messageNumber : Int) (a : Activation) : DmsPlugin × Bool :=
  let s' := s.setSign fun sign => { sign with activated := some messageNumber }
  match a with
  | .accepted => ({ s' with msgIdShown := if messageNumber = 0 then 1 else messageNumber }, true)
  | .refused => (s, false)
  | .lost => (s', false)

def showSignMessage (s : DmsPlugin) (msgId : Int) (a : Activation) : DmsPlugin × Bool :=
  if s.isSignMessagesInitialized = false then (s, false)
  else
    match s.signMessages.lookup msgId with
    | none => (s, false)
    | some _ => if s.enableDms then s.activateMessage msgId a else (s, true)

def setRequestedMessage (s : DmsPlugin) (msgId : Int) (a : Activation) : DmsPlugin :=
  let s := { s with msgIdRequested := msgId }
  if s.msgIdRequested = s.msgIdShown then s
  else
    match s.showSignMessage msgId a with
    | (s, true) => { s with msgIdShown := msgId }
    | (s, false) => s

/-- The loop of `InitializeSignMessages`. -/
def initializeFrom (s : DmsPlugin) (o : Int → Assignment) : List Int → DmsPlugin × Bool
  | [] => (s, true)
  | messageId :: rest =>
      if messageId = 0 then s.initializeFrom o rest
      else
        match s.signMessages.lookup messageId with
        | none => s.initializeFrom o rest
        | some message =>
            if message.isDmsTextInitialized then s.initializeFrom o rest
            else
              match s.sendMessage messageId message.dmsText (o messageId) with
              | (s, true) => s.initializeFrom o rest
              | (s, false) => (s, false)

def initializeSignMessages (s : DmsPlugin) (o : Int → Assignment) : DmsPlugin × Bool :=
  if s.enableDms then s.initializeFrom o (s.signMessages.map Prod.fst) else (s, false)

/-- An iteration of `Main`. -/
def iterate (s : DmsPlugin) (o : Int → Assignment) (a : Activation) : DmsPlugin :=
  if s.isSignMessagesInitialized then
    if s.msgIdRequested ≠ s.msgIdShown then s.setRequestedMessage s.msgIdRequested a else s
  else
    let (s, initialized) := s.initializeSignMessages o
    { s with isSignMessagesInitialized := initialized }

/-- `setConfigs` of the controller, if there are new values. -/
def setAddress (s : DmsPlugin) (config : Config) : DmsPlugin :=
  let changed := config.dmsIpAddress ≠ s.dmsIpAddress ∨ config.dmsPort ≠ s.dmsPort
  let s := { s with
    enableDms := config.enableDms
    dmsIpAddress := config.dmsIpAddress
    dmsPort := config.dmsPort }
  if changed then
    { s with
      peer := peerOf config.dmsIpAddress config.dmsPort
      isDmsControllerInitialized := true }
  else s

/-- The sign messages of a configuration update. After one that fails, none is sent. -/
def addSignMessages (config : Config) (o : Int → Assignment) :
    List Int → DmsPlugin → Bool → DmsPlugin
  | [], s, _ => s
  | i :: rest, s, sendToSign =>
      let (s, sent) := s.addSignMessage i (config.messages i) sendToSign (o i)
      addSignMessages config o rest s (sendToSign && sent)

def updateConfig (s : DmsPlugin) (config : Config) (o : Int → Assignment) : DmsPlugin :=
  addSignMessages config o [1, 2, 3, 4] (s.setAddress config) true

inductive Event where
  | updateConfig (config : Config) (o : Int → Assignment)
  | request (msgId : Int) (a : Activation)
  | iterate (o : Int → Assignment) (a : Activation)

def step (s : DmsPlugin) : Event → DmsPlugin
  | .updateConfig config o => s.updateConfig config o
  | .request msgId a => s.setRequestedMessage msgId a
  | .iterate o a => s.iterate o a

/-- The sign at the configured address. -/
def sign (s : DmsPlugin) : Sign := s.signs (peerOf s.dmsIpAddress s.dmsPort)

/-- What is marked as written is on the sign, and what is marked as shown was activated last. -/
structure SignAgrees (s : DmsPlugin) : Prop where
  texts : ∀ m message, s.signMessages.lookup m = some message →
    message.isDmsTextInitialized = true → s.sign.slots m = some message.dmsText
  shown : s.enableDms = true → 0 ≤ s.msgIdShown → s.sign.activated = some s.msgIdShown

end DmsPlugin

end V2XHub.Dms
