import V2XHub.Lib.Throwing
import V2XHub.Tmx.ByteStream
import V2XHub.Tmx.FrequencyThrottle

/-!
# The immediate forward plugin

The plugin forwards messages to roadside units for broadcast. Each unit has a configuration, with
the types of messages that it takes, and a client that is kept under its name. `SendMessageToRadio`
goes over the units and their message configurations, and sends the message for each that has its
type. A unit may have its messages signed by an HSM first. If that fails, the function returns.

The clients come from `UpdateConfigSettings`, which puts one into a map for each unit, in order.
What the HSM answers is given from outside.
-/

namespace V2XHub.ImmediateForward

open V2XHub.Lib V2XHub.Tmx

/-! ## Configurations -/

inductive RSUSpec
  | RSU_4_1
  | NTCIP_1218
  deriving DecidableEq, Repr

inductive TxMode
  | CONT
  | ALT
  deriving DecidableEq, Repr

def txModeToString : TxMode → String
  | .CONT => "CONT"
  | .ALT => "ALT"

inductive SecurityLevel
  | noAuthNoPriv
  | authNoPriv
  | authPriv
  deriving DecidableEq, Repr

structure SNMPAuth where
  user : String
  securityLevel : SecurityLevel
  community : String
  snmpTimeout : Option Nat := none
  authProtocol : Option String := none
  privProtocol : Option String := none
  authPassPhrase : Option String := none
  privPassPhrase : Option String := none
  deriving DecidableEq, Repr

structure MessageConfig where
  tmxType : String
  sendType : String
  psid : String
  channel : Option Int
  deriving DecidableEq, Repr

structure ImfConfiguration where
  name : String
  spec : RSUSpec
  address : String
  port : Nat
  snmpAuth : Option SNMPAuth := none
  messageConfigs : List MessageConfig
  mode : TxMode := .CONT
  signMessage : Bool
  enableHsm : Option Bool := none
  hsmUrl : Option String := none
  payloadPlaceholder : Option String := none
  deriving DecidableEq, Repr

/-! ## Clients -/

structure UdpClient where
  address : String
  port : Nat
  deriving DecidableEq, Repr

structure SnmpClient where
  address : String
  port : Nat
  snmpAuth : Option SNMPAuth
  deriving DecidableEq, Repr

/-- The rows of the immediate forward table by send type, from 1. A later row takes the place of an
earlier one, and 0 is what is found for no row. -/
def initializeImmediateForwardTable (messageConfigs : List MessageConfig) : String → Nat :=
  (messageConfigs.zipIdx 1).foldl (fun index message =>
    Function.update index message.1.sendType message.2) fun _ => 0

/-- `_udpClientMap`, `_snmpClientMap` and `_imfNtcipMessageTypeIndex`, by the names of the units. -/
structure Connections where
  udpClientMap : String → Option UdpClient
  snmpClientMap : String → Option SnmpClient
  imfNtcipMessageTypeIndex : String → String → Nat

/-- A turn of the loop of `UpdateConfigSettings`. -/
def setUp (s : Connections) (imfConfig : ImfConfiguration) : Connections :=
  match imfConfig.spec with
  | .RSU_4_1 =>
      { s with
        udpClientMap := Function.update s.udpClientMap imfConfig.name
          (some ⟨imfConfig.address, imfConfig.port⟩) }
  | .NTCIP_1218 =>
      { s with
        snmpClientMap := Function.update s.snmpClientMap imfConfig.name
          (some ⟨imfConfig.address, imfConfig.port, imfConfig.snmpAuth⟩)
        imfNtcipMessageTypeIndex := Function.update s.imfNtcipMessageTypeIndex imfConfig.name
          (initializeImmediateForwardTable imfConfig.messageConfigs) }

def connect (imfConfigs : List ImfConfiguration) : Connections :=
  imfConfigs.foldl setUp ⟨fun _ => none, fun _ => none, fun _ _ => 0⟩

/-! ## Messages -/

/-- `RawSpdu`. -/
structure RawSpdu where
  fullByteData : List UInt8 := []
  messageType : String := ""
  deriving DecidableEq, Repr

/-- `IvpMessage`. The payload is read as a string, or as a `RawSpdu`. `channel` is that of
`dsrcMetadata`. -/
structure IvpMessage where
  type : String
  subtype : String
  payload : String := ""
  rawSpdu : RawSpdu := {}
  channel : Int
  deriving DecidableEq, Repr

def isSPDU (msg : IvpMessage) : Bool := msg.type = "SPDU"

/-- `getRawSpdu`, which throws for a message without bytes or without a type. -/
def getRawSpdu (msg : IvpMessage) : Option RawSpdu :=
  if msg.rawSpdu.fullByteData = [] then none
  else if msg.rawSpdu.messageType = "" ∨ msg.rawSpdu.messageType = "Unknown" then none
  else some msg.rawSpdu

def toUpperHex (bytes : List UInt8) : String :=
  (String.ofList ((byteStreamEncode bytes).map fun b => Char.ofNat b.toNat)).toUpper

/-! ## Sending -/

/-- The client that is used for a message, with the row of its table. -/
inductive Route
  | udp (client : UdpClient)
  | ntcip1218 (client : SnmpClient) (index : Nat)
  deriving DecidableEq, Repr

/-- What a client is asked to send. -/
inductive Sent
  | udp (client : UdpClient) (message : String)
  | ntcip1218 (client : SnmpClient) (message : String) (index : Nat) (psid : String)
      (signMessage : Bool)
  deriving DecidableEq, Repr

/-- An RSU and one of its message configurations, with the places that they have in their lists. -/
structure Pair where
  rsu : Nat
  message : Nat
  imfConfig : ImfConfiguration
  messageConfig : MessageConfig
  deriving DecidableEq, Repr

/-- A message sent in the turn of a pair. -/
structure Delivery where
  rsu : Nat
  message : Nat
  sent : Sent
  deriving DecidableEq, Repr

def constructMessageRSU_4_1 (imfConfig : ImfConfiguration) (messageConfig : MessageConfig)
    (msg : IvpMessage) (payloadbyte : String) (signMessage : Bool) : String :=
  "Version=0.7\n" ++ "Type=" ++ messageConfig.sendType ++ "\n" ++
  "PSID=" ++ messageConfig.psid ++ "\n" ++ "Priority=7\n" ++
  "TxMode=" ++ txModeToString imfConfig.mode ++ "\n" ++
  "TxChannel=" ++ toString (messageConfig.channel.getD msg.channel) ++ "\n" ++
  "TxInterval=0\n" ++ "DeliveryStart=\n" ++ "DeliveryStop=\n" ++
  "Signature=" ++ (if signMessage then "True" else "False") ++ "\n" ++
  "Encryption=False\n" ++ "Payload=" ++ payloadbyte ++ "\n"

/-- What goes to a client for a pair. -/
def Pair.deliver (p : Pair) (msg : IvpMessage) (payloadbyte : String) (signMessage : Bool)
    (route : Route) : Delivery where
  rsu := p.rsu
  message := p.message
  sent :=
    match route with
    | .udp client =>
        .udp client
          (constructMessageRSU_4_1 p.imfConfig p.messageConfig msg payloadbyte signMessage)
    | .ntcip1218 client index =>
        .ntcip1218 client payloadbyte index p.messageConfig.psid signMessage

/-- The client under the name of the unit. `at` throws where there is none. -/
def Connections.route (s : Connections) (imfConfig : ImfConfiguration) (sendType : String) :
    Option Route :=
  match imfConfig.spec with
  | .RSU_4_1 => (s.udpClientMap imfConfig.name).map .udp
  | .NTCIP_1218 =>
      (s.snmpClientMap imfConfig.name).map fun client =>
        .ntcip1218 client (s.imfNtcipMessageTypeIndex imfConfig.name sendType)

/-- The plugin, once it has read its configuration. -/
structure Plugin where
  imfConfigs : List ImfConfiguration
  connections : Connections
  connected : connections = connect imfConfigs
  messageCountMap : String → Option Int
  statusThrottle : FrequencyThrottle String
  skippedNoMessageRoute : UInt32
  skippedSignErrorResponse : UInt32
  skippedInvalidSpdu : UInt32
  status : String → Option Int

def Plugin.setStatus (s : Plugin) (key : String) (value : Int) : Plugin :=
  { s with status := Function.update s.status key (some value) }

/-- The connections are made anew, and nothing has been skipped yet. -/
def Plugin.updateConfigSettings (imfConfigs : List ImfConfiguration) (s : Plugin) : Plugin :=
  let s :=
    { s with
      imfConfigs := imfConfigs
      connections := connect imfConfigs
      connected := rfl
      skippedNoMessageRoute := 0
      skippedSignErrorResponse := 0
      skippedInvalidSpdu := 0 }
  ["Messages Skipped (No DSRC metadata)", "Messages Skipped (No route)",
    "Messages Skipped (Invalid UDP Client)", "Message Skipped (Signature Error Response)",
    "Messages Skipped (Invalid SPDU)"].foldl (fun s key => s.setStatus key 0) s

/-- A plugin that has just been started. -/
def Plugin.started (imfConfigs : List ImfConfiguration) : Plugin :=
  Plugin.updateConfigSettings imfConfigs
    { imfConfigs := []
      connections := connect []
      connected := rfl
      messageCountMap := fun _ => none
      statusThrottle := .ofFrequency 2000
      skippedNoMessageRoute := 0
      skippedSignErrorResponse := 0
      skippedInvalidSpdu := 0
      status := fun _ => none }

def Plugin.skipInvalidSpdu (s : Plugin) : Plugin :=
  let s := { s with skippedInvalidSpdu := s.skippedInvalidSpdu + 1 }
  s.setStatus "Messages Skipped (Invalid SPDU)" s.skippedInvalidSpdu.toNat

def Plugin.skipSignError (s : Plugin) : Plugin :=
  let s := { s with skippedSignErrorResponse := s.skippedSignErrorResponse + 1 }
  s.setStatus "Message Skipped (Signature Error Response)" s.skippedSignErrorResponse.toNat

def Plugin.skipNoMessageRoute (s : Plugin) : Plugin :=
  let s := { s with skippedNoMessageRoute := s.skippedNoMessageRoute + 1 }
  s.setStatus "Messages Skipped (No route)" s.skippedNoMessageRoute.toNat

/-- The message is counted under its type, and the count is shown now and then. -/
def Plugin.count (u : ClockUnits) (now : Int) (tmxType : String) (s : Plugin) : Plugin :=
  let msgCount :=
    match s.messageCountMap tmxType with
    | some msgCount => msgCount + 1
    | none => 0
  let (statusThrottle, due) := s.statusThrottle.monitor u tmxType now
  let s :=
    { s with
      messageCountMap := Function.update s.messageCountMap tmxType (some msgCount)
      statusThrottle := statusThrottle }
  if due then s.setStatus tmxType msgCount else s

/-- `SendMessageToRadio` on its way. -/
structure Sending where
  plugin : Plugin
  foundMessageType : Bool
  deliveries : List Delivery

/-- What the HSM makes of the message for a pair, `none` where `SignWithHsm` throws. -/
abbrev Hsm := Pair → Option String

/-- The payload and whether the unit should sign it. -/
def payloadByte (hsm : Hsm) (msg : IvpMessage) (payload : String) (p : Pair) :
    Option (String × Bool) :=
  if isSPDU msg then
    some (payload, false)
  else if p.imfConfig.enableHsm = some true then
    (hsm p).map fun signed => (signed, p.imfConfig.signMessage)
  else
    some (payload, p.imfConfig.signMessage)

/-- Whether net-snmp can put what a client is asked to send into a message. -/
abbrev CreatesPdu := Sent → Bool

/-- `process_snmp_set_requests` throws where it cannot. -/
def Sent.throws (createsPdu : CreatesPdu) (sent : Sent) : Bool :=
  match sent with
  | .udp _ _ => false
  | .ntcip1218 .. => !createsPdu sent

/-- A turn of the inner loop, an error where it leaves the function. -/
def sendTo (hsm : Hsm) (createsPdu : CreatesPdu) (msg : IvpMessage) (tmxType payload : String)
    (s : Sending) (p : Pair) : Except Sending Sending :=
  if p.messageConfig.tmxType ≠ tmxType then
    .ok s
  else
    let s := { s with foundMessageType := true }
    match payloadByte hsm msg payload p with
    | none => .error { s with plugin := s.plugin.skipSignError }
    | some (payloadbyte, signMessage) =>
        match s.plugin.connections.route p.imfConfig p.messageConfig.sendType with
        | none => .error s
        | some route =>
            let delivery := p.deliver msg payloadbyte signMessage route
            if delivery.sent.throws createsPdu then .error s
            else .ok { s with deliveries := s.deliveries ++ [delivery] }

/-- Both loops. -/
def sendToEach (hsm : Hsm) (createsPdu : CreatesPdu) (msg : IvpMessage) (tmxType payload : String)
    (s : Sending) : Except Sending Sending :=
  s.plugin.imfConfigs.zipIdx.foldlM (fun s (imfConfig, rsu) =>
    (imfConfig.messageConfigs.zipIdx.map fun (messageConfig, message) =>
      Pair.mk rsu message imfConfig messageConfig).foldlM
        (sendTo hsm createsPdu msg tmxType payload) s) s

/-- The type of a message and its payload, in upper case. -/
def typeAndPayload (msg : IvpMessage) : Option (String × String) :=
  if isSPDU msg then
    (getRawSpdu msg).map fun rawSpdu => (rawSpdu.messageType, toUpperHex rawSpdu.fullByteData)
  else
    some (msg.subtype, msg.payload.toUpper)

/-- The plugin after the call, and what it has sent. -/
def sendMessageToRadio (u : ClockUnits) (now : Int) (hsm : Hsm) (createsPdu : CreatesPdu)
    (msg : IvpMessage) (s : Plugin) : Plugin × List Delivery :=
  match typeAndPayload msg with
  | none => (s.skipInvalidSpdu, [])
  | some (tmxType, payload) =>
      match sendToEach hsm createsPdu msg tmxType payload ⟨s.count u now tmxType, false, []⟩ with
      | .error t => (t.plugin, t.deliveries)
      | .ok t =>
          if t.foundMessageType then (t.plugin, t.deliveries)
          else (t.plugin.skipNoMessageRoute, t.deliveries)

end V2XHub.ImmediateForward
