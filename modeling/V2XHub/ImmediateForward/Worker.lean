import Std.Data.String.ToInt
import Std.Data.String.ToNat
import V2XHub.ImmediateForward.Plugin
import V2XHub.Lib.Outside

/-!
# The worker for NTCIP 1218 units

A unit of this kind holds its messages in the rows of a table. The worker empties the table, makes
a row for each message configuration and writes what is to be broadcast into a row, all through an
SNMP client. What the network and the units answer is given from outside, as a `Network`.
-/

namespace V2XHub.ImmediateForward

open V2XHub.Lib V2XHub.Lib.Outside

variable {σ : Type}

/-! ## The objects of a unit -/

def rsuModeOid : String := "1.3.6.1.4.1.1206.4.2.18.16.2.0"
def maxRsuIFMs : String := "1.3.6.1.4.1.1206.4.2.18.4.1.0"
def rsuIFMPsidOid : String := "1.3.6.1.4.1.1206.4.2.18.4.2.1.2"
def rsuIFMTxChannelOid : String := "1.3.6.1.4.1.1206.4.2.18.4.2.1.3"
def rsuIFMEnableOid : String := "1.3.6.1.4.1.1206.4.2.18.4.2.1.4"
def rsuIFMStatusOid : String := "1.3.6.1.4.1.1206.4.2.18.4.2.1.5"
def rsuIFMPriorityOid : String := "1.3.6.1.4.1.1206.4.2.18.4.2.1.6"
def rsuIFMOptionsOid : String := "1.3.6.1.4.1.1206.4.2.18.4.2.1.7"
def rsuIFMPayloadOid : String := "1.3.6.1.4.1.1206.4.2.18.4.2.1.8"

/-- The object of a column in a row of the table. -/
def inRow (oid : String) (index : Nat) : String := oid ++ "." ++ toString index

/-! ## Clients -/

inductive Exception
  /-- `TmxException` -/
  | tmx (what : String)
  /-- `snmp_client_exception` -/
  | snmp (what : String)
  /-- an exception of the JSON library -/
  | json (what : String)
  /-- `std::bad_optional_access` -/
  | badOptionalAccess
  deriving DecidableEq, Repr

/-- `snmp_request`. -/
structure SnmpRequest where
  oid : String
  type : Char
  value : String
  deriving DecidableEq, Repr

/-- What is outside of the plugin. -/
structure Network (σ : Type) where
  /-- whether an address can be resolved -/
  validate_address : String → σ → Bool × σ
  /-- whether a key can be made of a pass phrase, for a protocol -/
  generate_Ku : String → String → σ → Bool × σ
  /-- whether a session is opened -/
  snmp_open : SnmpClient → σ → Bool × σ
  /-- whether a socket is made, or why not -/
  socket : String → Nat → σ → Option String × σ
  /-- the answer to a request for an object, if there is one, with its value, if it is an integer -/
  get : SnmpClient → String → σ → Option (Option Int) × σ
  /-- whether an object is set -/
  set : SnmpClient → SnmpRequest → σ → Bool × σ
  /-- whether all of the objects are set, or how many of them could not be put into a message -/
  set_requests : SnmpClient → List SnmpRequest → σ → Except Nat Bool × σ

/-- The optional value has to be there. -/
def value {α : Type} : Option α → Outside Exception σ α := valueOr .badOptionalAccess

variable (net : Network σ)

def newUdpClient (address : String) (port : Nat) : Outside Exception σ UdpClient := do
  match ← ask (net.socket address port) with
  | none => pure ⟨address, port⟩
  | some what => throw (.tmx what)

def authProtocols : List String := ["MD5", "SHA", "SHA-224", "SHA-256", "SHA-384", "SHA-512"]

def privProtocols : List String :=
  ["DES", "AES", "AES-128", "AES-192", "AES-256", "AES-192-Cisco", "AES-256-Cisco"]

def setAuthentication (authProtocol authPassPhrase : String) : Outside Exception σ Unit := do
  throwUnless (authProtocol ∈ authProtocols)
    (.snmp ("Invalid authentication protocol " ++ authProtocol ++ " !"))
  let success ← ask (net.generate_Ku authProtocol authPassPhrase)
  throwUnless success (.snmp "Error generating Ku from authentication pass phrase.")

/-- The key for privacy is made with the protocol for authentication. -/
def setPrivacy (authProtocol privProtocol privPassPhrase : String) :
    Outside Exception σ Unit := do
  throwUnless (privProtocol ∈ privProtocols)
    (.snmp ("Invalid privacy protocol " ++ privProtocol ++ " !"))
  let success ← ask (net.generate_Ku authProtocol privPassPhrase)
  throwUnless success (.snmp "Error generating Ku from privacy pass phrase.")

/-- What the constructor does at a security level. -/
def setSecurity (securityLevel : SecurityLevel)
    (authProtocol authPassPhrase privProtocol privPassPhrase : String) : Outside Exception σ Unit :=
  match securityLevel with
  | .noAuthNoPriv => pure ()
  | .authNoPriv => setAuthentication net authProtocol authPassPhrase
  | .authPriv => do
      setAuthentication net authProtocol authPassPhrase
      setPrivacy net authProtocol privProtocol privPassPhrase

/-- The constructor of `snmp_client`. -/
def newSnmpClient (client : SnmpClient) (securityLevel : SecurityLevel)
    (authProtocol authPassPhrase privProtocol privPassPhrase : String) :
    Outside Exception σ Unit := do
  let resolved ← ask (net.validate_address client.address)
  throwUnless resolved (.snmp ("Invalid IP address " ++ client.address))
  setSecurity net securityLevel authProtocol authPassPhrase privProtocol privPassPhrase
  let opened ← ask (net.snmp_open client)
  throwUnless opened (.snmp "Failed to establish session with target device")

def process_snmp_set_requests (client : SnmpClient) (requests : List SnmpRequest) :
    Outside Exception σ Bool := do
  match ← ask (net.set_requests client requests) with
  | .ok success => pure success
  | .error failures =>
      throw (.snmp ("Encountered " ++ toString failures ++ " failures while creating PDU"))

/-! ## The mode of a unit -/

def setRSUMode (client : SnmpClient) (mode : Nat) : Outside Exception σ Unit := do
  let operational ← ask (net.set client ⟨rsuModeOid, 'i', toString mode⟩)
  throwUnless operational (.tmx "Failed to set RSU to operational mode")

/-- The mode that is read, or the one read before if the answer is no integer. -/
def getRSUMode (client : SnmpClient) (mode : Int) : Outside Exception σ Int := do
  match ← ask (net.get client rsuModeOid) with
  | none => throw (.tmx "Failed to get RSU to operational mode")
  | some answer => pure (answer.getD mode)

/-- The turns of the loop after its first one. -/
def retryRSUMode (client : SnmpClient) : Nat → Int → Outside Exception σ Int
  | 0, mode => pure mode
  | retry + 1, mode =>
      if mode = 2 then pure mode
      else do
        let mode ← getRSUMode net client mode
        retryRSUMode client retry mode

def waitForRSUModeStandby (client : SnmpClient) (retry : UInt32) : Outside Exception σ Unit := do
  let mode ← getRSUMode net client 0
  let mode ← retryRSUMode net client (retry - 1).toNat mode
  throwUnless (mode = 2) (.tmx "Failed to set RSU Mode to Standby(2)")

/-! ## The table -/

def stripPsidPrefix (psid : String) : String :=
  if 'x' ∈ psid.toList then String.ofList ((psid.toList.dropWhile (· ≠ 'x')).drop 1) else psid

def getPSIDWithoutPrefix (psid : String) : Outside Exception σ String := do
  throwUnless ('x' ∈ psid.toList)
    (.tmx ("Message PSID " ++ psid ++ " is malformed and should be formated 0x<PSID HEX>"))
  pure (stripPsidPrefix psid)

/-- Rows are deleted up to the first one for which it fails. -/
def clearRows (client : SnmpClient) : Nat → Nat → Outside Exception σ Unit
  | 0, _ => pure ()
  | rows + 1, curIndex => do
      if ← ask (net.set client ⟨inRow rsuIFMStatusOid curIndex, 'i', "6"⟩) then
        clearRows client rows (curIndex + 1)

def clearImmediateForwardTable (client : SnmpClient) : Outside Exception σ Unit := do
  match ← ask (net.get client maxRsuIFMs) with
  | none => pure ()
  | some maxImfs => clearRows net client (maxImfs.getD 0).toNat 1

/-- What makes a row. The placeholder is not to be sent, so the row is not enabled. -/
def rowRequests (curIndex : Nat) (psid : String) (channel : Int) (signMessages : Bool)
    (payloadPlaceholder : String) : List SnmpRequest := [
  ⟨inRow rsuIFMPsidOid curIndex, 'x', psid⟩,
  ⟨inRow rsuIFMTxChannelOid curIndex, 'i', toString channel⟩,
  ⟨inRow rsuIFMPayloadOid curIndex, 'x', payloadPlaceholder⟩,
  ⟨inRow rsuIFMEnableOid curIndex, 'i', "0"⟩,
  ⟨inRow rsuIFMStatusOid curIndex, 'i', "4"⟩,
  ⟨inRow rsuIFMPriorityOid curIndex, 'i', "6"⟩,
  ⟨inRow rsuIFMOptionsOid curIndex, 'x', if signMessages then "80" else "00"⟩]

/-- A turn of the loop of `initializeImmediateForwardTable`. -/
def createRow (client : SnmpClient) (signMessages : Bool) (payloadPlaceholder : String)
    (index : String → Nat) (message : MessageConfig × Nat) :
    Outside Exception σ (String → Nat) := do
  let psid ← getPSIDWithoutPrefix message.1.psid
  let channel ← value message.1.channel
  let success ← process_snmp_set_requests net client
    (rowRequests message.2 psid channel signMessages payloadPlaceholder)
  throwUnless success (.tmx ("Failed to create IMF row " ++ toString message.2))
  pure (Function.update index message.1.sendType message.2)

/-- `initializeImmediateForwardTable`, with the requests that make the rows. -/
def createImmediateForwardTable (client : SnmpClient) (messageConfigs : List MessageConfig)
    (signMessages : Bool) (payloadPlaceholder : String) : Outside Exception σ (String → Nat) :=
  (messageConfigs.zipIdx 1).foldlM (createRow net client signMessages payloadPlaceholder) fun _ => 0

/-- What `sendNTCIP1218ImfMessage` asks for. -/
def messageRequests (message : String) (index : Nat) (psid : String) (signMessage : Bool) :
    List SnmpRequest := [
  ⟨inRow rsuIFMPsidOid index, 'x', stripPsidPrefix psid⟩,
  ⟨inRow rsuIFMOptionsOid index, 'x', if signMessage then "80" else "00"⟩,
  ⟨inRow rsuIFMPayloadOid index, 'x', message⟩,
  ⟨inRow rsuIFMEnableOid index, 'i', "1"⟩]

def sendNTCIP1218ImfMessage (client : SnmpClient) (message : String) (index : Nat) (psid : String)
    (signMessage : Bool) : Outside Exception σ Unit := do
  let _ ← process_snmp_set_requests net client (messageRequests message index psid signMessage)

/-! ## What the worker leaves -/

variable {net} {client : SnmpClient} {signMessages : Bool} {payloadPlaceholder : String}
  {index index' : String → Nat} {message : MessageConfig × Nat} {s t : σ}

theorem getPSIDWithoutPrefix_ok {psid psid' : String}
    (h : outcome (getPSIDWithoutPrefix psid) s = (.ok psid', t)) :
    'x' ∈ psid.toList ∧ psid' = stripPsidPrefix psid ∧ t = s := by
  obtain ⟨_, u, hcheck, hrest⟩ := outcome_bind_ok.mp h
  obtain ⟨hx, rfl⟩ := throwUnless_ok.mp hcheck
  cases hrest
  exact ⟨hx, rfl, rfl⟩

theorem process_snmp_set_requests_ok {requests : List SnmpRequest} {success : Bool}
    (h : outcome (process_snmp_set_requests net client requests) s = (.ok success, t)) :
    net.set_requests client requests s = (.ok success, t) := by
  obtain ⟨answer, u, hask, hrest⟩ := outcome_bind_ok.mp h
  cases hask
  cases hanswer : (net.set_requests client requests s).1 with
  | error failures =>
      rw [hanswer] at hrest
      exact nomatch congrArg Prod.fst hrest
  | ok success' =>
      rw [hanswer] at hrest
      cases hrest
      exact Prod.ext hanswer rfl

/-- A row that has been made. -/
theorem createRow_ok
    (h : outcome (createRow net client signMessages payloadPlaceholder index message) s =
      (.ok index', t)) :
    'x' ∈ message.1.psid.toList ∧ ∃ channel, message.1.channel = some channel ∧
      net.set_requests client (rowRequests message.2 (stripPsidPrefix message.1.psid) channel
        signMessages payloadPlaceholder) s = (.ok true, t) ∧
      index' = Function.update index message.1.sendType message.2 := by
  obtain ⟨psid, s₁, hpsid, hrest₁⟩ := outcome_bind_ok.mp h
  obtain ⟨hx, rfl, rfl⟩ := getPSIDWithoutPrefix_ok hpsid
  obtain ⟨channel, s₂, hvalue, hrest₂⟩ := outcome_bind_ok.mp hrest₁
  obtain ⟨hchannel, rfl⟩ := valueOr_ok.mp hvalue
  obtain ⟨success, s₃, hsuccess, hrest₃⟩ := outcome_bind_ok.mp hrest₂
  obtain ⟨_, s₄, hcreated, hrest₄⟩ := outcome_bind_ok.mp hrest₃
  obtain ⟨rfl, rfl⟩ := throwUnless_ok.mp hcreated
  cases hrest₄
  exact ⟨hx, channel, hchannel, process_snmp_set_requests_ok hsuccess, rfl⟩

/-- Whether the requests for a message can be put into an SNMP message, in a network. -/
def Network.createsPdu (net : Network σ) (s : σ) : CreatesPdu
  | .udp _ _ => true
  | .ntcip1218 client message index psid signMessage =>
      (net.set_requests client (messageRequests message index psid signMessage) s).1.isOk

/-- Where they cannot, sending throws. -/
theorem throws_createsPdu_iff {text psid : String} {row : Nat} {signMessage : Bool} :
    (Sent.ntcip1218 client text row psid signMessage).throws (net.createsPdu s) = true ↔
      ∃ e t, outcome (sendNTCIP1218ImfMessage net client text row psid signMessage) s =
        (.error e, t) := by
  unfold sendNTCIP1218ImfMessage process_snmp_set_requests
  rw [outcome_bind, outcome_bind, outcome_ask]
  simp only [Sent.throws, Network.createsPdu]
  cases (net.set_requests client (messageRequests text row psid signMessage) s).1 with
  | error failures => simp [Except.isOk, Except.toBool]
  | ok success => simp [Except.isOk, Except.toBool]

/-- Sending a message is one message of requests, whatever comes of it. -/
theorem outcome_sendNTCIP1218ImfMessage (text : String) (row : Nat) (psid : String)
    (signMessage : Bool) :
    (outcome (sendNTCIP1218ImfMessage net client text row psid signMessage) s).2 =
      (net.set_requests client (messageRequests text row psid signMessage) s).2 := by
  unfold sendNTCIP1218ImfMessage process_snmp_set_requests
  rw [outcome_bind, outcome_bind, outcome_ask]
  cases (net.set_requests client (messageRequests text row psid signMessage) s).1 <;> rfl

end V2XHub.ImmediateForward
