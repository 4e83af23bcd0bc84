import V2XHub.ImmediateForward.Worker

/-!
# Reading the configuration

The configuration of the plugin is a JSON text, an array with an object for each unit. Which members
are read depends on the protocol of the unit, and for the login of an NTCIP 1218 unit on its security
level. What is not read stays unset.

The JSON library is given from outside, as the functions of it that are used.
-/

namespace V2XHub.ImmediateForward

/-- The JSON library, with its values. A conversion that is not possible throws. -/
structure JsonCpp (V : Type) where
  /-- the value of a text, or the formatted errors -/
  parse : String → Except String V
  isArray : V → Bool
  isObject : V → Bool
  isString : V → Bool
  isBool : V → Bool
  isInt : V → Bool
  isUInt : V → Bool
  /-- the elements of an array -/
  elements : V → List V
  /-- the member of an object, null if there is none -/
  member : V → String → V
  asString : V → Except String String
  asBool : V → Except String Bool
  asInt : V → Except String Int
  asUInt : V → Except String Nat

variable {V : Type} (json : JsonCpp V)

def JsonCpp.string (v : V) (key : String) : Except Exception String :=
  (json.asString (json.member v key)).mapError .json

def JsonCpp.bool (v : V) (key : String) : Except Exception Bool :=
  (json.asBool (json.member v key)).mapError .json

def JsonCpp.int (v : V) (key : String) : Except Exception Int :=
  (json.asInt (json.member v key)).mapError .json

def JsonCpp.uint (v : V) (key : String) : Except Exception Nat :=
  (json.asUInt (json.member v key)).mapError .json

/-! ## Enumerations -/

def stringToRSUSpec (spec : String) : Except Exception RSUSpec :=
  if spec = "RSU4.1" then .ok .RSU_4_1
  else if spec = "NTCIP1218" then .ok .NTCIP_1218
  else .error (.tmx ("RSU Specification " ++ spec ++ " is not supported!"))

def stringToTxMode (mode : String) : Except Exception TxMode :=
  if mode = "CONT" then .ok .CONT
  else if mode = "ALT" then .ok .ALT
  else .error (.tmx ("TxMode " ++ mode ++ " is not supported!"))

def stringToSecurityLevel (level : String) : Except Exception SecurityLevel :=
  if level = "noAuthNoPriv" then .ok .noAuthNoPriv
  else if level = "authNoPriv" then .ok .authNoPriv
  else if level = "authPriv" then .ok .authPriv
  else .error (.tmx ("SecurityLevel " ++ level ++ " is not supported!"))

/-! ## The parser -/

/-- A value that has to be there, or the exception. -/
def check (p : Bool) (what : String) : Except Exception Unit :=
  if p then .ok () else .error (.tmx what)

/-- The channel, and the default value if it is no integer. -/
def parseChannel (message : V) : Except Exception Int :=
  if json.isInt (json.member message "channel") then json.int message "channel" else pure 183

def parseMessage (message : V) : Except Exception MessageConfig := do
  check (json.isObject message)
    "Error parsing Immediate Forward configuration: Messages element is not an object!"
  let tmxType ← json.string message "tmxType"
  let sendType ← json.string message "sendType"
  let psid ← json.string message "psid"
  let channel ← parseChannel json message
  pure { tmxType, sendType, psid, channel := some channel }

def parseSnmpTimeout (snmpAuth : V) : Except Exception (Option Nat) :=
  if json.isUInt (json.member snmpAuth "snmpTimeout") then
    some <$> json.uint snmpAuth "snmpTimeout"
  else pure none

/-- A member that is read at some security levels only. -/
def parseAt (p : Bool) (snmpAuth : V) (key : String) : Except Exception (Option String) :=
  if p then some <$> json.string snmpAuth key else pure none

def parseSNMPAuth (snmpAuth : V) : Except Exception SNMPAuth := do
  check (json.isObject snmpAuth)
    "Error parsing Immediate Forward configuration: SNMPAuth is not an object!"
  let user ← json.string snmpAuth "user"
  let securityLevel ← (json.string snmpAuth "securityLevel").bind stringToSecurityLevel
  let community ← json.string snmpAuth "community"
  let snmpTimeout ← parseSnmpTimeout json snmpAuth
  let authProtocol ← parseAt json (securityLevel ≠ .noAuthNoPriv) snmpAuth "authProtocol"
  let authPassPhrase ← parseAt json (securityLevel ≠ .noAuthNoPriv) snmpAuth "authPassPhrase"
  let privProtocol ← parseAt json (securityLevel = .authPriv) snmpAuth "privacyProtocol"
  let privPassPhrase ← parseAt json (securityLevel = .authPriv) snmpAuth "privacyPassPhrase"
  pure { user, securityLevel, community, snmpTimeout, authProtocol, privProtocol, authPassPhrase,
         privPassPhrase }

def parseSnmpAuthOf (spec : RSUSpec) (imfConfig : V) : Except Exception (Option SNMPAuth) :=
  match spec with
  | .RSU_4_1 => pure none
  | .NTCIP_1218 => some <$> parseSNMPAuth json (json.member imfConfig "snmpAuth")

/-- `enableHsm` and `hsmUrl`. The address is read for every value of `enableHsm`, since it is asked
whether the optional is set. -/
def parseHsm (imfConfig : V) : Except Exception (Option Bool × Option String) :=
  if json.isBool (json.member imfConfig "enableHsm") then do
    let enableHsm ← json.bool imfConfig "enableHsm"
    let hsmUrl ← json.string imfConfig "hsmUrl"
    pure (some enableHsm, some hsmUrl)
  else pure (none, none)

def parsePayloadPlaceholder (imfConfig : V) : Except Exception (Option String) :=
  if json.isString (json.member imfConfig "payloadPlaceholder") then
    some <$> json.string imfConfig "payloadPlaceholder"
  else pure none

def parseImfConfiguration (imfConfig : V) : Except Exception ImfConfiguration := do
  check (json.isObject imfConfig)
    "Error parsing Immediate Forward configuration: ImfConfig is not an object!"
  let name ← json.string imfConfig "name"
  let address ← json.string imfConfig "address"
  let port ← json.uint imfConfig "port"
  let spec ← (json.string imfConfig "rsuSpec").bind stringToRSUSpec
  let snmpAuth ← parseSnmpAuthOf json spec imfConfig
  let mode ← (json.string imfConfig "txMode").bind stringToTxMode
  let signMessage ← json.bool imfConfig "signMessages"
  let hsm ← parseHsm json imfConfig
  let payloadPlaceholder ← parsePayloadPlaceholder json imfConfig
  let messages := json.member imfConfig "messages"
  check (json.isArray messages)
    "Error parsing Immediate Forward configuration: Messages is not an array!"
  let messageConfigs ← (json.elements messages).mapM (parseMessage json)
  pure { name, spec, address, port, snmpAuth, messageConfigs, mode, signMessage,
         enableHsm := hsm.1, hsmUrl := hsm.2, payloadPlaceholder }

def parseImmediateForwardConfiguration (config : String) :
    Except Exception (List ImfConfiguration) := do
  let root ← (json.parse config).mapError fun errors =>
    .tmx ("Error parsing Immediate Forward Configuration: " ++ errors)
  check (json.isArray root)
    "Error parsing Immediate Forward Configuration: Root element is not an array!"
  (json.elements root).mapM (parseImfConfiguration json)

/-! ## What the parser leaves -/

/-- The members of a login that its security level asks for are set, and no others. -/
structure SNMPAuth.Parsed (auth : SNMPAuth) : Prop where
  authProtocol : auth.authProtocol.isSome ↔ auth.securityLevel ≠ .noAuthNoPriv
  authPassPhrase : auth.authPassPhrase.isSome ↔ auth.securityLevel ≠ .noAuthNoPriv
  privProtocol : auth.privProtocol.isSome ↔ auth.securityLevel = .authPriv
  privPassPhrase : auth.privPassPhrase.isSome ↔ auth.securityLevel = .authPriv

/-- A unit as it is read. -/
structure ImfConfiguration.Parsed (imfConfig : ImfConfiguration) : Prop where
  snmpAuth : imfConfig.spec = .NTCIP_1218 → ∃ auth, imfConfig.snmpAuth = some auth ∧ auth.Parsed
  channels : ∀ m ∈ imfConfig.messageConfigs, m.channel.isSome = true

theorem except_bind_ok {α β : Type} {x : Except Exception α} {f : α → Except Exception β} {b : β} :
    x >>= f = .ok b ↔ ∃ a, x = .ok a ∧ f a = .ok b := by
  constructor
  · intro h
    cases x with
    | ok a => exact ⟨a, rfl, h⟩
    | error e => cases h
  · rintro ⟨a, rfl, h⟩
    exact h

theorem except_map_ok {α β : Type} {f : α → β} {x : Except Exception α} {b : β} :
    f <$> x = .ok b ↔ ∃ a, x = .ok a ∧ f a = b := by
  constructor
  · intro h
    cases x with
    | ok a => exact ⟨a, rfl, Except.ok.inj h⟩
    | error e => cases h
  · rintro ⟨a, rfl, rfl⟩
    rfl

theorem isSome_parseAt {p : Bool} {snmpAuth : V} {key : String} {member : Option String}
    (h : parseAt json p snmpAuth key = .ok member) : member.isSome ↔ p = true := by
  unfold parseAt at h
  cases p with
  | true =>
      rw [if_pos rfl] at h
      obtain ⟨text, -, rfl⟩ := except_map_ok.mp h
      simp
  | false =>
      cases h
      simp

/-- What is read of a list is read of its elements. -/
theorem exists_of_mem_mapM {α β : Type} {f : α → Except Exception β} {l : List α} {l' : List β}
    (h : l.mapM f = .ok l') {b : β} (hb : b ∈ l') : ∃ a ∈ l, f a = .ok b := by
  induction l generalizing l' with
  | nil =>
      cases h
      exact absurd hb List.not_mem_nil
  | cons a l ih =>
      rw [List.mapM_cons] at h
      obtain ⟨b', hb', hrest⟩ := except_bind_ok.mp h
      obtain ⟨rest, htail, heq⟩ := except_bind_ok.mp hrest
      cases heq
      rcases List.mem_cons.mp hb with rfl | hb
      · exact ⟨a, List.mem_cons_self, hb'⟩
      · obtain ⟨a', ha', hfa⟩ := ih htail hb
        exact ⟨a', List.mem_cons_of_mem a ha', hfa⟩

variable {json}

theorem parsed_parseSNMPAuth {v : V} {auth : SNMPAuth} (h : parseSNMPAuth json v = .ok auth) :
    auth.Parsed := by
  obtain ⟨_, -, h⟩ := except_bind_ok.mp h
  obtain ⟨user, -, h⟩ := except_bind_ok.mp h
  obtain ⟨securityLevel, -, h⟩ := except_bind_ok.mp h
  obtain ⟨community, -, h⟩ := except_bind_ok.mp h
  obtain ⟨snmpTimeout, -, h⟩ := except_bind_ok.mp h
  obtain ⟨authProtocol, hauthProtocol, h⟩ := except_bind_ok.mp h
  obtain ⟨authPassPhrase, hauthPassPhrase, h⟩ := except_bind_ok.mp h
  obtain ⟨privProtocol, hprivProtocol, h⟩ := except_bind_ok.mp h
  obtain ⟨privPassPhrase, hprivPassPhrase, h⟩ := except_bind_ok.mp h
  cases h
  constructor
  · exact (isSome_parseAt json hauthProtocol).trans decide_eq_true_iff
  · exact (isSome_parseAt json hauthPassPhrase).trans decide_eq_true_iff
  · exact (isSome_parseAt json hprivProtocol).trans decide_eq_true_iff
  · exact (isSome_parseAt json hprivPassPhrase).trans decide_eq_true_iff

theorem isSome_channel_parseMessage {v : V} {m : MessageConfig}
    (h : parseMessage json v = .ok m) : m.channel.isSome = true := by
  obtain ⟨_, -, h⟩ := except_bind_ok.mp h
  obtain ⟨tmxType, -, h⟩ := except_bind_ok.mp h
  obtain ⟨sendType, -, h⟩ := except_bind_ok.mp h
  obtain ⟨psid, -, h⟩ := except_bind_ok.mp h
  obtain ⟨channel, -, h⟩ := except_bind_ok.mp h
  cases h
  rfl

theorem parsed_parseImfConfiguration {v : V} {imfConfig : ImfConfiguration}
    (h : parseImfConfiguration json v = .ok imfConfig) : imfConfig.Parsed := by
  obtain ⟨_, -, h⟩ := except_bind_ok.mp h
  obtain ⟨name, -, h⟩ := except_bind_ok.mp h
  obtain ⟨address, -, h⟩ := except_bind_ok.mp h
  obtain ⟨port, -, h⟩ := except_bind_ok.mp h
  obtain ⟨spec, -, h⟩ := except_bind_ok.mp h
  obtain ⟨snmpAuth, hauth, h⟩ := except_bind_ok.mp h
  obtain ⟨mode, -, h⟩ := except_bind_ok.mp h
  obtain ⟨signMessage, -, h⟩ := except_bind_ok.mp h
  obtain ⟨hsm, -, h⟩ := except_bind_ok.mp h
  obtain ⟨payloadPlaceholder, -, h⟩ := except_bind_ok.mp h
  obtain ⟨_, -, h⟩ := except_bind_ok.mp h
  obtain ⟨messageConfigs, hmessages, h⟩ := except_bind_ok.mp h
  cases h
  constructor
  · rintro rfl
    obtain ⟨auth, hparsed, hsome⟩ := except_map_ok.mp hauth
    exact ⟨auth, hsome.symm, parsed_parseSNMPAuth hparsed⟩
  · intro m hm
    obtain ⟨message, -, hparsed⟩ := exists_of_mem_mapM hmessages hm
    exact isSome_channel_parseMessage hparsed

/-- **What the parser leaves**: a unit has a login if its protocol needs one, with the members that
its security level asks for, and each of its messages has a channel. -/
theorem parsed_of_parse {config : String} {imfConfigs : List ImfConfiguration}
    (h : parseImmediateForwardConfiguration json config = .ok imfConfigs) :
    ∀ imfConfig ∈ imfConfigs, imfConfig.Parsed := by
  obtain ⟨root, -, h⟩ := except_bind_ok.mp h
  obtain ⟨_, -, h⟩ := except_bind_ok.mp h
  intro imfConfig hmem
  obtain ⟨element, -, hparsed⟩ := exists_of_mem_mapM h hmem
  exact parsed_parseImfConfiguration hparsed

end V2XHub.ImmediateForward
