import V2XHub.ImmediateForward.Configuration
import V2XHub.ImmediateForward.FanOut
import V2XHub.Lib.JsonText

/-!
# Setting up the units

`UpdateConfigSettings` reads the configuration and sets the units up one after the other. Any step
may throw, and what has been done until then stays. For an NTCIP 1218 unit the settings of the login
are taken as if all of them were set, which the parser ensures for one security level only.
-/

namespace V2XHub.ImmediateForward

open V2XHub.Lib V2XHub.Lib.Outside
open V2XHub.Lib.JsonText (toList_append_of toList_of_ofList)

variable {σ V : Type} {json : JsonCpp V}

/-! ## The update -/

/-- What an update changes, and what it leaves when it throws. -/
structure Settings where
  imfConfigs : List ImfConfiguration := []
  connections : Connections := connect []
  configRead : Bool := false

def Settings.addUdpClient (name : String) (client : UdpClient) (s : Settings) : Settings :=
  { s with
    connections := { s.connections with
      udpClientMap := Function.update s.connections.udpClientMap name (some client) } }

def Settings.addSnmpClient (name : String) (client : SnmpClient) (s : Settings) : Settings :=
  { s with
    connections := { s.connections with
      snmpClientMap := Function.update s.connections.snmpClientMap name (some client) } }

def Settings.addIndex (name : String) (index : String → Nat) (s : Settings) : Settings :=
  { s with
    connections := { s.connections with
      imfNtcipMessageTypeIndex :=
        Function.update s.connections.imfNtcipMessageTypeIndex name index } }

/-- The client of an NTCIP 1218 unit, with the values of the login. -/
def connectSnmpClient (net : Network σ) (imfConfig : ImfConfiguration) :
    Outside Exception σ SnmpClient := do
  let snmpAuth ← value imfConfig.snmpAuth
  let authProtocol ← value snmpAuth.authProtocol
  let authPassPhrase ← value snmpAuth.authPassPhrase
  let privProtocol ← value snmpAuth.privProtocol
  let privPassPhrase ← value snmpAuth.privPassPhrase
  let client : SnmpClient := ⟨imfConfig.address, imfConfig.port, imfConfig.snmpAuth⟩
  newSnmpClient net client snmpAuth.securityLevel authProtocol authPassPhrase privProtocol
    privPassPhrase
  pure client

/-- The unit is made ready for its rows. -/
def standBy (net : Network σ) (client : SnmpClient) : Outside Exception σ Unit := do
  setRSUMode net client 2
  waitForRSUModeStandby net client 12
  clearImmediateForwardTable net client

/-- A turn of the loop of `UpdateConfigSettings`. -/
def setUpUnit (net : Network σ) (imfConfig : ImfConfiguration) :
    Outside Exception (Settings × σ) Unit :=
  match imfConfig.spec with
  | .RSU_4_1 => do
      let client ← onSecond (newUdpClient net imfConfig.address imfConfig.port)
      changeFirst (Settings.addUdpClient imfConfig.name client)
  | .NTCIP_1218 => do
      let client ← onSecond (connectSnmpClient net imfConfig)
      changeFirst (Settings.addSnmpClient imfConfig.name client)
      onSecond (standBy net client)
      let index ← onSecond (createImmediateForwardTable net client imfConfig.messageConfigs
        imfConfig.signMessage (imfConfig.payloadPlaceholder.getD "FFFF"))
      changeFirst (Settings.addIndex imfConfig.name index)
      onSecond (setRSUMode net client 3)

def setUpUnits (net : Network σ) (imfConfigs : List ImfConfiguration) :
    Outside Exception (Settings × σ) Unit :=
  imfConfigs.foldlM (fun _ imfConfig => setUpUnit net imfConfig) ()

def updateConfigSettings (json : JsonCpp V) (net : Network σ)
    (immediateForwardConfigurations : String) : Outside Exception (Settings × σ) Unit := do
  changeFirst fun s => { s with imfConfigs := [] }
  match parseImmediateForwardConfiguration json immediateForwardConfigurations with
  | .error e => throw e
  | .ok imfConfigs =>
      changeFirst fun s => { s with imfConfigs := imfConfigs, connections := connect [] }
      setUpUnits net imfConfigs
      changeFirst fun s => { s with configRead := true }

/-! ## Values that are not set -/

/-- An NTCIP 1218 unit has the security level at which all settings of the login are read. -/
def Complete (imfConfig : ImfConfiguration) : Prop :=
  imfConfig.spec = .NTCIP_1218 →
    ∃ auth, imfConfig.snmpAuth = some auth ∧ auth.securityLevel = .authPriv

/-- The set-up of an NTCIP 1218 unit fails, whatever the network answers: a protocol of the login is
not known, or a PSID has no prefix. -/
structure Refused (imfConfig : ImfConfiguration) : Prop where
  spec : imfConfig.spec = .NTCIP_1218
  reason :
    (∃ auth, imfConfig.snmpAuth = some auth ∧
      (auth.authProtocol.getD "" ∉ authProtocols ∨ auth.privProtocol.getD "" ∉ privProtocols)) ∨
    ∃ m ∈ imfConfig.messageConfigs, 'x' ∉ m.psid.toList

/-- The units up to the first one that is refused are complete. -/
def Usable : List ImfConfiguration → Prop
  | [] => True
  | imfConfig :: imfConfigs => Complete imfConfig ∧ (Refused imfConfig ∨ Usable imfConfigs)

/-- An exception for another reason than an optional that is not set. -/
def Exception.Other (e : Exception) : Prop := e ≠ .badOptionalAccess

theorem onlyOther_newUdpClient (net : Network σ) (address : String) (port : Nat) :
    OnlyThrows Exception.Other (newUdpClient net address port) := by
  unfold newUdpClient
  refine OnlyThrows.bind (onlyThrows_ask _) ?_
  rintro (_ | what)
  · exact onlyThrows_pure _
  · exact onlyThrows_throw nofun

theorem onlyOther_setAuthentication (net : Network σ) (authProtocol authPassPhrase : String) :
    OnlyThrows Exception.Other (setAuthentication net authProtocol authPassPhrase) := by
  unfold setAuthentication
  refine OnlyThrows.bind (onlyThrows_throwUnless fun _ => nofun) fun _ => ?_
  refine OnlyThrows.bind (onlyThrows_ask _) fun success => ?_
  exact onlyThrows_throwUnless fun _ => nofun

theorem onlyOther_setPrivacy (net : Network σ) (authProtocol privProtocol privPassPhrase : String) :
    OnlyThrows Exception.Other (setPrivacy net authProtocol privProtocol privPassPhrase) := by
  unfold setPrivacy
  refine OnlyThrows.bind (onlyThrows_throwUnless fun _ => nofun) fun _ => ?_
  refine OnlyThrows.bind (onlyThrows_ask _) fun success => ?_
  exact onlyThrows_throwUnless fun _ => nofun

theorem onlyOther_newSnmpClient (net : Network σ) (client : SnmpClient)
    (securityLevel : SecurityLevel)
    (authProtocol authPassPhrase privProtocol privPassPhrase : String) :
    OnlyThrows Exception.Other (newSnmpClient net client securityLevel authProtocol authPassPhrase privProtocol
      privPassPhrase) := by
  unfold newSnmpClient
  refine OnlyThrows.bind (onlyThrows_ask _) fun resolved => ?_
  refine OnlyThrows.bind (onlyThrows_throwUnless fun _ => nofun) fun _ => ?_
  refine OnlyThrows.bind ?_ fun _ => ?_
  · cases securityLevel with
    | noAuthNoPriv => exact onlyThrows_pure ()
    | authNoPriv => exact onlyOther_setAuthentication net authProtocol authPassPhrase
    | authPriv =>
        unfold setSecurity
        refine OnlyThrows.bind (onlyOther_setAuthentication net authProtocol authPassPhrase) fun _ => ?_
        exact onlyOther_setPrivacy net authProtocol privProtocol privPassPhrase
  · refine OnlyThrows.bind (onlyThrows_ask _) fun opened => ?_
    exact onlyThrows_throwUnless fun _ => nofun

theorem onlyOther_setRSUMode (net : Network σ) (client : SnmpClient) (mode : Nat) :
    OnlyThrows Exception.Other (setRSUMode net client mode) := by
  unfold setRSUMode
  refine OnlyThrows.bind (onlyThrows_ask _) fun operational => ?_
  exact onlyThrows_throwUnless fun _ => nofun

theorem onlyOther_getRSUMode (net : Network σ) (client : SnmpClient) (mode : Int) :
    OnlyThrows Exception.Other (getRSUMode net client mode) := by
  unfold getRSUMode
  refine OnlyThrows.bind (onlyThrows_ask _) ?_
  rintro (_ | answer)
  · exact onlyThrows_throw nofun
  · exact onlyThrows_pure _

theorem onlyOther_retryRSUMode (net : Network σ) (client : SnmpClient) (retry : Nat) (mode : Int) :
    OnlyThrows Exception.Other (retryRSUMode net client retry mode) := by
  induction retry generalizing mode with
  | zero => exact onlyThrows_pure mode
  | succ retry ih =>
      unfold retryRSUMode
      split_ifs
      · exact onlyThrows_pure mode
      · exact OnlyThrows.bind (onlyOther_getRSUMode net client mode) ih

theorem onlyOther_clearRows (net : Network σ) (client : SnmpClient) (rows curIndex : Nat) :
    OnlyThrows Exception.Other (clearRows net client rows curIndex) := by
  induction rows generalizing curIndex with
  | zero => exact onlyThrows_pure ()
  | succ rows ih =>
      unfold clearRows
      refine OnlyThrows.bind (onlyThrows_ask _) ?_
      rintro (_ | _)
      · exact onlyThrows_pure _
      · exact ih (curIndex + 1)

theorem onlyOther_standBy (net : Network σ) (client : SnmpClient) :
    OnlyThrows Exception.Other (standBy net client) := by
  unfold standBy
  refine OnlyThrows.bind (onlyOther_setRSUMode net client 2) fun _ => ?_
  refine OnlyThrows.bind ?_ fun _ => ?_
  · unfold waitForRSUModeStandby
    refine OnlyThrows.bind (onlyOther_getRSUMode net client 0) fun mode => ?_
    refine OnlyThrows.bind (onlyOther_retryRSUMode net client _ mode) fun mode => ?_
    exact onlyThrows_throwUnless fun _ => nofun
  · unfold clearImmediateForwardTable
    refine OnlyThrows.bind (onlyThrows_ask _) ?_
    rintro (_ | maxImfs)
    · exact onlyThrows_pure ()
    · exact onlyOther_clearRows net client _ 1

theorem onlyOther_createImmediateForwardTable (net : Network σ) (client : SnmpClient)
    {messageConfigs : List MessageConfig} (signMessages : Bool) (payloadPlaceholder : String)
    (h : ∀ m ∈ messageConfigs, m.channel.isSome = true) :
    OnlyThrows Exception.Other (createImmediateForwardTable net client messageConfigs signMessages
      payloadPlaceholder) := by
  refine OnlyThrows.foldlM (fun index row hrow => ?_) _
  have hchannel := h row.1 (List.fst_mem_of_mem_zipIdx hrow)
  unfold createRow
  refine OnlyThrows.bind ?_ fun psid => ?_
  · unfold getPSIDWithoutPrefix
    exact OnlyThrows.bind (onlyThrows_throwUnless fun _ => nofun) fun _ => onlyThrows_pure _
  · refine OnlyThrows.bind (onlyThrows_valueOr fun hnone => ?_) fun channel => ?_
    · rw [hnone] at hchannel
      cases hchannel
    · refine OnlyThrows.bind ?_ fun success => ?_
      · unfold process_snmp_set_requests
        refine OnlyThrows.bind (onlyThrows_ask _) ?_
        rintro (failures | success)
        · exact onlyThrows_throw nofun
        · exact onlyThrows_pure success
      · exact OnlyThrows.bind (onlyThrows_throwUnless fun _ => nofun) fun _ => onlyThrows_pure _

/-- The values of a login are all there at the highest security level. -/
theorem exists_values {imfConfig : ImfConfiguration} (hparsed : imfConfig.Parsed)
    (hspec : imfConfig.spec = .NTCIP_1218) (h : Complete imfConfig) :
    ∃ auth authProtocol authPassPhrase privProtocol privPassPhrase,
      imfConfig.snmpAuth = some auth ∧ auth.securityLevel = .authPriv ∧
      auth.authProtocol = some authProtocol ∧ auth.authPassPhrase = some authPassPhrase ∧
      auth.privProtocol = some privProtocol ∧ auth.privPassPhrase = some privPassPhrase := by
  obtain ⟨auth, hauth, hlevel⟩ := h hspec
  obtain ⟨auth', hauth', hmembers⟩ := hparsed.snmpAuth hspec
  obtain rfl := Option.some.inj (hauth.symm.trans hauth')
  have hne : auth.securityLevel ≠ .noAuthNoPriv := by rw [hlevel]; exact nofun
  obtain ⟨authProtocol, h₁⟩ := Option.isSome_iff_exists.mp (hmembers.authProtocol.mpr hne)
  obtain ⟨authPassPhrase, h₂⟩ := Option.isSome_iff_exists.mp (hmembers.authPassPhrase.mpr hne)
  obtain ⟨privProtocol, h₃⟩ := Option.isSome_iff_exists.mp (hmembers.privProtocol.mpr hlevel)
  obtain ⟨privPassPhrase, h₄⟩ := Option.isSome_iff_exists.mp (hmembers.privPassPhrase.mpr hlevel)
  exact ⟨auth, authProtocol, authPassPhrase, privProtocol, privPassPhrase, hauth, hlevel, h₁, h₂,
    h₃, h₄⟩

/-- The client of a unit whose login is all there. -/
theorem connectSnmpClient_eq (net : Network σ) {imfConfig : ImfConfiguration} {auth : SNMPAuth}
    {authProtocol authPassPhrase privProtocol privPassPhrase : String}
    (hauth : imfConfig.snmpAuth = some auth) (h₁ : auth.authProtocol = some authProtocol)
    (h₂ : auth.authPassPhrase = some authPassPhrase) (h₃ : auth.privProtocol = some privProtocol)
    (h₄ : auth.privPassPhrase = some privPassPhrase) :
    connectSnmpClient net imfConfig = (do
      newSnmpClient net ⟨imfConfig.address, imfConfig.port, imfConfig.snmpAuth⟩ auth.securityLevel
        authProtocol authPassPhrase privProtocol privPassPhrase
      pure ⟨imfConfig.address, imfConfig.port, imfConfig.snmpAuth⟩) := by
  unfold connectSnmpClient value
  rw [hauth]
  simp only [valueOr, pure_bind, h₁, h₂, h₃, h₄]

/-- Setting a complete unit up takes no value that is not there. -/
theorem onlyOther_setUpUnit (net : Network σ) {imfConfig : ImfConfiguration}
    (hparsed : imfConfig.Parsed) (h : Complete imfConfig) :
    OnlyThrows Exception.Other (setUpUnit net imfConfig) := by
  unfold setUpUnit
  cases hspec : imfConfig.spec with
  | RSU_4_1 =>
      refine OnlyThrows.bind ?_ fun client => ?_
      · exact (onlyOther_newUdpClient net imfConfig.address imfConfig.port).onSecond
      · exact onlyThrows_changeFirst _
  | NTCIP_1218 =>
      obtain ⟨auth, authProtocol, authPassPhrase, privProtocol, privPassPhrase, hauth, -, h₁, h₂, h₃,
        h₄⟩ := exists_values hparsed hspec h
      refine OnlyThrows.bind (OnlyThrows.onSecond ?_) fun client => ?_
      · rw [connectSnmpClient_eq net hauth h₁ h₂ h₃ h₄]
        refine OnlyThrows.bind ?_ fun _ => onlyThrows_pure _
        exact onlyOther_newSnmpClient net _ _ authProtocol authPassPhrase privProtocol
          privPassPhrase
      refine OnlyThrows.bind (onlyThrows_changeFirst _) fun _ => ?_
      refine OnlyThrows.bind (onlyOther_standBy net client).onSecond fun _ => ?_
      refine OnlyThrows.bind (OnlyThrows.onSecond ?_) fun index => ?_
      · exact onlyOther_createImmediateForwardTable net client _ _ hparsed.channels
      refine OnlyThrows.bind (onlyThrows_changeFirst _) fun _ => ?_
      exact (onlyOther_setRSUMode net client 3).onSecond

/-- The protocols of a login at the highest security level are known if a client is made. -/
theorem protocols_of_newSnmpClient {net : Network σ} {client : SnmpClient}
    {authProtocol authPassPhrase privProtocol privPassPhrase : String} {s t : σ} {a : Unit}
    (h : outcome (newSnmpClient net client .authPriv authProtocol authPassPhrase privProtocol
      privPassPhrase) s = (.ok a, t)) :
    authProtocol ∈ authProtocols ∧ privProtocol ∈ privProtocols := by
  obtain ⟨_, _, -, h₁⟩ := outcome_bind_ok.mp h
  obtain ⟨_, _, -, h₂⟩ := outcome_bind_ok.mp h₁
  obtain ⟨_, _, hsecurity, -⟩ := outcome_bind_ok.mp h₂
  obtain ⟨_, _, hauthentication, hprivacy⟩ := outcome_bind_ok.mp hsecurity
  obtain ⟨_, _, hauth, -⟩ := outcome_bind_ok.mp hauthentication
  obtain ⟨_, _, hpriv, -⟩ := outcome_bind_ok.mp hprivacy
  exact ⟨(throwUnless_ok.mp hauth).1, (throwUnless_ok.mp hpriv).1⟩

/-- A unit that is refused is not set up. -/
theorem not_refused_of_ok {net : Network σ} {imfConfig : ImfConfiguration}
    (hparsed : imfConfig.Parsed) (hcomplete : Complete imfConfig) {s t : Settings × σ} {a : Unit}
    (h : outcome (setUpUnit net imfConfig) s = (.ok a, t)) : ¬ Refused imfConfig := by
  rintro ⟨hspec, hreason⟩
  obtain ⟨auth, authProtocol, authPassPhrase, privProtocol, privPassPhrase, hauth, hlevel, h₁, h₂,
    h₃, h₄⟩ := exists_values hparsed hspec hcomplete
  unfold setUpUnit at h
  rw [hspec] at h
  obtain ⟨client, s₁, hclient, hrest₁⟩ := outcome_bind_ok.mp h
  obtain ⟨_, s₂, -, hrest₂⟩ := outcome_bind_ok.mp hrest₁
  obtain ⟨_, s₃, -, hrest₃⟩ := outcome_bind_ok.mp hrest₂
  obtain ⟨index, s₄, hindex, -⟩ := outcome_bind_ok.mp hrest₃
  rcases hreason with ⟨auth', hauth', hprotocol⟩ | ⟨m, hm, hpsid⟩
  · obtain rfl := Option.some.inj (hauth.symm.trans hauth')
    obtain ⟨u, hconnected, -⟩ := onSecond_ok.mp hclient
    rw [connectSnmpClient_eq net hauth h₁ h₂ h₃ h₄, hlevel] at hconnected
    obtain ⟨_, _, hnew, -⟩ := outcome_bind_ok.mp hconnected
    have hknown := protocols_of_newSnmpClient hnew
    rw [h₁, h₃] at hprotocol
    rcases hprotocol with hprotocol | hprotocol
    · exact hprotocol hknown.1
    · exact hprotocol hknown.2
  · obtain ⟨u, hcreated, -⟩ := onSecond_ok.mp hindex
    obtain ⟨i, hi⟩ := List.mem_iff_getElem?.mp hm
    have hrow : (m, 1 + i) ∈ imfConfig.messageConfigs.zipIdx 1 :=
      List.mk_add_mem_zipIdx_iff_getElem?.mpr hi
    have hall := forall_of_foldlM_ok (Q := fun row : MessageConfig × Nat =>
      'x' ∈ row.1.psid.toList) (fun _ _ _ _ _ hturn => (createRow_ok hturn).1) hcreated
    exact hpsid (hall _ hrow)

/-! ## A network that is willing -/

/-- A network in which everything succeeds, and every unit is in standby. -/
def willing : Network Unit where
  validate_address _ _ := (true, ())
  generate_Ku _ _ _ := (true, ())
  snmp_open _ _ := (true, ())
  socket _ _ _ := (none, ())
  get _ _ _ := (some (some 2), ())
  set _ _ _ := (true, ())
  set_requests _ _ _ := (.ok true, ())

theorem ends_newSnmpClient (client : SnmpClient)
    {authProtocol privProtocol : String} (authPassPhrase privPassPhrase : String)
    (hauth : authProtocol ∈ authProtocols) (hpriv : privProtocol ∈ privProtocols) :
    Ends (newSnmpClient willing client .authPriv authProtocol authPassPhrase privProtocol
      privPassPhrase) := by
  have hauthentication : outcome (setAuthentication willing authProtocol authPassPhrase) () =
      (.ok (), ()) :=
    outcome_bind_ok.mpr ⟨(), (), throwUnless_ok.mpr ⟨hauth, rfl⟩, rfl⟩
  have hprivacy : outcome (setPrivacy willing authProtocol privProtocol privPassPhrase) () =
      (.ok (), ()) :=
    outcome_bind_ok.mpr ⟨(), (), throwUnless_ok.mpr ⟨hpriv, rfl⟩, rfl⟩
  have hsecurity : outcome (setSecurity willing .authPriv authProtocol authPassPhrase privProtocol
      privPassPhrase) () = (.ok (), ()) :=
    outcome_bind_ok.mpr ⟨(), (), hauthentication, hprivacy⟩
  intro s
  refine ⟨(), (), ?_⟩
  refine outcome_bind_ok.mpr ⟨true, (), rfl, ?_⟩
  refine outcome_bind_ok.mpr ⟨(), (), rfl, ?_⟩
  exact outcome_bind_ok.mpr ⟨(), (), hsecurity, rfl⟩

theorem ends_createImmediateForwardTable (client : SnmpClient)
    {messageConfigs : List MessageConfig} (signMessages : Bool) (payloadPlaceholder : String)
    (hchannels : ∀ m ∈ messageConfigs, m.channel.isSome = true)
    (hpsids : ∀ m ∈ messageConfigs, 'x' ∈ m.psid.toList) :
    Ends (createImmediateForwardTable willing client messageConfigs signMessages
      payloadPlaceholder) := by
  apply Ends.foldlM
  intro index row hrow
  have hmem := List.fst_mem_of_mem_zipIdx hrow
  obtain ⟨channel, hchannel⟩ := Option.isSome_iff_exists.mp (hchannels row.1 hmem)
  refine Ends.bind ?_ fun psid => ?_
  · exact Ends.bind (ends_throwUnless (hpsids row.1 hmem)) fun _ => ends_pure _
  · exact Ends.bind (ends_valueOr hchannel) fun channel => fun s => ⟨_, (), rfl⟩

/-- There a unit is set up, if it is complete and not refused. -/
theorem ends_setUpUnit {imfConfig : ImfConfiguration} (hparsed : imfConfig.Parsed)
    (hcomplete : Complete imfConfig) (h : ¬ Refused imfConfig) :
    Ends (setUpUnit willing imfConfig) := by
  unfold setUpUnit
  cases hspec : imfConfig.spec with
  | RSU_4_1 => exact fun s => ⟨_, _, rfl⟩
  | NTCIP_1218 =>
      obtain ⟨auth, authProtocol, authPassPhrase, privProtocol, privPassPhrase, hauth, hlevel, h₁,
        h₂, h₃, h₄⟩ := exists_values hparsed hspec hcomplete
      have hknown : authProtocol ∈ authProtocols ∧ privProtocol ∈ privProtocols := by
        by_contra hunknown
        refine h ⟨hspec, .inl ⟨auth, hauth, ?_⟩⟩
        rw [h₁, h₃]
        exact not_and_or.mp hunknown
      have hpsids : ∀ m ∈ imfConfig.messageConfigs, 'x' ∈ m.psid.toList := by
        intro m hm
        by_contra hpsid
        exact h ⟨hspec, .inr ⟨m, hm, hpsid⟩⟩
      refine Ends.bind (Ends.onSecond ?_) fun client => ?_
      · rw [connectSnmpClient_eq willing hauth h₁ h₂ h₃ h₄, hlevel]
        exact Ends.bind (ends_newSnmpClient _ authPassPhrase privPassPhrase hknown.1 hknown.2)
          fun _ => ends_pure _
      refine Ends.bind (ends_changeFirst _) fun _ => ?_
      refine Ends.bind (Ends.onSecond fun s => ⟨(), (), rfl⟩) fun _ => ?_
      refine Ends.bind (Ends.onSecond ?_) fun index => ?_
      · exact ends_createImmediateForwardTable client _ _ hparsed.channels hpsids
      refine Ends.bind (ends_changeFirst _) fun _ => ?_
      exact Ends.onSecond fun s => ⟨(), (), rfl⟩

/-- A unit that is not complete has a value that is not set. -/
theorem setUpUnit_not_complete (net : Network σ) {imfConfig : ImfConfiguration}
    (hparsed : imfConfig.Parsed) (h : ¬ Complete imfConfig) (s : Settings × σ) :
    (outcome (setUpUnit net imfConfig) s).1 = .error .badOptionalAccess := by
  obtain ⟨hspec, hlogin⟩ := Classical.not_imp.mp h
  obtain ⟨auth, hauth, hmembers⟩ := hparsed.snmpAuth hspec
  have hlevel : auth.securityLevel ≠ .authPriv := fun hlevel => hlogin ⟨auth, hauth, hlevel⟩
  have hpriv : auth.privProtocol = none := by
    have hnone := mt hmembers.privProtocol.mp hlevel
    rwa [Bool.not_eq_true, Option.isSome_eq_false_iff, Option.isNone_iff_eq_none] at hnone
  have hclient : ∀ w, outcome (connectSnmpClient net imfConfig) w =
      (.error .badOptionalAccess, w) := by
    intro w
    unfold connectSnmpClient value
    rw [hauth]
    simp only [valueOr, pure_bind, hpriv]
    cases hauthProtocol : auth.authProtocol with
    | none => rfl
    | some authProtocol =>
        simp only [pure_bind]
        cases hauthPassPhrase : auth.authPassPhrase with
        | none => rfl
        | some authPassPhrase =>
            simp only [pure_bind]
            rfl
  unfold setUpUnit
  rw [hspec]
  simp only
  rw [outcome_bind, outcome_onSecond, hclient]

/-! ## Accepted configurations -/

theorem setUpUnits_not_usable {imfConfigs : List ImfConfiguration}
    (hparsed : ∀ imfConfig ∈ imfConfigs, imfConfig.Parsed) (h : ¬ Usable imfConfigs)
    (s : Settings × Unit) :
    (outcome (setUpUnits willing imfConfigs) s).1 = .error .badOptionalAccess := by
  induction imfConfigs generalizing s with
  | nil => exact absurd trivial h
  | cons imfConfig imfConfigs ih =>
      unfold setUpUnits
      rw [List.foldlM_cons, outcome_bind]
      by_cases hcomplete : Complete imfConfig
      · have hrest : ¬ Refused imfConfig ∧ ¬ Usable imfConfigs :=
          not_or.mp fun h' => h ⟨hcomplete, h'⟩
        have hhead := hparsed imfConfig List.mem_cons_self
        obtain ⟨a, t, hout⟩ := ends_setUpUnit hhead hcomplete hrest.1 s
        rw [hout]
        exact ih (fun c hc => hparsed c (List.mem_cons_of_mem _ hc)) hrest.2 t
      · have hbad := setUpUnit_not_complete willing (hparsed imfConfig List.mem_cons_self)
          hcomplete s
        rcases hout : outcome (setUpUnit willing imfConfig) s with ⟨e | a, t⟩
        · rw [hout] at hbad
          exact hbad
        · rw [hout] at hbad
          cases hbad

/-- Usable units are set up, as far as it goes, without a value that is not set. -/
theorem onlyOther_setUpUnits (net : Network σ) {imfConfigs : List ImfConfiguration}
    (hparsed : ∀ imfConfig ∈ imfConfigs, imfConfig.Parsed) (h : Usable imfConfigs) :
    OnlyThrows Exception.Other (setUpUnits net imfConfigs) := by
  induction imfConfigs with
  | nil => exact onlyThrows_pure ()
  | cons imfConfig imfConfigs ih =>
      obtain ⟨hcomplete, hrest⟩ := h
      have hhead := hparsed imfConfig List.mem_cons_self
      unfold setUpUnits
      rw [List.foldlM_cons]
      intro s e t hout
      rw [outcome_bind] at hout
      rcases hunit : outcome (setUpUnit net imfConfig) s with ⟨e' | a, u⟩
      · rw [hunit] at hout
        cases hout
        exact onlyOther_setUpUnit net hhead hcomplete s e t hunit
      · rw [hunit] at hout
        have husable := hrest.resolve_left (not_refused_of_ok hhead hcomplete hunit)
        exact ih (fun c hc => hparsed c (List.mem_cons_of_mem _ hc)) husable u e t hout

theorem updateConfigSettings_eq (net : Network σ) {config : String}
    {imfConfigs : List ImfConfiguration}
    (h : parseImmediateForwardConfiguration json config = .ok imfConfigs) :
    updateConfigSettings json net config = (do
      changeFirst fun s => { s with imfConfigs := [] }
      changeFirst fun s => { s with imfConfigs := imfConfigs, connections := connect [] }
      setUpUnits net imfConfigs
      changeFirst fun s => { s with configRead := true }) := by
  unfold updateConfigSettings
  rw [h]

/-- A configuration that is not usable fails in a network that is willing. -/
theorem updateConfigSettings_not_usable {config : String} {imfConfigs : List ImfConfiguration}
    (h : parseImmediateForwardConfiguration json config = .ok imfConfigs)
    (husable : ¬ Usable imfConfigs) (s : Settings × Unit) :
    (outcome (updateConfigSettings json willing config) s).1 = .error .badOptionalAccess := by
  rw [updateConfigSettings_eq willing h, outcome_bind, outcome_changeFirst]
  simp only
  rw [outcome_bind, outcome_changeFirst]
  simp only
  rw [outcome_bind]
  have hbad := setUpUnits_not_usable (parsed_of_parse h) husable
    ({ s.1 with imfConfigs := imfConfigs, connections := connect [] }, s.2)
  rcases hout : outcome (setUpUnits willing imfConfigs)
    ({ s.1 with imfConfigs := imfConfigs, connections := connect [] }, s.2) with ⟨e | a, t⟩
  · rw [hout] at hbad
    exact hbad
  · rw [hout] at hbad
    cases hbad

/-- **Accepted configurations**: an update takes no value that is not set, whatever the network
answers, exactly if the units up to the first one that is refused are complete. -/
theorem updateConfigSettings_other_iff {config : String} {imfConfigs : List ImfConfiguration}
    (h : parseImmediateForwardConfiguration json config = .ok imfConfigs) :
    (∀ (σ : Type) (net : Network σ) (s : Settings × σ),
      (outcome (updateConfigSettings json net config) s).1 ≠ .error .badOptionalAccess) ↔
        Usable imfConfigs := by
  constructor
  · intro hall
    by_contra husable
    exact hall Unit willing ({}, ()) (updateConfigSettings_not_usable h husable _)
  · intro husable σ net s hbad
    have hother : OnlyThrows Exception.Other (updateConfigSettings json net config) := by
      rw [updateConfigSettings_eq net h]
      refine OnlyThrows.bind (onlyThrows_changeFirst _) fun _ => ?_
      refine OnlyThrows.bind (onlyThrows_changeFirst _) fun _ => ?_
      refine OnlyThrows.bind (onlyOther_setUpUnits net (parsed_of_parse h) husable) fun _ => ?_
      exact onlyThrows_changeFirst _
    exact hother s _ _ (Prod.ext hbad rfl) rfl

/-- The values of a JSON library, for texts of strings, objects and arrays. -/
def docJson : JsonCpp (Option JsonText.Doc) where
  parse text :=
    match JsonText.readDoc text.toList with
    | some d => .ok (some d)
    | none => .error "* Line 1, Column 1\n  Syntax error: value, object or array expected.\n"
  isArray v := match v with
    | some (.array _) => true
    | _ => false
  isObject v := match v with
    | some (.object _) => true
    | _ => false
  isString v := match v with
    | some (.text _) => true
    | _ => false
  isBool _ := false
  isInt _ := false
  isUInt _ := false
  elements v := match v with
    | some (.array elements) => elements.map some
    | _ => []
  member v key := v.bind (·.get key)
  asString v := match v with
    | none => .ok ""
    | some (.text text) => .ok text
    | some _ => .error "Type is not convertible to string"
  asBool v := match v with
    | none => .ok false
    | some _ => .error "Value is not convertible to bool."
  asInt v := match v with
    | none => .ok 0
    | some _ => .error "Value is not convertible to Int."
  asUInt v := match v with
    | none => .ok 0
    | some _ => .error "Value is not convertible to UInt."

/-- The library, once a text has been taken apart into its characters. -/
def docJsonOf (chars : List Char) : JsonCpp (Option JsonText.Doc) :=
  { docJson with
    parse := fun _ =>
      match JsonText.readDoc chars with
      | some d => .ok (some d)
      | none => .error "* Line 1, Column 1\n  Syntax error: value, object or array expected.\n" }

theorem parse_of_toList {text : String} {chars : List Char} (h : text.toList = chars) :
    parseImmediateForwardConfiguration docJson text =
      parseImmediateForwardConfiguration (docJsonOf chars) "" := by
  rw [← h]
  rfl

/-- An NTCIP 1218 unit with authentication and privacy, and an RSU 4.1 unit. -/
def eastWestText : String :=
  "[\x7b\"name\":\"East\",\"address\":\"10.0.0.1\",\"rsuSpec\":\"NTCIP1218\"," ++
  "\"snmpAuth\":\x7b\"user\":\"hub\",\"securityLevel\":\"authPriv\"," ++
  "\"community\":\"public\",\"authProtocol\":\"SHA\",\"authPassPhrase\":\"12345678\"," ++
  "\"privacyProtocol\":\"AES\",\"privacyPassPhrase\":\"12345678\"\x7d," ++
  "\"txMode\":\"CONT\",\"messages\":[]\x7d," ++
  "\x7b\"name\":\"West\",\"address\":\"10.0.0.2\",\"rsuSpec\":\"RSU4.1\"," ++
  "\"txMode\":\"CONT\",\"messages\":[" ++
  "\x7b\"tmxType\":\"MAP-P\",\"sendType\":\"MAP\",\"psid\":\"0x8002\"\x7d]\x7d]"

def east : ImfConfiguration where
  name := "East"
  spec := .NTCIP_1218
  address := "10.0.0.1"
  port := 0
  snmpAuth := some
    { user := "hub"
      securityLevel := .authPriv
      community := "public"
      authProtocol := some "SHA"
      privProtocol := some "AES"
      authPassPhrase := some "12345678"
      privPassPhrase := some "12345678" }
  messageConfigs := []
  signMessage := false

def west : ImfConfiguration where
  name := "West"
  spec := .RSU_4_1
  address := "10.0.0.2"
  port := 0
  messageConfigs := [⟨"MAP-P", "MAP", "0x8002", some 183⟩]
  signMessage := false

theorem parse_eastWestText :
    parseImmediateForwardConfiguration docJson eastWestText = .ok [east, west] := by
  have hchars : eastWestText.toList = _ :=
    toList_append_of (toList_append_of (toList_append_of (toList_append_of (toList_append_of
      (toList_append_of (toList_append_of (toList_of_ofList rfl) (toList_of_ofList rfl))
        (toList_of_ofList rfl)) (toList_of_ofList rfl)) (toList_of_ofList rfl))
        (toList_of_ofList rfl)) (toList_of_ofList rfl)) (toList_of_ofList rfl)
  rw [parse_of_toList hchars]
  decide +kernel

theorem updateConfigSettings_other_iff_eastWestText :
    ¬ ∃ (σ : Type) (net : Network σ) (s : Settings × σ),
      (outcome (updateConfigSettings docJson net eastWestText) s).1 =
        .error .badOptionalAccess := by
  have hother := (updateConfigSettings_other_iff parse_eastWestText).mpr
    ⟨fun _ => ⟨_, rfl, rfl⟩, .inr ⟨nofun, .inr trivial⟩⟩
  rintro ⟨σ, net, s, hbad⟩
  exact hother σ net s hbad

/-- A unit without authentication. -/
def openText : String :=
  "[\x7b\"name\":\"East\",\"address\":\"10.0.0.1\",\"rsuSpec\":\"NTCIP1218\"," ++
  "\"snmpAuth\":\x7b\"user\":\"hub\",\"securityLevel\":\"noAuthNoPriv\"," ++
  "\"community\":\"public\"\x7d,\"txMode\":\"CONT\",\"messages\":[]\x7d]"

def openUnit : ImfConfiguration where
  name := "East"
  spec := .NTCIP_1218
  address := "10.0.0.1"
  port := 0
  snmpAuth := some { user := "hub", securityLevel := .noAuthNoPriv, community := "public" }
  messageConfigs := []
  signMessage := false

theorem parse_openText : parseImmediateForwardConfiguration docJson openText = .ok [openUnit] := by
  have hchars : openText.toList = _ :=
    toList_append_of (toList_append_of (toList_of_ofList rfl) (toList_of_ofList rfl))
      (toList_of_ofList rfl)
  rw [parse_of_toList hchars]
  decide +kernel

/-- The configuration is accepted, and its authentication protocol is taken though it is not set. -/
theorem openText_not_usable :
    parseImmediateForwardConfiguration docJson openText = .ok [openUnit] ∧
      (outcome (updateConfigSettings docJson willing openText) ({}, ())).1 =
        .error .badOptionalAccess := by
  refine ⟨parse_openText, updateConfigSettings_not_usable parse_openText ?_ _⟩
  rintro ⟨hcomplete, -⟩
  obtain ⟨auth, hauth, hlevel⟩ := hcomplete rfl
  cases hauth
  cases hlevel

end V2XHub.ImmediateForward
