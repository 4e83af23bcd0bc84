import V2XHub.Lib.Decimal
import V2XHub.Lib.Reused
import V2XHub.Lib.Throwing
import V2XHub.Streets.JsonValue

/-!
# The list of RSUs

`parseRSUs` reads the configurations of the RSUs from a JSON text. One record is used for all of
them: what an element requires is written each time, and what is optional only where the element
has it. The port is what `atoi` makes of its text, cut to 16 bits, of which only 0 is refused. The
list is replaced at the very end, so a text that is refused leaves it alone.

The JSON reader, and how it writes a number that is no integer, are parameters.
-/

namespace V2XHub.RsuHealth

open V2XHub.Lib V2XHub.Streets

/-! ## Keys -/

def RSUSKey : String := "RSUS"
def RSUIpKey : String := "RSUIp"
def SNMPPortKey : String := "SNMPPort"
def UserKey : String := "User"
def AuthProtocolKey : String := "AuthProtocol"
def PrivProtocolKey : String := "PrivacyProtocol"
def AuthPassPhraseKey : String := "AuthPassPhrase"
def PrivPassPhraseKey : String := "PrivacyPassPhrase"
def RSUMIBVersionKey : String := "RSUMIBVersion"
def SecurityLevelKey : String := "SecurityLevel"

/-! ## Data -/

/-- `RSU_SPEC` -/
inductive RsuSpec where
  | rsu41
  | ntcip1218
  deriving DecidableEq, Repr

/-- `stringToRSUSpecMap` -/
def stringToRsuSpecMap : List (String × RsuSpec) := [("RSU4.1", .rsu41), ("NTCIP1218", .ntcip1218)]

structure RsuConfiguration where
  rsuIp : String := ""
  snmpPort : UInt16
  user : String := ""
  authProtocol : String := ""
  privProtocol : String := ""
  authPassPhrase : String := ""
  privPassPhrase : String := ""
  securityLevel : String := ""
  mibVersion : RsuSpec
  deriving DecidableEq

inductive RsuException where
  | rsuConfiguration (what : String)
  | tmx (what : String)
  /-- An assertion of the JSON library. -/
  | logicError
  deriving DecidableEq

/-- The JSON library. -/
structure JsonCpp where
  parse : String → Except String Value
  realText : ℚ → String

section

variable (json : JsonCpp)

/-! ## Members -/

/-- `v.asString()` -/
def JsonCpp.asString : Value → Option String
  | .real q => some (json.realText q)
  | v => v.asString

/-- `isMember` and, if it is one, `asString`. -/
def optional (key : String) (element : Value) : Except RsuException (Option String) :=
  match element.isMember key with
  | none => .error .logicError
  | some false => .ok none
  | some true =>
      match (element.get key).bind json.asString with
      | none => .error .logicError
      | some s => .ok (some s)

/-- `RSUConfigurationList [i]: … [key] is required.` -/
def isRequired (i : Nat) (name key : String) : RsuException :=
  .rsuConfiguration
    ("RSUConfigurationList [" ++ toString (i + 1) ++ "]: " ++ name ++ " [" ++ key ++
      "] is required.")

def required (i : Nat) (name key : String) (element : Value) : Except RsuException String :=
  match optional json key element with
  | .error e => .error e
  | .ok none => .error (isRequired i name key)
  | .ok (some s) => .ok s

/-- The characters before the first NUL. -/
def asCString (s : String) : List Char := s.toList.takeWhile (· ≠ '\x00')

/-- `static_cast<uint16_t>(atoi(s))` -/
def portOf (s : String) : UInt16 := UInt16.ofInt (Decimal.atoi (asCString s))

/-- The port has to be a string, and not 0 when it is cut. -/
def requiredPort (i : Nat) (element : Value) : Except RsuException UInt16 :=
  match element.isMember SNMPPortKey with
  | none => .error .logicError
  | some false => .error (isRequired i "SNMP port" SNMPPortKey)
  | some true =>
      match element.get SNMPPortKey with
      | some (.str s) =>
          if portOf s ≠ 0 then .ok (portOf s)
          else .error (.rsuConfiguration ("RSUConfigurationList [" ++ toString (i + 1) ++
            "]: Invalid SNMP port number in string format."))
      | _ => .error .logicError

def stringToRsuSpec (spec : String) : Except RsuException RsuSpec :=
  match stringToRsuSpecMap.lookup spec with
  | some mib => .ok mib
  | none => .error (.tmx ("RSU Specification " ++ spec ++ " is not supported!"))

/-! ## The list -/

/-- What one element writes to the record. -/
def readElement (i : Nat) (config : RsuConfiguration) (element : Value) :
    Except RsuException RsuConfiguration := do
  let rsuIp ← required json i "RSU IP" RSUIpKey element
  let snmpPort ← requiredPort i element
  let authProtocol ← required json i "Authentication protocol" AuthProtocolKey element
  let privProtocol ← optional json PrivProtocolKey element
  let authPassPhrase ← optional json AuthPassPhraseKey element
  let privPassPhrase ← optional json PrivPassPhraseKey element
  let user ← optional json UserKey element
  let rsuMIBVersionStr ← required json i "RSU MIB version" RSUMIBVersionKey element
  let mibVersion ← stringToRsuSpec rsuMIBVersionStr
  let securityLevel ← required json i "RSU Security Level" SecurityLevelKey element
  return {
    rsuIp, snmpPort, authProtocol, mibVersion, securityLevel
    -- an absent member leaves what the record has
    privProtocol := privProtocol.getD config.privProtocol
    authPassPhrase := authPassPhrase.getD config.authPassPhrase
    privPassPhrase := privPassPhrase.getD config.privPassPhrase
    user := user.getD config.user }

def parseJson (rsuConfigsStr : String) : Except RsuException Value :=
  match json.parse rsuConfigsStr with
  | .ok root => .ok root
  | .error err => .error (.rsuConfiguration ("Parse RSUs raw string error: " ++ err))

/-- `json[RSUSKey]`, if it is an array. -/
def rsuArray (root : Value) : Except RsuException (List Value) :=
  match root.get RSUSKey with
  | none => .error .logicError
  | some (.arr elements) => .ok elements
  | some _ => .error (.rsuConfiguration "RSUConfigurationList: Missing RSUS array.")

/-- `parseRSUs` up to the assignment. The port and the version of the record that is declared there
are whatever is in memory. -/
def readConfigs (snmpPort : UInt16) (mibVersion : RsuSpec) (rsuConfigsStr : String) :
    Except RsuException (List RsuConfiguration) := do
  let root ← parseJson json rsuConfigsStr
  let elements ← rsuArray root
  collect (readElement json) 0 { snmpPort, mibVersion } [] elements

/-- The list afterwards, and what is thrown. -/
def parseRSUs (snmpPort : UInt16) (mibVersion : RsuSpec) (configs : List RsuConfiguration)
    (rsuConfigsStr : String) : List RsuConfiguration × Option RsuException :=
  match readConfigs json snmpPort mibVersion rsuConfigsStr with
  | .ok tempConfigs => (tempConfigs, none)
  | .error e => (configs, some e)

/-! ## What should come of it -/

/-- The text that an element alone has under a key. -/
def textOf (key : String) (element : Value) : Option String :=
  (element.member? key).bind json.asString

/-- The number that the text of the port begins with. -/
def writtenPort (element : Value) : Int :=
  match element.member? SNMPPortKey with
  | some (.str s) => Decimal.leading (asCString s)
  | _ => 0

/-- The entry of an element, from this element alone. -/
def entry (element : Value) : RsuConfiguration where
  rsuIp := (textOf json RSUIpKey element).getD ""
  snmpPort := UInt16.ofInt (writtenPort element)
  user := (textOf json UserKey element).getD ""
  authProtocol := (textOf json AuthProtocolKey element).getD ""
  privProtocol := (textOf json PrivProtocolKey element).getD ""
  authPassPhrase := (textOf json AuthPassPhraseKey element).getD ""
  privPassPhrase := (textOf json PrivPassPhraseKey element).getD ""
  securityLevel := (textOf json SecurityLevelKey element).getD ""
  mibVersion :=
    ((textOf json RSUMIBVersionKey element).bind (List.lookup · stringToRsuSpecMap)).getD .rsu41

/-- The list is as it was if something is thrown; otherwise it has the entries of the elements, and
each port is the number that is written. -/
def Promised (snmpPort : UInt16) (mibVersion : RsuSpec) (configs : List RsuConfiguration)
    (rsuConfigsStr : String) : Prop :=
  match parseRSUs json snmpPort mibVersion configs rsuConfigsStr with
  | (configs', some _) => configs' = configs
  | (configs', none) => ∃ root elements, json.parse rsuConfigsStr = .ok root ∧
      root.get RSUSKey = some (.arr elements) ∧ configs' = elements.map (entry json) ∧
      ∀ element ∈ elements, 1 ≤ writtenPort element ∧
        ((entry json element).snmpPort.toNat : Int) = writtenPort element

/-! ## When it does -/

def optionalKeys : List String := [PrivProtocolKey, AuthPassPhraseKey, PrivPassPhraseKey, UserKey]

/-- An element that nothing is thrown at. -/
structure Readable (element : Value) : Prop where
  required : ∀ key ∈ [RSUIpKey, AuthProtocolKey, SecurityLevelKey], (textOf json key element).isSome
  optional : ∀ key ∈ optionalKeys,
    element.member? key = none ∨ (textOf json key element).isSome
  snmpPort : ∃ s, element.member? SNMPPortKey = some (.str s) ∧ portOf s ≠ 0
  mibVersion : ∃ s, textOf json RSUMIBVersionKey element = some s ∧
    (stringToRsuSpecMap.lookup s).isSome

/-- Nothing is left of an element that the next one does not write. -/
def NothingLeft (element element' : Value) : Prop :=
  ∀ key ∈ optionalKeys, textOf json key element' = none → (textOf json key element).getD "" = ""

/-- The elements can be told apart from their neighbours, or one of them is refused. -/
def Keeps (elements : List Value) : Prop :=
  (∃ element ∈ elements, ¬ Readable json element) ∨
    (∀ element ∈ elements, 1 ≤ writtenPort element ∧ writtenPort element ≤ 65535) ∧
      elements.IsChain (NothingLeft json)

end

/-! ## One element -/

section

variable {json : JsonCpp} {key name : String} {element : Value} {i : Nat}

theorem optional_obj_iff {members : List (String × Value)} {o : Option String} :
    optional json key (.obj members) = .ok o ↔ textOf json key (.obj members) = o ∧
      (Value.member? key (.obj members) = none ∨ o.isSome) := by
  unfold optional textOf
  simp only [Value.isMember, Value.get, Value.member?]
  cases hlookup : members.lookup key with
  | none =>
      simp only [Option.isSome_none, Option.bind_none, true_or, and_true, Except.ok.injEq]
  | some v =>
      simp only [Option.isSome_some, Option.getD_some, Option.bind_some]
      cases htext : json.asString v with
      | none =>
          constructor
          · intro h
            cases h
          · rintro ⟨rfl, h | h⟩ <;> cases h
      | some s =>
          simp only [Except.ok.injEq]
          constructor
          · rintro rfl
            exact ⟨rfl, Or.inr rfl⟩
          · exact And.left

theorem required_iff {s : String} :
    required json i name key element = .ok s ↔ textOf json key element = some s := by
  cases element with
  | obj members =>
      unfold required
      cases hoptional : optional json key (.obj members) with
      | error e =>
          constructor
          · intro h
            cases h
          · intro h
            rw [optional_obj_iff.mpr ⟨h, Or.inr rfl⟩] at hoptional
            cases hoptional
      | ok o =>
          rw [(optional_obj_iff.mp hoptional).1]
          cases o with
          | none =>
              constructor <;>
              · intro h
                cases h
          | some s' => simp
  | _ =>
      constructor <;>
      · intro h
        cases h

theorem requiredPort_iff {port : UInt16} : requiredPort i element = .ok port ↔
    ∃ s, element.member? SNMPPortKey = some (.str s) ∧ portOf s ≠ 0 ∧ port = portOf s := by
  cases element with
  | obj members =>
      simp only [requiredPort, Value.isMember, Value.get, Value.member?]
      cases hlookup : members.lookup SNMPPortKey with
      | none => simp
      | some v =>
          simp only [Option.isSome_some, Option.getD_some, Option.some.injEq]
          cases v with
          | str s =>
              by_cases hzero : portOf s = 0
              · simp [hzero]
              · simp [hzero, eq_comm (a := port)]
          | _ => simp
  | _ => simp [requiredPort, Value.isMember, Value.member?]

theorem stringToRsuSpec_iff {spec : String} {mib : RsuSpec} :
    stringToRsuSpec spec = .ok mib ↔ stringToRsuSpecMap.lookup spec = some mib := by
  unfold stringToRsuSpec
  cases stringToRsuSpecMap.lookup spec with
  | none => simp
  | some mib' => simp

end

section

variable (json : JsonCpp)

/-- The port as it is cut. -/
def cutPort (element : Value) : UInt16 :=
  match element.member? SNMPPortKey with
  | some (.str s) => portOf s
  | _ => 0

/-- The record after an element: its entry, but for the port that is cut and what is left. -/
def fill (config : RsuConfiguration) (element : Value) : RsuConfiguration :=
  { entry json element with
    snmpPort := cutPort element
    privProtocol := (textOf json PrivProtocolKey element).getD config.privProtocol
    authPassPhrase := (textOf json AuthPassPhraseKey element).getD config.authPassPhrase
    privPassPhrase := (textOf json PrivPassPhraseKey element).getD config.privPassPhrase
    user := (textOf json UserKey element).getD config.user }

variable {json} {element : Value} {i : Nat} {config config' : RsuConfiguration}

theorem readElement_ok (h : Readable json element) :
    readElement json i config element = .ok (fill json config element) := by
  obtain ⟨port, hport, hne⟩ := h.snmpPort
  obtain ⟨spec, hspec, hmib⟩ := h.mibVersion
  obtain ⟨mib, hmib⟩ := Option.isSome_iff_exists.mp hmib
  obtain ⟨members, rfl⟩ : ∃ members, element = .obj members := by
    cases element with
    | obj members => exact ⟨members, rfl⟩
    | _ => cases hport
  have hoptional : ∀ key ∈ optionalKeys,
      optional json key (.obj members) = .ok (textOf json key (.obj members)) :=
    fun key hkey => optional_obj_iff.mpr ⟨rfl, h.optional key hkey⟩
  obtain ⟨rsuIp, hip⟩ := Option.isSome_iff_exists.mp (h.required RSUIpKey (by simp))
  obtain ⟨auth, hauth⟩ := Option.isSome_iff_exists.mp (h.required AuthProtocolKey (by simp))
  obtain ⟨level, hlevel⟩ := Option.isSome_iff_exists.mp (h.required SecurityLevelKey (by simp))
  have hread : requiredPort i (.obj members) = .ok (portOf port) :=
    requiredPort_iff.mpr ⟨port, hport, hne, rfl⟩
  unfold readElement
  rw [required_iff.mpr hip, hread, required_iff.mpr hauth,
    hoptional PrivProtocolKey (by simp [optionalKeys]),
    hoptional AuthPassPhraseKey (by simp [optionalKeys]),
    hoptional PrivPassPhraseKey (by simp [optionalKeys]),
    hoptional UserKey (by simp [optionalKeys]), required_iff.mpr hspec, required_iff.mpr hlevel]
  show (stringToRsuSpec spec >>= fun mibVersion => _) = _
  rw [stringToRsuSpec_iff.mpr hmib]
  simp only [fill, entry, cutPort, hip, hauth, hlevel, hspec, hmib, hport, Option.getD_some,
    Option.bind_some]
  rfl

theorem readable_of_readElement (h : readElement json i config element = .ok config') :
    Readable json element := by
  unfold readElement at h
  obtain ⟨rsuIp, hip, h⟩ := bind_eq_ok.mp h
  obtain ⟨snmpPort, hport, h⟩ := bind_eq_ok.mp h
  obtain ⟨authProtocol, hauth, h⟩ := bind_eq_ok.mp h
  obtain ⟨privProtocol, hpriv, h⟩ := bind_eq_ok.mp h
  obtain ⟨authPassPhrase, hauthPass, h⟩ := bind_eq_ok.mp h
  obtain ⟨privPassPhrase, hprivPass, h⟩ := bind_eq_ok.mp h
  obtain ⟨user, huser, h⟩ := bind_eq_ok.mp h
  obtain ⟨spec, hspec, h⟩ := bind_eq_ok.mp h
  obtain ⟨mib, hmib, h⟩ := bind_eq_ok.mp h
  obtain ⟨level, hlevel, -⟩ := bind_eq_ok.mp h
  obtain ⟨port, hmember, hne, -⟩ := requiredPort_iff.mp hport
  obtain ⟨members, rfl⟩ : ∃ members, element = .obj members := by
    cases element with
    | obj members => exact ⟨members, rfl⟩
    | _ => cases hmember
  have hoptional : ∀ {key o}, optional json key (.obj members) = .ok o →
      Value.member? key (.obj members) = none ∨ (textOf json key (.obj members)).isSome := by
    intro key o ho
    obtain ⟨rfl, hmember⟩ := optional_obj_iff.mp ho
    exact hmember
  constructor
  case required =>
    intro key hkey
    rcases List.mem_cons.mp hkey with rfl | hkey
    · rw [required_iff.mp hip, Option.isSome_some]
    · rcases List.mem_cons.mp hkey with rfl | hkey
      · rw [required_iff.mp hauth, Option.isSome_some]
      · rw [List.mem_singleton.mp hkey, required_iff.mp hlevel, Option.isSome_some]
  case optional =>
    simp only [optionalKeys, List.forall_mem_cons]
    exact ⟨hoptional hpriv, hoptional hauthPass, hoptional hprivPass, hoptional huser,
      List.forall_mem_nil _⟩
  case snmpPort => exact ⟨port, hmember, hne⟩
  case mibVersion =>
    refine ⟨spec, required_iff.mp hspec, ?_⟩
    rw [stringToRsuSpec_iff.mp hmib, Option.isSome_some]

theorem readElement_error (h : ¬ Readable json element) (i : Nat) (config : RsuConfiguration) :
    ∃ e, readElement json i config element = .error e := by
  cases hread : readElement json i config element with
  | error e => exact ⟨e, rfl⟩
  | ok config' => exact absurd (readable_of_readElement hread) h

/-! ## Ports -/

theorem toNat_ofInt (z : Int) : ((UInt16.ofInt z).toNat : Int) = z % 65536 := by
  unfold UInt16.ofInt
  rw [UInt16.toNat_ofNat']
  omega

/-- A number in range is kept. -/
theorem cutPort_eq (h : 1 ≤ writtenPort element ∧ writtenPort element ≤ 65535) :
    cutPort element = UInt16.ofInt (writtenPort element) := by
  unfold writtenPort at h ⊢
  unfold cutPort
  split
  · next s hmember =>
      simp only [hmember] at h
      apply UInt16.toNat_inj.mp
      apply Int.ofNat_inj.mp
      show ((UInt16.ofInt (Decimal.atoi (asCString s))).toNat : Int) = _
      rw [toNat_ofInt, toNat_ofInt, Decimal.atoi_emod, Decimal.strtol_of_port h]
  · rfl

theorem port_written_iff : 1 ≤ writtenPort element ∧
      ((entry json element).snmpPort.toNat : Int) = writtenPort element ↔
    1 ≤ writtenPort element ∧ writtenPort element ≤ 65535 := by
  show _ ∧ ((UInt16.ofInt (writtenPort element)).toNat : Int) = _ ↔ _
  rw [toNat_ofInt]
  omega

/-! ## The record and the entry -/

theorem getD_getD_iff {o : Option String} {s : String} :
    o.getD s = o.getD "" ↔ (o = none → s = "") := by
  cases o <;> simp

theorem fill_first (h : 1 ≤ writtenPort element ∧ writtenPort element ≤ 65535)
    (snmpPort : UInt16) (mibVersion : RsuSpec) :
    fill json { snmpPort, mibVersion } element = entry json element := by
  unfold fill
  rw [cutPort_eq h]
  rfl

/-- What is written over the entry before is the entry exactly if nothing is left. -/
theorem fill_entry_iff {element' : Value}
    (h : 1 ≤ writtenPort element' ∧ writtenPort element' ≤ 65535) :
    fill json (entry json element) element' = entry json element' ↔
      NothingLeft json element element' := by
  unfold fill NothingLeft
  rw [cutPort_eq h]
  simp only [optionalKeys, List.forall_mem_cons, List.not_mem_nil, false_imp_iff, implies_true,
    and_true, entry, RsuConfiguration.mk.injEq, true_and, getD_getD_iff]
  tauto

theorem records_eq_entries_iff {elements : List Value}
    (hports : ∀ element ∈ elements, 1 ≤ writtenPort element ∧ writtenPort element ≤ 65535)
    (snmpPort : UInt16) (mibVersion : RsuSpec) :
    records (fill json) { snmpPort, mibVersion } elements = elements.map (entry json) ↔
      elements.IsChain (NothingLeft json) := by
  rw [records_eq_map_iff]
  have hhead : ∀ element ∈ elements.head?,
      fill json { snmpPort, mibVersion } element = entry json element :=
    fun element helement => fill_first (hports element (List.mem_of_head? helement)) _ _
  rw [and_iff_right hhead]
  constructor
  · intro h
    exact h.imp_of_mem_imp fun _ _ _ hb hfill => (fill_entry_iff (hports _ hb)).mp hfill
  · intro h
    exact h.imp_of_mem_imp fun _ _ _ hb hleft => (fill_entry_iff (hports _ hb)).mpr hleft

end

/-! ## The whole list -/

section

variable {json : JsonCpp} {snmpPort : UInt16} {mibVersion : RsuSpec} {rsuConfigsStr : String}
  {root : Value} {elements : List Value} {tempConfigs : List RsuConfiguration}

theorem rsuArray_iff : rsuArray root = .ok elements ↔ root.get RSUSKey = some (.arr elements) := by
  unfold rsuArray
  cases root.get RSUSKey with
  | none => simp
  | some v => cases v <;> simp

theorem parseJson_iff : parseJson json rsuConfigsStr = .ok root ↔
    json.parse rsuConfigsStr = .ok root := by
  unfold parseJson
  cases json.parse rsuConfigsStr <;> simp

theorem readElement_each (hreadable : ∀ element ∈ elements, Readable json element) :
    ∀ element ∈ elements, ∀ i config,
      readElement json i config element = .ok (fill json config element) := by
  intro element hmem i config
  exact readElement_ok (hreadable element hmem)

theorem readConfigs_iff : readConfigs json snmpPort mibVersion rsuConfigsStr = .ok tempConfigs ↔
    ∃ root elements, json.parse rsuConfigsStr = .ok root ∧
      root.get RSUSKey = some (.arr elements) ∧ (∀ element ∈ elements, Readable json element) ∧
      tempConfigs = records (fill json) { snmpPort, mibVersion } elements := by
  unfold readConfigs
  rw [bind_eq_ok]
  constructor
  · rintro ⟨root, hroot, hrest⟩
    obtain ⟨elements, helements, hcollect⟩ := bind_eq_ok.mp hrest
    have hreadable : ∀ element ∈ elements, Readable json element := by
      intro element hmem
      by_contra hnot
      obtain ⟨e, he⟩ := collect_error hmem (readElement_error hnot) 0 { snmpPort, mibVersion } []
      rw [he] at hcollect
      cases hcollect
    refine ⟨root, elements, parseJson_iff.mp hroot, rsuArray_iff.mp helements, hreadable, ?_⟩
    rw [collect_ok (readElement_each hreadable)] at hcollect
    cases hcollect
    rfl
  · rintro ⟨root, elements, hroot, helements, hreadable, rfl⟩
    refine ⟨root, parseJson_iff.mpr hroot, ?_⟩
    rw [rsuArray_iff.mpr helements]
    exact collect_ok (readElement_each hreadable) 0 _ []

/-- What a text that is read has to give, in its elements. -/
theorem entries_iff (hreadable : ∀ element ∈ elements, Readable json element) :
    (records (fill json) { snmpPort, mibVersion } elements = elements.map (entry json) ∧
      ∀ element ∈ elements, 1 ≤ writtenPort element ∧
        ((entry json element).snmpPort.toNat : Int) = writtenPort element) ↔
      Keeps json elements := by
  have hnone : ¬ ∃ element ∈ elements, ¬ Readable json element :=
    fun ⟨element, hmem, hnot⟩ => hnot (hreadable element hmem)
  unfold Keeps
  simp only [port_written_iff]
  constructor
  · rintro ⟨hrecords, hports⟩
    exact Or.inr ⟨hports, (records_eq_entries_iff hports _ _).mp hrecords⟩
  · intro hkeeps
    obtain ⟨hports, hchain⟩ := hkeeps.resolve_left hnone
    exact ⟨(records_eq_entries_iff hports _ _).mpr hchain, hports⟩

end

/-! ## When the promise is kept -/

/-- **The list of RSUs**: a text either throws and leaves the list alone, or gives each element its
own entry and the port that is written, exactly if one of its elements is refused or all ports are
in range and nothing is left of an element that the next one does not write. -/
theorem parseRSUs_promised_iff (json : JsonCpp) (snmpPort : UInt16) (mibVersion : RsuSpec)
    (configs : List RsuConfiguration) (rsuConfigsStr : String) :
    Promised json snmpPort mibVersion configs rsuConfigsStr ↔
      ∀ root elements, json.parse rsuConfigsStr = .ok root →
        root.get RSUSKey = some (.arr elements) → Keeps json elements := by
  unfold Promised parseRSUs
  cases hread : readConfigs json snmpPort mibVersion rsuConfigsStr with
  | error e =>
      refine ⟨fun _ root elements hroot helements => Or.inl ?_, fun _ => rfl⟩
      -- otherwise the text is read
      by_contra hnone
      have hreadable : ∀ element ∈ elements, Readable json element := by
        intro element hmem
        by_contra hnot
        exact hnone ⟨element, hmem, hnot⟩
      rw [readConfigs_iff.mpr ⟨root, elements, hroot, helements, hreadable, rfl⟩] at hread
      cases hread
  | ok tempConfigs =>
      obtain ⟨root, elements, hroot, helements, hreadable, rfl⟩ := readConfigs_iff.mp hread
      constructor
      · rintro ⟨root', elements', hroot', helements', hentries⟩
        intro root'' elements'' hroot'' helements''
        cases hroot.symm.trans hroot'
        cases hroot.symm.trans hroot''
        cases helements.symm.trans helements'
        cases helements.symm.trans helements''
        exact (entries_iff hreadable).mp hentries
      · intro h
        have hkeeps := h root elements hroot helements
        exact ⟨root, elements, hroot, helements, (entries_iff hreadable).mpr hkeeps⟩

/-! ### The user of another RSU -/

/-- Two RSUs, of which the second has no user, and a port that does not fit into 16 bits. -/
def twoRsus : Value :=
  .obj [(RSUSKey, .arr [
    .obj [(RSUIpKey, .str "10.0.0.1"), (SNMPPortKey, .str "161"), (AuthProtocolKey, .str "SHA-512"),
      (UserKey, .str "admin"), (RSUMIBVersionKey, .str "RSU4.1"),
      (SecurityLevelKey, .str "authPriv")],
    .obj [(RSUIpKey, .str "10.0.0.2"), (SNMPPortKey, .str "65697"),
      (AuthProtocolKey, .str "SHA-512"), (RSUMIBVersionKey, .str "NTCIP1218"),
      (SecurityLevelKey, .str "authPriv")]])]

def twoRsusText : String :=
  "\x7b\"RSUS\": [\x7b\"RSUIp\": \"10.0.0.1\", \"SNMPPort\": \"161\", \"AuthProtocol\": \"SHA-512\", " ++
  "\"User\": \"admin\", \"RSUMIBVersion\": \"RSU4.1\", \"SecurityLevel\": \"authPriv\"\x7d, " ++
  "\x7b\"RSUIp\": \"10.0.0.2\", \"SNMPPort\": \"65697\", \"AuthProtocol\": \"SHA-512\", " ++
  "\"RSUMIBVersion\": \"NTCIP1218\", \"SecurityLevel\": \"authPriv\"\x7d]\x7d"

/-- A reader that knows this text. -/
def twoRsusReader : JsonCpp where
  parse s := if s = twoRsusText then .ok twoRsus else .error ""
  realText _ := ""

theorem twoRsusReader_parse : twoRsusReader.parse twoRsusText = .ok twoRsus := by
  simp only [twoRsusReader, if_true]

/-- The second entry has the user of the first, and the port 161. -/
theorem twoRsus_not_promised : ¬ Promised twoRsusReader 0 .rsu41 [] twoRsusText := by
  have hread : parseRSUs twoRsusReader 0 .rsu41 [] twoRsusText =
      ([{ rsuIp := "10.0.0.1", snmpPort := 161, user := "admin", authProtocol := "SHA-512",
          securityLevel := "authPriv", mibVersion := .rsu41 },
        { rsuIp := "10.0.0.2", snmpPort := 161, user := "admin", authProtocol := "SHA-512",
          securityLevel := "authPriv", mibVersion := .ntcip1218 }], none) := by
    decide +kernel
  unfold Promised
  rw [hread]
  rintro ⟨root, elements, hroot, helements, hentries, -⟩
  obtain rfl := Except.ok.inj (twoRsusReader_parse.symm.trans hroot)
  cases helements
  have huser := congrArg (List.map RsuConfiguration.user) hentries
  revert huser
  decide +kernel

end V2XHub.RsuHealth
