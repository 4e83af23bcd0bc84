import V2XHub.Lib.Halting
import V2XHub.Lib.Throwing
import V2XHub.Tmx.PluginConnection

/-!
# Which messages the core survives

`Proper` says which messages a connection can process in its state and with the database as it is;
for every other the core ends. The validation of a manifest leaves nothing to chance, and what
`registerPlugin` and the status calls throw is caught. The handlers of configuration and event log
messages have no such checks.

**Main result** `survives_iff`: a run goes well exactly if all its messages are proper.
-/

namespace V2XHub.Tmx

open V2XHub.Lib

namespace CoreConnection

variable {collate : String → String} {c c' : CoreConnection}

/-! ## The condition on the messages -/

/-- Nothing, or an array with items of a kind. -/
def ArrayOf (P : CJson → Prop) : Option CJson → Prop
  | none => True
  | some (.array items) => ∀ item ∈ items, P item
  | some _ => False

/-- An item of a configuration message with this source: it has a key and a value, and it is a
global parameter with a default, or the key is one of the registered plugin. -/
def ProperConfigItem (c : CoreConnection) (source : Option String) (item : CJson) : Prop :=
  ∃ key value src, item.tryGetStr "key" = some key ∧ item.tryGetStr "value" = some value ∧
    source = some src ∧
      if src = "_global" then (item.tryGetStr "default").isSome = true
      else c.registered = true ∧ ∃ e ∈ c.configValues, e.key = key

/-- The profiler knows the type, or can insert it. -/
def ProperType (collate : String → String) (c : CoreConnection) (type subtype : String)
    (insertType : InsertReply) : Prop :=
  match c.profiler.messageTypes.find? fun e =>
      e.text = (MessageTypeEntry.mk 0 type subtype).text with
  | some e => e.id ≠ 0
  | none => ∃ newId, insertType = .done newId ∧
      (c.profiler.database.insertType collate newId type subtype).2.id ≠ 0

/-- The message can be processed. -/
def ProperMessage (collate : String → String) (c : CoreConnection) (msg : CoreMessage)
    (db : DatabaseReplies) : Prop :=
  match msg.kind with
  | .registration => msg.payload.isSome = true
  | .subscribe => True
  | .config =>
      ArrayOf (c.ProperConfigItem msg.source) msg.payload ∧ db.connects = true ∧
        db.initializes = true
  | .status =>
      ArrayOf (fun item => (item.tryGetStr "key").isSome = true ∨
        (item.tryGetStr "value").isSome = true) msg.payload
  | .eventLog =>
      c.registered = true ∧
        ∃ payload description, msg.payload = some payload ∧
          payload.tryGetStr "description" = some description ∧ description ≠ ""
  | .other =>
      c.registered = true → ∀ r, (c.profiled msg.toIvpMessage).counted? = some r →
        c.ProperType collate r.type r.subtype db.insertType

def Proper (collate : String → String) (c : CoreConnection) : Event → Prop
  | .text root _ db => ∀ msg, ivpMsg_parse root = some msg → c.ProperMessage collate msg db
  | _ => True

/-! ## Registration -/

/-- What passes the validation has all that is read from it. -/
theorem configDefaultEntries_of_validate {checked : List String} {items : List CJson}
    (h : ivpConfig_validateItems checked items = .none) :
    ∃ entries, configDefaultEntries items = .ok entries := by
  induction items generalizing checked with
  | nil => exact ⟨[], rfl⟩
  | cons item rest ih =>
      rw [ivpConfig_validateItems] at h
      split at h
      · cases h
      · rename_i key hkey
        split at h
        · cases h
        · rename_i hdefault
          split at h
          · cases h
          · split at h
            · cases h
            · obtain ⟨entries, hentries⟩ := ih h
              cases hvalue : item.tryGetStr "default" with
              | none => exact absurd (by rw [hvalue]; rfl) hdefault
              | some defaultValue =>
                  refine ⟨⟨key, defaultValue, defaultValue⟩ :: entries, ?_⟩
                  simp [configDefaultEntries, ivpConfig_getItem, hkey, hvalue, toStdString,
                    hentries]
                  rfl

theorem messageTypeEntries_of_validate {checked : List (String × String)} {items : List CJson}
    (h : ivpMsgType_validateItems checked items = .none) :
    ∃ entries, messageTypeEntries items = .ok entries := by
  induction items generalizing checked with
  | nil => exact ⟨[], rfl⟩
  | cons item rest ih =>
      rw [ivpMsgType_validateItems] at h
      split at h
      · cases h
      · rename_i type htype
        split at h
        · cases h
        · rename_i subtype hsubtype
          split at h
          · cases h
          · split at h
            · cases h
            · obtain ⟨entries, hentries⟩ := ih h
              refine ⟨{ type := type, subtype := subtype } :: entries, ?_⟩
              simp [messageTypeEntries, ivpMsgType_getEntry, htype, hsubtype, toStdString,
                hentries]
              rfl

theorem configItems_of_validate {collection : Option CJson}
    (h : ivpConfig_validate collection = .none) :
    ∃ items entries, collectionItems collection = .ok items ∧
      configDefaultEntries items = .ok entries := by
  rw [ivpConfig_validate.eq_def] at h
  split at h
  · exact ⟨[], [], rfl, rfl⟩
  · obtain ⟨entries, hentries⟩ := configDefaultEntries_of_validate h
    exact ⟨_, entries, rfl, hentries⟩
  · cases h

theorem typeItems_of_validate {collection : Option CJson}
    (h : ivpMsgType_validateCollection collection = .none) :
    ∃ items entries, collectionItems collection = .ok items ∧
      messageTypeEntries items = .ok entries := by
  rw [ivpMsgType_validateCollection.eq_def] at h
  split at h
  · exact ⟨[], [], rfl, rfl⟩
  · obtain ⟨entries, hentries⟩ := messageTypeEntries_of_validate h
    exact ⟨_, entries, rfl, hentries⟩
  · cases h

theorem registrationInformation_of_validate {manifest : IvpManifest}
    (h : ivpRegister_validateManifest manifest = .none) :
    ∃ info, registrationInformation manifest = .ok info := by
  rw [ivpRegister_validateManifest] at h
  split at h
  · cases h
  · split at h
    · exact absurd h ‹_›
    · rename_i hconfig
      obtain ⟨items, entries, hitems, hentries⟩ := configItems_of_validate (not_not.mp hconfig)
      obtain ⟨types, typeEntries, htypes, htypeEntries⟩ := typeItems_of_validate h
      rw [registrationInformation, hitems]
      show ∃ info, (configDefaultEntries items >>= _) = _
      rw [hentries]
      show ∃ info, (collectionItems manifest.messageTypes >>= _) = _
      rw [htypes]
      show ∃ info, (messageTypeEntries types >>= _) = _
      rw [htypeEntries]
      exact ⟨_, rfl⟩

/-- `registerPlugin` throws nothing but what its caller catches. -/
theorem registerPlugin_result (c : CoreConnection) (info : RegistrationInformation)
    (db : RegisterReply) :
    (c.registerPlugin info db).2 = .ok () ∨
      (c.registerPlugin info db).2 = .error (.thrown .plugin) := by
  unfold registerPlugin
  split
  · exact .inr rfl
  · split
    · exact .inr rfl
    · cases db with
      | fails => exact .inr rfl
      | done id configMap statusSet =>
          dsimp only
          split
          · exact .inl rfl
          · exact .inr rfl

/-- What is not a `PluginException` is not caught. -/
theorem catchPlugin_ok_iff {r : Result} {handle : CoreConnection → CoreConnection} :
    (catchPlugin r handle).2 = .ok () ↔ r.2 = .ok () ∨ r.2 = .error (.thrown .plugin) := by
  obtain ⟨c, x⟩ := r
  cases x with
  | ok u => exact ⟨fun _ => .inl rfl, fun _ => rfl⟩
  | error h =>
      cases h with
      | thrown e =>
          cases e with
          | plugin => exact ⟨fun _ => .inr rfl, fun _ => rfl⟩
          | db => simp [catchPlugin]
      | assertion => simp [catchPlugin]
      | nullPointer => simp [catchPlugin]

theorem processRegistrationMessage_ok_iff (msg : CoreMessage) (db : RegisterReply) :
    (c.processRegistrationMessage msg db).2 = .ok () ↔ msg.payload.isSome = true := by
  unfold processRegistrationMessage ivpRegister_getManifest
  cases hpayload : msg.payload with
  | none => simp
  | some payload =>
      dsimp only
      split
      · simp
      · rename_i hvalid
        obtain ⟨info, hinfo⟩ := registrationInformation_of_validate (not_not.mp hvalid)
        rw [hinfo]
        dsimp only
        rw [catchPlugin_ok_iff]
        refine iff_of_true ?_ rfl
        rcases hregister : c.registerPlugin info db with ⟨c', r⟩
        have hresult := registerPlugin_result c info db
        rw [hregister] at hresult
        rcases hresult with rfl | rfl
        · exact .inl rfl
        · exact .inr rfl

/-! ## The other handlers -/

theorem requireRegistered_ok_iff : c.requireRegistered = .ok () ↔ c.registered = true := by
  unfold requireRegistered
  split
  · simp [*]
  · simp [*]

theorem requireRegistered_cases (c : CoreConnection) :
    c.registered = true ∧ c.requireRegistered = .ok () ∨
      c.registered = false ∧ c.requireRegistered = .error (.thrown .plugin) := by
  unfold requireRegistered
  cases c.registered with
  | true => exact .inl ⟨rfl, rfl⟩
  | false => exact .inr ⟨rfl, rfl⟩

theorem processSubscribeMessage_ok (msg : CoreMessage) :
    (c.processSubscribeMessage msg).2 = .ok () := by
  unfold processSubscribeMessage subscribeForMessages
  rw [catchPlugin_ok_iff]
  obtain ⟨-, h⟩ | ⟨-, h⟩ := c.requireRegistered_cases
  · rw [h]
    exact .inl rfl
  · rw [h]
    exact .inr rfl

theorem setConfigValue_ok_iff {key : String} :
    c.setConfigValue key = .ok () ↔ c.registered = true ∧ ∃ e ∈ c.configValues, e.key = key := by
  unfold setConfigValue
  obtain ⟨hregistered, h⟩ | ⟨hregistered, h⟩ := c.requireRegistered_cases
  · rw [h, hregistered]
    dsimp only
    split
    · rename_i hany
      simpa using hany
    · rename_i hany
      simpa using hany
  · rw [h, hregistered]
    simp

theorem processConfigItem_ok_iff (msg : CoreMessage) (item : CJson) :
    (∃ params, c.processConfigItem msg (ivpConfig_getItem item) = .ok params) ↔
      c.ProperConfigItem msg.source item := by
  unfold processConfigItem ProperConfigItem ivpConfig_getItem
  dsimp only
  cases item.tryGetStr "key" with
  | none => simp
  | some key =>
      cases item.tryGetStr "value" with
      | none => simp
      | some value =>
          cases msg.source with
          | none => simp
          | some source =>
              dsimp only
              by_cases hglobal : source = "_global"
              · cases item.tryGetStr "default" with
                | none => simp [hglobal, toStdString, Except.map]
                | some defaultValue => simp [hglobal, toStdString, Except.map]
              · have hmap : (∃ params : List PluginConfigurationParameterEntry,
                    ((c.setConfigValue key).map fun _ => []) = .ok params) ↔
                      c.setConfigValue key = .ok () := by
                  cases c.setConfigValue key with
                  | error h => simp [Except.map]
                  | ok u => simp [Except.map]
                rw [if_neg hglobal, hmap, setConfigValue_ok_iff]
                constructor
                · intro h
                  exact ⟨key, value, source, rfl, rfl, rfl, by rwa [if_neg hglobal]⟩
                · rintro ⟨_, _, _, ⟨⟩, ⟨⟩, ⟨⟩, h⟩
                  rwa [if_neg hglobal] at h

theorem processConfigItems_ok_iff (msg : CoreMessage) (items : List CJson) :
    (∃ params, c.processConfigItems msg items = .ok params) ↔
      ∀ item ∈ items, c.ProperConfigItem msg.source item := by
  induction items with
  | nil => exact iff_of_true ⟨[], rfl⟩ nofun
  | cons item rest ih =>
      rw [List.forall_mem_cons, ← processConfigItem_ok_iff, ← ih, processConfigItems]
      constructor
      · rintro ⟨params, h⟩
        obtain ⟨first, hfirst, h⟩ := bind_eq_ok.mp h
        obtain ⟨more, hmore, -⟩ := bind_eq_ok.mp h
        exact ⟨⟨first, hfirst⟩, ⟨more, hmore⟩⟩
      · rintro ⟨⟨first, hfirst⟩, ⟨more, hmore⟩⟩
        refine ⟨first ++ more, ?_⟩
        rw [hfirst]
        show (c.processConfigItems msg rest >>= _) = _
        rw [hmore]
        rfl

theorem collectionItems_cases (collection : Option CJson) :
    (∃ items, collectionItems collection = .ok items ∧
      ∀ P, ArrayOf P collection ↔ ∀ item ∈ items, P item) ∨
    (collectionItems collection = .error .assertion ∧ ∀ P, ¬ ArrayOf P collection) := by
  cases collection with
  | none => exact .inl ⟨[], rfl, fun P => iff_of_true trivial nofun⟩
  | some json =>
      cases json with
      | array items => exact .inl ⟨items, rfl, fun P => Iff.rfl⟩
      | _ => exact .inr ⟨rfl, fun P hP => hP⟩

theorem processConfigMessage_ok_iff (msg : CoreMessage) (connects initializes : Bool) :
    (c.processConfigMessage msg connects initializes).2 = .ok () ↔
      ArrayOf (c.ProperConfigItem msg.source) msg.payload ∧ connects = true ∧
        initializes = true := by
  unfold processConfigMessage
  obtain ⟨items, hitems, hall⟩ | ⟨hitems, hnot⟩ := collectionItems_cases msg.payload
  · rw [hitems, hall, ← processConfigItems_ok_iff]
    cases connects with
    | false => simp
    | true =>
        cases hparams : c.processConfigItems msg items with
        | error h => simp [hparams]
        | ok params =>
            cases initializes with
            | false => simp [hparams]
            | true => simp [hparams]
  · rw [hitems]
    simp [hnot]

theorem statusItems_ok_iff (updateItems : List (String × String)) (removeItems : List String)
    (items : List CJson) :
    (∃ result, statusItems updateItems removeItems items = .ok result) ↔
      ∀ item ∈ items, (item.tryGetStr "key").isSome = true ∨
        (item.tryGetStr "value").isSome = true := by
  -- on the items, for whatever was collected before
  induction items generalizing updateItems removeItems with
  | nil => exact iff_of_true ⟨_, rfl⟩ nofun
  | cons item rest ih =>
      rw [List.forall_mem_cons, statusItems, ivpPluginStatus_getItem]
      dsimp only
      cases item.tryGetStr "value" with
      | none =>
          cases item.tryGetStr "key" with
          | none => simp
          | some key => simp [ih]
      | some value => simp [ih]

theorem processStatusMessage_ok_iff (msg : CoreMessage) (stored : Bool) :
    (c.processStatusMessage msg stored).2 = .ok () ↔
      ArrayOf (fun item => (item.tryGetStr "key").isSome = true ∨
        (item.tryGetStr "value").isSome = true) msg.payload := by
  unfold processStatusMessage
  obtain ⟨items, hitems, hall⟩ | ⟨hitems, hnot⟩ := collectionItems_cases msg.payload
  · rw [hitems, hall, ← statusItems_ok_iff [] []]
    dsimp only
    cases hstatus : statusItems [] [] items with
    | error h => simp
    | ok result =>
        -- whatever the database does
        have hwrite : (c.writeStatusItems stored).2 = .ok () ∨
            (c.writeStatusItems stored).2 = .error (.thrown .plugin) := by
          unfold writeStatusItems
          obtain ⟨-, h⟩ | ⟨-, h⟩ := c.requireRegistered_cases
          · rw [h]
            cases stored with
            | false => exact .inr rfl
            | true => exact .inl rfl
          · rw [h]
            exact .inr rfl
        exact iff_of_true (catchPlugin_ok_iff.mpr hwrite) ⟨result, rfl⟩
  · rw [hitems]
    simp [hnot]

theorem processEventLogMessage_ok_iff (msg : CoreMessage) :
    (c.processEventLogMessage msg).2 = .ok () ↔
      c.registered = true ∧
        ∃ payload description, msg.payload = some payload ∧
          payload.tryGetStr "description" = some description ∧ description ≠ "" := by
  unfold processEventLogMessage ivpEventLog_getEventLogEntry
  cases msg.payload with
  | none => simp
  | some payload =>
      dsimp only
      cases hdescription : payload.tryGetStr "description" with
      | none => simp [hdescription]
      | some description =>
          dsimp only
          by_cases hempty : description = ""
          · simp [hempty, hdescription]
          · rw [if_neg hempty]
            show c.requireRegistered = .ok () ↔ _
            rw [requireRegistered_ok_iff]
            simp [hdescription, hempty]

/-! ## Messages for the router -/

theorem profile_assertFailed_iff (msg : IvpMessage) (rxTime : Nat) (insertType : InsertReply) :
    (c.profile collate msg rxTime insertType).assertFailed = false ↔
      ∀ r, (c.profiled msg).counted? = some r →
        c.ProperType collate r.type r.subtype insertType := by
  unfold profile MessageProfiler.onMessageReceived
  cases (c.profiled msg).counted? with
  | none => simp
  | some r =>
      simp only [Option.some.injEq, forall_eq']
      unfold ProperType MessageProfiler.lookupType
      cases c.profiler.messageTypes.find? fun e =>
          e.text = (MessageTypeEntry.mk 0 r.type r.subtype).text with
      | some e => simp
      | none =>
          cases insertType with
          | refused => simp
          | interrupted newId => simp
          | notFound => simp
          | done newId => simp

theorem sendMessageToRouter_caught_iff (msg : IvpMessage) (rxTime : Nat)
    (insertType : InsertReply) (handle : CoreConnection → CoreConnection) :
    (catchPlugin (c.sendMessageToRouter collate msg rxTime insertType) handle).2 = .ok () ↔
      (c.registered = true → ∀ r, (c.profiled msg).counted? = some r →
        c.ProperType collate r.type r.subtype insertType) := by
  rw [catchPlugin_ok_iff, ← profile_assertFailed_iff]
  unfold sendMessageToRouter
  obtain ⟨hregistered, h⟩ | ⟨hregistered, h⟩ := c.requireRegistered_cases
  · rw [h, hregistered]
    dsimp only
    cases (c.profile collate msg rxTime insertType).assertFailed with
    | true => simp
    | false => simp
  · rw [h, hregistered]
    simp

/-! ## One message, and all of them -/

theorem process_ok_iff (msg : CoreMessage) (rxTime : Nat) (db : DatabaseReplies) :
    (c.process collate msg rxTime db).2 = .ok () ↔ c.ProperMessage collate msg db := by
  unfold process processFast processSlow ProperMessage
  cases msg.kind with
  | registration => exact processRegistrationMessage_ok_iff msg db.register
  | subscribe => exact iff_of_true (processSubscribeMessage_ok msg) trivial
  | config => exact processConfigMessage_ok_iff msg db.connects db.initializes
  | status => exact processStatusMessage_ok_iff msg db.statusItems
  | eventLog => exact processEventLogMessage_ok_iff msg
  | other => exact sendMessageToRouter_caught_iff _ _ _ _

/-! ## Runs -/

theorem catchPlugin_halted {r : Result} {handle : CoreConnection → CoreConnection}
    (hhandle : ∀ c, (handle c).halted = c.halted) :
    (catchPlugin r handle).1.halted = r.1.halted := by
  unfold catchPlugin
  split
  · exact hhandle _
  · rfl

theorem registerPlugin_halted (c : CoreConnection) (info : RegistrationInformation)
    (db : RegisterReply) : (c.registerPlugin info db).1.halted = c.halted := by
  unfold registerPlugin
  split
  · rfl
  · split
    · rfl
    · cases db with
      | fails => rfl
      | done id configMap statusSet =>
          dsimp only
          split
          · rfl
          · rfl

theorem processRegistrationMessage_halted (c : CoreConnection) (msg : CoreMessage)
    (db : RegisterReply) : (c.processRegistrationMessage msg db).1.halted = c.halted := by
  unfold processRegistrationMessage
  split
  · rfl
  · split
    · rfl
    · split
      · rfl
      · rename_i info _
        refine (catchPlugin_halted ?_).trans ?_
        · exact fun _ => rfl
        rw [← registerPlugin_halted c info db]
        split
        · rename_i heq
          rw [heq]
          rfl
        · rfl

theorem processConfigMessage_halted (c : CoreConnection) (msg : CoreMessage)
    (connects initializes : Bool) :
    (c.processConfigMessage msg connects initializes).1.halted = c.halted := by
  unfold processConfigMessage
  split
  · rfl
  · split
    · rfl
    · split
      · rfl
      · split
        · rfl
        · rfl

theorem processFast_halted (c : CoreConnection) (msg : CoreMessage) (rxTime : Nat)
    (db : DatabaseReplies) : (c.processFast collate msg rxTime db).1.halted = c.halted := by
  unfold processFast
  split
  · exact processRegistrationMessage_halted c msg db.register
  · unfold processSubscribeMessage subscribeForMessages
    refine (catchPlugin_halted ?_).trans ?_
    · exact fun _ => rfl
    split
    · rfl
    · rfl
  · exact processConfigMessage_halted c msg db.connects db.initializes
  · unfold sendMessageToRouter
    refine (catchPlugin_halted ?_).trans ?_
    · exact fun _ => rfl
    split
    · rfl
    · dsimp only
      split
      · rfl
      · rfl

theorem processSlow_halted (c : CoreConnection) (msg : CoreMessage) (db : DatabaseReplies) :
    (c.processSlow msg db).1.halted = c.halted := by
  unfold processSlow
  split
  · unfold processStatusMessage writeStatusItems
    split
    · rfl
    · split
      · rfl
      · refine (catchPlugin_halted ?_).trans ?_
        · exact fun _ => rfl
        split
        · rfl
        · split
          · rfl
          · rfl
  · unfold processEventLogMessage addEventLogEntry
    split
    · rfl
    · split
      · rfl
      · split
        · rfl
        · rfl
  · rfl

/-- The end of the core comes from the result of a handler only. -/
theorem process_halted (c : CoreConnection) (msg : CoreMessage) (rxTime : Nat)
    (db : DatabaseReplies) : (c.process collate msg rxTime db).1.halted = c.halted := by
  unfold process
  split
  · exact processFast_halted c msg rxTime db
  · exact processSlow_halted c msg db

theorem afterResult_halted_iff {r : Result} (h : r.1.halted = none) :
    (afterResult r).halted = none ↔ r.2 = .ok () := by
  obtain ⟨c, x⟩ := r
  cases x with
  | ok u => exact iff_of_true h rfl
  | error e => simp [afterResult]

/-- **One step**: the core goes on exactly if the message is proper. -/
theorem step_halted_iff {e : Event} (hc : c.halted = none) (hstep : c.step collate e = some c') :
    c'.halted = none ↔ c.Proper collate e := by
  have hgoes : ¬ c.halted.isSome = true := by rw [hc]; simp
  unfold step at hstep
  rw [if_neg hgoes] at hstep
  cases e with
  | text root rxTime db =>
      dsimp only at hstep
      split at hstep
      · rename_i hparse
        cases hstep
        refine iff_of_true hc ?_
        intro msg hmsg
        rw [hparse] at hmsg
        cases hmsg
      · rename_i msg hparse
        split at hstep
        · cases hstep
          rw [afterResult_halted_iff ((process_halted c msg rxTime db).trans hc), process_ok_iff]
          constructor
          · intro h msg' hmsg'
            rw [hparse] at hmsg'
            cases hmsg'
            exact h
          · exact fun h => h msg hparse
        · cases hstep
  | configRound configMap =>
      dsimp only at hstep
      split at hstep
      · cases hstep
        exact iff_of_true hc trivial
      · cases hstep
        exact iff_of_true hc trivial
  | clientNames names =>
      cases hstep
      exact iff_of_true hc trivial
  | profiler e =>
      obtain ⟨p, -, rfl⟩ := Option.map_eq_some_iff.mp hstep
      exact iff_of_true hc trivial

/-- Nothing comes after the end. -/
theorem step_alive {e : Event} (hstep : c.step collate e = some c') : c.halted = none := by
  unfold step at hstep
  split at hstep
  · cases hstep
  · rename_i hgoes
    exact Option.not_isSome_iff_eq_none.mp hgoes

/-- **The core survives its plugins** in a run exactly if all messages are proper. -/
theorem survives_iff {es : List Event} (hc : c.halted = none)
    (h : Run (Steps (step collate)) c es c') :
    c'.halted = none ↔ Run (Guarded (Proper collate) (Steps (step collate))) c es c' := by
  have hlast : ∀ s e t, Steps (step collate) s e t → s.halted = none := by
    intro s e t hstep
    exact step_alive hstep
  have halive : ∀ e ∈ es, ∀ s t, s.halted = none → Steps (step collate) s e t →
      (t.halted = none ↔ Proper collate s e) := by
    intro e _ s t hs hstep
    exact step_halted_iff hs hstep
  exact h.alive_iff_guarded hlast halive hc

/-- The text of a message with a payload. -/
def messageText (type source : String) (payload : CJson) : CJson :=
  .object [("header", .object [("type", .string type), ("source", .string source)]),
    ("payload", payload)]

/-- A database in which nothing fails. -/
def workingDatabase : DatabaseReplies where
  register := .done 7 [⟨"Frequency", "10", "1"⟩] true
  connects := true
  initializes := true
  statusItems := true
  insertType := .done 1

/-- A plugin registers, sets a value and reports. -/
theorem survives_iff_registered :
    ∃ c, Run (Steps (step id)) ⟨["ivpcore.MessageProfiler"], {}, false, "", 0, [], none, [], none⟩
        [.text (messageText "__register" "MAP" (.object [("name", .string "MAP"),
            ("configuration", .array [.object [("key", .string "Frequency"),
              ("default", .string "1")]])])) 0 workingDatabase,
          .text (messageText "__config" "MAP" (.array [.object [("key", .string "Frequency"),
            ("value", .string "5")]])) 1 workingDatabase,
          .text (messageText "__eventLog" "MAP" (.object [("description", .string "up")])) 2
            workingDatabase,
          .text (messageText "J2735" "MAP" .null) 3 workingDatabase] c ∧
      c.halted = none ∧ c.replies = [.config [("Frequency", "10")]] ∧
      Run (Guarded (Proper id) (Steps (step id)))
        ⟨["ivpcore.MessageProfiler"], {}, false, "", 0, [], none, [], none⟩
        [.text (messageText "__register" "MAP" (.object [("name", .string "MAP"),
            ("configuration", .array [.object [("key", .string "Frequency"),
              ("default", .string "1")]])])) 0 workingDatabase,
          .text (messageText "__config" "MAP" (.array [.object [("key", .string "Frequency"),
            ("value", .string "5")]])) 1 workingDatabase,
          .text (messageText "__eventLog" "MAP" (.object [("description", .string "up")])) 2
            workingDatabase,
          .text (messageText "J2735" "MAP" .null) 3 workingDatabase] c := by
  refine ⟨_, .of_foldlM rfl, ?_, ?_, ?_⟩
  · rfl
  · rfl
  · exact (survives_iff rfl (.of_foldlM rfl)).mp rfl

/-- An event log message before the registration ends the core. -/
theorem unregistered_halts :
    ¬ ∀ es c, Run (Steps (step id))
      ⟨["ivpcore.MessageProfiler"], {}, false, "", 0, [], none, [], none⟩ es c →
        c.halted = none := by
  intro hall
  have hhalted := hall
    [.text (messageText "__eventLog" "MAP" (.object [("description", .string "up")])) 0
      workingDatabase] _ (.of_foldlM rfl)
  exact absurd hhalted (by decide)

end CoreConnection

end V2XHub.Tmx
