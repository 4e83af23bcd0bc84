import V2XHub.Tmx.ItemView
import V2XHub.Tmx.PluginConnectionLaws

/-!
# The calls of the plugin API

A plugin registers, subscribes, reports its status, logs and sets configuration values by messages
that the API makes for it. Here is what each call sends, and what becomes of the core when it has
received it. No call gives its message a source.

**Main result** `survives_apiCalls_iff`: a core that serves a plugin which uses the API goes on
exactly as long as the plugin logs no event before it is registered and sets no configuration value.
-/

namespace V2XHub.Tmx

namespace IvpCodec

open V2XHub.Lib CJsonText

/-! ## What the API makes -/

/-- `ivpMsg_create`, at a time. -/
def ivpMsg_create (type subtype encoding : Option (List UInt8)) (flags : UInt32)
    (payload : Option Item) (now : UInt64) : IvpMessage where
  type := type
  subtype := subtype
  source := none
  sourceId := 0
  encoding := encoding
  timestamp := now
  flags := flags
  dsrcMetadata := none
  payload := payload

/-- `cJSON_AddStringToObject`, for a string that is there. -/
def addString (name : String) (s : Option (List UInt8)) : List (List UInt8 × Item) :=
  (s.map fun s => (ascii name, .string s)).toList

/-- A collection that items are added to is asserted to be an array, and made if it is `NULL`. -/
def openCollection : Option Item → Except Halt (List Item)
  | none => .ok []
  | some (.array items) => .ok items
  | some _ => .error .assertion

def ivpRegister_createMsgFromJson (manifest : Item) (now : UInt64) : IvpMessage :=
  ivpMsg_create (some (ascii "__register")) none (some (ascii "JSON")) 0 (some manifest) now

def ivpSubscribe_createMsg (filter : Option Item) (now : UInt64) : IvpMessage :=
  ivpMsg_create (some (ascii "__subscribe")) none none 0 filter now

def ivpSubscribe_addFilterEntryWithFlagMask (filter : Option Item)
    (type subtype : Option (List UInt8)) (flags : UInt32) : Except Halt Item :=
  (openCollection filter).map fun items =>
    match type with
    | none => .array items
    | some type =>
        .array (items ++ [.object (addString "type" (some type) ++ addString "subtype" subtype ++
          if flags ≠ 0 then [(ascii "flagmask", cJson_createNumber flags.toNat)] else [])])

def ivpPluginStatus_createMsg (collection : Option Item) (now : UInt64) : IvpMessage :=
  ivpMsg_create (some (ascii "__status")) none (some (ascii "json")) 0 collection now

def ivpPluginStatus_addStatusItem (collection : Option Item) (key value : Option (List UInt8)) :
    Except Halt Item :=
  (openCollection collection).map fun items =>
    if value.isSome ∨ key.isSome then
      .array (items ++ [.object (addString "key" key ++ addString "value" value)])
    else .array items

def ivpConfig_createMsg (collection : Option Item) (now : UInt64) : IvpMessage :=
  ivpMsg_create (some (ascii "__config")) none (some (ascii "json")) 0 collection now

def ivpConfig_addItemToCollection (collection : Option Item) (key : List UInt8)
    (value defaultValue : Option (List UInt8)) : Except Halt Item :=
  (openCollection collection).map fun items =>
    if value.isSome ∨ defaultValue.isSome then
      .array (items ++ [.object (addString "key" (some key) ++ addString "value" value ++
        addString "default" defaultValue)])
    else .array items

/-- `IvpLogLevel`, from debug to fatal. -/
abbrev LogLevel := Fin 5

def ivpEventLog_createMsg (level : LogLevel) (description : List UInt8) (now : UInt64) :
    Except Halt IvpMessage :=
  if description = [] then .error .assertion
  else
    .ok (ivpMsg_create (some (ascii "__eventLog")) none (some (ascii "json")) 0
      (some (.object ((ascii "level", cJson_createNumber level.val) ::
        addString "description" (some description)))) now)

/-! ## What a plugin calls -/

def ivp_setStatus (status : List UInt8) (now : UInt64) : Except Halt IvpMessage :=
  (ivpPluginStatus_addStatusItem none none (some status)).map fun collection =>
    ivpPluginStatus_createMsg (some collection) now

def ivp_setStatusItem (key value : List UInt8) (now : UInt64) : Except Halt IvpMessage :=
  if key = [] then .error .assertion
  else
    (ivpPluginStatus_addStatusItem none (some key) (some value)).map fun collection =>
      ivpPluginStatus_createMsg (some collection) now

def ivp_removeStatusItem (key : List UInt8) (now : UInt64) : Except Halt IvpMessage :=
  if key = [] then .error .assertion
  else
    (ivpPluginStatus_addStatusItem none (some key) none).map fun collection =>
      ivpPluginStatus_createMsg (some collection) now

def ivp_addEventLog (level : LogLevel) (description : List UInt8) (now : UInt64) :
    Except Halt IvpMessage :=
  ivpEventLog_createMsg level description now

def ivp_setConfigurationValue (key value : List UInt8) (now : UInt64) : Except Halt IvpMessage :=
  if key = [] then .error .assertion
  else
    (ivpConfig_addItemToCollection none key (some value) none).map fun collection =>
      ivpConfig_createMsg (some collection) now

/-- A C string. -/
abbrev CText := { s : List UInt8 // 0 ∉ s }

/-- An item that is printed as it is. -/
abbrev PrintableItem := { item : Item // Printable item }

/-- The calls whose messages are for the core itself. -/
inductive ApiCall where
  /-- the first message on a connection -/
  | register (manifest : PrintableItem)
  | subscribe (filter : Option PrintableItem)
  | setStatus (status : CText)
  | setStatusItem (key value : CText)
  | removeStatusItem (key : CText)
  | addEventLog (level : LogLevel) (description : CText)
  | setConfigurationValue (key value : CText)

def ApiCall.message (call : ApiCall) (now : UInt64) : Except Halt IvpMessage :=
  match call with
  | .register manifest => .ok (ivpRegister_createMsgFromJson manifest.val now)
  | .subscribe filter => .ok (ivpSubscribe_createMsg (filter.map Subtype.val) now)
  | .setStatus status => ivp_setStatus status.val now
  | .setStatusItem key value => ivp_setStatusItem key.val value.val now
  | .removeStatusItem key => ivp_removeStatusItem key.val now
  | .addEventLog level description => ivp_addEventLog level description.val now
  | .setConfigurationValue key value => ivp_setConfigurationValue key.val value.val now

/-! ## Its messages are plain -/

theorem printableMembers_append {ms ms' : List (List UInt8 × Item)} (h : PrintableMembers ms)
    (h' : PrintableMembers ms') : PrintableMembers (ms ++ ms') := by
  induction ms with
  | nil => exact h'
  | cons m ms ih => exact ⟨h.1, h.2.1, ih h.2.2⟩

theorem printableMembers_addString {name : String} (hname : 0 ∉ ascii name)
    {s : Option (List UInt8)} (hs : ∀ t ∈ s, 0 ∉ t) : PrintableMembers (addString name s) := by
  cases s with
  | none => trivial
  | some t => exact ⟨hname, hs t rfl, trivial⟩

theorem forall_mem_some {s : List UInt8} (h : 0 ∉ s) : ∀ t ∈ some s, 0 ∉ t := by
  rintro _ ⟨⟩
  exact h

theorem forall_mem_none : ∀ t ∈ (none : Option (List UInt8)), 0 ∉ t := by
  rintro _ ⟨⟩

section

variable {type encoding : Option (List UInt8)} {payload : Option Item} {now : UInt64}

theorem exists_plain_create (htype : ∀ s ∈ type, 0 ∉ s) (hencoding : ∀ s ∈ encoding, 0 ∉ s)
    (hpayload : ∀ item ∈ payload, Printable item) (hnow : now.toNat < 2 ^ 53) :
    ∃ m : PlainMessage, m.toIvpMessage = ivpMsg_create type none encoding 0 payload now :=
  ⟨{ toIvpMessage := ivpMsg_create type none encoding 0 payload now
     type_cString := htype
     subtype_cString := forall_mem_none
     source_cString := forall_mem_none
     encoding_cString := hencoding
     timestamp_lt := hnow
     payload_printable := hpayload }, rfl⟩

/-- A plain message arrives. -/
theorem parse_createJsonString_of_plain {msg : IvpMessage}
    (h : ∃ m : PlainMessage, m.toIvpMessage = msg) (realText : ℚ → List UInt8)
    (malloced : IvpDsrcMetadata) (options : IvpMsg_FormatOptions) :
    ivpMsg_parse malloced (ivpMsg_createJsonString realText msg options) = some msg.reparsed := by
  obtain ⟨m, rfl⟩ := h
  exact ivpMsg_parse_createJsonString m.printable_rootItems realText malloced options

theorem printable_statusItem {key value : Option (List UInt8)} (hkey : ∀ s ∈ key, 0 ∉ s)
    (hvalue : ∀ s ∈ value, 0 ∉ s) :
    Printable (.array [.object (addString "key" key ++ addString "value" value)]) :=
  ⟨printableMembers_append (printableMembers_addString (by decide) hkey)
    (printableMembers_addString (by decide) hvalue), trivial⟩

theorem ApiCall.exists_plain (call : ApiCall) {msg : IvpMessage} (hnow : now.toNat < 2 ^ 53)
    (hmsg : call.message now = .ok msg) : ∃ m : PlainMessage, m.toIvpMessage = msg := by
  have hjson : ∀ s ∈ some (ascii "json"), 0 ∉ s := forall_mem_some (by decide)
  cases call with
  | register manifest =>
      cases hmsg
      exact exists_plain_create (forall_mem_some (by decide)) (forall_mem_some (by decide))
        (printable_some manifest.property) hnow
  | subscribe filter =>
      cases hmsg
      apply exists_plain_create (forall_mem_some (by decide)) forall_mem_none _ hnow
      intro item hitem
      obtain ⟨filter, -, rfl⟩ := Option.map_eq_some_iff.mp hitem
      exact filter.property
  | setStatus status =>
      cases hmsg
      exact exists_plain_create (forall_mem_some (by decide)) hjson
        (printable_some (printable_statusItem forall_mem_none (forall_mem_some status.property)))
        hnow
  | setStatusItem key value =>
      simp only [ApiCall.message, ivp_setStatusItem] at hmsg
      split at hmsg
      · cases hmsg
      · cases hmsg
        exact exists_plain_create (forall_mem_some (by decide)) hjson
          (printable_some (printable_statusItem (forall_mem_some key.property)
            (forall_mem_some value.property))) hnow
  | removeStatusItem key =>
      simp only [ApiCall.message, ivp_removeStatusItem] at hmsg
      split at hmsg
      · cases hmsg
      · cases hmsg
        exact exists_plain_create (forall_mem_some (by decide)) hjson
          (printable_some (printable_statusItem (forall_mem_some key.property) forall_mem_none))
          hnow
  | addEventLog level description =>
      simp only [ApiCall.message, ivp_addEventLog, ivpEventLog_createMsg] at hmsg
      split at hmsg
      · cases hmsg
      · cases hmsg
        have hlevel : Printable (cJson_createNumber level.val) :=
          printable_natNumber (by omega)
        exact exists_plain_create (forall_mem_some (by decide)) hjson
          (printable_some ⟨by decide, hlevel,
            printableMembers_addString (by decide) (forall_mem_some description.property)⟩) hnow
  | setConfigurationValue key value =>
      simp only [ApiCall.message, ivp_setConfigurationValue] at hmsg
      split at hmsg
      · cases hmsg
      · cases hmsg
        have hkey : PrintableMembers (addString "key" (some key.val)) :=
          printableMembers_addString (by decide) (forall_mem_some key.property)
        have hvalue : PrintableMembers (addString "value" (some value.val)) :=
          printableMembers_addString (by decide) (forall_mem_some value.property)
        have hmembers := printableMembers_append (printableMembers_append hkey hvalue)
          (show PrintableMembers (addString "default" none) from trivial)
        exact exists_plain_create (forall_mem_some (by decide)) hjson
          (printable_some ⟨hmembers, trivial⟩) hnow

end

/-! ## What the core makes of them -/

/-- The core can process the message of the call. -/
def ApiCall.Harmless (call : ApiCall) (c : CoreConnection) : Prop :=
  match call with
  | .addEventLog _ _ => c.registered = true
  | .setConfigurationValue _ _ => False
  | _ => True

variable (collate : String → String) {now : UInt64}

theorem properMessage_status {c : CoreConnection} {db : DatabaseReplies} {msg : CoreMessage}
    (htype : msg.type = some "__status") {item : Item}
    (hpayload : msg.payload = some (.array [view item]))
    (hitem : (getStr item (ascii "key")).isSome = true ∨
      (getStr item (ascii "value")).isSome = true) :
    c.ProperMessage collate msg db := by
  have hkind : msg.kind = .status := by simp [CoreMessage.kind, htype]
  have hkey : (view item).tryGetStr "key" = (getStr item (ascii "key")).map cppString :=
    getStr_view item (ascii "key")
  have hvalue : (view item).tryGetStr "value" = (getStr item (ascii "value")).map cppString :=
    getStr_view item (ascii "value")
  rw [CoreConnection.ProperMessage, hkind, hpayload]
  intro item' hitem'
  rw [List.mem_singleton.mp hitem', hkey, hvalue, Option.isSome_map, Option.isSome_map]
  exact hitem

/-- The messages of the API are proper exactly if the call is harmless. -/
theorem ApiCall.properMessage_iff (call : ApiCall) {msg : IvpMessage}
    (hmsg : call.message now = .ok msg) (c : CoreConnection) (db : DatabaseReplies) :
    c.ProperMessage collate (viewMessage msg.reparsed) db ↔ call.Harmless c := by
  cases call with
  | register manifest =>
      cases hmsg
      exact iff_of_true rfl trivial
  | subscribe filter =>
      cases hmsg
      exact iff_of_true trivial trivial
  | setStatus status =>
      cases hmsg
      exact iff_of_true (properMessage_status collate rfl rfl (.inr rfl)) trivial
  | setStatusItem key value =>
      simp only [ApiCall.message, ivp_setStatusItem] at hmsg
      split at hmsg
      · cases hmsg
      · cases hmsg
        exact iff_of_true (properMessage_status collate rfl rfl (.inl rfl)) trivial
  | removeStatusItem key =>
      simp only [ApiCall.message, ivp_removeStatusItem] at hmsg
      split at hmsg
      · cases hmsg
      · cases hmsg
        exact iff_of_true (properMessage_status collate rfl rfl (.inl rfl)) trivial
  | addEventLog level description =>
      simp only [ApiCall.message, ivp_addEventLog, ivpEventLog_createMsg] at hmsg
      split at hmsg
      · cases hmsg
      · rename_i hne
        cases hmsg
        have htext : cppString description.val ≠ "" := fun h => hne (cppString_eq_empty.mp h)
        constructor
        · exact fun h => h.1
        · exact fun h => ⟨h, _, _, rfl, getStr_view _ (ascii "description"), htext⟩
  | setConfigurationValue key value =>
      simp only [ApiCall.message, ivp_setConfigurationValue] at hmsg
      split at hmsg
      · cases hmsg
      · cases hmsg
        refine iff_of_false ?_ id
        -- the message has no source
        rintro ⟨hitems, -⟩
        obtain ⟨_, _, _, -, -, hsource, -⟩ := hitems _ List.mem_cons_self
        cases hsource

/-! ## The core over time -/

variable (realText : ℚ → List UInt8)

inductive ApiEvent where
  /-- a call at a time, and what the core finds when its message has arrived -/
  | call (call : ApiCall) (now : UInt64) (rxTime : Nat) (db : DatabaseReplies)
  | configRound (configMap : List PluginConfigurationParameterEntry)
  | clientNames (names : List String)
  | profiler (e : MessageProfiler.Event)

/-- The message of a call is printed, and the core processes what it parses. -/
def apiStep (c : CoreConnection) : ApiEvent → Option CoreConnection
  | .call call now rxTime db =>
      match call.message now with
      | .error _ => none
      | .ok msg =>
          (cJson_parse (ivpMsg_createJsonString realText msg .none)).bind fun root =>
            c.step collate (.text (view root) rxTime db)
  | .configRound configMap => c.step collate (.configRound configMap)
  | .clientNames names => c.step collate (.clientNames names)
  | .profiler e => c.step collate (.profiler e)

/-- A time in milliseconds that a `double` holds. -/
def ApiEvent.Timely : ApiEvent → Prop
  | .call _ now _ _ => now.toNat < 2 ^ 53
  | _ => True

def ApiEvent.Harmless (c : CoreConnection) : ApiEvent → Prop
  | .call apiCall _ _ _ => apiCall.Harmless c
  | _ => True

instance (c : CoreConnection) (call : ApiCall) : Decidable (call.Harmless c) :=
  match call with
  | .addEventLog _ _ => inferInstanceAs (Decidable (c.registered = true))
  | .setConfigurationValue _ _ => inferInstanceAs (Decidable False)
  | .register _ | .subscribe _ | .setStatus _ | .setStatusItem _ _ | .removeStatusItem _ =>
      inferInstanceAs (Decidable True)

instance (c : CoreConnection) (e : ApiEvent) : Decidable (e.Harmless c) :=
  match e with
  | .call call _ _ _ => inferInstanceAs (Decidable (call.Harmless c))
  | .configRound _ | .clientNames _ | .profiler _ => inferInstanceAs (Decidable True)

variable {collate realText} {c c' : CoreConnection}

theorem apiStep_halted_iff {e : ApiEvent} (htimely : e.Timely) (hc : c.halted = none)
    (hstep : apiStep collate realText c e = some c') : c'.halted = none ↔ e.Harmless c := by
  cases e with
  | call call now rxTime db =>
      simp only [apiStep] at hstep
      split at hstep
      · cases hstep
      · rename_i msg hmsg
        obtain ⟨root, hroot, htext⟩ := Option.bind_eq_some_iff.mp hstep
        have hparse := parse_createJsonString_of_plain (call.exists_plain htimely hmsg) realText
          ⟨0, 0⟩ .none
        have hview := ivpMsg_parse_view ⟨0, 0⟩ (ivpMsg_createJsonString realText msg .none)
        rw [hparse, hroot, Option.map_some, Option.bind_some] at hview
        have hcore : Tmx.ivpMsg_parse (view root) = some (viewMessage msg.reparsed) := hview.symm
        have hproper : c.Proper collate (.text (view root) rxTime db) ↔
            c.ProperMessage collate (viewMessage msg.reparsed) db := by
          rw [CoreConnection.Proper, hcore]
          simp only [Option.some.injEq, forall_eq']
        rw [CoreConnection.step_halted_iff hc htext, hproper]
        exact call.properMessage_iff collate hmsg c db
  | configRound configMap =>
      have hcore : c.step collate (.configRound configMap) = some c' := hstep
      exact iff_of_true ((CoreConnection.step_halted_iff hc hcore).mpr trivial) trivial
  | clientNames names =>
      have hcore : c.step collate (.clientNames names) = some c' := hstep
      exact iff_of_true ((CoreConnection.step_halted_iff hc hcore).mpr trivial) trivial
  | profiler e =>
      have hcore : c.step collate (.profiler e) = some c' := hstep
      exact iff_of_true ((CoreConnection.step_halted_iff hc hcore).mpr trivial) trivial

theorem apiStep_alive {e : ApiEvent} (hstep : apiStep collate realText c e = some c') :
    c.halted = none := by
  cases e with
  | call call now rxTime db =>
      simp only [apiStep] at hstep
      split at hstep
      · cases hstep
      · obtain ⟨root, -, htext⟩ := Option.bind_eq_some_iff.mp hstep
        exact CoreConnection.step_alive htext
  | configRound configMap =>
      have hcore : c.step collate (.configRound configMap) = some c' := hstep
      exact CoreConnection.step_alive hcore
  | clientNames names =>
      have hcore : c.step collate (.clientNames names) = some c' := hstep
      exact CoreConnection.step_alive hcore
  | profiler e =>
      have hcore : c.step collate (.profiler e) = some c' := hstep
      exact CoreConnection.step_alive hcore

/-- **The core survives a plugin that uses the API** exactly if the plugin logs no event before the
core has registered it and sets no configuration value. -/
theorem survives_apiCalls_iff {es : List ApiEvent} (htimely : ∀ e ∈ es, e.Timely)
    (hc : c.halted = none) (h : Run (Steps (apiStep collate realText)) c es c') :
    c'.halted = none ↔
      Run (Guarded ApiEvent.Harmless (Steps (apiStep collate realText))) c es c' := by
  have hlast : ∀ s e t, Steps (apiStep collate realText) s e t → s.halted = none := by
    intro s e t hstep
    exact apiStep_alive hstep
  have halive : ∀ e ∈ es, ∀ s t, s.halted = none → Steps (apiStep collate realText) s e t →
      (t.halted = none ↔ e.Harmless s) := by
    intro e he s t hs hstep
    exact apiStep_halted_iff (htimely e he) hs hstep
  exact h.alive_iff_guarded hlast halive hc

/-- The connection of a registered plugin. -/
def registeredConnection : CoreConnection where
  clientNames := ["MAP"]
  profiler := {}
  registered := true
  name := "MAP"
  pluginId := 7

/-- A core that has no plugin yet. -/
def firstConnection : CoreConnection where
  clientNames := ["ivpcore.MessageProfiler"]
  profiler := {}

/-- A plugin registers, subscribes, sets a status item and one of the whole, removes the item again
and logs an error. -/
def mapCalls : List ApiEvent :=
  [.call (.register ⟨.object [(ascii "name", .string (ascii "MAP"))],
      ⟨by decide, show 0 ∉ ascii "MAP" by decide, trivial⟩⟩) 1000 0 CoreConnection.workingDatabase,
    .call (.subscribe (some ⟨.array [.object [(ascii "type", .string (ascii "J2735"))]],
      ⟨⟨by decide, show 0 ∉ ascii "J2735" by decide, trivial⟩, trivial⟩⟩)) 1001 1
        CoreConnection.workingDatabase,
    .call (.setStatusItem ⟨ascii "Speed", by decide⟩ ⟨ascii "5", by decide⟩) 1002 2
      CoreConnection.workingDatabase,
    .call (.setStatus ⟨ascii "up", by decide⟩) 1003 3 CoreConnection.workingDatabase,
    .call (.removeStatusItem ⟨ascii "Speed", by decide⟩) 1004 4 CoreConnection.workingDatabase,
    .call (.addEventLog 3 ⟨ascii "no map", by decide⟩) 1005 5 CoreConnection.workingDatabase]

/-- The plugin sets a configuration value. -/
def frequencyCall : ApiEvent :=
  .call (.setConfigurationValue ⟨ascii "Frequency", by decide⟩ ⟨ascii "5", by decide⟩) 1006 6
    CoreConnection.workingDatabase

theorem timely_mapCalls : ∀ e ∈ mapCalls ++ [frequencyCall], e.Timely := by
  have htime (now : UInt64) (h : now.toNat < 2 ^ 53) (call : ApiCall) (rxTime : Nat)
      (db : DatabaseReplies) : (ApiEvent.call call now rxTime db).Timely := h
  unfold mapCalls frequencyCall
  simp only [List.cons_append, List.nil_append, List.forall_mem_cons]
  exact ⟨htime _ (by decide) _ _ _, htime _ (by decide) _ _ _, htime _ (by decide) _ _ _,
    htime _ (by decide) _ _ _, htime _ (by decide) _ _ _, htime _ (by decide) _ _ _,
    htime _ (by decide) _ _ _, nofun⟩

/-- The core goes on through all of this, and ends when the plugin sets a configuration value. -/
theorem survives_apiCalls_iff_mapCalls :
    (∃ c', Run (Steps (apiStep id fun _ => [])) firstConnection mapCalls c' ∧ c'.halted = none) ∧
      ∃ c', Run (Steps (apiStep id fun _ => [])) firstConnection (mapCalls ++ [frequencyCall]) c' ∧
        c'.halted ≠ none := by
  have hsurvives : (mapCalls.foldlM
      (guardedStep (fun c e => decide (e.Harmless c)) (apiStep id fun _ => []))
        firstConnection).isSome = true := by
    decide +kernel
  have hends : ((mapCalls ++ [frequencyCall]).foldlM (apiStep id fun _ => [])
      firstConnection).isSome = true := by
    decide +kernel
  refine ⟨?_, ?_⟩
  · obtain ⟨c', hc'⟩ := Option.isSome_iff_exists.mp hsurvives
    have hguarded : Run (Guarded ApiEvent.Harmless (Steps (apiStep id fun _ => [])))
        firstConnection mapCalls c' := by
      refine (Run.guarded_of_foldlM hc').mono ?_
      rintro s e t ⟨hharmless, hstep⟩
      exact ⟨of_decide_eq_true hharmless, hstep⟩
    have hrun := hguarded.mono fun _ _ _ hstep => hstep.2
    have htimely := fun e he => timely_mapCalls e (List.mem_append_left _ he)
    exact ⟨c', hrun, (survives_apiCalls_iff htimely rfl hrun).mpr hguarded⟩
  · obtain ⟨c', hc'⟩ := Option.isSome_iff_exists.mp hends
    have hrun := Run.of_foldlM hc'
    refine ⟨c', hrun, ?_⟩
    intro hhalted
    have hguarded := (survives_apiCalls_iff timely_mapCalls rfl hrun).mp hhalted
    obtain ⟨_, hharmless⟩ := hguarded.exists_guard (List.mem_append_right _ List.mem_cons_self)
    exact hharmless

end IvpCodec

end V2XHub.Tmx
