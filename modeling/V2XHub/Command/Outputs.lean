import V2XHub.Command.OutputTexts

/-!
# What the four functions append

Each call of `BuildFullTelemetry`, `BuildUpdateTelemetry`, `BuildRemoveTelemetry` and
`BuildCommandResponse`, in any state that a history of answers leads to, with what went into the
message and the exact condition that the message says it.
-/

namespace V2XHub.Command

open V2XHub.Lib
open V2XHub.Lib.JsonText

/-! ## Histories -/

section Histories

variable {k : DataType}

/-- What is kept of one kind of data after these answers of `TmxControl`, the latest first. -/
def KindData.after (k : DataType) (ending : Bool) : List (Option (Snapshot k)) → KindData
  | [] => {}
  | answer :: answers =>
      (after k ending answers).getTelemetry k ending (answer.map Snapshot.tree)

/-- The plugins whose texts are remembered. Without any settings, the old ones are. -/
def remembered : List (Option (Snapshot k)) → List (String × Ptree)
  | [] => []
  | none :: answers => remembered answers
  | some snapshot :: answers =>
      if k ≠ .systemConfig ∨ snapshot.tree.children ≠ [] then snapshot.tree.children
      else remembered answers

/-- A round without any settings keeps what was remembered. -/
theorem KindData.getTelemetry_nil_pluginsJSON (ending : Bool) (d : KindData)
    {snapshot : Snapshot .systemConfig} (h : snapshot.tree.children = []) :
    (d.getTelemetry .systemConfig ending (some snapshot.tree)).pluginsJSON = d.pluginsJSON := by
  have houtput : getOutput ending snapshot.tree = [] := if_pos h
  unfold getTelemetry
  simp only
  rw [if_pos trivial, houtput]
  rfl

theorem after_ok (ending : Bool) (answers : List (Option (Snapshot k))) :
    (KindData.after k ending answers).pluginsJSON = texts ending (remembered answers) ∧
      WellNamed (remembered answers) := by
  induction answers with
  | nil => exact ⟨rfl, List.nodup_nil, List.forall_mem_nil _, rfl⟩
  | cons answer answers ih =>
      cases answer with
      | none => exact ih
      | some snapshot =>
          rw [remembered]
          by_cases h : k ≠ .systemConfig ∨ snapshot.tree.children ≠ []
          · rw [if_pos h]
            obtain ⟨json, hdata, _⟩ :=
              (KindData.after k ending answers).getTelemetry_some ending snapshot h
            refine ⟨?_, snapshot.wellNamed⟩
            rw [KindData.after, Option.map_some, hdata]
          · rw [if_neg h]
            rw [not_or, not_not, not_not] at h
            obtain ⟨rfl, hnil⟩ := h
            refine ⟨?_, ih.2⟩
            rw [KindData.after, Option.map_some, KindData.getTelemetry_nil_pluginsJSON ending _ hnil]
            exact ih.1

end Histories

/-! ## Telemetry -/

/-- The text of a kind of data. -/
def DataType.name : DataType → String
  | .list => "List"
  | .config => "Config"
  | .status => "Status"
  | .state => "State"
  | .messages => "Messages"
  | .systemConfig => "SystemConfig"

def subtypeOf (remove : Bool) (k : DataType) : String :=
  if remove then "Remove_" ++ k.name else k.name

theorem plain_subtypeOf (remove : Bool) (k : DataType) : Plain (subtypeOf remove k) := by
  cases remove <;> cases k <;> decide

/-- What is appended for a message. -/
def TelemetryMessage.text (ms : Nat) (message : TelemetryMessage) : List Char :=
  messageText "Telemetry" (subtypeOf message.remove message.dataType) ms message.payload

/-- What a full telemetry is to say: the whole tree, or all settings. -/
def fullDoc (k : DataType) (tree : Ptree) : Doc :=
  if k = .systemConfig then
    .array (match tree.children with
      | [] => []
      | child :: _ => docElements child.2.children)
  else .object (docMembers tree.children)

/-- What the updates are to say of the plugins that have changed. -/
def updatesDoc (k : DataType) (ending : Bool) (m : TextMap) (plugins : List (String × Ptree)) :
    Doc :=
  let docs := (changed ending m plugins).map fun plugin =>
    (plugin.1, sentDoc k ending (oldData (m.lookup plugin.1) plugin.1)
      (pluginJSON ending plugin.1 plugin.2) plugin.2)
  if k = .systemConfig then
    match docs with
    | [] => .array []
    | (_, settings) :: _ => settings
  else .object docs

/-- All updates are read as what went into them. -/
def UpdatesFit (k : DataType) (ending : Bool) (m : TextMap) (plugins : List (String × Ptree)) :
    Prop :=
  ∀ plugin ∈ changed ending m plugins, Plain plugin.1 ∧
    UpdateFits k ending (oldData (m.lookup plugin.1) plugin.1)
      (pluginJSON ending plugin.1 plugin.2) plugin.2

/-- The plugins that are remembered and not there any more. -/
def gonePlugins (old plugins : List (String × Ptree)) : List (String × Ptree) :=
  old.filter fun plugin => plugin.1 ∉ plugins.map Prod.fst

section Telemetry

variable {k : DataType} {ending : Bool} {d : KindData} {d' : Doc} {P : Prop} {ms : Nat}

/-- A single message of that kind. -/
theorem framed_text_iff {payload : List Char} (h : ReadsIff payload d' P) (remove : Bool)
    (k : DataType) (ms : Nat) :
    Framed (messageDoc "Telemetry" (subtypeOf remove k) ms d')
      (TelemetryMessage.text ms { remove, dataType := k, payload }) ↔ P := by
  have hframed := framed_message_iff (by decide : Plain "Telemetry") (plain_subtypeOf remove k) h
    (List.forall_mem_nil _) ms
  rw [List.append_nil] at hframed
  exact hframed

/-- All settings. -/
theorem framed_settings (ms : Nat) (rows : List Ptree) :
    Framed (messageDoc "Telemetry" (subtypeOf false .systemConfig) ms
        (.array (docElements (rows.map fun row => ("", row)))))
      (TelemetryMessage.text ms
        { dataType := .systemConfig
          payload := '[' :: commaSeparated (rows.map writeValue) ++ [']'] }) := by
  have hrows : writeElements (rows.map fun row => ("", row)) = rows.map writeValue :=
    writeElements_map id rows
  have hread := Reads.array (readsElement_writeElements (rows.map fun row => ("", row)))
  rw [hrows] at hread
  exact (framed_text_iff (hread.readsIff _) false .systemConfig ms).mpr rfl

/-- The whole tree, if there is anything in it. -/
theorem framed_getOutput_iff (ending : Bool) (k : DataType) (tree : Ptree) (ms : Nat) :
    Framed (messageDoc "Telemetry" (subtypeOf false k) ms (.object (docMembers tree.children)))
      (TelemetryMessage.text ms { dataType := k, payload := getOutput ending tree }) ↔
        tree.children ≠ [] := by
  unfold getOutput
  by_cases hnil : tree.children = []
  · rw [if_pos hnil]
    exact iff_of_false (not_framed_nil (by decide) (plain_subtypeOf false k) ms) (not_not.mpr hnil)
  · have hwrite : writeJson ending tree =
        ('\x7b' :: commaSeparated (writeMembers tree.children) ++ ['\x7d']) ++
          if ending then ['\n'] else [] := by
      simp [writeJson]
    have hgap : ∀ c ∈ if ending then ['\n'] else [], isSpace c = true := by
      cases ending with
      | true => exact List.forall_mem_singleton.mpr rfl
      | false => exact List.forall_mem_nil _
    rw [if_neg hnil, hwrite]
    refine iff_of_true ?_ hnil
    exact (framed_message_iff (by decide) (plain_subtypeOf false k)
      ((reads_root tree).readsIff _) hgap ms).mpr rfl

theorem framed_full_iff (ending : Bool) (d : KindData) (snapshot : Snapshot k) (ms : Nat) :
    (∀ message ∈ (d.getTelemetry k ending (some snapshot.tree)).buildFullTelemetry k,
      Framed (messageDoc "Telemetry" (subtypeOf false k) ms (fullDoc k snapshot.tree))
        (message.text ms)) ↔ k = .systemConfig ∨ snapshot.tree.children ≠ [] := by
  by_cases h : k ≠ .systemConfig ∨ snapshot.tree.children ≠ []
  · obtain ⟨json, hdata, hjson⟩ := d.getTelemetry_some ending snapshot h
    rw [hdata, KindData.buildFullTelemetry, if_pos rfl, List.forall_mem_singleton, fullDoc]
    by_cases hk : k = .systemConfig
    · subst hk
      obtain ⟨i, rows, _, hchildren, hbetween⟩ :=
        snapshot.between_settings ending (h.resolve_left fun hne => hne rfl)
      rw [if_pos rfl, hbetween] at hjson
      obtain ⟨_, hjson⟩ := hjson
      obtain rfl := (Prod.mk.inj (Option.some.inj hjson)).2
      rw [if_pos rfl, if_pos rfl, hchildren]
      exact iff_of_true (framed_settings ms rows) (.inl rfl)
    · rw [if_neg hk] at hjson
      rw [if_neg hk, if_neg hk, hjson, or_iff_right hk]
      exact framed_getOutput_iff ending k (.node "" snapshot.tree.children) ms
  · rw [not_or, not_not, not_not] at h
    obtain ⟨rfl, hnil⟩ := h
    refine iff_of_true ?_ (.inl rfl)
    intro message hmessage
    rw [KindData.buildFullTelemetry, d.getTelemetry_nil ending hnil] at hmessage
    cases hmessage

theorem readsIff_updates (hk : k ≠ .systemConfig) (ending : Bool) (m : TextMap)
    (plugins : List (String × Ptree)) :
    ReadsIff
      ('\x7b' :: commaSeparated ((updates k ending m plugins).map Prod.snd) ++ ['\x7d'])
      (updatesDoc k ending m plugins) (UpdatesFit k ending m plugins) := by
  rw [updates, List.map_map, updatesDoc, if_neg hk]
  exact .object (.map fun plugin _ => readsMemberIff_updateText hk ending _ plugin)

/-- The update of the settings has no quote after its name and no object before the first comma. -/
theorem readsIff_settingsUpdate (ending : Bool) (remembered : Option (List Char)) (settings : Ptree)
    (elements : List (String × Ptree)) :
    ReadsIff ('[' :: updateText .systemConfig ending remembered "SystemConfig" settings ++ [']'])
      (.array (elements.map fun element => rootDoc element.2)) False := by
  rw [updateText, if_pos rfl]
  refine ReadsIff.array_of_ne (c := 'S') (by decide) (by decide) ?_ _
  intro v rest hdocs
  cases elements with
  | nil => cases hdocs
  | cons element elements => cases hdocs

theorem framed_update_iff (ending : Bool) (d : KindData) (snapshot : Snapshot k) (ms : Nat) :
    (∀ message ∈ (d.getTelemetry k ending (some snapshot.tree)).buildUpdateTelemetry k,
      Framed (messageDoc "Telemetry" (subtypeOf false k) ms
          (updatesDoc k ending d.pluginsJSON snapshot.tree.children)) (message.text ms)) ↔
        UpdatesFit k ending d.pluginsJSON snapshot.tree.children := by
  by_cases hchanged : changed ending d.pluginsJSON snapshot.tree.children = []
  · have hfits : UpdatesFit k ending d.pluginsJSON snapshot.tree.children := by
      unfold UpdatesFit
      rw [hchanged]
      exact List.forall_mem_nil _
    have hnone : (d.getTelemetry k ending (some snapshot.tree)).buildUpdateTelemetry k = [] := by
      by_cases h : k ≠ .systemConfig ∨ snapshot.tree.children ≠ []
      · obtain ⟨json, hdata, _⟩ := d.getTelemetry_some ending snapshot h
        rw [hdata]
        apply buildUpdateTelemetry_nil
        rw [updates, hchanged, List.map_nil]
      · rw [not_or, not_not, not_not] at h
        obtain ⟨rfl, hnil⟩ := h
        exact buildUpdateTelemetry_false (d.getTelemetry_nil ending hnil)
    rw [hnone]
    exact iff_of_true (List.forall_mem_nil _) hfits
  · have h : k ≠ .systemConfig ∨ snapshot.tree.children ≠ [] := by
      right
      intro hnil
      rw [hnil] at hchanged
      exact hchanged rfl
    obtain ⟨json, hdata, _⟩ := d.getTelemetry_some ending snapshot h
    have hne : updates k ending d.pluginsJSON snapshot.tree.children ≠ [] := by
      unfold updates
      exact fun hnil => hchanged (List.map_eq_nil_iff.mp hnil)
    rw [hdata]
    by_cases hk : k = .systemConfig
    · subst hk
      -- the only plugin there is
      obtain ⟨i, rows, _, hchildren, _⟩ :=
        snapshot.between_settings ending (h.resolve_left fun hne => hne rfl)
      have hall : changed ending d.pluginsJSON snapshot.tree.children =
          [("SystemConfig", .node "" (rows.map fun row => ("", row)))] := by
        rw [hchildren] at hchanged ⊢
        unfold changed at hchanged ⊢
        rw [List.filter_cons] at hchanged ⊢
        split
        · rfl
        · next hsame =>
            rw [if_neg hsame] at hchanged
            exact absurd rfl hchanged
      have hfits : ¬ UpdatesFit .systemConfig ending d.pluginsJSON snapshot.tree.children := by
        intro hfits
        unfold UpdatesFit at hfits
        rw [hall] at hfits
        exact (List.forall_mem_singleton.mp hfits).2
      have hmessages : KindData.buildUpdateTelemetry .systemConfig
          { haveData := true
            json := json
            pluginsJSON := texts ending snapshot.tree.children
            pluginsUpdatesJSON := updates .systemConfig ending d.pluginsJSON snapshot.tree.children
            pluginsRemoveJSON := d.pluginsJSON.filter fun entry =>
              entry.1 ∉ snapshot.tree.children.map Prod.fst } =
          [{ dataType := .systemConfig
             payload := '[' :: updateText .systemConfig ending (d.pluginsJSON.lookup "SystemConfig")
               "SystemConfig" (.node "" (rows.map fun row => ("", row))) ++ [']'] }] := by
        rw [updates, hall]
        rfl
      rw [hmessages, List.forall_mem_singleton, updatesDoc, hall, if_pos rfl]
      refine iff_of_false ?_ hfits
      exact (framed_text_iff (readsIff_settingsUpdate ending _ _ _) false .systemConfig ms).mp
    · rw [buildUpdateTelemetry_eq hk rfl hne, List.forall_mem_singleton]
      exact framed_text_iff (readsIff_updates hk ending d.pluginsJSON snapshot.tree.children) false
        k ms

theorem framed_remove_iff (hk : k ≠ .systemConfig) (ending : Bool) {old : List (String × Ptree)}
    (hold : d.pluginsJSON = texts ending old) (hnames : ∀ plugin ∈ old, plugin.1 ≠ "")
    (snapshot : Snapshot k) (ms : Nat) :
    (∀ message ∈ (d.getTelemetry k ending (some snapshot.tree)).buildRemoveTelemetry k,
      Framed (messageDoc "Telemetry" (subtypeOf true k) ms
          (.object (docMembers (gonePlugins old snapshot.tree.children)))) (message.text ms)) ↔
        ∀ plugin ∈ gonePlugins old snapshot.tree.children, '.' ∉ plugin.1.toList := by
  obtain ⟨json, hdata, _⟩ := d.getTelemetry_some ending snapshot (.inl hk)
  have hgone : (texts ending old).filter
      (fun entry => entry.1 ∉ snapshot.tree.children.map Prod.fst) =
        texts ending (gonePlugins old snapshot.tree.children) := List.filter_map ..
  rw [hdata, hold, hgone, KindData.buildRemoveTelemetry]
  by_cases hnil : gonePlugins old snapshot.tree.children = []
  · rw [hnil, if_neg (fun hne => hne.2 rfl)]
    exact iff_of_true (List.forall_mem_nil _) (List.forall_mem_nil _)
  · have hne : texts ending (gonePlugins old snapshot.tree.children) ≠ [] :=
      fun hmap => hnil (List.map_eq_nil_iff.mp hmap)
    have hgone' : ∀ plugin ∈ gonePlugins old snapshot.tree.children, plugin.1 ≠ "" :=
      fun plugin hplugin => hnames plugin (List.mem_of_mem_filter hplugin)
    obtain ⟨children, htexts, hdocs⟩ := removals ending hgone'
    have hread : Reads ('\x7b' :: commaSeparated (writeMembers children) ++ ['\x7d'])
        (.object (docMembers children)) := reads_root (.node "" children)
    rw [if_pos ⟨rfl, hne⟩, List.forall_mem_singleton, htexts, ← hdocs]
    refine (framed_text_iff (hread.readsIff _) true k ms).trans ?_
    rw [Doc.object.injEq]

end Telemetry

/-! ## Events -/

namespace EventLog

/-- All rows that the database has returned. -/
def answered (events : List LogEvent) : List EventRow :=
  events.flatMap fun e =>
    match e with
    | .getEventTelemetry (some rows) => rows
    | _ => []

/-- `BuildFullTelemetry` for events. -/
def buildFullTelemetry (s : EventLog) : List (List Char) :=
  if s.haveEvents then ['[' :: s.eventsJSON ++ [']']] else []

/-- `BuildUpdateTelemetry` for events. -/
def buildUpdateTelemetry (s : EventLog) : List (List Char) :=
  if s.haveEvents = true ∧ s.eventsUpdatesJSON.length > 0 then
    ['[' :: s.eventsUpdatesJSON ++ [']']]
  else []

/-- The text is that of rows which the database has returned. -/
def OfRows (rows : List EventRow) (text : List Char) : Prop :=
  ∃ kept, text = rowsText kept ∧ kept ⊆ rows

/-- All texts are. -/
structure TextsOf (rows : List EventRow) (s : EventLog) : Prop where
  full : OfRows rows s.eventsJSON
  next : OfRows rows s.eventsNextFullJSON
  updates : OfRows rows s.eventsUpdatesJSON

variable {ending : Bool} {limit : UInt64} {s : EventLog} {rows rows' : List EventRow}
  {text : List Char}

namespace OfRows

theorem nil (rows : List EventRow) : OfRows rows [] := ⟨[], rfl, List.nil_subset rows⟩

theorem mono (h : OfRows rows text) (hrows : rows ⊆ rows') : OfRows rows' text := by
  obtain ⟨kept, htext, hkept⟩ := h
  exact ⟨kept, htext, List.Subset.trans hkept hrows⟩

theorem append (h : OfRows rows text) (hne : rows' ≠ []) :
    OfRows (rows ++ rows') (appendText text (rowsText rows')) := by
  obtain ⟨kept, rfl, hkept⟩ := h
  refine ⟨kept ++ rows', appendText_rowsText hne, ?_⟩
  exact List.append_subset.mpr ⟨List.Subset.trans hkept (List.subset_append_left _ _),
    List.subset_append_right _ _⟩

end OfRows

namespace TextsOf

theorem mono (h : TextsOf rows s) (hrows : rows ⊆ rows') : TextsOf rows' s :=
  ⟨h.full.mono hrows, h.next.mono hrows, h.updates.mono hrows⟩

theorem clear (h : TextsOf rows s) : TextsOf rows s.clear := ⟨.nil rows, h.next, .nil rows⟩

theorem addNext (h : TextsOf (rows ++ rows') s) (hnext : OfRows rows s.eventsNextFullJSON)
    (hne : rows' ≠ []) (eventCount : UInt64) :
    TextsOf (rows ++ rows') (s.addNext limit (rowsText rows') eventCount rows') := by
  unfold EventLog.addNext
  split
  · exact ⟨h.full, hnext.append hne, h.updates⟩
  · exact h

/-- Where the second text is not taken, the first goes on. -/
theorem addFull (h : TextsOf (rows ++ rows') s) (hfull : OfRows rows s.eventsJSON)
    (hne : rows' ≠ []) (eventCount : UInt64) :
    TextsOf (rows ++ rows') (s.addFull limit (rowsText rows') eventCount) := by
  unfold EventLog.addFull
  split
  · exact ⟨h.next, .nil _, h.updates⟩
  · exact ⟨hfull.append hne, h.next, h.updates⟩

theorem getEventTelemetry (h : TextsOf rows s) :
    TextsOf (rows ++ rows') (s.getEventTelemetry ending limit (some rows')) := by
  by_cases hne : rows' = []
  · subst hne
    rw [getEventTelemetry_nil, List.append_nil]
    exact ⟨h.full, h.next, .nil rows⟩
  · obtain ⟨time, eventCount, heq⟩ := getEventTelemetry_some ending limit s hne
    rw [heq]
    have hs : TextsOf (rows ++ rows') { s with
        haveEvents := true
        received := s.received ++ rows'
        lastEventTime := time
        eventsUpdatesJSON := rowsText rows' } := by
      refine ⟨h.full.mono ?_, h.next.mono ?_, ⟨rows', rfl, List.subset_append_right _ _⟩⟩
      · exact List.subset_append_left _ _
      · exact List.subset_append_left _ _
    refine (hs.addNext h.next hne eventCount).addFull ?_ hne eventCount
    rw [(addNext_full limit _ (rowsText rows') eventCount rows').1]
    exact h.full

theorem step (h : TextsOf rows s) (e : LogEvent) :
    TextsOf (rows ++ answered [e]) (s.step ending limit e) := by
  cases e with
  | getEventTelemetry rows' =>
      cases rows' with
      | none =>
          have hs := h.mono (List.subset_append_left rows (answered [.getEventTelemetry none]))
          exact ⟨hs.full, hs.next, hs.updates⟩
      | some rows' =>
          rw [answered, List.flatMap_cons, List.flatMap_nil, List.append_nil]
          exact h.getEventTelemetry
  | clearlog rc =>
      have hs := h.mono (List.subset_append_left rows (answered [.clearlog rc]))
      cases rc with
      | true => exact hs.clear
      | false => exact hs
  | lastClosed =>
      have hs := (h.mono (List.subset_append_left rows (answered [.lastClosed]))).clear
      exact ⟨hs.full, hs.next, hs.updates⟩

theorem foldl (h : TextsOf rows s) (events : List LogEvent) :
    TextsOf (rows ++ answered events) (events.foldl (EventLog.step ending limit) s) := by
  induction events generalizing s rows with
  | nil => exact h.mono (List.subset_append_left _ _)
  | cons e events ih =>
      have hsplit : answered ([e] ++ events) = answered [e] ++ answered events :=
        List.flatMap_append
      rw [List.singleton_append] at hsplit
      rw [List.foldl_cons, hsplit, ← List.append_assoc]
      exact ih (h.step e)

end TextsOf

/-- The log after these events. -/
def after (ending : Bool) (limit : UInt64) (events : List LogEvent) : EventLog :=
  events.foldl (step ending limit) {}

theorem textsOf_after (ending : Bool) (limit : UInt64) (events : List LogEvent) :
    TextsOf (answered events) (after ending limit events) := by
  have hempty : TextsOf [] {} := ⟨.nil [], .nil [], .nil []⟩
  exact hempty.foldl events

/-- What is read of the text of rows between brackets. -/
def rowsDoc (rows : List EventRow) : Doc := .array (rows.map fun row => docOf row.tree)

theorem framed_rows (ms : Nat) (rows : List EventRow) :
    Framed (messageDoc "Telemetry" "Events" ms (rowsDoc rows))
      (messageText "Telemetry" "Events" ms ('[' :: rowsText rows ++ [']'])) := by
  have hread : Reads ('[' :: rowsText rows ++ [']']) (rowsDoc rows) := by
    refine .array ?_
    rw [List.forall₂_map_left_iff, List.forall₂_map_right_iff]
    apply List.forall₂_same.mpr
    intro row _
    exact ⟨row.text, [], (List.append_nil _).symm, List.forall_mem_nil _,
      reads_writeValue row.tree⟩
  have hframed := framed_message_iff (by decide : Plain "Telemetry")
    (by decide : Plain "Events") (hread.readsIff (rowsDoc rows)) (List.forall_mem_nil _) ms
  rw [List.append_nil] at hframed
  exact hframed.mpr rfl

end EventLog

/-! ## All calls -/

/-- A call of one of the four functions, with the history behind what it appends: the answers for a
kind of data, the latest first, or the events of the log. A user list is the only array there is. -/
inductive OutputCall where
  | fullTelemetry (k : DataType) (answers : List (Option (Snapshot k)))
  | updateTelemetry (k : DataType) (answers : List (Option (Snapshot k)))
  | removeTelemetry (k : DataType) (answers : List (Option (Snapshot k)))
  | fullEvents (limit : UInt64) (events : List LogEvent)
  | updateEvents (limit : UInt64) (events : List LogEvent)
  | heartbeat
  | commandResponse (id command status reason : String) (data : List (String × String))
      (users : List User)

namespace OutputCall

/-- What is appended to the buffer. Settings are never removed. -/
def appended (ending : Bool) (ms : Nat) : OutputCall → List (List Char)
  | .fullTelemetry k answers =>
      ((KindData.after k ending answers).buildFullTelemetry k).map (TelemetryMessage.text ms)
  | .updateTelemetry k answers =>
      ((KindData.after k ending answers).buildUpdateTelemetry k).map (TelemetryMessage.text ms)
  | .removeTelemetry k answers =>
      if k = .systemConfig then []
      else ((KindData.after k ending answers).buildRemoveTelemetry k).map (TelemetryMessage.text ms)
  | .fullEvents limit events =>
      (EventLog.after ending limit events).buildFullTelemetry.map
        (messageText "Telemetry" "Events" ms)
  | .updateEvents limit events =>
      (EventLog.after ending limit events).buildUpdateTelemetry.map
        (messageText "Telemetry" "Events" ms)
  | .heartbeat => [messageText "Telemetry" "Heartbeat" ms ['\x7b', '\x7d']]
  | .commandResponse id command status reason data users =>
      [buildCommandResponse ms { id, command, status, reason, data, arrayData := usersData users }]

/-- What went into the messages of a call. -/
def Says (ending : Bool) (ms : Nat) : OutputCall → Doc → Prop
  | .fullTelemetry k (some snapshot :: _), d =>
      d = messageDoc "Telemetry" (subtypeOf false k) ms (fullDoc k snapshot.tree)
  | .updateTelemetry k (some snapshot :: answers), d =>
      d = messageDoc "Telemetry" (subtypeOf false k) ms
        (updatesDoc k ending (texts ending (remembered answers)) snapshot.tree.children)
  | .removeTelemetry k (some snapshot :: answers), d =>
      d = messageDoc "Telemetry" (subtypeOf true k) ms
        (.object (docMembers (gonePlugins (remembered answers) snapshot.tree.children)))
  | .fullEvents _ events, d | .updateEvents _ events, d =>
      ∃ rows ⊆ EventLog.answered events,
        d = messageDoc "Telemetry" "Events" ms (EventLog.rowsDoc rows)
  | .heartbeat, d => d = messageDoc "Telemetry" "Heartbeat" ms (.object [])
  | .commandResponse id command status reason data users, d =>
      d = messageDoc "Command" "Execute" ms
        (.object (fieldsDoc (responseFields { id, command, status, reason, data, arrayData := [] })
          ++ usersDoc users))
  | _, _ => False

/-- Every message that is appended is one JSON text between its delimiters, and says what went into
it. -/
def WellFormed (ending : Bool) (ms : Nat) (call : OutputCall) : Prop :=
  ∀ text ∈ call.appended ending ms, ∃ d, call.Says ending ms d ∧ Framed d text

/-- The condition for that. -/
def Fits (ending : Bool) : OutputCall → Prop
  | .fullTelemetry k (some snapshot :: _) => k = .systemConfig ∨ snapshot.tree.children ≠ []
  | .updateTelemetry k (some snapshot :: answers) =>
      UpdatesFit k ending (texts ending (remembered answers)) snapshot.tree.children
  | .removeTelemetry k (some snapshot :: answers) =>
      k = .systemConfig ∨ ∀ plugin ∈ gonePlugins (remembered answers) snapshot.tree.children,
        '.' ∉ plugin.1.toList
  | .commandResponse id command status reason data users =>
      (∀ field ∈ responseFields { id, command, status, reason, data, arrayData := [] },
        PlainField field) ∧ ∀ u ∈ users, Plain u.username
  | _ => True

variable {ending : Bool} {ms : Nat}

/-- A call whose messages say one thing. -/
theorem wellFormed_map_iff {α : Type} {text : α → List Char} {messages : List α} {d : Doc}
    {Says : Doc → Prop} (hsaid : ∀ d', Says d' ↔ d' = d) :
    (∀ t ∈ messages.map text, ∃ d', Says d' ∧ Framed d' t) ↔
      ∀ message ∈ messages, Framed d (text message) := by
  simp only [List.forall_mem_map, hsaid, exists_eq_left]

theorem wellFormed_fullTelemetry (ms : Nat) (k : DataType) (answers : List (Option (Snapshot k))) :
    (fullTelemetry k answers).WellFormed ending ms ↔ (fullTelemetry k answers).Fits ending := by
  rcases answers with _ | ⟨_ | snapshot, answers⟩
  · exact iff_of_true (List.forall_mem_nil _) trivial
  · exact iff_of_true (List.forall_mem_nil _) trivial
  · exact (wellFormed_map_iff fun _ => Iff.rfl).trans
      (framed_full_iff ending (KindData.after k ending answers) snapshot ms)

theorem wellFormed_updateTelemetry (ms : Nat) (k : DataType)
    (answers : List (Option (Snapshot k))) :
    (updateTelemetry k answers).WellFormed ending ms ↔ (updateTelemetry k answers).Fits ending := by
  rcases answers with _ | ⟨_ | snapshot, answers⟩
  · exact iff_of_true (List.forall_mem_nil _) trivial
  · exact iff_of_true (List.forall_mem_nil _) trivial
  · have hframed := framed_update_iff ending (KindData.after k ending answers) snapshot ms
    rw [(after_ok ending answers).1] at hframed
    exact (wellFormed_map_iff fun _ => Iff.rfl).trans hframed

theorem wellFormed_removeTelemetry (ms : Nat) (k : DataType)
    (answers : List (Option (Snapshot k))) :
    (removeTelemetry k answers).WellFormed ending ms ↔ (removeTelemetry k answers).Fits ending := by
  by_cases hk : k = .systemConfig
  · subst hk
    refine iff_of_true (List.forall_mem_nil _) ?_
    rcases answers with _ | ⟨_ | snapshot, answers⟩
    · trivial
    · trivial
    · exact .inl rfl
  · have happended : (removeTelemetry k answers).appended ending ms =
        ((KindData.after k ending answers).buildRemoveTelemetry k).map (TelemetryMessage.text ms) :=
      if_neg hk
    unfold WellFormed
    rw [happended]
    rcases answers with _ | ⟨_ | snapshot, answers⟩
    · exact iff_of_true (List.forall_mem_nil _) trivial
    · exact iff_of_true (List.forall_mem_nil _) trivial
    · obtain ⟨htexts, hnamed⟩ := after_ok ending answers
      have hframed := framed_remove_iff hk ending htexts hnamed.name_ne snapshot ms
      exact ((wellFormed_map_iff fun _ => Iff.rfl).trans hframed).trans (or_iff_right hk).symm

theorem wellFormed_commandResponse (ms : Nat) (id command status reason : String)
    (data : List (String × String)) (users : List User) :
    (commandResponse id command status reason data users).WellFormed ending ms ↔
      (commandResponse id command status reason data users).Fits ending := by
  let r : Response := { id, command, status, reason, data, arrayData := usersData users }
  have hread : ReadsIff (responsePayload r) _ _ :=
    readsIff_responsePayload (readsMembersIff_usersData users)
  have hframed := framed_message_iff (by decide : Plain "Command") (by decide : Plain "Execute")
    hread (List.forall_mem_nil _) ms
  rw [List.append_nil] at hframed
  refine Iff.trans ?_ hframed
  unfold WellFormed
  rw [appended, List.forall_mem_singleton]
  exact exists_eq_left

/-- Texts of rows are never wrong. -/
theorem wellFormed_rows {rows : List EventRow} {text : List Char} (htext : EventLog.OfRows rows text)
    (ms : Nat) : ∃ d, (∃ kept ⊆ rows, d = messageDoc "Telemetry" "Events" ms
        (EventLog.rowsDoc kept)) ∧
      Framed d (messageText "Telemetry" "Events" ms ('[' :: text ++ [']'])) := by
  obtain ⟨kept, rfl, hkept⟩ := htext
  exact ⟨_, ⟨kept, hkept, rfl⟩, EventLog.framed_rows ms kept⟩

theorem wellFormed_fullEvents (ms : Nat) (limit : UInt64) (events : List LogEvent) :
    (fullEvents limit events).WellFormed ending ms := by
  unfold WellFormed
  rw [appended, EventLog.buildFullTelemetry]
  split
  · rw [List.map_singleton, List.forall_mem_singleton]
    exact wellFormed_rows (EventLog.textsOf_after ending limit events).full ms
  · exact List.forall_mem_nil _

theorem wellFormed_updateEvents (ms : Nat) (limit : UInt64) (events : List LogEvent) :
    (updateEvents limit events).WellFormed ending ms := by
  unfold WellFormed
  rw [appended, EventLog.buildUpdateTelemetry]
  split
  · rw [List.map_singleton, List.forall_mem_singleton]
    exact wellFormed_rows (EventLog.textsOf_after ending limit events).updates ms
  · exact List.forall_mem_nil _

theorem wellFormed_heartbeat (ms : Nat) : heartbeat.WellFormed ending ms := by
  have hread : Reads ['\x7b', '\x7d'] (.object []) := by
    show Reads ('\x7b' :: commaSeparated [] ++ ['\x7d']) _
    exact .object .nil
  have hframed := framed_message_iff (by decide : Plain "Telemetry")
    (by decide : Plain "Heartbeat") (hread.readsIff (.object [])) (List.forall_mem_nil _) ms
  unfold WellFormed
  rw [appended, List.forall_mem_singleton]
  exact ⟨_, rfl, hframed.mpr rfl⟩

/-- **The output buffer**: a message is one JSON text that says what went into it if and only if
what is pasted into it unescaped stands for itself, a full telemetry has anything to say, and no
plugin that is removed has a dot in its name. -/
theorem wellFormed_iff (ending : Bool) (ms : Nat) (call : OutputCall) :
    call.WellFormed ending ms ↔ call.Fits ending := by
  cases call with
  | fullTelemetry k answers => exact wellFormed_fullTelemetry ms k answers
  | updateTelemetry k answers => exact wellFormed_updateTelemetry ms k answers
  | removeTelemetry k answers => exact wellFormed_removeTelemetry ms k answers
  | fullEvents limit events => exact iff_of_true (wellFormed_fullEvents ms limit events) trivial
  | updateEvents limit events => exact iff_of_true (wellFormed_updateEvents ms limit events) trivial
  | heartbeat => exact iff_of_true (wellFormed_heartbeat ms) trivial
  | commandResponse id command status reason data users =>
      exact wellFormed_commandResponse ms id command status reason data users

/-- A state with a backslash in it. -/
def windowsPath : Snapshot .state where
  tree := .node "" [("Logger", .node "" [("File", .node "C:\\new.log" [])])]
  verified := rfl
  nodup := by decide
  name_ne := by decide
  settings := fun h => by cases h

/-- The path comes back with a line break in it. -/
theorem windowsPath_not_wellFormed :
    ¬ ∀ (ending : Bool) (ms : Nat) (call : OutputCall), call.WellFormed ending ms := by
  intro h
  have hfits : UpdatesFit .state false [] windowsPath.tree.children :=
    (wellFormed_updateTelemetry 0 .state [some windowsPath]).mp (h false 0 _)
  have hplugin : ("Logger", .node "" [("File", .node "C:\\new.log" [])]) ∈
      changed false [] windowsPath.tree.children := List.mem_filter.mpr ⟨List.mem_cons_self, rfl⟩
  have hpair : ("File", .node "C:\\new.log" []) ∈
      changedPairs none [("File", .node "C:\\new.log" [])] :=
    List.mem_filter.mpr ⟨List.mem_cons_self, rfl⟩
  have hclean : Clean "C:\\new.log" := ((hfits _ hplugin).2 _ hpair).2.1
  exact absurd hclean (by decide)

end OutputCall

end V2XHub.Command
