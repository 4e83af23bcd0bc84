import V2XHub.Tmx.ConfigAgreementLaws

/-!
# When the plugin sees what the database has

After the reply to its registration the plugin sees the values of the core's table, counting the
messages that are under way, and the monitor keeps the table up to date. The reply itself leaves out
the values that are the default, and the plugin does not go back to defaults when it connects again:
at each registration it must see these values already.

**Main result** `agreesWhenSettled_of_run`.
-/

namespace V2XHub.Tmx

open V2XHub.Lib

/-! ## Rows have keys -/

variable {collate : String → String}

theorem insertDefault_keys {rows : List ConfigRow} {item : ConfigItem}
    (hrows : ∀ row ∈ rows, row.entry.key ≠ "") (hitem : item.key ≠ "") :
    ∀ row ∈ insertDefault collate rows item, row.entry.key ≠ "" := by
  unfold insertDefault
  split
  · intro row hrow
    obtain ⟨row', hrow', rfl⟩ := List.mem_map.mp hrow
    split
    · exact hrows row' hrow'
    · exact hrows row' hrow'
  · intro row hrow
    rcases List.mem_append.mp hrow with hrow | hrow
    · exact hrows row hrow
    · cases List.mem_singleton.mp hrow
      exact hitem

theorem initializePluginConfigParameters_keys {rows : List ConfigRow} {manifest : List ConfigItem}
    (hrows : ∀ row ∈ rows, row.entry.key ≠ "") (hmanifest : ∀ item ∈ manifest, item.key ≠ "") :
    ∀ row ∈ initializePluginConfigParameters collate rows manifest, row.entry.key ≠ "" := by
  have hfold : ∀ row ∈ manifest.foldl (insertDefault collate) rows, row.entry.key ≠ "" := by
    induction manifest generalizing rows with
    | nil => exact hrows
    | cons item rest ih =>
        apply ih (insertDefault_keys hrows (hmanifest item List.mem_cons_self))
        exact fun item hitem => hmanifest item (List.mem_cons_of_mem _ hitem)
  intro row hrow
  exact hfold row (List.mem_filter.mp hrow).1

theorem getPluginConfigParameters_keys {rows : List ConfigRow}
    (hrows : ∀ row ∈ rows, row.entry.key ≠ "") :
    ∀ e ∈ getPluginConfigParameters rows, e.key ≠ "" := by
  intro e he
  obtain ⟨row, hrow, rfl⟩ := mem_getPluginConfigParameters he
  exact hrows row hrow

/-! ## Runs -/

instance (c : ConfigClient) (key : String) : Decidable (c.Handles key) :=
  inferInstanceAs (Decidable (c.constructed = true ∨ ∃ item ∈ c.config, item.key = key))

namespace ConfigWorld

/-- The steps that keep the two sides together: the plugin sees the values that the reply to its
registration leaves out, there is nothing new to send before the reply, and no item comes before
the `PluginClient` is known, other than those of the manifest. -/
def Proper (collate : String → String) (manifest : List ConfigItem) (s : ConfigWorld) :
    Event → Prop
  | .change rows => ∀ row ∈ rows, row.entry.key ≠ ""
  | .register statusSet =>
      (∀ item ∈ manifest, item.key ≠ "") ∧
        ∀ e ∈ getPluginConfigParameters (initializePluginConfigParameters collate s.rows manifest),
          (statusSet = true → e.value = e.defaultValue) →
            s.client.getConfigValue e.key = some e.value
  | .monitorCompare =>
      s.phase ≠ .done →
        ∀ e' ∈ s.configMap.getD [], ∃ e ∈ s.configValues, e.key = e'.key ∧ e.value = e'.value
  | .deliver => ∀ item ∈ s.inFlight.head?.getD [], s.client.Handles item.1
  | _ => True

instance (manifest : List ConfigItem) (s : ConfigWorld) : DecidablePred (s.Proper collate manifest)
  | .change rows => inferInstanceAs (Decidable (∀ row ∈ rows, _))
  | .register _ => inferInstanceAs (Decidable (_ ∧ _))
  | .monitorCompare => inferInstanceAs (Decidable (_ → _))
  | .deliver => inferInstanceAs (Decidable (∀ item ∈ s.inFlight.head?.getD [], _))
  | .construct | .connect | .disconnect | .refuse | .copyValues | .sendReply | .monitorRead =>
      inferInstanceAs (Decidable True)

/-- What the monitor has read. -/
structure ReadInv (s : ConfigWorld) (configMap : List PluginConfigurationParameterEntry) :
    Prop where
  registered : s.phase.isRegistered = true
  nodup : (configMap.map PluginConfigurationParameterEntry.key).Nodup
  keys : ∀ e ∈ configMap, e.key ≠ ""
  current : s.readCurrent = true → configMap = getPluginConfigParameters s.rows
  settled : s.settled = true → s.readCurrent = true

/-- The invariant of proper runs. -/
structure Inv (s : ConfigWorld) : Prop where
  client : s.client.WellFormed
  rows : ∀ row ∈ s.rows, row.entry.key ≠ ""
  nodup : (s.configValues.map PluginConfigurationParameterEntry.key).Nodup
  keys : ∀ e ∈ s.configValues, e.key ≠ ""
  read : ∀ configMap, s.configMap = some configMap → s.ReadInv configMap
  /-- no message before the reply -/
  idle : s.phase ≠ .done → s.inFlight = [] ∧ s.client.state ≠ .registered
  /-- the values that will not be in the reply -/
  pending : s.phase ≠ .done → ∀ e ∈ s.configValues, e.value = e.defaultValue →
    s.client.getConfigValue e.key = some e.value
  copied : ∀ reply, s.phase = .copied reply → reply = CoreConnection.configReply s.configValues
  seen : s.phase = .done → ∀ e ∈ s.configValues,
    s.client.seen s.inFlight e.key = some e.value
  /-- the table is up to date -/
  current : s.phase.isRegistered = true → s.settled = true →
    ∀ e ∈ getPluginConfigParameters s.rows,
      ∃ e' ∈ s.configValues, e'.key = e.key ∧ e'.value = e.value

variable {manifest : List ConfigItem} {s t : ConfigWorld}

theorem Inv.agreesWhenSettled (h : s.Inv) : s.AgreesWhenSettled := by
  intro hstate hflight hsettled e he
  have hdone : s.phase = .done := by
    by_contra hne
    exact (h.idle hne).2 hstate
  have hregistered : s.phase.isRegistered = true := by
    rw [hdone]
    rfl
  obtain ⟨e', he', hkey, hvalue⟩ := h.current hregistered hsettled e he
  have hseen := h.seen hdone e' he'
  rw [hflight, ConfigClient.seen_nil, hkey, hvalue] at hseen
  exact hseen

theorem inv_initial : (initial manifest []).Inv where
  client := ⟨nofun, fun _ => rfl⟩
  rows := nofun
  nodup := .nil
  keys := nofun
  read := nofun
  idle _ := ⟨rfl, nofun⟩
  pending := nofun
  copied := nofun
  seen := nofun
  current := nofun

/-! ### What each step keeps -/

theorem Inv.change (h : s.Inv) {rows : List ConfigRow} (hrows : ∀ row ∈ rows, row.entry.key ≠ "") :
    { s with rows := rows, readCurrent := false, settled := false : ConfigWorld }.Inv :=
  { h with
    rows := hrows
    read := fun configMap hmap => { h.read configMap hmap with current := nofun, settled := nofun }
    current := nofun }

theorem Inv.construct (h : s.Inv) : { s with client.constructed := true : ConfigWorld }.Inv :=
  { h with
    client := ⟨h.client.texts, nofun⟩
    read := fun configMap hmap => { h.read configMap hmap with } }

/-- Both ends of a connection start over. -/
theorem Inv.reset (h : s.Inv) {state : IvpPluginState} (hstate : state ≠ .registered) :
    { s with
      client.state := state
      phase := .unregistered
      configValues := []
      configMap := none
      inFlight := [] : ConfigWorld }.Inv where
  client := ⟨h.client.texts, h.client.unconstructed⟩
  rows := h.rows
  nodup := .nil
  keys := nofun
  read := nofun
  idle _ := ⟨rfl, hstate⟩
  pending := nofun
  copied := nofun
  seen := nofun
  current := nofun

theorem Inv.refuse (h : s.Inv) (hphase : s.phase = .unregistered) :
    { s with phase := .refused : ConfigWorld }.Inv := by
  have hne : s.phase ≠ .done := by
    rw [hphase]
    nofun
  exact
    { h with
      read := by
        intro configMap hmap
        have hregistered := (h.read configMap hmap).registered
        rw [hphase] at hregistered
        cases hregistered
      idle := fun _ => h.idle hne
      pending := fun _ => h.pending hne
      copied := nofun
      seen := nofun
      current := nofun }

theorem Inv.register (h : s.Inv) {statusSet : Bool} (hphase : s.phase = .unregistered)
    (hproper : s.Proper collate manifest (.register statusSet)) :
    { s with
      rows := initializePluginConfigParameters collate s.rows manifest
      configValues :=
        getPluginConfigParameters (initializePluginConfigParameters collate s.rows manifest)
      phase := if statusSet then .stored else .done
      readCurrent := false : ConfigWorld }.Inv := by
  have hne : s.phase ≠ .done := by
    rw [hphase]
    nofun
  obtain ⟨hmanifest, hseen⟩ := hproper
  have hrows : ∀ row ∈ initializePluginConfigParameters collate s.rows manifest,
      row.entry.key ≠ "" := initializePluginConfigParameters_keys h.rows hmanifest
  exact
    { client := h.client
      rows := hrows
      nodup := nodup_getPluginConfigParameters _
      keys := getPluginConfigParameters_keys hrows
      read := by
        intro configMap hmap
        have hregistered := (h.read configMap hmap).registered
        rw [hphase] at hregistered
        cases hregistered
      idle := fun _ => h.idle hne
      pending := fun _ e he hdefault => hseen e he fun _ => hdefault
      copied := by
        intro reply hreply
        cases statusSet
        · cases hreply
        · cases hreply
      seen := by
        -- no status, no reply
        intro hdone e he
        cases statusSet with
        | true => cases hdone
        | false =>
            rw [(h.idle hne).1, ConfigClient.seen_nil]
            exact hseen e he nofun
      current := fun _ _ e he => ⟨e, he, rfl, rfl⟩ }

theorem Inv.copyValues (h : s.Inv) (hphase : s.phase = .stored) :
    { s with phase := .copied (CoreConnection.configReply s.configValues) : ConfigWorld }.Inv := by
  have hne : s.phase ≠ .done := by
    rw [hphase]
    nofun
  have hregistered : s.phase.isRegistered = true := by
    rw [hphase]
    rfl
  exact
    { h with
      read := fun configMap hmap =>
        { h.read configMap hmap with registered := rfl }
      idle := fun _ => h.idle hne
      pending := fun _ => h.pending hne
      copied := by
        rintro _ ⟨⟩
        rfl
      seen := nofun
      current := fun _ => h.current hregistered }

theorem Inv.sendReply (h : s.Inv) {reply : List (String × String)}
    (hphase : s.phase = .copied reply) :
    { s with phase := .done, inFlight := s.inFlight ++ [reply] : ConfigWorld }.Inv := by
  have hne : s.phase ≠ .done := by
    rw [hphase]
    nofun
  have hregistered : s.phase.isRegistered = true := by
    rw [hphase]
    rfl
  exact
    { h with
      read := fun configMap hmap =>
        { h.read configMap hmap with registered := rfl }
      idle := fun hdone => absurd rfl hdone
      pending := fun hdone => absurd rfl hdone
      copied := nofun
      seen := by
        intro _ e he
        rw [h.copied reply hphase]
        by_cases hdefault : e.value = e.defaultValue
        · rw [ConfigClient.seen_append_of_not_mem, (h.idle hne).1, ConfigClient.seen_nil]
          · exact h.pending hne e he hdefault
          · rw [List.flatten_singleton]
            exact not_mem_configReply h.nodup he hdefault
        · apply ConfigClient.seen_append_of_mem h.client
          · rw [List.flatten_singleton]
            exact h.nodup.sublist configReply_sublist
          · rw [List.flatten_singleton]
            exact mem_configReply he hdefault
          · exact h.keys e he
      current := fun _ => h.current hregistered }

theorem Inv.monitorRead (h : s.Inv) (hregistered : s.phase.isRegistered = true) :
    { s with
      configMap := some (getPluginConfigParameters s.rows)
      readCurrent := true : ConfigWorld }.Inv :=
  { h with
    read := by
      rintro _ ⟨⟩
      exact
        { registered := hregistered
          nodup := nodup_getPluginConfigParameters _
          keys := getPluginConfigParameters_keys h.rows
          current := fun _ => rfl
          settled := fun _ => rfl } }

theorem Inv.monitorCompare (h : s.Inv) {configMap : List PluginConfigurationParameterEntry}
    (hmap : s.configMap = some configMap) (hproper : s.Proper collate manifest .monitorCompare) :
    { s with
      configValues := (CoreConnection.configRound configMap s.configValues).1
      configMap := none
      inFlight := s.inFlight ++
        (CoreConnection.configRound configMap s.configValues).2.map fun change => [change]
      settled := s.settled || s.readCurrent : ConfigWorld }.Inv := by
  have hread := h.read configMap hmap
  -- until the reply is sent a proper round finds nothing new
  have hround : s.phase ≠ .done →
      CoreConnection.configRound configMap s.configValues = (s.configValues, []) := by
    intro hne
    have hnothing := hproper hne
    rw [hmap] at hnothing
    exact configRound_of_current h.nodup hnothing
  have hnodup := configRound_nodup hread.nodup h.nodup
  have hkeys : ∀ e ∈ (CoreConnection.configRound configMap s.configValues).1, e.key ≠ "" := by
    intro e he
    have hkey := List.mem_map_of_mem (f := PluginConfigurationParameterEntry.key) he
    rw [configRound_keys, List.mem_append] at hkey
    rcases hkey with hkey | hkey
    · obtain ⟨e', he', heq⟩ := List.mem_map.mp hkey
      rw [← heq]
      exact h.keys e' he'
    · obtain ⟨e', he', heq⟩ := List.mem_map.mp hkey
      rw [← heq]
      exact hread.keys e' (mem_newEntries.mp he').1
  have hsent : ((CoreConnection.configRound configMap s.configValues).2.map
      fun change => [change]).flatten =
        (CoreConnection.configRound configMap s.configValues).2 := by
    rw [← List.flatMap_def, List.flatMap_singleton']
  exact
    { client := h.client
      rows := h.rows
      nodup := hnodup
      keys := hkeys
      read := nofun
      idle := by
        intro hne
        rw [hround hne]
        exact ⟨(List.append_nil _).trans (h.idle hne).1, (h.idle hne).2⟩
      pending := by
        intro hne
        rw [hround hne]
        exact h.pending hne
      copied := by
        intro reply hphase
        have hne : s.phase ≠ .done := by
          rw [show s.phase = .copied reply from hphase]
          nofun
        rw [hround hne]
        exact h.copied reply hphase
      seen := by
        intro hdone e he
        -- an entry is new and sent, or it was there and nothing is sent under its key
        rcases mem_configRound h.nodup he with hnew | ⟨hold, hsilent⟩
        · apply ConfigClient.seen_append_of_mem h.client
          · rw [hsent]
            exact hnodup.sublist configRound_snd_sublist
          · rw [hsent]
            exact hnew
          · exact hkeys e he
        · rw [ConfigClient.seen_append_of_not_mem]
          · exact h.seen hdone e hold
          · rw [hsent]
            exact hsilent
      current := by
        intro hregistered hsettled e he
        -- settled before or by this round, the entries that were read are those of the database
        have hnow : s.readCurrent = true :=
          ((Bool.or_eq_true _ _).mp hsettled).elim hread.settled id
        rw [← hread.current hnow] at he
        exact exists_mem_configRound hread.nodup he }

theorem Inv.deliver (h : s.Inv) {msg : List (String × String)}
    {rest : List (List (String × String))} (hflight : s.inFlight = msg :: rest)
    (hproper : s.Proper collate manifest .deliver) :
    { s with client := s.client.onMessageReceived msg, inFlight := rest : ConfigWorld }.Inv := by
  have hdone : s.phase = .done := by
    by_contra hne
    rw [(h.idle hne).1] at hflight
    cases hflight
  have hhandles : ∀ item ∈ msg, s.client.Handles item.1 := by
    have hhead := hproper
    rw [Proper, hflight] at hhead
    exact hhead
  exact
    { h with
      client := h.client.onMessageReceived msg
      read := fun configMap hmap => { h.read configMap hmap with }
      idle := fun hne => absurd hdone hne
      pending := fun hne => absurd hdone hne
      seen := by
        intro _ e he
        have hseen := h.seen hdone e he
        rw [ConfigClient.seen, hflight, List.flatten_cons, List.foldl_append,
          ← ConfigClient.onMessageReceived_built h.client hhandles] at hseen
        exact hseen }

theorem Inv.step {e : Event} (h : s.Inv) (hproper : s.Proper collate manifest e)
    (hstep : s.step collate manifest e = some t) : t.Inv := by
  cases e with
  | change rows =>
      cases hstep
      exact h.change hproper
  | construct =>
      cases hstep
      exact h.construct
  | connect =>
      rw [ConfigWorld.step] at hstep
      split at hstep
      · cases hstep
        exact h.reset nofun
      · cases hstep
  | disconnect =>
      rw [ConfigWorld.step] at hstep
      split at hstep
      · cases hstep
      · cases hstep
        exact h.reset nofun
  | refuse =>
      rw [ConfigWorld.step] at hstep
      split at hstep
      · rename_i hphase
        cases hstep
        exact h.refuse hphase.2
      · cases hstep
  | register statusSet =>
      rw [ConfigWorld.step] at hstep
      split at hstep
      · rename_i hphase
        cases hstep
        exact h.register hphase.2 hproper
      · cases hstep
  | copyValues =>
      rw [ConfigWorld.step] at hstep
      split at hstep
      · rename_i hphase
        cases hstep
        exact h.copyValues hphase
      · cases hstep
  | sendReply =>
      rw [ConfigWorld.step] at hstep
      split at hstep
      · rename_i hphase
        cases hstep
        exact h.sendReply hphase
      · cases hstep
  | monitorRead =>
      rw [ConfigWorld.step] at hstep
      split at hstep
      · rename_i hregistered
        cases hstep
        exact h.monitorRead hregistered
      · cases hstep
  | monitorCompare =>
      rw [ConfigWorld.step] at hstep
      split at hstep
      · rename_i hmap
        cases hstep
        exact h.monitorCompare hmap hproper
      · cases hstep
  | deliver =>
      rw [ConfigWorld.step] at hstep
      split at hstep
      · cases hstep
      · rename_i hflight
        cases hstep
        exact h.deliver hflight hproper

/-! ### Whole runs -/

theorem agreesWhenSettled_of_run {es : List Event}
    (h : Run (Guarded (Proper collate manifest) (Steps (step collate manifest)))
      (initial manifest []) es s) : s.AgreesWhenSettled := by
  refine Inv.agreesWhenSettled (h.invariant ?_ inv_initial)
  rintro s e t hinv ⟨hproper, hstep⟩
  exact hinv.step hproper hstep

/-- An item of a manifest and its row in the database. -/
def interval : ConfigItem where
  key := "Interval"
  defaultValue := "10"

def intervalRow (value : String) : ConfigRow := ⟨false, ⟨"Interval", value, "10"⟩⟩

/-- The value is changed while the plugin is connected, and the plugin connects again. -/
theorem agreesWhenSettled_of_run_reconnected :
    ∃ es s, Run (Guarded (Proper id [interval]) (Steps (step id [interval])))
        (initial [interval] []) es s ∧
      s.client.state = .registered ∧ s.inFlight = [] ∧ s.settled = true ∧
      s.client.getConfigValue "Interval" = some "20" ∧ s.AgreesWhenSettled := by
  let es : List Event :=
    [.construct, .connect, .register true, .copyValues, .sendReply, .deliver,
      .change [intervalRow "20"], .monitorRead, .monitorCompare, .deliver, .disconnect, .connect,
      .register true, .copyValues, .sendReply, .deliver, .monitorRead, .monitorCompare]
  obtain ⟨s, hs, hstate, hflight, hsettled, hvalue⟩ :
      ∃ s, es.foldlM (guardedStep (fun s e => decide (Proper id [interval] s e))
          (step id [interval])) (initial [interval] []) = some s ∧
        s.client.state = .registered ∧ s.inFlight = [] ∧ s.settled = true ∧
        s.client.getConfigValue "Interval" = some "20" :=
    ⟨_, by rfl, by decide +kernel, by decide +kernel, by decide +kernel, by decide +kernel⟩
  have hrun : Run (Guarded (Proper id [interval]) (Steps (step id [interval])))
      (initial [interval] []) es s :=
    (Run.guarded_of_foldlM hs).mono fun s e t hstep => ⟨of_decide_eq_true hstep.1, hstep.2⟩
  exact ⟨es, s, hrun, hstate, hflight, hsettled, hvalue, agreesWhenSettled_of_run hrun⟩

/-- The value goes back to the default while the plugin is not connected. The plugin keeps the
value that it had. -/
theorem reset_not_seen :
    ¬ ∀ manifest es s, Run (Steps (step id manifest)) (initial manifest []) es s →
      s.AgreesWhenSettled := by
  intro hclaim
  obtain ⟨s, hs, hnot⟩ :
      ∃ s, [Event.change [intervalRow "20"], .construct, .connect, .register true, .copyValues,
          .sendReply, .deliver, .disconnect, .change [intervalRow "10"], .connect, .register true,
          .copyValues, .sendReply, .deliver, .monitorRead, .monitorCompare].foldlM
          (step id [interval]) (initial [interval] []) = some s ∧
        s.client.state = .registered ∧ s.inFlight = [] ∧ s.settled = true ∧
        getPluginConfigParameters s.rows = [(intervalRow "10").entry] ∧
        s.client.getConfigValue "Interval" = some "20" :=
    ⟨_, by rfl, by decide +kernel, by decide +kernel, by decide +kernel, by decide +kernel,
      by decide +kernel⟩
  obtain ⟨hstate, hflight, hsettled, hrows, hvalue⟩ := hnot
  have hagrees := hclaim _ _ s (Run.of_foldlM hs) hstate hflight hsettled (intervalRow "10").entry
    (by rw [hrows]; exact List.mem_singleton_self _)
  have heq := hvalue.symm.trans hagrees
  exact absurd heq (by decide)

end ConfigWorld

end V2XHub.Tmx
