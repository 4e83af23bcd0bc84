import Mathlib.Data.List.Nodup
import V2XHub.Tmx.ConfigAgreement

/-!
# What a plugin sees, and what a round of the monitor sends

On the plugin: the value of a key after messages, counting those that are under way. On the core: a
round of the monitor brings its table to what was read, and sends each entry that is changed or new.
-/

namespace V2XHub.Tmx

open V2XHub.Lib

/-! ## Collections -/

section Collections

variable {collection : List ConfigItem} {key key' value : String}

variable (value) in
theorem find?_updateValue_self (h : ∃ item ∈ collection, item.key = key) :
    ∃ item, (ivpConfig_updateValueInCollection key value collection).find?
      (fun item => item.key = key) = some item ∧ item.value = some (some value) := by
  induction collection with
  | nil =>
      obtain ⟨_, hmem, _⟩ := h
      cases hmem
  | cons item rest ih =>
      rw [ivpConfig_updateValueInCollection]
      by_cases heq : item.key = key
      · rw [if_pos heq, List.find?_cons_of_pos (by simpa using heq)]
        exact ⟨_, rfl, rfl⟩
      · rw [if_neg heq, List.find?_cons_of_neg (by simpa using heq)]
        apply ih
        obtain ⟨other, hmem, hkey⟩ := h
        rcases List.mem_cons.mp hmem with rfl | hmem
        · exact absurd hkey heq
        · exact ⟨other, hmem, hkey⟩

theorem find?_updateValue_of_ne (hne : key' ≠ key) :
    (ivpConfig_updateValueInCollection key value collection).find?
      (fun item => item.key = key') = collection.find? fun item => item.key = key' := by
  induction collection with
  | nil => rfl
  | cons item rest ih =>
      rw [ivpConfig_updateValueInCollection]
      by_cases heq : item.key = key
      · have hitem : item.key ≠ key' := fun h => hne (h.symm.trans heq)
        rw [if_pos heq, List.find?_cons_of_neg (by simpa using hitem),
          List.find?_cons_of_neg (by simpa using hitem)]
      · rw [if_neg heq]
        by_cases hitem : item.key = key'
        · rw [List.find?_cons_of_pos (by simpa using hitem),
            List.find?_cons_of_pos (by simpa using hitem)]
        · rw [List.find?_cons_of_neg (by simpa using hitem),
            List.find?_cons_of_neg (by simpa using hitem), ih]

theorem getCopyOfValue_updateValue_self (h : ∃ item ∈ collection, item.key = key) :
    ivpConfig_getCopyOfValueFromCollection (ivpConfig_updateValueInCollection key value collection)
      key = some value := by
  obtain ⟨item, hfind, hvalue⟩ := find?_updateValue_self value h
  rw [ivpConfig_getCopyOfValueFromCollection, hfind]
  dsimp only
  rw [hvalue]
  rfl

theorem getCopyOfValue_updateValue_of_ne (hne : key' ≠ key) :
    ivpConfig_getCopyOfValueFromCollection (ivpConfig_updateValueInCollection key value collection)
      key' = ivpConfig_getCopyOfValueFromCollection collection key' := by
  rw [ivpConfig_getCopyOfValueFromCollection, find?_updateValue_of_ne hne]
  rfl

theorem updateValue_keys :
    (ivpConfig_updateValueInCollection key value collection).map ConfigItem.key =
      collection.map ConfigItem.key := by
  induction collection with
  | nil => rfl
  | cons item rest ih =>
      rw [ivpConfig_updateValueInCollection]
      split
      · rfl
      · rw [List.map_cons, ih, List.map_cons]

theorem getCopyOfValue_eq_none (h : ∀ item ∈ collection, item.key ≠ key) :
    ivpConfig_getCopyOfValueFromCollection collection key = none := by
  have hfind : collection.find? (fun item => item.key = key) = none := by
    rw [List.find?_eq_none]
    intro item hitem
    simpa using h item hitem
  rw [ivpConfig_getCopyOfValueFromCollection, hfind]

/-- In a collection of texts every item has one. -/
theorem isSome_getCopyOfValue_iff (htexts : ∀ item ∈ collection, item.value ≠ some none) :
    (ivpConfig_getCopyOfValueFromCollection collection key).isSome = true ↔
      ∃ item ∈ collection, item.key = key := by
  constructor
  · intro h
    by_contra hnone
    rw [getCopyOfValue_eq_none fun item hitem hkey => hnone ⟨item, hitem, hkey⟩] at h
    cases h
  · rintro ⟨item, hitem, hkey⟩
    rw [ivpConfig_getCopyOfValueFromCollection]
    cases hfind : collection.find? fun item => item.key = key with
    | none =>
        rw [List.find?_eq_none] at hfind
        exact absurd (by simpa using hkey) (hfind item hitem)
    | some found =>
        have hnot := htexts found (List.mem_of_find?_eq_some hfind)
        cases hvalue : found.value with
        | none => simp [hvalue]
        | some text =>
            cases text with
            | none => exact absurd hvalue hnot
            | some text => simp [hvalue]

theorem getCopyOfValue_append (hnone : ∀ item ∈ collection, item.key ≠ key) :
    ivpConfig_getCopyOfValueFromCollection (collection ++ [⟨key, some (some value), value⟩]) key =
      some value := by
  have hfind : collection.find? (fun item => item.key = key) = none := by
    rw [List.find?_eq_none]
    intro item hitem
    simpa using hnone item hitem
  rw [ivpConfig_getCopyOfValueFromCollection, List.find?_append, hfind]
  simp

theorem getCopyOfValue_append_of_ne (hne : key' ≠ key) :
    ivpConfig_getCopyOfValueFromCollection (collection ++ [⟨key, some (some value), value⟩]) key' =
      ivpConfig_getCopyOfValueFromCollection collection key' := by
  have hlast : ([⟨key, some (some value), value⟩] : List ConfigItem).find?
      (fun item => item.key = key') = none := by
    simpa using Ne.symm hne
  rw [ivpConfig_getCopyOfValueFromCollection, List.find?_append, hlast, Option.or_none]
  rfl

theorem mem_updateValue {item : ConfigItem}
    (h : item ∈ ivpConfig_updateValueInCollection key value collection) :
    item ∈ collection ∨ item.value = some (some value) := by
  induction collection with
  | nil => cases h
  | cons first rest ih =>
      rw [ivpConfig_updateValueInCollection] at h
      split at h
      · rcases List.mem_cons.mp h with rfl | h
        · exact .inr rfl
        · exact .inl (List.mem_cons_of_mem _ h)
      · rcases List.mem_cons.mp h with rfl | h
        · exact .inl List.mem_cons_self
        · exact (ih h).imp_left (List.mem_cons_of_mem _)

end Collections

/-! ## What the plugin sees after a message -/

namespace ConfigClient

variable {c : ConfigClient} {key key' value : String}

/-- The items of `_sysConfig` have texts, and there are none before the `PluginClient` is known. -/
structure WellFormed (c : ConfigClient) : Prop where
  texts : ∀ item ∈ c.sysConfig, item.value ≠ some none
  unconstructed : c.constructed = false → c.sysConfig = []

/-- An item of this key is not lost on the plugin. -/
def Handles (c : ConfigClient) (key : String) : Prop :=
  c.constructed = true ∨ ∃ item ∈ c.config, item.key = key

theorem onConfigChanged_config : (c.onConfigChanged key value).config = c.config := by
  unfold onConfigChanged
  split
  · rfl
  · split
    · rfl
    · rfl

theorem onConfigChanged_constructed :
    (c.onConfigChanged key value).constructed = c.constructed := by
  unfold onConfigChanged
  split
  · rfl
  · split
    · rfl
    · rfl

theorem receiveItem_config (item : String × String) :
    (c.receiveItem item).config =
      ivpConfig_updateValueInCollection item.1 item.2 c.config := by
  unfold receiveItem
  dsimp only
  split
  · exact onConfigChanged_config
  · rfl

theorem receiveItem_constructed (item : String × String) :
    (c.receiveItem item).constructed = c.constructed := by
  unfold receiveItem
  dsimp only
  split
  · exact onConfigChanged_constructed
  · rfl

theorem WellFormed.receiveItem (h : c.WellFormed) (item : String × String) :
    (c.receiveItem item).WellFormed where
  texts := by
    unfold ConfigClient.receiveItem onConfigChanged
    dsimp only
    split
    · split
      · intro i hi
        rcases mem_updateValue hi with hi | hvalue
        · exact h.texts i hi
        · rw [hvalue]
          nofun
      · split
        · exact h.texts
        · intro i hi
          rcases List.mem_append.mp hi with hi | hi
          · exact h.texts i hi
          · cases List.mem_singleton.mp hi
            nofun
    · exact h.texts
  unconstructed := by
    intro hconstructed
    rw [receiveItem_constructed] at hconstructed
    unfold ConfigClient.receiveItem
    simp only [hconstructed]
    exact h.unconstructed hconstructed

theorem Handles.receiveItem (h : c.Handles key) (item : String × String) :
    (c.receiveItem item).Handles key := by
  rcases h with hconstructed | hmem
  · exact .inl ((receiveItem_constructed item).trans hconstructed)
  · refine .inr ?_
    have hkeys : key ∈ (c.receiveItem item).config.map ConfigItem.key := by
      rw [receiveItem_config, updateValue_keys]
      exact List.mem_map.mpr hmem
    exact List.mem_map.mp hkeys

theorem getConfigValue_receiveItem_self (h : c.WellFormed) (hkey : key ≠ "")
    (hhandles : c.Handles key) : (c.receiveItem (key, value)).getConfigValue key = some value := by
  rw [getConfigValue, if_neg hkey, receiveItem_config]
  by_cases hmem : ∃ item ∈ c.config, item.key = key
  · rw [getCopyOfValue_updateValue_self hmem, Option.some_or]
  · -- not a key of the manifest
    have hconstructed := hhandles.resolve_right hmem
    have hnone : ivpConfig_getCopyOfValueFromCollection
        (ivpConfig_updateValueInCollection key value c.config) key = none := by
      apply getCopyOfValue_eq_none
      intro item hitem hitemKey
      have hkeys := List.mem_map_of_mem (f := ConfigItem.key) hitem
      rw [updateValue_keys, hitemKey] at hkeys
      exact hmem (List.mem_map.mp hkeys)
    rw [hnone, Option.none_or, ConfigClient.receiveItem]
    simp only [hconstructed, if_true]
    rw [onConfigChanged]
    split
    · rename_i hsome
      exact getCopyOfValue_updateValue_self ((isSome_getCopyOfValue_iff h.texts).mp hsome)
    · rename_i hnot
      rw [isSome_getCopyOfValue_iff h.texts] at hnot
      rw [hnone]
      exact getCopyOfValue_append fun item hitem hitemKey => hnot ⟨item, hitem, hitemKey⟩

theorem getConfigValue_receiveItem_of_ne (hne : key' ≠ key) :
    (c.receiveItem (key, value)).getConfigValue key' = c.getConfigValue key' := by
  unfold getConfigValue
  split
  · rfl
  · rw [receiveItem_config, getCopyOfValue_updateValue_of_ne hne]
    congr 1
    unfold ConfigClient.receiveItem onConfigChanged
    dsimp only
    split
    · split
      · exact getCopyOfValue_updateValue_of_ne hne
      · split
        · rfl
        · exact getCopyOfValue_append_of_ne hne
    · rfl

/-- The items of a message, one after the other. -/
theorem getConfigValue_foldl_of_not_mem {items : List (String × String)}
    (h : key ∉ items.map Prod.fst) :
    (items.foldl receiveItem c).getConfigValue key = c.getConfigValue key := by
  induction items generalizing c with
  | nil => rfl
  | cons item items ih =>
      rw [List.map_cons, List.mem_cons, not_or] at h
      rw [List.foldl_cons, ih h.2, getConfigValue_receiveItem_of_ne h.1]

theorem getConfigValue_foldl_of_mem {items : List (String × String)} (h : c.WellFormed)
    (hconstructed : c.constructed = true) (hnodup : (items.map Prod.fst).Nodup)
    (hmem : (key, value) ∈ items) (hkey : key ≠ "") :
    (items.foldl receiveItem c).getConfigValue key = some value := by
  induction items generalizing c with
  | nil => cases hmem
  | cons item items ih =>
      rw [List.map_cons, List.nodup_cons] at hnodup
      rw [List.foldl_cons]
      rcases List.mem_cons.mp hmem with rfl | hmem
      · rw [getConfigValue_foldl_of_not_mem hnodup.1]
        exact getConfigValue_receiveItem_self h hkey (.inl hconstructed)
      · exact ih (h.receiveItem item) ((receiveItem_constructed item).trans hconstructed)
          hnodup.2 hmem

theorem WellFormed.foldl {items : List (String × String)} (h : c.WellFormed) :
    (items.foldl ConfigClient.receiveItem c).WellFormed := by
  induction items generalizing c with
  | nil => exact h
  | cons item items ih => exact ih (h.receiveItem item)

theorem foldl_constructed {items : List (String × String)} :
    (items.foldl receiveItem c).constructed = c.constructed := by
  induction items generalizing c with
  | nil => rfl
  | cons item items ih => rw [List.foldl_cons, ih, receiveItem_constructed]

/-! ### Messages before the `PluginClient` is known -/

/-- The plugin as it would be with the `PluginClient` known. -/
def built (c : ConfigClient) : ConfigClient :=
  { c with constructed := true, state := .registered }

theorem WellFormed.built (h : c.WellFormed) : c.built.WellFormed := ⟨h.texts, nofun⟩

theorem receiveItem_built (h : c.WellFormed) {item : String × String}
    (hhandles : c.Handles item.1) : (c.receiveItem item).built = c.built.receiveItem item := by
  cases hconstructed : c.constructed with
  | true =>
      unfold ConfigClient.receiveItem onConfigChanged ConfigClient.built
      simp only [hconstructed, if_true]
      split
      · rfl
      · split
        · rfl
        · rfl
  | false =>
      -- the key is one of the manifest, and `_sysConfig` is empty
      have hmem := hhandles.resolve_left (by rw [hconstructed]; nofun)
      have hempty := h.unconstructed hconstructed
      have hsome : (ivpConfig_getCopyOfValueFromCollection
          (ivpConfig_updateValueInCollection item.1 item.2 c.config) item.1).isSome = true := by
        rw [getCopyOfValue_updateValue_self hmem]
        rfl
      have hnone : ¬ (ivpConfig_getCopyOfValueFromCollection [] item.1).isSome = true := nofun
      unfold ConfigClient.receiveItem onConfigChanged ConfigClient.built
      simp only [hconstructed, hempty, if_true, if_neg hnone, if_pos hsome, Bool.false_eq_true,
        if_false]

theorem foldl_built {items : List (String × String)} (h : c.WellFormed)
    (hhandles : ∀ item ∈ items, c.Handles item.1) :
    (items.foldl receiveItem c).built = items.foldl receiveItem c.built := by
  induction items generalizing c with
  | nil => rfl
  | cons item items ih =>
      rw [List.foldl_cons, List.foldl_cons,
        ← receiveItem_built h (hhandles item List.mem_cons_self)]
      apply ih (h.receiveItem item)
      intro other hother
      exact (hhandles other (List.mem_cons_of_mem _ hother)).receiveItem item

theorem onMessageReceived_built {items : List (String × String)} (h : c.WellFormed)
    (hhandles : ∀ item ∈ items, c.Handles item.1) :
    (c.onMessageReceived items).built = items.foldl receiveItem c.built := by
  rw [← foldl_built h hhandles, onMessageReceived]
  split
  · rfl
  · rfl

theorem WellFormed.onMessageReceived (h : c.WellFormed) (items : List (String × String)) :
    (c.onMessageReceived items).WellFormed := by
  have hfold : (items.foldl ConfigClient.receiveItem c).WellFormed := h.foldl
  unfold ConfigClient.onMessageReceived
  dsimp only
  split
  · exact ⟨hfold.texts, hfold.unconstructed⟩
  · exact hfold

/-- What is seen when all messages have come. -/
def seen (c : ConfigClient) (inFlight : List (List (String × String))) (key : String) :
    Option String :=
  (inFlight.flatten.foldl receiveItem c.built).getConfigValue key

theorem seen_nil : c.seen [] key = c.getConfigValue key := rfl

theorem seen_append (inFlight more : List (List (String × String))) :
    c.seen (inFlight ++ more) key =
      (more.flatten.foldl receiveItem (inFlight.flatten.foldl receiveItem c.built)).getConfigValue
        key := by
  rw [seen, List.flatten_append, List.foldl_append]

/-- Messages with distinct keys are sent after the others. -/
theorem seen_append_of_mem (h : c.WellFormed) {inFlight more : List (List (String × String))}
    (hnodup : (more.flatten.map Prod.fst).Nodup) (hmem : (key, value) ∈ more.flatten)
    (hkey : key ≠ "") : c.seen (inFlight ++ more) key = some value := by
  rw [seen_append]
  exact getConfigValue_foldl_of_mem h.built.foldl foldl_constructed hnodup hmem hkey

theorem seen_append_of_not_mem {inFlight more : List (List (String × String))}
    (h : key ∉ more.flatten.map Prod.fst) :
    c.seen (inFlight ++ more) key = c.seen inFlight key := by
  rw [seen_append, getConfigValue_foldl_of_not_mem h]
  rfl

end ConfigClient

/-! ## Reading the database -/

theorem mem_getPluginConfigParameters {rows : List ConfigRow}
    {e : PluginConfigurationParameterEntry} (h : e ∈ getPluginConfigParameters rows) :
    ∃ row ∈ rows, row.entry = e := by
  induction rows with
  | nil => cases h
  | cons row rest ih =>
      rw [getPluginConfigParameters] at h
      split at h
      · obtain ⟨row', hmem, heq⟩ := ih h
        exact ⟨row', List.mem_cons_of_mem _ hmem, heq⟩
      · rcases List.mem_cons.mp h with rfl | h
        · exact ⟨row, List.mem_cons_self, rfl⟩
        · obtain ⟨row', hmem, heq⟩ := ih h
          exact ⟨row', List.mem_cons_of_mem _ hmem, heq⟩

theorem nodup_getPluginConfigParameters (rows : List ConfigRow) :
    ((getPluginConfigParameters rows).map PluginConfigurationParameterEntry.key).Nodup := by
  induction rows with
  | nil => exact .nil
  | cons row rest ih =>
      rw [getPluginConfigParameters]
      split
      · exact ih
      · rename_i hany
        rw [List.map_cons, List.nodup_cons]
        refine ⟨?_, ih⟩
        intro hmem
        obtain ⟨e, he, hkey⟩ := List.mem_map.mp hmem
        obtain ⟨row', hrow', rfl⟩ := mem_getPluginConfigParameters he
        exact hany (List.any_eq_true.mpr ⟨row', hrow', by simpa using hkey⟩)

/-! ## A round of the monitor -/

section Round

variable {configMap configValues : List PluginConfigurationParameterEntry}

/-- An entry of the table after a round, and what is sent for it. -/
def roundEntry (configMap : List PluginConfigurationParameterEntry)
    (e : PluginConfigurationParameterEntry) :
    PluginConfigurationParameterEntry × List (String × String) :=
  match configMap.find? fun e' => e'.key = e.key with
  | some e' => if e'.value ≠ e.value then (e', [(e'.key, e'.value)]) else (e, [])
  | none => (e, [])

/-- The entries that are new to the table. -/
def newEntries (configMap configValues : List PluginConfigurationParameterEntry) :
    List PluginConfigurationParameterEntry :=
  configMap.filter fun e' => configValues.all fun e => e.key ≠ e'.key

theorem configRound_fst :
    (CoreConnection.configRound configMap configValues).1 =
      (configValues.map fun e => (roundEntry configMap e).1) ++
        newEntries configMap configValues := by
  rw [CoreConnection.configRound, List.map_map]
  rfl

theorem configRound_snd :
    (CoreConnection.configRound configMap configValues).2 =
      (configValues.map fun e => (roundEntry configMap e).2).flatten ++
        (newEntries configMap configValues).map fun e => (e.key, e.value) := by
  rw [CoreConnection.configRound]
  dsimp only
  rw [List.map_map]
  rfl

theorem roundEntry_cases (configMap : List PluginConfigurationParameterEntry)
    (e : PluginConfigurationParameterEntry) :
    (roundEntry configMap e = (e, []) ∧
      ∀ e', configMap.find? (fun e' => e'.key = e.key) = some e' → e'.value = e.value) ∨
    ∃ e', configMap.find? (fun e' => e'.key = e.key) = some e' ∧ e'.key = e.key ∧
      roundEntry configMap e = (e', [(e'.key, e'.value)]) := by
  unfold roundEntry
  cases hfind : configMap.find? fun e' => e'.key = e.key with
  | none => exact .inl ⟨rfl, nofun⟩
  | some e' =>
      have hkey : e'.key = e.key := by simpa using List.find?_some hfind
      dsimp only
      split
      · exact .inr ⟨e', rfl, hkey, rfl⟩
      · rename_i heq
        refine .inl ⟨rfl, ?_⟩
        rintro _ ⟨⟩
        exact not_not.mp heq

theorem roundEntry_key (e : PluginConfigurationParameterEntry) :
    (roundEntry configMap e).1.key = e.key := by
  obtain ⟨h, -⟩ | ⟨e', -, hkey, h⟩ := roundEntry_cases configMap e
  · rw [h]
  · rw [h]
    exact hkey

theorem mem_newEntries {e : PluginConfigurationParameterEntry} :
    e ∈ newEntries configMap configValues ↔
      e ∈ configMap ∧ ∀ e' ∈ configValues, e'.key ≠ e.key := by
  rw [newEntries, List.mem_filter]
  simp

/-- The keys after a round are the old ones and the new ones. -/
theorem configRound_keys :
    (CoreConnection.configRound configMap configValues).1.map
        PluginConfigurationParameterEntry.key =
      configValues.map PluginConfigurationParameterEntry.key ++
        (newEntries configMap configValues).map PluginConfigurationParameterEntry.key := by
  rw [configRound_fst, List.map_append, List.map_map]
  congr 1
  apply List.map_congr_left
  intro e _
  exact roundEntry_key e

theorem configRound_nodup
    (hmap : (configMap.map PluginConfigurationParameterEntry.key).Nodup)
    (hvalues : (configValues.map PluginConfigurationParameterEntry.key).Nodup) :
    ((CoreConnection.configRound configMap configValues).1.map
      PluginConfigurationParameterEntry.key).Nodup := by
  rw [configRound_keys, List.nodup_append']
  refine ⟨hvalues, hmap.sublist (List.filter_sublist.map _), ?_⟩
  intro key hkey hnew
  obtain ⟨e, he, rfl⟩ := List.mem_map.mp hkey
  obtain ⟨e', he', heq⟩ := List.mem_map.mp hnew
  exact (mem_newEntries.mp he').2 e he heq.symm

/-- What is sent has keys of the table, each once. -/
theorem configRound_snd_sublist :
    ((CoreConnection.configRound configMap configValues).2.map Prod.fst).Sublist
      ((CoreConnection.configRound configMap configValues).1.map
        PluginConfigurationParameterEntry.key) := by
  rw [configRound_keys, configRound_snd, List.map_append]
  apply List.Sublist.append
  · -- entry by entry, nothing or its key
    induction configValues with
    | nil => exact .slnil
    | cons e rest ih =>
        rw [List.map_cons, List.flatten_cons, List.map_append, List.map_cons]
        obtain ⟨h, -⟩ | ⟨e', -, hkey, h⟩ := roundEntry_cases configMap e
        · rw [h]
          exact ih.cons e.key
        · rw [h, ← hkey]
          exact ih.cons_cons e'.key
  · rw [List.map_map]
    exact List.Sublist.refl _

/-- An entry of the table after a round is sent, or is as it was and nothing is sent for it. -/
theorem mem_configRound {e : PluginConfigurationParameterEntry}
    (hvalues : (configValues.map PluginConfigurationParameterEntry.key).Nodup)
    (h : e ∈ (CoreConnection.configRound configMap configValues).1) :
    (e.key, e.value) ∈ (CoreConnection.configRound configMap configValues).2 ∨
      e ∈ configValues ∧
        e.key ∉ (CoreConnection.configRound configMap configValues).2.map Prod.fst := by
  rw [configRound_fst, List.mem_append] at h
  rw [configRound_snd]
  rcases h with h | h
  · obtain ⟨e₀, he₀, rfl⟩ := List.mem_map.mp h
    obtain ⟨hsame, -⟩ | ⟨e', -, -, hchanged⟩ := roundEntry_cases configMap e₀
    · refine .inr ⟨by rw [hsame]; exact he₀, ?_⟩
      rw [hsame, List.map_append, List.mem_append, not_or]
      constructor
      · intro hmem
        obtain ⟨item, hitem, hkey⟩ := List.mem_map.mp hmem
        obtain ⟨l, hl, hitem⟩ := List.mem_flatten.mp hitem
        obtain ⟨e₁, he₁, rfl⟩ := List.mem_map.mp hl
        obtain ⟨hsame₁, -⟩ | ⟨e', -, hkey', hchanged⟩ := roundEntry_cases configMap e₁
        · rw [hsame₁] at hitem
          cases hitem
        · rw [hchanged, List.mem_singleton] at hitem
          rw [hitem] at hkey
          have heq : e₁ = e₀ :=
            List.inj_on_of_nodup_map hvalues he₁ he₀ (hkey'.symm.trans hkey)
          rw [heq, hsame] at hchanged
          cases hchanged
      · intro hmem
        rw [List.map_map] at hmem
        obtain ⟨e', he', hkey⟩ := List.mem_map.mp hmem
        exact (mem_newEntries.mp he').2 e₀ he₀ hkey.symm
    · refine .inl (List.mem_append_left _
        (List.mem_flatten.mpr ⟨(roundEntry configMap e₀).2, ?_, ?_⟩))
      · exact List.mem_map_of_mem (f := fun e => (roundEntry configMap e).2) he₀
      · rw [hchanged]
        exact List.mem_singleton_self _
  · exact .inl (List.mem_append_right _ (List.mem_map_of_mem (f := fun e => (e.key, e.value)) h))

/-- After a round the table has what was read. -/
theorem exists_mem_configRound {e : PluginConfigurationParameterEntry}
    (hmap : (configMap.map PluginConfigurationParameterEntry.key).Nodup) (h : e ∈ configMap) :
    ∃ e' ∈ (CoreConnection.configRound configMap configValues).1,
      e'.key = e.key ∧ e'.value = e.value := by
  rw [configRound_fst]
  by_cases hknown : ∃ e₀ ∈ configValues, e₀.key = e.key
  · obtain ⟨e₀, he₀, hkey⟩ := hknown
    have hfind : configMap.find? (fun e' => e'.key = e₀.key) = some e := by
      cases hfound : configMap.find? fun e' => e'.key = e₀.key with
      | none =>
          rw [List.find?_eq_none] at hfound
          exact absurd (by simpa using hkey.symm) (hfound e h)
      | some e' =>
          have hkey' : e'.key = e₀.key := by simpa using List.find?_some hfound
          rw [List.inj_on_of_nodup_map hmap (List.mem_of_find?_eq_some hfound) h
            (hkey'.trans hkey)]
    refine ⟨(roundEntry configMap e₀).1, List.mem_append_left _ ?_, ?_, ?_⟩
    · exact List.mem_map_of_mem (f := fun e => (roundEntry configMap e).1) he₀
    · rw [roundEntry_key, hkey]
    · obtain ⟨hsame, hvalue⟩ | ⟨e', hfind', -, hchanged⟩ := roundEntry_cases configMap e₀
      · rw [hsame]
        exact (hvalue e hfind).symm
      · rw [hfind] at hfind'
        cases hfind'
        rw [hchanged]
  · refine ⟨e, List.mem_append_right _ (mem_newEntries.mpr ⟨h, ?_⟩), rfl, rfl⟩
    exact fun e' he' hkey => hknown ⟨e', he', hkey⟩

/-- With nothing new in what was read, nothing is sent and the table stays. -/
theorem configRound_of_current
    (hvalues : (configValues.map PluginConfigurationParameterEntry.key).Nodup)
    (h : ∀ e' ∈ configMap, ∃ e ∈ configValues, e.key = e'.key ∧ e.value = e'.value) :
    CoreConnection.configRound configMap configValues = (configValues, []) := by
  have hnew : newEntries configMap configValues = [] := by
    rw [List.eq_nil_iff_forall_not_mem]
    intro e' he'
    obtain ⟨hmem, hne⟩ := mem_newEntries.mp he'
    obtain ⟨e, he, hkey, -⟩ := h e' hmem
    exact hne e he hkey
  have hknown : ∀ e ∈ configValues, roundEntry configMap e = (e, []) := by
    intro e he
    unfold roundEntry
    cases hfind : configMap.find? fun e' => e'.key = e.key with
    | none => rfl
    | some e' =>
        obtain ⟨e₁, he₁, hkey₁, hvalue₁⟩ := h e' (List.mem_of_find?_eq_some hfind)
        have hkey : e'.key = e.key := by simpa using List.find?_some hfind
        have heq : e₁ = e := List.inj_on_of_nodup_map hvalues he₁ he (hkey₁.trans hkey)
        subst heq
        dsimp only
        rw [if_neg (not_not.mpr hvalue₁.symm)]
  apply Prod.ext
  · rw [configRound_fst, hnew, List.append_nil]
    refine (List.map_congr_left ?_).trans (List.map_id _)
    intro e he
    rw [hknown e he]
    rfl
  · rw [configRound_snd, hnew, List.map_nil, List.append_nil, List.flatten_eq_nil_iff]
    intro l hl
    obtain ⟨e, he, rfl⟩ := List.mem_map.mp hl
    rw [hknown e he]

/-- A value after the reply: sent in it, or the default. -/
theorem mem_configReply {e : PluginConfigurationParameterEntry} (h : e ∈ configValues)
    (hvalue : e.value ≠ e.defaultValue) :
    (e.key, e.value) ∈ CoreConnection.configReply configValues := by
  rw [CoreConnection.configReply, List.mem_map]
  exact ⟨e, List.mem_filter.mpr ⟨h, by simpa using hvalue⟩, rfl⟩

theorem configReply_sublist :
    ((CoreConnection.configReply configValues).map Prod.fst).Sublist
      (configValues.map PluginConfigurationParameterEntry.key) := by
  rw [CoreConnection.configReply, List.map_map]
  exact List.filter_sublist.map _

/-- A key of a default value is not in the reply. -/
theorem not_mem_configReply {e : PluginConfigurationParameterEntry}
    (hvalues : (configValues.map PluginConfigurationParameterEntry.key).Nodup)
    (h : e ∈ configValues) (hvalue : e.value = e.defaultValue) :
    e.key ∉ (CoreConnection.configReply configValues).map Prod.fst := by
  intro hmem
  rw [CoreConnection.configReply, List.map_map] at hmem
  obtain ⟨e', he', hkey⟩ := List.mem_map.mp hmem
  obtain ⟨hmem', hne⟩ := List.mem_filter.mp he'
  have heq : e' = e := List.inj_on_of_nodup_map hvalues hmem' h hkey
  rw [heq] at hne
  exact (by simpa using hne : e.value ≠ e.defaultValue) hvalue

end Round

end V2XHub.Tmx
