import V2XHub.Command.TelemetryTexts

/-!
# Rounds and messages of telemetry

A round in closed form: what is remembered afterwards are the texts of the snapshot, the updates are
those of the plugins whose text is not the remembered one, and what was remembered besides is
removed. Then what each of the three kinds of messages does to the data of a client.
-/

namespace V2XHub.Command

open V2XHub.Lib
open V2XHub.Lib.JsonText

/-! ## A round in closed form -/

namespace TextMap

variable {m : TextMap} {name name' : String} {text : List Char}

theorem assign_of_not_mem (h : name ∉ m.map Prod.fst) :
    m.assign name text = m ++ [(name, text)] := by
  rw [assign, List.filter_eq_self.mpr]
  intro entry hentry
  refine decide_eq_true fun heq => h ?_
  rw [← heq]
  exact List.mem_map_of_mem hentry

theorem lookup_assign_of_ne (h : name' ≠ name) :
    (m.assign name text).lookup name' = m.lookup name' := by
  have hlast : [(name, text)].lookup name' = none := by
    rw [List.lookup_cons, beq_eq_false_iff_ne.mpr h, List.lookup_nil]
  rw [assign, List.lookup_append, hlast, Option.or_none]
  exact lookup_filter_ne h m

end TextMap

/-- The texts of the plugins. -/
def texts (ending : Bool) (plugins : List (String × Ptree)) : TextMap :=
  plugins.map fun plugin => (plugin.1, pluginJSON ending plugin.1 plugin.2)

/-- The plugins whose text is not the remembered one. -/
def changed (ending : Bool) (m : TextMap) (plugins : List (String × Ptree)) :
    List (String × Ptree) :=
  plugins.filter fun plugin =>
    m.lookup plugin.1 ≠ some (pluginJSON ending plugin.1 plugin.2)

def updates (k : DataType) (ending : Bool) (m : TextMap) (plugins : List (String × Ptree)) :
    TextMap :=
  (changed ending m plugins).map fun plugin =>
    (plugin.1, updateText k ending (m.lookup plugin.1) plugin.1 plugin.2)

theorem updates_cons (k : DataType) (ending : Bool) (m : TextMap) (plugin : String × Ptree)
    (plugins : List (String × Ptree)) :
    updates k ending m (plugin :: plugins) =
      updates k ending m [plugin] ++ updates k ending m plugins := by
  have happend : changed ending m ([plugin] ++ plugins) =
      changed ending m [plugin] ++ changed ending m plugins := List.filter_append _ _
  unfold updates
  rw [← List.map_append, ← happend]
  rfl

theorem updates_congr {k : DataType} {ending : Bool} {m m' : TextMap}
    {plugins : List (String × Ptree)}
    (h : ∀ plugin ∈ plugins, m.lookup plugin.1 = m'.lookup plugin.1) :
    updates k ending m plugins = updates k ending m' plugins := by
  have hchanged : changed ending m plugins = changed ending m' plugins := by
    apply List.filter_congr
    intro plugin hplugin
    rw [h plugin hplugin]
  unfold updates
  rw [hchanged]
  apply List.map_congr_left
  intro plugin hplugin
  rw [h plugin (List.mem_of_mem_filter hplugin)]

namespace KindData

variable {k : DataType} {ending : Bool}

theorem comparePlugin_eq (d : KindData) {plugin : String × Ptree}
    (h : plugin.1 ∉ d.pluginsUpdatesJSON.map Prod.fst) :
    d.comparePlugin k ending plugin =
      { d with
        pluginsJSON := d.pluginsJSON.assign plugin.1 (pluginJSON ending plugin.1 plugin.2)
        pluginsUpdatesJSON :=
          d.pluginsUpdatesJSON ++ updates k ending d.pluginsJSON [plugin] } := by
  unfold comparePlugin updates changed
  by_cases heq : d.pluginsJSON.lookup plugin.1 = some (pluginJSON ending plugin.1 plugin.2)
  · simp only
    rw [if_pos heq, List.filter_cons_of_neg (by simpa using heq)]
    simp
  · simp only
    rw [if_neg heq, List.filter_cons_of_pos (by simpa using heq), TextMap.assign_of_not_mem h]
    simp

/-- All plugins compared. -/
theorem foldl_comparePlugin (d : KindData) {plugins : List (String × Ptree)}
    (hnodup : (plugins.map Prod.fst).Nodup)
    (hnew : ∀ plugin ∈ plugins, plugin.1 ∉ d.pluginsUpdatesJSON.map Prod.fst) :
    plugins.foldl (comparePlugin k ending) d =
      { d with
        pluginsJSON := d.pluginsJSON.filter (fun entry => entry.1 ∉ plugins.map Prod.fst) ++
          texts ending plugins
        pluginsUpdatesJSON :=
          d.pluginsUpdatesJSON ++ updates k ending d.pluginsJSON plugins } := by
  induction plugins generalizing d with
  | nil => simp [texts, updates, changed]
  | cons plugin plugins ih =>
      obtain ⟨hplugin, hplugins⟩ := List.forall_mem_cons.mp hnew
      rw [List.map_cons, List.nodup_cons] at hnodup
      have hne : ∀ plugin' ∈ plugins, plugin'.1 ≠ plugin.1 := by
        intro plugin' hplugin' heq
        exact hnodup.1 (heq ▸ List.mem_map_of_mem hplugin')
      -- the others are not compared with the text that is assigned, as the names are different
      have hrest : updates k ending
            (d.pluginsJSON.assign plugin.1 (pluginJSON ending plugin.1 plugin.2)) plugins =
          updates k ending d.pluginsJSON plugins :=
        updates_congr fun plugin' hplugin' => TextMap.lookup_assign_of_ne (hne plugin' hplugin')
      have hkept : (d.pluginsJSON.assign plugin.1 (pluginJSON ending plugin.1 plugin.2)).filter
            (fun entry => entry.1 ∉ plugins.map Prod.fst) ++ texts ending plugins =
          d.pluginsJSON.filter (fun entry => entry.1 ∉ (plugin :: plugins).map Prod.fst) ++
            texts ending (plugin :: plugins) := by
        have hlast : [(plugin.1, pluginJSON ending plugin.1 plugin.2)].filter
            (fun entry => entry.1 ∉ plugins.map Prod.fst) = _ :=
          List.filter_cons_of_pos (by simpa using hnodup.1)
        rw [TextMap.assign, List.filter_append, List.filter_filter, hlast, List.append_assoc]
        congr 1
        apply List.filter_congr
        intro entry _
        rw [List.map_cons, Bool.eq_iff_iff]
        simp [not_or, and_comm]
      rw [List.foldl_cons, comparePlugin_eq d hplugin, ih _ hnodup.2]
      · simp only
        rw [hrest, hkept, updates_cons k ending d.pluginsJSON plugin plugins, List.append_assoc]
      · intro plugin' hplugin' hmem
        rw [List.map_append, List.mem_append] at hmem
        rcases hmem with hmem | hmem
        · exact hplugins plugin' hplugin' hmem
        · obtain ⟨entry, hentry, heq⟩ := List.mem_map.mp hmem
          obtain ⟨plugin'', hplugin'', rfl⟩ := List.mem_map.mp hentry
          obtain rfl := List.mem_singleton.mp (List.mem_of_mem_filter hplugin'')
          exact hne plugin' hplugin' heq.symm

theorem processTelemetry_eq (d : KindData) {output : Ptree}
    (hnodup : (output.children.map Prod.fst).Nodup) :
    d.processTelemetry k ending output =
      { d with
        pluginsJSON := texts ending output.children
        pluginsUpdatesJSON := updates k ending d.pluginsJSON output.children
        pluginsRemoveJSON :=
          d.pluginsJSON.filter fun entry => entry.1 ∉ output.children.map Prod.fst } := by
  have htexts : ∀ entry ∈ texts ending output.children,
      entry.1 ∈ output.children.map Prod.fst := by
    intro entry hentry
    obtain ⟨plugin, hplugin, rfl⟩ := List.mem_map.mp hentry
    exact List.mem_map_of_mem hplugin
  have hkept : (texts ending output.children).filter
      (fun entry => entry.1 ∈ output.children.map Prod.fst) = texts ending output.children :=
    List.filter_eq_self.mpr fun entry hentry => decide_eq_true (htexts entry hentry)
  have hgone : (texts ending output.children).filter
      (fun entry => entry.1 ∉ output.children.map Prod.fst) = [] :=
    List.filter_eq_nil_iff.mpr fun entry hentry => by simpa using htexts entry hentry
  have hold : (d.pluginsJSON.filter fun entry => entry.1 ∉ output.children.map Prod.fst).filter
      (fun entry => entry.1 ∈ output.children.map Prod.fst) = [] := by
    apply List.filter_eq_nil_iff.mpr
    intro entry hentry
    simpa using (List.mem_filter.mp hentry).2
  unfold processTelemetry
  rw [foldl_comparePlugin _ hnodup fun _ _ => List.not_mem_nil]
  unfold removePlugins
  simp only [List.filter_append, List.nil_append]
  rw [hkept, hgone, hold, List.filter_filter, List.append_nil, List.nil_append]
  simp

end KindData

/-! ## Receiving -/

namespace ClientData

variable {c c' : ClientData} {message : TelemetryMessage} {messages : List TelemetryMessage}
  {k : DataType}

theorem receive_update (hremove : message.remove = false) :
    c.receive message = match readDoc message.payload with
      | none => c
      | some d => c.merge message.dataType d := by
  unfold receive
  cases readDoc message.payload with
  | none => rfl
  | some d => exact if_neg (by simp [hremove])

theorem receive_mk (k : DataType) (payload : List Char) :
    c.receive { dataType := k, payload := payload } = match readDoc payload with
      | none => c
      | some d => c.merge k d :=
  receive_update rfl

theorem receive_remove (k : DataType) (payload : List Char) :
    c.receive { remove := true, dataType := k, payload := payload } =
      match readDoc payload with
      | none => c
      | some d => c.removePlugins d := by
  unfold receive
  cases readDoc payload with
  | none => rfl
  | some d => rfl

theorem receive_of_ne (hremove : message.remove = false) (hk : k ≠ message.dataType) :
    c.receive message k = c k := by
  rw [receive_update hremove]
  split
  · rfl
  · funext path
    exact if_neg hk

theorem receive_congr (hremove : message.remove = false) (h : c k = c' k) :
    c.receive message k = c'.receive message k := by
  rw [receive_update hremove, receive_update hremove]
  split
  · exact h
  · funext path
    simp only [merge]
    rw [h]

theorem foldl_receive_of_ne
    (h : ∀ message ∈ messages, message.remove = false ∧ k ≠ message.dataType) :
    messages.foldl receive c k = c k := by
  induction messages generalizing c with
  | nil => rfl
  | cons message messages ih =>
      obtain ⟨hmessage, hmessages⟩ := List.forall_mem_cons.mp h
      rw [List.foldl_cons, ih hmessages]
      exact receive_of_ne hmessage.1 hmessage.2

theorem foldl_receive_congr (h : ∀ message ∈ messages, message.remove = false)
    (hc : c k = c' k) : messages.foldl receive c k = messages.foldl receive c' k := by
  induction messages generalizing c c' with
  | nil => exact hc
  | cons message messages ih =>
      obtain ⟨hmessage, hmessages⟩ := List.forall_mem_cons.mp h
      exact ih hmessages (receive_congr hmessage hc)

/-- Nothing is received outside of the plugins. -/
theorem foldl_receive_nil (messages : List TelemetryMessage) (c : ClientData) (k : DataType) :
    messages.foldl receive c k [] = c k [] := by
  induction messages generalizing c with
  | nil => rfl
  | cons message messages ih =>
      rw [List.foldl_cons, ih]
      unfold receive
      cases readDoc message.payload with
      | none => rfl
      | some d =>
          have hnone : dataOf message.dataType d [] = none := rfl
          simp only
          split
          · rfl
          · simp only [merge, hnone, Option.none_or, ite_self]

/-- The messages of each kind, one kind after the other. -/
theorem foldl_receive_flatMap {f : DataType → List TelemetryMessage}
    (hf : ∀ k, ∀ message ∈ f k, message.remove = false ∧ message.dataType = k)
    {kinds : List DataType} (hnodup : kinds.Nodup) (hk : k ∈ kinds) :
    (kinds.flatMap f).foldl receive c k = (f k).foldl receive c k := by
  induction kinds generalizing c with
  | nil => cases hk
  | cons k' kinds ih =>
      rw [List.nodup_cons] at hnodup
      rw [List.flatMap_cons, List.foldl_append]
      by_cases heq : k = k'
      · subst heq
        apply foldl_receive_of_ne
        intro message hmessage
        obtain ⟨k', hk', hmem⟩ := List.mem_flatMap.mp hmessage
        refine ⟨(hf k' message hmem).1, fun hkind => hnodup.1 ?_⟩
        rw [hkind, (hf k' message hmem).2]
        exact hk'
      · rw [ih hnodup.2 ((List.mem_cons.mp hk).resolve_left heq)]
        apply foldl_receive_congr fun message hmessage => (hf k message hmessage).1
        apply foldl_receive_of_ne
        intro message hmessage
        refine ⟨(hf k' message hmessage).1, fun hkind => heq ?_⟩
        exact hkind.trans (hf k' message hmessage).2

end ClientData

theorem Telemetry.mem_allTypes (k : DataType) : k ∈ allTypes := by
  cases k <;> decide

theorem KindData.buildFullTelemetry_kind (d : KindData) (k : DataType) :
    ∀ message ∈ d.buildFullTelemetry k, message.remove = false ∧ message.dataType = k := by
  intro message hmessage
  unfold buildFullTelemetry at hmessage
  split at hmessage
  · obtain rfl := List.mem_singleton.mp hmessage
    exact ⟨rfl, rfl⟩
  · cases hmessage

theorem KindData.buildUpdateTelemetry_kind (d : KindData) (k : DataType) :
    ∀ message ∈ d.buildUpdateTelemetry k, message.remove = false ∧ message.dataType = k := by
  intro message hmessage
  unfold buildUpdateTelemetry at hmessage
  split at hmessage
  · obtain rfl := List.mem_singleton.mp hmessage
    exact ⟨rfl, rfl⟩
  · cases hmessage

/-! ## What is kept of one kind of data -/

/-- The texts are those of the latest snapshot. A snapshot without any settings is not kept. -/
structure KindOk (k : DataType) (ending : Bool) (d : KindData) (plugins : List (String × Ptree)) :
    Prop where
  remembered : k ≠ .systemConfig ∨ plugins ≠ [] → d.pluginsJSON = texts ending plugins
  full : d.haveData = true →
    if k = .systemConfig then
      ∃ i, between '[' ']' (getOutput ending (.node "" plugins)) = some (i, d.json)
    else d.json = getOutput ending (.node "" plugins)

theorem Snapshot.between_settings (ending : Bool) (snapshot : Snapshot .systemConfig)
    (h : snapshot.tree.children ≠ []) :
    ∃ i rows, rows ≠ [] ∧
      snapshot.tree.children = [("SystemConfig", .node "" (rows.map fun row => ("", row)))] ∧
      between '[' ']' (getOutput ending (.node "" snapshot.tree.children)) =
        some (i, commaSeparated (rows.map writeValue)) := by
  obtain ⟨rows, hrows, hchildren⟩ := (snapshot.settings rfl).resolve_left h
  have hname : '[' ∉ quoted "SystemConfig" := by decide
  obtain ⟨i, hbetween⟩ := between_array ending hname hrows
  rw [← hchildren] at hbetween
  exact ⟨i, rows, hrows, hchildren, hbetween⟩

theorem writeValue_ne_nil (t : Ptree) : writeValue t ≠ [] := by
  obtain ⟨c, rest, hfirst, _⟩ := (reads_writeValue t).first
  rw [hfirst]
  exact List.cons_ne_nil c rest

theorem getOutput_congr {ending : Bool} {t t' : Ptree} (h : t.children = t'.children) :
    getOutput ending t = getOutput ending t' := by
  unfold getOutput writeJson
  rw [h]

namespace KindData

variable {k : DataType} {ending : Bool} {d : KindData}

/-- A round that has got data. -/
theorem getTelemetry_some (ending : Bool) (d : KindData) (snapshot : Snapshot k)
    (h : k ≠ .systemConfig ∨ snapshot.tree.children ≠ []) :
    ∃ json, d.getTelemetry k ending (some snapshot.tree) =
        { haveData := true
          json := json
          pluginsJSON := texts ending snapshot.tree.children
          pluginsUpdatesJSON := updates k ending d.pluginsJSON snapshot.tree.children
          pluginsRemoveJSON := d.pluginsJSON.filter fun entry =>
            entry.1 ∉ snapshot.tree.children.map Prod.fst } ∧
      if k = .systemConfig then
        ∃ i, between '[' ']' (getOutput ending (.node "" snapshot.tree.children)) = some (i, json)
      else json = getOutput ending (.node "" snapshot.tree.children) := by
  have houtput : getOutput ending snapshot.tree =
      getOutput ending (.node "" snapshot.tree.children) := getOutput_congr rfl
  by_cases hk : k = .systemConfig
  · subst hk
    obtain ⟨i, rows, hrows, _, hbetween⟩ :=
      snapshot.between_settings ending (h.resolve_left (fun hne => hne rfl))
    have hne : commaSeparated (rows.map writeValue) ≠ [] := by
      apply commaSeparated_ne_nil (by simpa using hrows)
      intro text htext
      obtain ⟨row, _, rfl⟩ := List.mem_map.mp htext
      exact writeValue_ne_nil row
    obtain ⟨c, text, htext⟩ := List.exists_cons_of_ne_nil hne
    refine ⟨c :: text, ?_, ?_⟩
    · unfold getTelemetry
      simp only
      rw [if_pos trivial, houtput, hbetween, htext]
      exact processTelemetry_eq _ snapshot.nodup
    · rw [if_pos rfl, ← htext]
      exact ⟨i, hbetween⟩
  · refine ⟨getOutput ending snapshot.tree, ?_, ?_⟩
    · unfold getTelemetry
      simp only
      rw [if_neg hk]
      exact processTelemetry_eq _ snapshot.nodup
    · rw [if_neg hk]
      exact houtput

/-- A round without any settings. -/
theorem getTelemetry_nil (ending : Bool) (d : KindData) {snapshot : Snapshot .systemConfig}
    (h : snapshot.tree.children = []) :
    (d.getTelemetry .systemConfig ending (some snapshot.tree)).haveData = false := by
  have houtput : getOutput ending snapshot.tree = [] := if_pos h
  unfold getTelemetry
  simp only
  rw [if_pos trivial, houtput]
  rfl

end KindData

/-- A round that has got something. -/
theorem KindOk.some {k : DataType} {ending : Bool} (d : KindData) (snapshot : Snapshot k) :
    KindOk k ending (d.getTelemetry k ending (some snapshot.tree)) snapshot.tree.children := by
  by_cases h : k ≠ .systemConfig ∨ snapshot.tree.children ≠ []
  · obtain ⟨json, hdata, hjson⟩ := d.getTelemetry_some ending snapshot h
    rw [hdata]
    exact ⟨fun _ => rfl, fun _ => hjson⟩
  · rw [not_or, not_not, not_not] at h
    obtain ⟨rfl, hnil⟩ := h
    constructor
    · intro hne
      exact absurd hnil (hne.resolve_left fun hk => hk rfl)
    · intro hdata
      rw [d.getTelemetry_nil ending hnil] at hdata
      cases hdata

theorem KindOk.none {k : DataType} {ending : Bool} {d : KindData}
    {plugins : List (String × Ptree)} (h : KindOk k ending d plugins) :
    KindOk k ending (d.getTelemetry k ending none) plugins :=
  ⟨h.remembered, fun hdata => Bool.noConfusion hdata⟩

/-! ## Full telemetry -/

theorem readDoc_rows (rows : List Ptree) :
    readDoc ('[' :: commaSeparated (rows.map writeValue) ++ [']']) =
      some (.array (docElements (rows.map fun row => ("", row)))) := by
  have hrows : writeElements (rows.map fun row => ("", row)) = rows.map writeValue :=
    writeElements_map id rows
  have hread := Reads.array (readsElement_writeElements (rows.map fun row => ("", row)))
  rw [hrows] at hread
  exact hread.readDoc_eq

namespace Telemetry

variable {k : DataType} {plugins : List (String × Ptree)}

theorem pluginsData_of_ne (hk : k ≠ .systemConfig) :
    pluginsData k plugins = dataOf k (.object (docMembers plugins)) :=
  if_neg hk

theorem dataOf_nil_object (k : DataType) : dataOf k (.object []) = fun _ => none := by
  funext path
  cases path with
  | nil => rfl
  | cons name path => cases k <;> rfl

theorem pluginsData_nil (k : DataType) : pluginsData k [] = fun _ => none := by
  by_cases hk : k = .systemConfig
  · subst hk
    funext path
    cases path with
    | nil => rfl
    | cons name path => rfl
  · rw [pluginsData_of_ne hk, docMembers]
    exact dataOf_nil_object k

end Telemetry

/-- A client that has got nothing yet has the snapshot afterwards. -/
theorem KindData.receive_full {k : DataType} {ending : Bool} {d : KindData}
    {plugins : List (String × Ptree)} (hok : KindOk k ending d plugins)
    (hsettings : k = .systemConfig → plugins = [] ∨
      ∃ rows : List Ptree, rows ≠ [] ∧
        plugins = [("SystemConfig", .node "" (rows.map fun row => ("", row)))])
    (hdata : d.haveData = true ∨ plugins = []) :
    (d.buildFullTelemetry k).foldl ClientData.receive (fun _ _ => none) k =
      Telemetry.pluginsData k plugins := by
  unfold buildFullTelemetry
  by_cases hhave : d.haveData = true
  · have hfull := hok.full hhave
    rw [if_pos hhave, List.foldl_cons, List.foldl_nil, ClientData.receive_mk]
    by_cases hk : k = .systemConfig
    · rw [if_pos hk] at hfull ⊢
      obtain ⟨i, hbetween⟩ := hfull
      rcases hsettings hk with rfl | ⟨rows, hrows, rfl⟩
      · cases hbetween
      · have hname : '[' ∉ quoted "SystemConfig" := by decide
        obtain ⟨i', hbetween'⟩ := between_array ending hname hrows
        rw [hbetween', Option.some.injEq, Prod.mk.injEq] at hbetween
        rw [← hbetween.2, readDoc_rows]
        funext path
        subst hk
        exact Option.or_none
    · rw [if_neg hk] at hfull ⊢
      rw [hfull]
      by_cases hnil : plugins = []
      · rw [hnil, Telemetry.pluginsData_nil]
        rfl
      · have houtput : getOutput ending (.node "" plugins) = writeJson ending (.node "" plugins) :=
          if_neg hnil
        rw [houtput, (readsElement_writeJson ending _).readDoc, Telemetry.pluginsData_of_ne hk]
        funext path
        simp only [ClientData.merge, if_pos]
        exact Option.or_none
  · rw [if_neg hhave, hdata.resolve_left hhave, Telemetry.pluginsData_nil]
    rfl

/-! ## Updates -/

/-- What holds of the plugins in a snapshot. -/
structure WellNamed (plugins : List (String × Ptree)) : Prop where
  nodup : (plugins.map Prod.fst).Nodup
  name_ne : ∀ plugin ∈ plugins, plugin.1 ≠ ""
  verified : verifyChildren plugins = true

theorem Snapshot.wellNamed {k : DataType} (snapshot : Snapshot k) :
    WellNamed snapshot.tree.children :=
  ⟨snapshot.nodup, snapshot.name_ne, snapshot.verified⟩

/-- What the updates read as. -/
def updateDocs (k : DataType) (ending : Bool) (m : TextMap) (plugins : List (String × Ptree)) :
    List (String × Doc) :=
  (changed ending m plugins).map fun plugin =>
    (plugin.1, updateDoc k (oldData (m.lookup plugin.1) plugin.1) plugin.2)

/-- The update of a plugin says what has changed: the plugin has its shape and had it before, and
all that is sent can be read. -/
def Sendable (ending : Bool) (k : DataType) (m : TextMap) (old : List (String × Ptree))
    (plugin : String × Ptree) : Prop :=
  Shaped k plugin.2 ∧ (∀ prev, old.lookup plugin.1 = some prev → Shaped k prev) ∧
    Readable ending k (oldData (m.lookup plugin.1) plugin.1) plugin.1 plugin.2

section Updates

variable {k : DataType} {ending : Bool} {m : TextMap} {old plugins : List (String × Ptree)}
  {d : KindData}

theorem lookup_texts (ending : Bool) (plugins : List (String × Ptree)) (name : String) :
    (texts ending plugins).lookup name = (plugins.lookup name).map (pluginJSON ending name) :=
  lookup_map (pluginJSON ending) plugins name

theorem lookup_updateDocs (h : WellNamed plugins) (name : String) :
    (updateDocs k ending m plugins).lookup name =
      ((plugins.lookup name).filter fun plugin =>
        decide (m.lookup name ≠ some (pluginJSON ending name plugin))).map
          (updateDoc k (oldData (m.lookup name) name)) := by
  have hfilter : (changed ending m plugins).lookup name = _ := lookup_filter h.nodup _ name
  rw [← hfilter]
  exact lookup_map (fun name => updateDoc k (oldData (m.lookup name) name)) _ name

theorem pluginsData_cons (hk : k ≠ .systemConfig) (name : String) (path : List String) :
    Telemetry.pluginsData k plugins (name :: path) =
      (plugins.lookup name).bind fun plugin => entry k (docOf plugin) path := by
  have hget : (Doc.object (docMembers plugins)).get name = (plugins.lookup name).map docOf := by
    rw [docMembers_eq]
    exact lookup_map (fun _ => docOf) plugins name
  rw [Telemetry.pluginsData_of_ne hk, dataOf, if_neg hk, hget, Option.bind_map]
  rfl

theorem dataOf_updateDocs (hk : k ≠ .systemConfig) (h : WellNamed plugins) (name : String)
    (path : List String) :
    dataOf k (.object (updateDocs k ending m plugins)) (name :: path) =
      ((plugins.lookup name).filter fun plugin =>
        decide (m.lookup name ≠ some (pluginJSON ending name plugin))).bind fun plugin =>
          entry k (updateDoc k (oldData (m.lookup name) name) plugin) path := by
  rw [dataOf, if_neg hk]
  show ((updateDocs k ending m plugins).lookup name).bind _ = _
  rw [lookup_updateDocs h, Option.bind_map]
  rfl

/-- The strings of a plugin that is there, after the update. -/
theorem merge_updateDocs (hk : k ≠ .systemConfig) (hold : WellNamed old) (hnew : WellNamed plugins)
    (hsend : ∀ plugin ∈ changed ending (texts ending old) plugins,
      Sendable ending k (texts ending old) old plugin)
    {name : String} {plugin : Ptree} (hplugin : plugins.lookup name = some plugin)
    {path : List String}
    (hkept : (Telemetry.pluginsData k old (name :: path)).isSome →
      (Telemetry.pluginsData k plugins (name :: path)).isSome) :
    (dataOf k (.object (updateDocs k ending (texts ending old) plugins)) (name :: path)).or
        (Telemetry.pluginsData k old (name :: path)) =
      Telemetry.pluginsData k plugins (name :: path) := by
  have hmem := mem_of_lookup hplugin
  have hname : name ≠ "" := hnew.name_ne _ hmem
  have hverified : ∀ prev, old.lookup name = some prev → verifyJson prev = true := by
    intro prev hprev
    exact verifyJson_of_mem hold.verified (mem_of_lookup hprev)
  rw [pluginsData_cons hk, pluginsData_cons hk, hplugin] at hkept
  rw [dataOf_updateDocs hk hnew, pluginsData_cons hk, pluginsData_cons hk, hplugin, lookup_texts]
  by_cases hsame : (old.lookup name).map (pluginJSON ending name) =
    some (pluginJSON ending name plugin)
  · -- the same text, so the same plugin
    obtain ⟨prev, hprev, heq⟩ := Option.map_eq_some_iff.mp hsame
    have hplugin' := pluginJSON_inj hname (hverified prev hprev)
      (verifyJson_of_mem hnew.verified hmem) heq
    rw [Option.filter_some_neg (by simpa using hsame), hprev, hplugin']
    rfl
  · have hchanged : (name, plugin) ∈ changed ending (texts ending old) plugins := by
      refine List.mem_filter.mpr ⟨hmem, decide_eq_true ?_⟩
      rw [lookup_texts]
      exact hsame
    obtain ⟨hshaped, hprev, _⟩ := hsend _ hchanged
    rw [Option.filter_some_pos (by simpa using hsame)]
    exact (updates_entry hk (fun t ht => oldData_eq hname hverified ht) hprev hshaped path).or_eq
      hkept

theorem buildUpdateTelemetry_eq (hk : k ≠ .systemConfig) (hhave : d.haveData = true)
    (hne : d.pluginsUpdatesJSON ≠ []) :
    d.buildUpdateTelemetry k =
      [{ dataType := k
         payload :=
           '\x7b' :: commaSeparated (d.pluginsUpdatesJSON.map Prod.snd) ++ ['\x7d'] }] := by
  obtain ⟨entry, rest, hupdates⟩ := List.exists_cons_of_ne_nil hne
  unfold KindData.buildUpdateTelemetry
  rw [hhave, hupdates]
  simp only
  rw [if_neg hk]

theorem buildUpdateTelemetry_nil (h : d.pluginsUpdatesJSON = []) :
    d.buildUpdateTelemetry k = [] := by
  unfold KindData.buildUpdateTelemetry
  rw [h]
  cases d.haveData with
  | true => rfl
  | false => rfl

theorem buildUpdateTelemetry_false (h : d.haveData = false) : d.buildUpdateTelemetry k = [] := by
  unfold KindData.buildUpdateTelemetry
  rw [h]

/-- A client receives the updates. -/
theorem receive_updates (hk : k ≠ .systemConfig) (hhave : d.haveData = true)
    (hupdates : d.pluginsUpdatesJSON = updates k ending m plugins)
    (hsend : ∀ plugin ∈ changed ending m plugins, Sendable ending k m old plugin)
    (c : ClientData) (path : List String) :
    (d.buildUpdateTelemetry k).foldl ClientData.receive c k path =
      (dataOf k (.object (updateDocs k ending m plugins)) path).or (c k path) := by
  by_cases hnil : changed ending m plugins = []
  · have hdocs : updateDocs k ending m plugins = [] := by rw [updateDocs, hnil, List.map_nil]
    have hnone : d.pluginsUpdatesJSON = [] := by rw [hupdates, updates, hnil, List.map_nil]
    rw [hdocs, Telemetry.dataOf_nil_object, buildUpdateTelemetry_nil hnone]
    rfl
  · have hne : d.pluginsUpdatesJSON ≠ [] := by
      rw [hupdates]
      exact fun h => hnil (List.map_eq_nil_iff.mp h)
    have hread : Reads ('\x7b' :: commaSeparated (d.pluginsUpdatesJSON.map Prod.snd) ++ ['\x7d'])
        (.object (updateDocs k ending m plugins)) := by
      refine .object ?_
      rw [hupdates, updates, updateDocs, List.map_map, List.forall₂_map_left_iff,
        List.forall₂_map_right_iff]
      apply List.forall₂_same.mpr
      intro plugin hplugin
      obtain ⟨hshaped, _, hreadable⟩ := hsend plugin hplugin
      exact readsMember_updateText hshaped hreadable
    rw [buildUpdateTelemetry_eq hk hhave hne, List.foldl_cons, List.foldl_nil,
      ClientData.receive_mk, hread.readDoc_eq]
    simp only [ClientData.merge, if_pos]

end Updates

/-! ## Removals -/

section Removals

variable {ending : Bool} {d : KindData} {gone : List (String × Ptree)}

/-- What the text of a plugin has between its braces. -/
theorem removedText_pluginJSON (ending : Bool) {name : String} {t : Ptree}
    {child : String × Ptree} (hchild : (t.nest (splitPath '.' name)).children = [child]) :
    KindData.removedText (name, pluginJSON ending name t) =
      some (quoted child.1 ++ ':' :: writeValue child.2) := by
  have htext : pluginJSON ending name t =
      [] ++ '\x7b' :: (quoted child.1 ++ ':' :: writeValue child.2) ++ '\x7d' :: [] := by
    rw [pluginJSON_eq, hchild]
    simp [writeMembers, commaSeparated]
  unfold KindData.removedText
  simp only
  rw [htext, between_append _ List.not_mem_nil List.not_mem_nil]
  rfl

/-- It is a member, if the name is no path. -/
theorem removedText_eq {plugin : String × Ptree} (hname : plugin.1 ≠ "")
    (hdot : '.' ∉ plugin.1.toList) :
    KindData.removedText (plugin.1, pluginJSON ending plugin.1 plugin.2) =
      some (quoted plugin.1 ++ ':' :: writeValue plugin.2) := by
  have hpath : splitPath '.' plugin.1 = [plugin.1] := by
    rw [splitPath, if_neg hname, List.splitOn_eq_singleton hdot, List.map_cons, List.map_nil,
      String.ofList_toList]
  apply removedText_pluginJSON
  rw [hpath]
  rfl

theorem filterMap_removedText
    (h : ∀ plugin ∈ gone, plugin.1 ≠ "" ∧ '.' ∉ plugin.1.toList) :
    (texts ending gone).filterMap KindData.removedText = writeMembers gone := by
  induction gone with
  | nil => rw [writeMembers, texts, List.map_nil, List.filterMap_nil]
  | cons plugin gone ih =>
      obtain ⟨hplugin, hgone⟩ := List.forall_mem_cons.mp h
      have htexts : texts ending (plugin :: gone) =
        (plugin.1, pluginJSON ending plugin.1 plugin.2) :: texts ending gone := rfl
      rw [htexts, List.filterMap_cons_some (removedText_eq hplugin.1 hplugin.2), ih hgone,
        writeMembers]

/-- A client receives the removals. -/
theorem receive_removes (hhave : d.haveData = true)
    (hremoves : d.pluginsRemoveJSON = texts ending gone)
    (h : ∀ plugin ∈ gone, plugin.1 ≠ "" ∧ '.' ∉ plugin.1.toList) (c : ClientData) (k : DataType)
    (name : String) (path : List String) :
    (d.buildRemoveTelemetry .list).foldl ClientData.receive c k (name :: path) =
      if k ≠ .systemConfig ∧ name ∈ gone.map Prod.fst then none else c k (name :: path) := by
  unfold KindData.buildRemoveTelemetry
  by_cases hnil : gone = []
  · subst hnil
    rw [if_neg (fun hne => hne.2 hremoves), if_neg (by simp)]
    rfl
  · have hne : d.pluginsRemoveJSON ≠ [] := by
      rw [hremoves]
      exact fun hmap => hnil (List.map_eq_nil_iff.mp hmap)
    have hget : ((Doc.object (docMembers gone)).get name).isSome ↔ name ∈ gone.map Prod.fst := by
      have hlookup : (Doc.object (docMembers gone)).get name = (gone.lookup name).map docOf := by
        rw [docMembers_eq]
        exact lookup_map (fun _ => docOf) gone name
      rw [hlookup, Option.isSome_map, Option.isSome_iff_ne_none, ne_eq,
        lookup_eq_none_iff_not_mem, not_not]
    have hread : readDoc ('\x7b' :: commaSeparated (writeMembers gone) ++ ['\x7d']) =
        some (.object (docMembers gone)) := (reads_root (.node "" gone)).readDoc_eq
    rw [if_pos ⟨hhave, hne⟩, List.foldl_cons, List.foldl_nil, hremoves, filterMap_removedText h,
      ClientData.receive_remove, hread]
    simp only [ClientData.removePlugins, hget]

end Removals

end V2XHub.Command
