import V2XHub.Command.TelemetryRounds

/-!
# What a client holds

A client that has the last snapshot has the next one when it has received the updates of the round,
unless one of their defects is met: `RoundProper` says that none is. It follows for whole runs that
a session whose rounds are all proper holds the latest snapshot whenever it has been writeable.
-/

namespace V2XHub.Command

open V2XHub.Lib
open V2XHub.Lib.JsonText

namespace Telemetry

variable {ending : Bool} {key : Nat} {s s' : Telemetry}
  {answers : (k : DataType) → Option (Snapshot k)}

/-! ## Rounds without a defect -/

/-- The plugins in the latest snapshot after a round. -/
def nextPlugins (s : Telemetry) (answers : (k : DataType) → Option (Snapshot k)) (k : DataType) :
    List (String × Ptree) :=
  match answers k with
  | none => s.plugins k
  | some snapshot => snapshot.tree.children

/-- The plugins that are not in the list any more. -/
def gone (s : Telemetry) (answers : (k : DataType) → Option (Snapshot k)) :
    List (String × Ptree) :=
  (s.plugins .list).filter fun plugin => plugin.1 ∉ (s.nextPlugins answers .list).map Prod.fst

/-- A plugin that stays loses no key. -/
def LosesNoKey (s : Telemetry) (answers : (k : DataType) → Option (Snapshot k)) : Prop :=
  ∀ k, k ≠ .systemConfig → ∀ name ∈ (s.nextPlugins answers k).map Prod.fst, ∀ path,
    (pluginsData k (s.plugins k) (name :: path)).isSome →
      (pluginsData k (s.nextPlugins answers k) (name :: path)).isSome

/-- The last round has left something to send. -/
def Pending (s : Telemetry) : Prop :=
  (∃ k, (s.kinds k).haveData = true ∧ (s.kinds k).pluginsUpdatesJSON ≠ []) ∨
    (s.kinds .list).haveData = true ∧ (s.kinds .list).pluginsRemoveJSON ≠ []

/-- A round that does not meet a defect, for a session that has had its full telemetry. -/
structure RoundProper (ending : Bool) (s : Telemetry) (session : TelemetrySession)
    (answers : (k : DataType) → Option (Snapshot k)) : Prop where
  /-- the updates of the last round are replaced -/
  sent : session.lastUpdateSendTimeMS < s.lastPluginsUpdateTimeMS → ¬ s.Pending
  /-- updates of the system configuration cannot be read -/
  settings : s.nextPlugins answers .systemConfig = s.plugins .systemConfig
  /-- nor can texts that are not escaped, and nested keys are left out -/
  sendable : ∀ k, k ≠ .systemConfig → ∀ snapshot, answers k = some snapshot →
    ∀ plugin ∈ changed ending (s.kinds k).pluginsJSON snapshot.tree.children,
      Sendable ending k (s.kinds k).pluginsJSON (s.plugins k) plugin
  /-- only the list has removals -/
  listed : ∀ k, k ≠ .systemConfig → ∀ name ∈ (s.plugins k).map Prod.fst,
    name ∉ (s.nextPlugins answers k).map Prod.fst → name ∈ (s.gone answers).map Prod.fst
  /-- and these are for all the data of a plugin, whose name must be no path -/
  removed : ∀ name ∈ (s.gone answers).map Prod.fst, '.' ∉ name.toList ∧
    ∀ k, k ≠ .systemConfig → name ∉ (s.nextPlugins answers k).map Prod.fst
  kept : s.LosesNoKey answers

/-! ## One round -/

theorem plugins_afterRound (ending : Bool) (s : Telemetry) (now : Nat)
    (answers : (k : DataType) → Option (Snapshot k)) (k : DataType) :
    (s.afterRound ending now answers).plugins k = s.nextPlugins answers k := by
  unfold plugins nextPlugins afterRound
  simp only
  cases answers k with
  | none => rfl
  | some snapshot => rfl

theorem wellNamed_plugins (s : Telemetry) (k : DataType) : WellNamed (s.plugins k) := by
  unfold plugins
  split
  · exact ⟨List.nodup_nil, fun _ h => absurd h List.not_mem_nil, by rw [verifyChildren]⟩
  · exact Snapshot.wellNamed _

theorem settings_plugins (s : Telemetry) (k : DataType) (hk : k = .systemConfig) :
    s.plugins k = [] ∨ ∃ rows : List Ptree, rows ≠ [] ∧
      s.plugins k = [("SystemConfig", .node "" (rows.map fun row => ("", row)))] := by
  unfold plugins
  split
  · exact .inl rfl
  · next snapshot _ => exact snapshot.settings hk

/-- Every kind is kept as its latest snapshot has it. -/
def KindsOk (ending : Bool) (s : Telemetry) : Prop :=
  ∀ k, KindOk k ending (s.kinds k) (s.plugins k)

theorem kindsOk_afterRound (h : s.KindsOk ending) (now : Nat) :
    (s.afterRound ending now answers).KindsOk ending := by
  intro k
  rw [plugins_afterRound]
  unfold nextPlugins afterRound
  simp only
  cases answers k with
  | none => exact (h k).none
  | some snapshot => exact .some (s.kinds k) snapshot

theorem changed_self {plugins : List (String × Ptree)} (h : WellNamed plugins) :
    changed ending (texts ending plugins) plugins = [] := by
  apply List.filter_eq_nil_iff.mpr
  intro plugin hplugin
  have hlookup : plugins.lookup plugin.1 = some plugin.2 :=
    (lookup_eq_some_iff_mem h.nodup).mpr hplugin
  rw [lookup_texts, hlookup]
  simp

/-- The data of a client after the updates and before the removals. -/
def updated (s : Telemetry) (c : ClientData) : ClientData :=
  (allTypes.flatMap fun k => (s.kinds k).buildUpdateTelemetry k).foldl ClientData.receive c

theorem updated_eq (s : Telemetry) (c : ClientData) (k : DataType) :
    s.updated c k = ((s.kinds k).buildUpdateTelemetry k).foldl ClientData.receive c k :=
  ClientData.foldl_receive_flatMap (fun k => (s.kinds k).buildUpdateTelemetry_kind k) (by decide)
    (mem_allTypes k)

theorem pluginsData_path_nil (k : DataType) (plugins : List (String × Ptree)) :
    pluginsData k plugins [] = none := by
  unfold pluginsData
  split
  · rfl
  · rfl

section Round

variable (now : Nat)

theorem haveData_afterRound {k : DataType} (hanswer : answers k = none) :
    ((s.afterRound ending now answers).kinds k).haveData = false := by
  unfold afterRound
  simp only
  rw [hanswer]
  rfl

theorem kinds_afterRound {k : DataType} {snapshot : Snapshot k}
    (hanswer : answers k = some snapshot) :
    (s.afterRound ending now answers).kinds k =
      (s.kinds k).getTelemetry k ending (some snapshot.tree) := by
  unfold afterRound
  simp only
  rw [hanswer]
  rfl

theorem nextPlugins_some {k : DataType} {snapshot : Snapshot k}
    (hanswer : answers k = some snapshot) :
    s.nextPlugins answers k = snapshot.tree.children := by
  unfold nextPlugins
  rw [hanswer]

theorem nextPlugins_none {k : DataType} (hanswer : answers k = none) :
    s.nextPlugins answers k = s.plugins k := by
  unfold nextPlugins
  rw [hanswer]

/-- A session that had the last snapshot has the plugins of the next one after the updates, beside
those that are not there any more. -/
theorem updated_cons {session : TelemetrySession} (hok : s.KindsOk ending)
    (hproper : RoundProper ending s session answers) {k : DataType} (hk : k ≠ .systemConfig)
    (name : String) (path : List String) :
    (s.afterRound ending now answers).updated s.snapshotData k (name :: path) =
      if name ∈ (s.nextPlugins answers k).map Prod.fst then
        pluginsData k (s.nextPlugins answers k) (name :: path)
      else pluginsData k (s.plugins k) (name :: path) := by
  rw [updated_eq]
  cases hanswer : answers k with
  | none =>
      rw [buildUpdateTelemetry_false (haveData_afterRound now hanswer), nextPlugins_none hanswer,
        ite_self]
      rfl
  | some snapshot =>
      obtain ⟨json, hdata, _⟩ := (s.kinds k).getTelemetry_some ending snapshot (.inl hk)
      have hm : (s.kinds k).pluginsJSON = texts ending (s.plugins k) :=
        (hok k).remembered (.inl hk)
      have hsend := hproper.sendable k hk snapshot hanswer
      rw [hm] at hsend hdata
      rw [kinds_afterRound now hanswer, hdata, receive_updates hk rfl rfl hsend,
        nextPlugins_some hanswer]
      split
      · next hmem =>
          obtain ⟨plugin, hplugin⟩ : ∃ plugin, snapshot.tree.children.lookup name = some plugin :=
            Option.ne_none_iff_exists'.mp fun hnone => lookup_eq_none_iff_not_mem.mp hnone hmem
          have hkept := hproper.kept k hk name
          rw [nextPlugins_some hanswer] at hkept
          exact merge_updateDocs hk (s.wellNamed_plugins k) snapshot.wellNamed hsend hplugin
            (hkept hmem path)
      · next hmem =>
          rw [dataOf_updateDocs hk snapshot.wellNamed, lookup_eq_none_iff_not_mem.mpr hmem]
          rfl

/-- Nothing is sent for a system configuration that is as before. -/
theorem updated_settings (hok : s.KindsOk ending)
    (hsettings : s.nextPlugins answers .systemConfig = s.plugins .systemConfig) (c : ClientData) :
    (s.afterRound ending now answers).updated c .systemConfig = c .systemConfig := by
  rw [updated_eq]
  cases hanswer : answers .systemConfig with
  | none =>
      rw [buildUpdateTelemetry_false (haveData_afterRound now hanswer)]
      rfl
  | some snapshot =>
      rw [nextPlugins_some hanswer] at hsettings
      rw [kinds_afterRound now hanswer]
      by_cases hnil : snapshot.tree.children = []
      · rw [buildUpdateTelemetry_false (KindData.getTelemetry_nil ending _ hnil)]
        rfl
      · obtain ⟨json, hdata, _⟩ :=
          (s.kinds .systemConfig).getTelemetry_some ending snapshot (.inr hnil)
        have hm : (s.kinds .systemConfig).pluginsJSON = texts ending snapshot.tree.children := by
          rw [hsettings]
          exact (hok .systemConfig).remembered (.inr (hsettings ▸ hnil))
        rw [hdata, buildUpdateTelemetry_nil]
        · rfl
        · simp only
          rw [hm, updates, changed_self snapshot.wellNamed, List.map_nil]

/-- The plugins that are not in the list any more are removed. -/
theorem removed_cons {session : TelemetrySession} (hok : s.KindsOk ending)
    (hproper : RoundProper ending s session answers) (c : ClientData) (k : DataType)
    (name : String) (path : List String) :
    (((s.afterRound ending now answers).kinds .list).buildRemoveTelemetry .list).foldl
        ClientData.receive c k (name :: path) =
      if k ≠ .systemConfig ∧ name ∈ (s.gone answers).map Prod.fst then none
      else c k (name :: path) := by
  have hne : DataType.list ≠ .systemConfig := by decide
  cases hanswer : answers .list with
  | none =>
      have hgone : s.gone answers = [] := by
        unfold gone
        rw [nextPlugins_none hanswer]
        apply List.filter_eq_nil_iff.mpr
        intro plugin hplugin
        simpa using List.mem_map_of_mem (f := Prod.fst) hplugin
      have hnone : ((s.afterRound ending now answers).kinds .list).buildRemoveTelemetry .list =
          [] := by
        unfold KindData.buildRemoveTelemetry
        rw [haveData_afterRound now hanswer, if_neg (by simp)]
      rw [hnone, hgone, if_neg (by simp)]
      rfl
  | some snapshot =>
      obtain ⟨json, hdata, _⟩ :=
        (s.kinds .list).getTelemetry_some ending snapshot (.inl hne)
      have hremoves : ((s.kinds .list).pluginsJSON.filter fun entry =>
          entry.1 ∉ snapshot.tree.children.map Prod.fst) = texts ending (s.gone answers) := by
        rw [(hok .list).remembered (.inl hne), texts, List.filter_map, gone,
          nextPlugins_some hanswer]
        rfl
      rw [kinds_afterRound now hanswer, hdata]
      refine receive_removes rfl hremoves ?_ c k name path
      intro plugin hplugin
      refine ⟨(s.wellNamed_plugins .list).name_ne plugin (List.mem_of_mem_filter hplugin), ?_⟩
      exact (hproper.removed plugin.1 (List.mem_map_of_mem hplugin)).1

/-- A session that had the last snapshot has the next one. -/
theorem receive_afterRound {session : TelemetrySession} (hok : s.KindsOk ending)
    (hproper : RoundProper ending s session answers) :
    (s.afterRound ending now answers).updateMessages.foldl ClientData.receive s.snapshotData =
      (s.afterRound ending now answers).snapshotData := by
  funext k path
  cases path with
  | nil =>
      rw [ClientData.foldl_receive_nil]
      exact (pluginsData_path_nil k _).trans (pluginsData_path_nil k _).symm
  | cons name path =>
      unfold updateMessages
      rw [List.foldl_append, removed_cons now hok hproper]
      show _ = pluginsData k ((s.afterRound ending now answers).plugins k) (name :: path)
      rw [plugins_afterRound]
      by_cases hk : k = .systemConfig
      · subst hk
        rw [if_neg (fun h => h.1 rfl)]
        show (s.afterRound ending now answers).updated s.snapshotData .systemConfig _ = _
        rw [updated_settings now hok hproper.settings, hproper.settings]
        rfl
      · show (if _ then none else
          (s.afterRound ending now answers).updated s.snapshotData k (name :: path)) = _
        rw [updated_cons now hok hproper hk, pluginsData_cons hk, pluginsData_cons hk]
        by_cases hnext : name ∈ (s.nextPlugins answers k).map Prod.fst
        · -- what is there has not been removed
          rw [if_pos hnext, if_neg]
          rintro ⟨_, hgone⟩
          exact (hproper.removed name hgone).2 k hk hnext
        · -- what is not there has been removed, or was not there before
          rw [if_neg hnext, lookup_eq_none_iff_not_mem.mpr hnext]
          by_cases hold : name ∈ (s.plugins k).map Prod.fst
          · rw [if_pos ⟨hk, hproper.listed k hk name hold hnext⟩]
            rfl
          · rw [lookup_eq_none_iff_not_mem.mpr hold, Option.bind_none, ite_self]

end Round

/-! ## Runs -/

/-- For one session: rounds do not meet a defect once it has had its full telemetry, which it gets
when there is data of every kind. -/
def Proper (ending : Bool) (key : Nat) (s : Telemetry) : TelemetryEvent → Prop
  | .round _ answers => ∀ session, s.sessions.lookup key = some session →
      session.sendFullTelemetry = false → RoundProper ending s session answers
  | .writeable key' authorized => key' = key → authorized = true →
      ∀ session, s.sessions.lookup key = some session → session.sendFullTelemetry = true →
        ∀ k, (s.kinds k).haveData = true ∨ s.plugins k = []
  | .established _ _ | .closed _ => True

/-- The client of a session has nothing at first, and later the latest snapshot, if it is given
what there is to send. -/
structure InSync (s : Telemetry) (session : TelemetrySession) : Prop where
  fresh : session.sendFullTelemetry = true → session.client = fun _ _ => none
  sent : session.sendFullTelemetry = false →
    session.lastUpdateSendTimeMS ≤ s.lastPluginsUpdateTimeMS ∧
      (s.send session).client = s.snapshotData

structure Synced (ending : Bool) (key : Nat) (s : Telemetry) : Prop where
  kinds : s.KindsOk ending
  session : ∀ session, s.sessions.lookup key = some session → s.InSync session

theorem synced_init (ending : Bool) (key : Nat) : Synced ending key {} where
  kinds := fun _ => ⟨fun _ => rfl, fun hdata => Bool.noConfusion hdata⟩
  session := by
    intro session h
    cases h

theorem updateMessages_eq_nil (h : ¬ s.Pending) : s.updateMessages = [] := by
  obtain ⟨hupdates, hremoves⟩ := not_or.mp h
  unfold updateMessages
  rw [List.append_eq_nil_iff, List.flatMap_eq_nil_iff]
  constructor
  · intro k _
    by_cases hhave : (s.kinds k).haveData = true
    · exact buildUpdateTelemetry_nil (not_not.mp fun hne => hupdates ⟨k, hhave, hne⟩)
    · exact buildUpdateTelemetry_false (Bool.eq_false_iff.mpr hhave)
  · exact if_neg hremoves

/-- What was sent is not sent again. -/
theorem send_send (s : Telemetry) (session : TelemetrySession) :
    s.send (s.send session) = s.send session := by
  by_cases hfull : session.sendFullTelemetry = true
  · have hsend : s.send session = _ := if_pos hfull
    rw [hsend]
    unfold send
    simp only
    rw [if_neg (by simp), if_neg (Nat.lt_irrefl _)]
  · by_cases hbehind : session.lastUpdateSendTimeMS < s.lastPluginsUpdateTimeMS
    · have hsend : s.send session = _ := (if_neg hfull).trans (if_pos hbehind)
      rw [hsend]
      unfold send
      simp only
      rw [if_neg hfull, if_neg (Nat.lt_irrefl _)]
    · have hsend : s.send session = session := (if_neg hfull).trans (if_neg hbehind)
      rw [hsend, hsend]

theorem send_sent (s : Telemetry) (session : TelemetrySession) :
    (s.send session).sendFullTelemetry = false := by
  unfold send
  split
  · rfl
  · next hfull =>
      split
      · exact Bool.eq_false_iff.mpr hfull
      · exact Bool.eq_false_iff.mpr hfull

theorem fullMessages_eq (h : s.KindsOk ending)
    (hdata : ∀ k, (s.kinds k).haveData = true ∨ s.plugins k = []) :
    s.fullMessages.foldl ClientData.receive (fun _ _ => none) = s.snapshotData := by
  funext k
  unfold fullMessages
  rw [ClientData.foldl_receive_flatMap (fun k => (s.kinds k).buildFullTelemetry_kind k) (by decide)
    (mem_allTypes k)]
  exact KindData.receive_full (h k) (s.settings_plugins k) (hdata k)

/-- A session has sent what there is. -/
theorem InSync.send {session : TelemetrySession} (h : s.InSync session) (hok : s.KindsOk ending)
    (hdata : session.sendFullTelemetry = true →
      ∀ k, (s.kinds k).haveData = true ∨ s.plugins k = []) :
    s.InSync (s.send session) where
  fresh := by
    intro hfull
    rw [send_sent] at hfull
    cases hfull
  sent := by
    intro _
    rw [send_send]
    by_cases hfull : session.sendFullTelemetry = true
    · have hsend : s.send session = _ := if_pos hfull
      rw [hsend]
      refine ⟨Nat.le_refl _, ?_⟩
      simp only
      rw [h.fresh hfull]
      exact fullMessages_eq hok (hdata hfull)
    · obtain ⟨hle, hclient⟩ := h.sent (Bool.eq_false_iff.mpr hfull)
      refine ⟨?_, hclient⟩
      unfold Telemetry.send
      rw [if_neg hfull]
      split
      · exact Nat.le_refl _
      · exact hle

/-- A session after a round has the updates still before it. -/
theorem InSync.afterRound {session : TelemetrySession} (h : s.InSync session)
    (hok : s.KindsOk ending)
    (hproper : session.sendFullTelemetry = false → RoundProper ending s session answers)
    {now : Nat} (hnow : s.lastPluginsUpdateTimeMS < now) :
    (s.afterRound ending now answers).InSync session where
  fresh := h.fresh
  sent := by
    intro hfull
    obtain ⟨hle, hclient⟩ := h.sent hfull
    have hfull' : ¬ session.sendFullTelemetry = true := Bool.eq_false_iff.mp hfull
    -- nothing was left to send, so the client has the snapshot already
    have hsame : session.client = s.snapshotData := by
      rw [← hclient]
      unfold Telemetry.send
      rw [if_neg hfull']
      split
      · next hbehind =>
          rw [updateMessages_eq_nil ((hproper hfull).sent hbehind)]
          rfl
      · rfl
    have hlt : session.lastUpdateSendTimeMS <
        (s.afterRound ending now answers).lastPluginsUpdateTimeMS := Nat.lt_of_le_of_lt hle hnow
    refine ⟨Nat.le_of_lt hlt, ?_⟩
    have hsend : (s.afterRound ending now answers).send session = _ :=
      (if_neg hfull').trans (if_pos hlt)
    rw [hsend]
    simp only
    rw [hsame]
    exact receive_afterRound now hok (hproper hfull)

/-- What a step does. -/
inductive Moves (ending : Bool) (s : Telemetry) : TelemetryEvent → Telemetry → Prop
  | established {key now : Nat} : Moves ending s (.established key now)
      { s with sessions := (key, { lastUpdateSendTimeMS := now }) :: s.sessions }
  | closed {key : Nat} : Moves ending s (.closed key)
      { s with sessions := s.sessions.filter fun e => e.1 ≠ key }
  | lastClosed {key : Nat} : Moves ending s (.closed key) {}
  | round {now : Nat} {answers : (k : DataType) → Option (Snapshot k)} :
      s.lastPluginsUpdateTimeMS < now →
        Moves ending s (.round now answers) (s.afterRound ending now answers)
  | writeable {key : Nat} : Moves ending s (.writeable key true)
      { s with sessions := s.sessions.map fun e => if e.1 = key then (e.1, s.send e.2) else e }
  | refused {key : Nat} : Moves ending s (.writeable key false) s

theorem moves_of_step {e : TelemetryEvent} (h : step ending s e = some s') :
    Moves ending s e s' := by
  unfold step at h
  cases e with
  | established key now =>
      simp only at h
      split at h
      · cases h
        exact .established
      · cases h
  | closed key =>
      simp only at h
      split at h
      · cases h
      · split at h
        · cases h
          exact .lastClosed
        · cases h
          exact .closed
  | round now answers =>
      simp only at h
      split at h
      · next hdue =>
          cases h
          have hinterval := hdue.2
          unfold updateIntervalMS at hinterval
          exact .round (by omega)
      · cases h
  | writeable key authorized =>
      simp only at h
      split at h
      · cases h
      · split at h
        · next hauthorized =>
            subst hauthorized
            cases h
            exact .writeable
        · next hauthorized =>
            obtain rfl := Bool.eq_false_iff.mpr hauthorized
            cases h
            exact .refused

theorem lookup_sessions_writeable (s : Telemetry) (key key' : Nat) :
    (s.sessions.map fun e => if e.1 = key' then (e.1, s.send e.2) else e).lookup key =
      (s.sessions.lookup key).map fun session =>
        if key = key' then s.send session else session := by
  have hmap : (fun e : Nat × TelemetrySession => if e.1 = key' then (e.1, s.send e.2) else e) =
      fun e => (e.1, if e.1 = key' then s.send e.2 else e.2) := by
    funext e
    split
    · rfl
    · rfl
  rw [hmap]
  exact lookup_map (fun key session => if key = key' then s.send session else session) _ key

/-- The sessions of a state do not matter to any one of them. -/
theorem InSync.withSessions {session : TelemetrySession} (h : s.InSync session)
    (sessions : List (Nat × TelemetrySession)) : { s with sessions }.InSync session :=
  ⟨h.fresh, h.sent⟩

theorem synced_moves {e : TelemetryEvent} (h : Synced ending key s)
    (hproper : s.Proper ending key e) (hmoves : Moves ending s e s') : Synced ending key s' := by
  cases hmoves with
  | @established key' now =>
      refine ⟨h.kinds, ?_⟩
      intro session hsession
      by_cases heq : key = key'
      · subst heq
        rw [List.lookup_cons_self] at hsession
        cases hsession
        exact ⟨fun _ => rfl, fun hfull => Bool.noConfusion hfull⟩
      · rw [List.lookup_cons, beq_eq_false_iff_ne.mpr heq] at hsession
        exact (h.session session hsession).withSessions _
  | @closed key' =>
      refine ⟨h.kinds, ?_⟩
      intro session hsession
      have hne : key ≠ key' := by
        rintro rfl
        have hmem := mem_of_lookup hsession
        exact of_decide_eq_true (List.mem_filter.mp hmem).2 rfl
      have hkept := (lookup_filter_ne hne s.sessions).symm.trans hsession
      exact (h.session session hkept).withSessions _
  | lastClosed => exact synced_init ending key
  | @round now answers hnow =>
      refine ⟨kindsOk_afterRound h.kinds now, ?_⟩
      intro session hsession
      exact (h.session session hsession).afterRound h.kinds (hproper session hsession) hnow
  | @writeable key' =>
      refine ⟨h.kinds, ?_⟩
      intro session hsession
      rw [lookup_sessions_writeable] at hsession
      obtain ⟨session', hsession', rfl⟩ := Option.map_eq_some_iff.mp hsession
      have hsync := h.session session' hsession'
      by_cases heq : key = key'
      · rw [if_pos heq]
        exact (hsync.send h.kinds (hproper heq.symm rfl session' hsession')).withSessions _
      · rw [if_neg heq]
        exact hsync.withSessions _
  | refused => exact h

theorem synced_step {e : TelemetryEvent} (h : Synced ending key s)
    (hstep : Guarded (Proper ending key) (Steps (step ending)) s e s') : Synced ending key s' :=
  synced_moves h hstep.1 (moves_of_step hstep.2)

/-- Whenever a session has been writeable, its client holds the latest snapshot, if its rounds have
all been proper. -/
theorem client_eq_snapshotData {es : List TelemetryEvent} {session : TelemetrySession}
    (hrun : Run (Guarded (Proper ending key) (Steps (step ending))) {} es s)
    (hstep : Guarded (Proper ending key) (Steps (step ending)) s (.writeable key true) s')
    (hsession : s'.sessions.lookup key = some session) : session.client = s'.snapshotData := by
  have hsynced : Synced ending key s :=
    hrun.invariant (fun _ _ _ hs hst => synced_step hs hst) (synced_init ending key)
  have hsent := ((synced_step hsynced hstep).session session hsession).sent
  cases moves_of_step hstep.2 with
  | writeable =>
      rw [lookup_sessions_writeable] at hsession
      obtain ⟨session', _, rfl⟩ := Option.map_eq_some_iff.mp hsession
      rw [if_pos rfl] at hsent ⊢
      -- it has sent what there was, and would not send it again
      have hclient := (hsent (send_sent s session')).2
      have hagain : s.send (s.send session') = s.send session' := send_send s session'
      rw [← hagain]
      exact hclient

/-! ## A run -/

/-- A list of one plugin with one value. -/
def enabledSnapshot (value : String) : Snapshot .list where
  tree := .node "" [("Location", .node "" [("enabled", .node value [])])]
  verified := by simp [Ptree.children, verifyChildren, verifyJson]
  nodup := by simp [Ptree.children]
  name_ne := by simp [Ptree.children]
  settings := by
    intro h
    cases h

/-- The answers of a round in which the other queries fail. -/
def enabledAnswers (value : String) : (k : DataType) → Option (Snapshot k)
  | .list => some (enabledSnapshot value)
  | .config | .status | .state | .messages | .systemConfig => none

theorem enabledAnswers_of_ne (value : String) {k : DataType} (h : k ≠ .list) :
    enabledAnswers value k = none := by
  cases k with
  | list => exact absurd rfl h
  | config => rfl
  | status => rfl
  | state => rfl
  | messages => rfl
  | systemConfig => rfl

theorem deep_enabled (value : String) :
    (Ptree.node "" [("enabled", .node value [])]).Deep 1 := by
  refine ⟨List.cons_ne_nil _ _, List.nodup_singleton _, ?_⟩
  intro child hchild
  obtain rfl := List.mem_singleton.mp hchild
  refine ⟨?_, rfl⟩
  show "enabled" ≠ ""
  decide

/-- The plugin has the one value and nothing else. -/
theorem leaf_enabled (value : String) (path : List String) :
    ((docOf (.node "" [("enabled", .node value [])])).leaf path).isSome ↔ path = ["enabled"] := by
  rw [(deep_enabled value).docOf_succ]
  rcases path with _ | ⟨key, path⟩
  · simp [Doc.leaf]
  · by_cases hkey : key = "enabled"
    · subst hkey
      cases path with
      | nil => simp [Doc.leaf, Doc.get, docMembers, docOf, Ptree.children]
      | cons key' path => simp [Doc.leaf, Doc.get, docMembers, docOf, Ptree.children]
    · have hbeq : (key == "enabled") = false := beq_eq_false_iff_ne.mpr hkey
      simp [Doc.leaf, Doc.get, docMembers, Ptree.children, List.lookup_cons, hbeq, hkey]

theorem losesNoKey_enabled {s : Telemetry} (value : String)
    (h : s.plugins .list = [] ∨
      ∃ value', s.plugins .list = (enabledSnapshot value').tree.children) :
    s.LosesNoKey (enabledAnswers value) := by
  intro k hk name hname path hsome
  by_cases hlist : k = .list
  · subst hlist
    rcases h with h | ⟨value', h⟩
    · rw [h, pluginsData_nil] at hsome
      cases hsome
    · obtain rfl := List.mem_singleton.mp hname
      rw [h, pluginsData_cons hk] at hsome
      rw [pluginsData_cons hk]
      exact (leaf_enabled value path).mpr ((leaf_enabled value' path).mp hsome)
  · rw [nextPlugins_none (enabledAnswers_of_ne value hlist)]
    exact hsome

/-- The value changes to one that can be sent. -/
theorem roundProper_enabled {s : Telemetry} {session : TelemetrySession} {value value' : String}
    (hsent : ¬ session.lastUpdateSendTimeMS < s.lastPluginsUpdateTimeMS)
    (hlist : s.plugins .list = (enabledSnapshot value').tree.children) (hvalue : Clean value) :
    RoundProper true s session (enabledAnswers value) where
  sent := fun hbehind => absurd hbehind hsent
  settings := rfl
  sendable := by
    intro k hk snapshot hanswer plugin hplugin
    by_cases hkind : k = .list
    · subst hkind
      cases hanswer
      obtain rfl := List.mem_singleton.mp (List.mem_of_mem_filter hplugin)
      refine ⟨deep_enabled value, ?_, ?_, ?_⟩
      · intro prev hprev
        rw [hlist] at hprev
        obtain rfl : _ = prev := Option.some.inj hprev
        exact deep_enabled value'
      · show Plain "Location"
        decide
      · intro nvp hnvp
        obtain rfl := List.mem_singleton.mp (List.mem_of_mem_filter hnvp)
        refine ⟨?_, hvalue⟩
        show Plain "enabled"
        decide
    · rw [enabledAnswers_of_ne value hkind] at hanswer
      cases hanswer
  listed := by
    intro k _ name hname hnext
    by_cases hkind : k = .list
    · subst hkind
      rw [hlist] at hname
      exact absurd hname hnext
    · rw [nextPlugins_none (enabledAnswers_of_ne value hkind)] at hnext
      exact absurd hname hnext
  removed := by
    intro name hname
    obtain ⟨plugin, hplugin, rfl⟩ := List.mem_map.mp hname
    obtain ⟨hmem, hnext⟩ := List.mem_filter.mp hplugin
    rw [hlist] at hmem
    exact absurd (List.mem_map_of_mem hmem) (of_decide_eq_true hnext)
  kept := losesNoKey_enabled value (.inr ⟨value', hlist⟩)

/-- There is nothing but the list after the first round. -/
theorem haveData_enabled {s : Telemetry} (value : String) (now : Nat) (h : s.latest = fun _ => none)
    (k : DataType) :
    ((s.afterRound true now (enabledAnswers value)).kinds k).haveData = true ∨
      (s.afterRound true now (enabledAnswers value)).plugins k = [] := by
  have hplugins : s.plugins k = [] := by
    unfold plugins
    rw [h]
  by_cases hkind : k = .list
  · left
    subst hkind
    obtain ⟨json, hdata, _⟩ :=
      (s.kinds .list).getTelemetry_some true (enabledSnapshot value) (.inl (by decide))
    rw [kinds_afterRound now rfl, hdata]
  · right
    rw [plugins_afterRound, nextPlugins_none (enabledAnswers_of_ne value hkind)]
    exact hplugins

/-- A session gets the list, and then a round changes the value. -/
theorem run_enabled :
    ∃ es s s' session, Run (Guarded (Proper true 1) (Steps (step true))) {} es s ∧
      Guarded (Proper true 1) (Steps (step true)) s (.writeable 1 true) s' ∧
      s'.sessions.lookup 1 = some session ∧
      s'.snapshotData .list ["Location", "enabled"] = some "Enabled" := by
  have hround : ∀ session, some ({ lastUpdateSendTimeMS := 0 } : TelemetrySession) = some session →
      ∀ {P : Prop}, session.sendFullTelemetry = false → P := by
    intro session hsession P hfull
    cases hsession
    cases hfull
  exact ⟨[.established 1 0, .round 1000 (enabledAnswers "Disabled"), .writeable 1 true,
      .round 2000 (enabledAnswers "Enabled")], _, _, _,
    .cons ⟨trivial, rfl⟩ (.cons ⟨fun session hsession => hround session hsession, rfl⟩
      (.cons ⟨fun _ _ _ _ _ => haveData_enabled "Disabled" 1000 rfl, rfl⟩
        (.cons ⟨fun session hsession _ => roundProper_enabled
            (by cases hsession; exact Nat.lt_irrefl _) rfl (by decide), rfl⟩ .nil))),
    ⟨fun _ _ _ hsession hfull => (by cases hsession; cases hfull), rfl⟩, rfl, rfl⟩

theorem client_eq_snapshotData_enabled :
    ∃ es s s' session, Run (Guarded (Proper true 1) (Steps (step true))) {} es s ∧
      Guarded (Proper true 1) (Steps (step true)) s (.writeable 1 true) s' ∧
      s'.sessions.lookup 1 = some session ∧
      session.client .list ["Location", "enabled"] = some "Enabled" := by
  obtain ⟨es, s, s', session, hrun, hstep, hsession, hdata⟩ := run_enabled
  have hclient := client_eq_snapshotData hrun hstep hsession
  refine ⟨es, s, s', session, hrun, hstep, hsession, ?_⟩
  rw [hclient]
  exact hdata

/-- The premise alone: no plugin loses a key while it is there. -/
def Keeps (s : Telemetry) : TelemetryEvent → Prop
  | .round _ answers => s.LosesNoKey answers
  | .established _ _ | .closed _ | .writeable _ _ => True

/-- A second round before the session is writeable replaces the update, and the client keeps the old
value. -/
theorem update_replaced_by_round :
    ¬ ∀ (ending : Bool) (key : Nat) (es : List TelemetryEvent) (s s' : Telemetry)
        (session : TelemetrySession),
      Run (Guarded Keeps (Steps (step ending))) {} es s →
        Guarded Keeps (Steps (step ending)) s (.writeable key true) s' →
          s'.sessions.lookup key = some session → session.client = s'.snapshotData := by
  intro h
  have hclient := h true 1 [.established 1 0, .round 1000 (enabledAnswers "Disabled"),
    .writeable 1 true, .round 2000 (enabledAnswers "Enabled"),
    .round 3000 (enabledAnswers "Enabled")] _ _ _
    (.cons ⟨trivial, rfl⟩ (.cons ⟨losesNoKey_enabled _ (.inl rfl), rfl⟩ (.cons ⟨trivial, rfl⟩
      (.cons ⟨losesNoKey_enabled _ (.inr ⟨_, rfl⟩), rfl⟩
        (.cons ⟨losesNoKey_enabled _ (.inr ⟨_, rfl⟩), rfl⟩ .nil)))))
    ⟨trivial, rfl⟩ rfl
  have hvalue := congrFun (congrFun hclient .list) ["Location", "enabled"]
  exact absurd hvalue (by decide +kernel)

end Telemetry

end V2XHub.Command
