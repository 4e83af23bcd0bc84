import Mathlib.Data.List.Induction
import V2XHub.Map.Plugin

/-!
# Which map is broadcast

The message of `Main` is from the table as the last update has left it, unless the flag is set. When
`Main` resets the flag it has no message, so a flag that is lost to an update leads to no broadcast
and not to an old one.

What makes the plugin fail is before that: `OnConfigChanged` takes the other branch than it should,
an update may leave the action or the table of an earlier value, and the pointer is used before it
is tested.

**Main result** `safe_of_run`.
-/

namespace V2XHub.Map

open V2XHub.Lib

namespace MapPlugin

variable {o : Outside}

/-! ## The table -/

/-- A file of the table as it was configured, possibly with its bytes loaded. -/
def FileFrom (o : Outside) (file₀ file : MapFile) : Prop :=
  file.filePath = file₀.filePath ∧ file.inputType = file₀.inputType ∧
    (file.bytes = file₀.bytes ∨ fileBytes o file₀ = some file.bytes)

/-- The table has the configured files, and empty ones in other places. -/
structure TableInv (o : Outside) (files table : List (Int × MapFile)) : Prop where
  from_configured : ∀ action file, table.lookup action = some file →
    file = {} ∨ ∃ file₀, files.lookup action = some file₀ ∧ FileFrom o file₀ file
  has_configured : ∀ action, (files.lookup action).isSome = true →
    (table.lookup action).isSome = true

theorem fileBytes_ne_empty (file : MapFile) : fileBytes o file ≠ some "" := by
  intro h
  unfold fileBytes at h
  split at h
  · rename_i hne
    exact hne (Option.some.inj h)
  · split at h
    · cases h
    · split at h
      · split at h
        · cases h
        · rename_i hne
          exact hne (Option.some.inj h)
      · cases h

/-- What a file with bytes has is its encoding. -/
theorem FileFrom.fileBytes {file₀ file : MapFile} (h : FileFrom o file₀ file)
    (hbytes : file.bytes ≠ "") : MapPlugin.fileBytes o file₀ = some file.bytes := by
  rcases h.2.2 with hsame | hloaded
  · rw [MapPlugin.fileBytes, if_pos (hsame ▸ hbytes), hsame]
  · exact hloaded

theorem TableInv.refl (files : List (Int × MapFile)) : TableInv o files files where
  from_configured _ file h := .inr ⟨file, h, rfl, rfl, .inl rfl⟩
  has_configured _ h := h

/-- A fetch may add an empty file. -/
theorem TableInv.assign_empty {files table : List (Int × MapFile)} (h : TableInv o files table)
    (action : Int) : TableInv o files (assign action {} table) where
  from_configured action' file hfile := by
    by_cases heq : action' = action
    · subst heq
      rw [lookup_assign_self] at hfile
      cases hfile
      exact .inl rfl
    · rw [lookup_assign_of_ne heq] at hfile
      exact h.from_configured action' file hfile
  has_configured action' hhas := by
    by_cases heq : action' = action
    · subst heq
      rw [lookup_assign_self]
      rfl
    · rw [lookup_assign_of_ne heq]
      exact h.has_configured action' hhas

/-- Loading keeps a file or fills in its bytes. -/
theorem lookup_loadMapFiles (table : List (Int × MapFile)) (action : Int) :
    ((loadMapFiles o table).1.lookup action).isSome = (table.lookup action).isSome ∧
      ∀ file', (loadMapFiles o table).1.lookup action = some file' →
        ∃ file, table.lookup action = some file ∧
          (file' = file ∨ file.bytes = "" ∧ file.inputType = "" ∧
            ∃ encoded, convert o file.filePath = .bytes encoded ∧
              file' = { file with bytes := encoded }) := by
  induction table with
  | nil => exact ⟨rfl, nofun⟩
  | cons entry rest ih =>
      obtain ⟨key, file⟩ := entry
      -- the first entry becomes `file'`, or the loop ends with it
      have hcons : ∀ file', (file' = file ∨ file.bytes = "" ∧ file.inputType = "" ∧
            ∃ encoded, convert o file.filePath = .bytes encoded ∧
              file' = { file with bytes := encoded }) →
          (((key, file') :: (loadMapFiles o rest).1).lookup action).isSome =
              (((key, file) :: rest).lookup action).isSome ∧
            ∀ file'', ((key, file') :: (loadMapFiles o rest).1).lookup action = some file'' →
              ∃ file₁, ((key, file) :: rest).lookup action = some file₁ ∧
                (file'' = file₁ ∨ file₁.bytes = "" ∧ file₁.inputType = "" ∧
                  ∃ encoded, convert o file₁.filePath = .bytes encoded ∧
                    file'' = { file₁ with bytes := encoded }) := by
        intro file' hfile'
        rw [List.lookup_cons, List.lookup_cons]
        by_cases heq : action = key
        · rw [heq, beq_self_eq_true]
          refine ⟨rfl, ?_⟩
          rintro _ ⟨⟩
          exact ⟨file, rfl, hfile'⟩
        · rw [beq_eq_false_iff_ne.mpr heq]
          exact ih
      rw [loadMapFiles]
      split
      · rename_i hempty
        split
        · exact ⟨rfl, fun file' h => ⟨file', h, .inl rfl⟩⟩
        · exact hcons file (.inl rfl)
        · rename_i encoded hencoded
          exact hcons _ (.inr ⟨hempty.1, hempty.2, encoded, hencoded, rfl⟩)
      · exact hcons file (.inl rfl)

theorem convert_empty : convert o "" = .throws := by
  rw [convert]
  exact if_pos (by decide)

theorem TableInv.load {files table : List (Int × MapFile)} (h : TableInv o files table) :
    TableInv o files (loadMapFiles o table).1 where
  from_configured action file' hfile' := by
    obtain ⟨file, hfile, hloaded⟩ := (lookup_loadMapFiles table action).2 file' hfile'
    have hfrom := h.from_configured action file hfile
    rcases hloaded with rfl | ⟨hbytes, htype, encoded, hencoded, rfl⟩
    · exact hfrom
    · rcases hfrom with rfl | ⟨file₀, hfile₀, hpath, htype₀, hbytes₀⟩
      · -- an empty file has no name
        rw [show convert o ({} : MapFile).filePath = .throws from convert_empty] at hencoded
        cases hencoded
      · refine .inr ⟨file₀, hfile₀, hpath, htype₀, ?_⟩
        have hempty₀ : file₀.bytes = "" := by
          rcases hbytes₀ with hsame | hloaded
          · exact hsame.symm.trans hbytes
          · rw [hbytes] at hloaded
            exact absurd hloaded (fileBytes_ne_empty file₀)
        by_cases hnothing : encoded = ""
        · exact .inl (hnothing.trans hempty₀.symm)
        · right
          rw [fileBytes, if_neg (not_not.mpr hempty₀), if_neg (not_not.mpr (htype₀ ▸ htype)),
            ← hpath, hencoded]
          exact if_neg hnothing
  has_configured action hhas := by
    rw [(lookup_loadMapFiles table action).1]
    exact h.has_configured action hhas

/-! ## Updates -/

/-- The action after an update: the one before if it has a map, else the smallest. -/
def keptAction (mapAction : Int) (files : List (Int × MapFile)) : Option Int :=
  match files.lookup mapAction with
  | some _ => some mapAction
  | none => files.head?.map Prod.fst

/-- An update leaves the current action, and the table of the value. -/
def Updatable (o : Outside) (s : MapPlugin) : Prop :=
  (o.mapFiles s.mapFilesText = none → configured s.applied = []) ∧
    ∀ entries ∈ o.mapFiles s.mapFilesText,
      (∀ entry ∈ entries, entry.action ≠ none) ∧
        currentAction s.received (configured entries) = keptAction s.mapAction (configured entries)

instance (s : MapPlugin) : Decidable (s.Updatable o) :=
  inferInstanceAs (Decidable (_ ∧ ∀ entries ∈ o.mapFiles s.mapFilesText, _ ∧ _))

/-- The steps that keep the promise. While registered, `OnConfigChanged` neither reads a new value
of `MAP_Files` nor keeps the flag for other devices to its own key. -/
def Proper (o : Outside) (s : MapPlugin) : Event → Prop
  | .config key value =>
      s.registered = true →
        (key = "MAP_Files" → value = s.mapFilesText) ∧
          (key ≠ "Cohda R63" → isOn value = false) ∧ (key = "Cohda R63" → s.Updatable o)
  | .register => s.Updatable o
  | _ => True

instance (s : MapPlugin) : DecidablePred (s.Proper o)
  | .config _ _ => inferInstanceAs (Decidable (_ → _ ∧ _ ∧ _))
  | .register => inferInstanceAs (Decidable (s.Updatable o))
  | .disconnect | .action _ | .receiver | .main _ => inferInstanceAs (Decidable True)

theorem configured_append (entries : List MapEntry) (entry : MapEntry) :
    configured (entries ++ [entry]) =
      match entry.action with
      | none => configured entries
      | some action =>
          if action < 0 then configured entries
          else assign action entry.file (configured entries) := by
  rw [configured, List.foldl_append]
  rfl

/-- Where no received action has a map, the current one is the smallest that has. -/
theorem currentAction_le {entries : List MapEntry} {received : List Int} {action action' : Int}
    {file : MapFile}
    (hreceived : ∀ r ∈ received, ((configured entries).lookup r).isSome = false)
    (hcurrent : currentAction received (configured entries) = some action)
    (hfile : (configured entries).lookup action' = some file) : action ≤ action' := by
  have hrising : Rising (configured entries) := by
    clear hcurrent hreceived hfile
    induction entries using List.reverseRecOn with
    | nil => exact List.Pairwise.nil
    | append_singleton entries entry ih =>
        rw [configured_append]
        split
        · exact ih
        · split
          · exact ih
          · exact ih.assign _ _
  have hnone : received.find? (fun r => ((configured entries).lookup r).isSome) = none := by
    rw [List.find?_eq_none]
    intro r hr
    rw [hreceived r hr]
    exact Bool.false_ne_true
  rw [currentAction, hnone, Option.none_or] at hcurrent
  exact hrising.head_le hcurrent hfile

/-- The payload is the encoding of the configured file for the active action. -/
def MsgOk (o : Outside) (s : MapPlugin) : Prop :=
  ∀ payload, s.msg = some payload →
    ∃ file, (configured s.applied).lookup s.activeAction = some file ∧
      fileBytes o file = some payload

/-! ## The invariant -/

/-- While the receive thread is in an update. A flag that is set in it may be reset at once, but
then there is no message. -/
structure UpdatingInv (o : Outside) (s : MapPlugin) (entries : List MapEntry) : Prop where
  table : ∃ done, s.applied = done ++ entries ∧ s.mapFiles = configured done
  integers : ∀ entry ∈ entries, entry.action ≠ none
  text : o.mapFiles s.mapFilesText = some s.applied
  msg : s.mapFiles = [] ∨ s.isMapFileNew = true ∨ s.msg = none
  fetching : ∀ action, s.main = .fetch action →
    s.mapFiles = [] ∨ s.isMapFileNew = true ∨ action = s.mapAction
  current : currentAction s.received (configured s.applied) =
    keptAction s.mapAction (configured s.applied)

/-- While it is not. -/
structure SettledInv (o : Outside) (s : MapPlugin) : Prop where
  table : TableInv o (configured s.applied) s.mapFiles
  /-- a configured action of the plugin is the current one -/
  current : ((configured s.applied).lookup s.mapAction).isSome = true →
    currentAction s.received (configured s.applied) = some s.mapAction
  handled : s.registered = true → s.handled = true
  latest : s.handled = true →
    configured ((o.mapFiles s.mapFilesText).getD []) = configured s.applied

/-- While it does not hold the lock. -/
structure IdleInv (o : Outside) (s : MapPlugin) : Prop extends SettledInv o s where
  msg : s.isMapFileNew = true ∨ s.mapAction < 0 ∨
    s.MsgOk o ∧ (s.msg = none ∨ s.activeAction = s.mapAction)
  fetching : ∀ action, s.main = .fetch action →
    s.isMapFileNew = true ∨ s.mapAction < 0 ∨ action = s.mapAction ∨
      (configured s.applied).lookup action = none

/-- What is known of the receive thread. -/
def ReceiverInv (o : Outside) (s : MapPlugin) : Prop :=
  match s.receiver with
  | .idle => s.IdleInv o
  | .updating entries => s.UpdatingInv o entries
  | .switching => s.SettledInv o

/-- What is known in a pass that is clean. -/
structure CleanInv (s : MapPlugin) : Prop where
  receiver : s.receiver = .idle
  handled : s.handled = true
  flag : s.main = .readAction ∨ (∃ action, s.main = .fetch action) ∨ s.main = .send →
    s.isMapFileNew = false
  action : (∃ action, s.main = .fetch action) ∨ s.main = .send → 0 ≤ s.mapAction

structure Inv (o : Outside) (s : MapPlugin) : Prop where
  cohda : s.cohdaR63 = false
  loading : s.main = .loadStart ∨ s.main = .load ∨ s.main = .resetFlag → s.msg = none
  receiver : s.ReceiverInv o
  clean : s.clean = true → s.CleanInv

variable {s t : MapPlugin}

theorem Inv.safe (h : s.Inv o) : s.Safe o := by
  intro hmain _
  refine ⟨?_, ?_⟩
  · intro hcohda
    rw [h.cohda] at hcohda
    cases hcohda
  · intro hclean payload hmsg
    have hcleanInv := h.clean hclean
    have hidle : s.IdleInv o := by
      have hreceiver := h.receiver
      rw [ReceiverInv, hcleanInv.receiver] at hreceiver
      exact hreceiver
    have hflag := hcleanInv.flag (.inr (.inr hmain))
    have haction := hcleanInv.action (.inr hmain)
    obtain ⟨hok, hactive⟩ : s.MsgOk o ∧ s.activeAction = s.mapAction := by
      rcases hidle.msg with hnew | hneg | ⟨hok, hnone | hactive⟩
      · rw [hflag] at hnew
        cases hnew
      · omega
      · rw [hnone] at hmsg
        cases hmsg
      · exact ⟨hok, hactive⟩
    obtain ⟨file, hfile, hbytes⟩ := hok payload hmsg
    rw [hactive] at hfile
    have hcurrent := hidle.current (by rw [hfile]; rfl)
    rw [expectedBytes, hidle.latest hcleanInv.handled]
    simp only [hcurrent, Option.bind_eq_bind, Option.bind_some, hfile]
    exact hbytes

theorem inv_initial (text : String) : ({ mapFilesText := text } : MapPlugin).Inv o where
  cohda := rfl
  loading _ := rfl
  receiver :=
    { table := .refl _
      current := nofun
      handled := nofun
      latest := nofun
      msg := .inr (.inl (Int.negSucc_lt_zero 0))
      fetching := nofun }
  clean := nofun

theorem Inv.idle (h : s.Inv o) (hreceiver : s.receiver = .idle) : s.IdleInv o := by
  have hinv := h.receiver
  rw [ReceiverInv, hreceiver] at hinv
  exact hinv

/-! ### The receive thread -/

/-- An update begins, or there is nothing to do. -/
theorem Inv.updateConfigSettings (h : s.Inv o) (hreceiver : s.receiver = .idle)
    (hupdatable : s.Updatable o) (registered : Bool) :
    (({ s with registered := registered, clean := false } : MapPlugin).updateConfigSettings
      o).Inv o := by
  have hidle := h.idle hreceiver
  unfold MapPlugin.updateConfigSettings
  split
  · rename_i hnone
    refine { h with receiver := ?_, clean := nofun }
    rw [ReceiverInv, hreceiver]
    exact
      { hidle with
        handled := fun _ => rfl
        latest := by
          intro _
          rw [show o.mapFiles s.mapFilesText = none from hnone]
          exact (hupdatable.1 hnone).symm }
  · rename_i entries hentries
    obtain ⟨hintegers, hcurrent⟩ := hupdatable.2 entries hentries
    exact
      { h with
        receiver :=
          { table := ⟨[], rfl, rfl⟩
            integers := hintegers
            text := hentries
            msg := .inl rfl
            fetching := fun _ _ => .inl rfl
            current := hcurrent }
        clean := nofun }

theorem Inv.config (h : s.Inv o) (hreceiver : s.receiver = .idle) {key value : String}
    (hproper : s.Proper o (.config key value)) (hstep : s.step o (.config key value) = some t) :
    t.Inv o := by
  have hidle := h.idle hreceiver
  rw [MapPlugin.step, if_pos hreceiver] at hstep
  cases hstep
  unfold onConfigChanged
  cases hregistered : s.registered with
  | false =>
      by_cases hkey : key = "MAP_Files"
      · simp only [if_pos hkey, Bool.false_eq_true, if_false]
        refine { h with receiver := ?_, clean := nofun }
        rw [ReceiverInv, hreceiver]
        exact { hidle with handled := fun hfalse => (nomatch hfalse), latest := nofun }
      · simp only [if_neg hkey, Bool.false_eq_true, if_false]
        refine { h with receiver := ?_, clean := nofun }
        rw [ReceiverInv, hreceiver]
        exact { hidle with handled := fun hfalse => (nomatch hfalse) }
  | true =>
      obtain ⟨htext, hoff, hupdatable⟩ := hproper hregistered
      have hlatest := hidle.latest (hidle.handled hregistered)
      by_cases hkey : key = "MAP_Files"
      · have hother : key ≠ "Cohda R63" := by
          rw [hkey]
          decide
        obtain rfl := htext hkey
        simp only [if_pos hkey, if_true, if_pos hother]
        refine ⟨hoff hother, h.loading, ?_, nofun⟩
        rw [ReceiverInv, hreceiver]
        exact { hidle with handled := fun _ => rfl, latest := fun _ => hlatest }
      · simp only [if_neg hkey, if_true]
        split
        · rename_i hother
          refine ⟨hoff hother, h.loading, ?_, nofun⟩
          rw [ReceiverInv, hreceiver]
          exact { hidle with handled := fun _ => rfl, latest := fun _ => hlatest }
        · rename_i hcohda
          exact h.updateConfigSettings hreceiver (hupdatable (not_not.mp hcohda)) true

/-- An action without a map, or with one. -/
theorem Inv.action (h : s.Inv o) (hreceiver : s.receiver = .idle) (action : Int) :
    (({ s with clean := false, received := action :: s.received } : MapPlugin).onMessageReceived
      action).Inv o := by
  have hidle := h.idle hreceiver
  -- the new action is the current one if it has a map, and else changes nothing
  have hhas : ((configured s.applied).lookup action).isSome = true →
      currentAction (action :: s.received) (configured s.applied) = some action := by
    intro hsome
    simp only [currentAction, List.find?_cons, hsome, Option.some_or]
  have hnot : ¬ ((configured s.applied).lookup action).isSome = true →
      currentAction (action :: s.received) (configured s.applied) =
        currentAction s.received (configured s.applied) := by
    intro hnone
    simp only [currentAction, List.find?_cons, Bool.eq_false_iff.mpr hnone]
  unfold MapPlugin.onMessageReceived
  split
  · rename_i hsame
    refine { h with receiver := ?_, clean := nofun }
    rw [ReceiverInv, hreceiver]
    refine { hidle with current := ?_ }
    intro hsome
    rw [show s.mapAction = action from hsame.symm] at hsome ⊢
    exact hhas hsome
  · split
    · rename_i hmissing
      refine { h with receiver := ?_, clean := nofun }
      rw [ReceiverInv, hreceiver]
      refine { hidle with current := ?_ }
      intro hsome
      rw [hnot]
      · exact hidle.current hsome
      · intro hconfigured
        have hfound := hidle.table.has_configured action hconfigured
        rw [show s.mapFiles.lookup action = none from hmissing] at hfound
        cases hfound
    · exact
        { h with
          receiver :=
            { table := hidle.table
              current := hhas
              handled := hidle.handled
              latest := hidle.latest }
          clean := nofun }

theorem Inv.disconnect (h : s.Inv o) : ({ s with registered := false } : MapPlugin).Inv o := by
  refine { h with receiver := ?_, clean := fun hclean => { h.clean hclean with } }
  have hinv := h.receiver
  unfold ReceiverInv at hinv ⊢
  dsimp only
  split at hinv
  · exact { hinv with handled := nofun }
  · exact { hinv with }
  · exact { hinv with handled := nofun }

/-- Outside of `idle` no pass is clean. -/
theorem Inv.not_clean (h : s.Inv o) (hreceiver : s.receiver ≠ .idle) : s.clean = false := by
  cases hclean : s.clean with
  | false => rfl
  | true => exact absurd (h.clean hclean).receiver hreceiver

/-- One element of the array is taken. -/
theorem UpdatingInv.insert {entry : MapEntry} {entries : List MapEntry} {action : Int}
    (h : s.UpdatingInv o (entry :: entries)) (haction : entry.action = some action)
    (hnonneg : ¬ action < 0) :
    ({ s with
      receiver := .updating entries
      mapFiles := assign action entry.file s.mapFiles
      isMapFileNew := true } : MapPlugin).UpdatingInv o entries where
  table := by
    obtain ⟨done, happlied, hfiles⟩ := h.table
    refine ⟨done ++ [entry], ?_, ?_⟩
    · rw [List.append_assoc]
      exact happlied
    · rw [configured_append, haction]
      dsimp only
      rw [if_neg hnonneg, hfiles]
  integers e he := h.integers e (List.mem_cons_of_mem _ he)
  text := h.text
  msg := .inr (.inl rfl)
  fetching _ _ := .inr (.inl rfl)
  current := h.current

theorem UpdatingInv.skip {entry : MapEntry} {entries : List MapEntry} {action : Int}
    (h : s.UpdatingInv o (entry :: entries)) (haction : entry.action = some action)
    (hneg : action < 0) :
    ({ s with receiver := .updating entries } : MapPlugin).UpdatingInv o entries :=
  { h with
    table := by
      obtain ⟨done, happlied, hfiles⟩ := h.table
      refine ⟨done ++ [entry], ?_, ?_⟩
      · rw [List.append_assoc]
        exact happlied
      · rw [configured_append, haction]
        dsimp only
        rw [if_pos hneg]
        exact hfiles
    integers := fun e he => h.integers e (List.mem_cons_of_mem _ he) }

/-- The update ends with the choice of the action. -/
theorem UpdatingInv.finish (h : s.UpdatingInv o []) :
    ({ s with
      receiver := .idle
      mapAction :=
        match s.mapFiles.lookup s.mapAction with
        | some _ => s.mapAction
        | none => (s.mapFiles.head?.map Prod.fst).getD (-1)
      handled := true } : MapPlugin).IdleInv o := by
  obtain ⟨done, happlied, hfiles⟩ := h.table
  rw [List.append_nil] at happlied
  rw [← happlied] at hfiles
  have hcurrent := h.current
  rw [keptAction, ← hfiles] at hcurrent
  refine ⟨⟨?_, ?_, fun _ => rfl, ?_⟩, ?_, ?_⟩
  · rw [hfiles]
    exact .refl _
  · intro hsome
    dsimp only at hsome ⊢
    rw [← hfiles] at hsome ⊢
    rw [hcurrent]
    cases hlookup : s.mapFiles.lookup s.mapAction with
    | some file => rfl
    | none =>
        rw [hlookup] at hsome
        dsimp only at hsome ⊢
        cases hhead : s.mapFiles.head? with
        | some entry => rfl
        | none =>
            rw [List.head?_eq_none_iff.mp hhead] at hsome
            cases hsome
  · intro _
    dsimp only
    rw [h.text]
    rfl
  · dsimp only
    rcases h.msg with hempty | hnew | hnone
    · rw [hempty]
      exact .inr (.inl (Int.negSucc_lt_zero 0))
    · exact .inl hnew
    · refine .inr (.inr ⟨?_, .inl hnone⟩)
      intro payload hmsg
      rw [show s.msg = none from hnone] at hmsg
      cases hmsg
  · intro action hmain
    dsimp only
    rcases h.fetching action hmain with hempty | hnew | rfl
    · rw [hempty]
      exact .inr (.inl (Int.negSucc_lt_zero 0))
    · exact .inl hnew
    · -- read during the update: it is kept, or the value has no map for it
      rw [← hfiles]
      cases hlookup : s.mapFiles.lookup s.mapAction with
      | some file => exact .inr (.inr (.inl rfl))
      | none => exact .inr (.inr (.inr rfl))

theorem Inv.receiverStep (h : s.Inv o) (hstep : s.receiverStep = some t) : t.Inv o := by
  have hinv := h.receiver
  unfold MapPlugin.receiverStep at hstep
  -- a pass during which the receiver is at work is not clean
  cases hreceiver : s.receiver with
  | idle =>
      rw [hreceiver] at hstep
      cases hstep
  | switching =>
      have hclean := h.not_clean (by rw [hreceiver]; nofun)
      rw [hreceiver] at hstep
      rw [ReceiverInv, hreceiver] at hinv
      cases hstep
      exact
        { h with
          receiver := { hinv with msg := .inl rfl, fetching := fun _ _ => .inl rfl }
          clean := fun htrue => absurd (hclean.symm.trans htrue) (by decide) }
  | updating entries =>
      have hclean := h.not_clean (by rw [hreceiver]; nofun)
      rw [hreceiver] at hstep
      rw [ReceiverInv, hreceiver] at hinv
      cases entries with
      | nil =>
          cases hstep
          exact
            { h with
              receiver := hinv.finish
              clean := fun htrue => absurd (hclean.symm.trans htrue) (by decide) }
      | cons entry entries =>
          dsimp only at hstep
          cases haction : entry.action with
          | none => exact absurd haction (hinv.integers entry List.mem_cons_self)
          | some action =>
              rw [haction] at hstep
              dsimp only at hstep
              split at hstep
              · rename_i hneg
                cases hstep
                exact
                  { h with
                    receiver := hinv.skip haction hneg
                    clean := fun htrue => absurd (hclean.symm.trans htrue) (by decide) }
              · rename_i hnonneg
                cases hstep
                exact
                  { h with
                    receiver := hinv.insert haction hnonneg
                    clean := fun htrue => absurd (hclean.symm.trans htrue) (by decide) }

/-! ### The loop of `Main` -/

/-- `Main` goes to a place where nothing is fetched. -/
theorem ReceiverInv.main (h : s.ReceiverInv o) (clean : Bool) {main : MainThread}
    (hmain : ∀ action, main ≠ .fetch action) :
    ({ s with clean := clean, main := main } : MapPlugin).ReceiverInv o := by
  unfold ReceiverInv at h ⊢
  dsimp only
  split at h
  · exact { h with fetching := fun action hfetch => absurd hfetch (hmain action) }
  · exact { h with fetching := fun action hfetch => absurd hfetch (hmain action) }
  · exact { h with }

/-- The flag is set: everything is forgotten. -/
theorem Inv.forget (h : s.Inv o) (hnew : s.isMapFileNew = true) {clean : Bool}
    (hclean : clean = true → s.receiver = .idle ∧ s.handled = true) :
    ({ s with
      clean := clean
      main := .loadStart
      msg := none
      activeAction := -1
      mapFilesOk := false } : MapPlugin).Inv o where
  cohda := h.cohda
  loading _ := rfl
  receiver := by
    have hinv := h.receiver
    unfold ReceiverInv at hinv ⊢
    dsimp only
    split at hinv
    · exact { hinv with msg := .inl hnew, fetching := nofun }
    · exact { hinv with msg := .inr (.inl hnew), fetching := nofun }
    · exact { hinv with }
  clean htrue :=
    { receiver := (hclean htrue).1
      handled := (hclean htrue).2
      flag := by simp
      action := by simp }

theorem Inv.started (h : s.Inv o) (hmain : s.main = .loadStart) {main : MainThread}
    (hnext : main = .resetFlag ∨ main = .load) : ({ s with main := main } : MapPlugin).Inv o := by
  have hnone := h.loading (.inl hmain)
  rcases hnext with rfl | rfl
  · refine ⟨h.cohda, fun _ => hnone, h.receiver.main s.clean nofun, ?_⟩
    intro htrue
    exact { h.clean htrue with flag := by simp, action := by simp }
  · refine ⟨h.cohda, fun _ => hnone, h.receiver.main s.clean nofun, ?_⟩
    intro htrue
    exact { h.clean htrue with flag := by simp, action := by simp }

theorem Inv.resetFlag (h : s.Inv o) (hmain : s.main = .resetFlag) :
    ({ s with main := .readAction, isMapFileNew := false } : MapPlugin).Inv o := by
  have hnone := h.loading (.inr (.inr hmain))
  have hok : s.MsgOk o := by
    intro payload hmsg
    rw [hnone] at hmsg
    cases hmsg
  refine ⟨h.cohda, by simp, ?_, ?_⟩
  · have hinv := h.receiver
    unfold ReceiverInv at hinv ⊢
    dsimp only
    split at hinv
    · exact { hinv with msg := .inr (.inr ⟨hok, .inl hnone⟩), fetching := nofun }
    · exact { hinv with msg := .inr (.inr hnone), fetching := nofun }
    · exact { hinv with }
  · intro htrue
    exact { h.clean htrue with flag := fun _ => rfl, action := by simp }

theorem Inv.load (h : s.Inv o) (hreceiver : s.receiver = .idle) (hmain : s.main = .load) :
    ({ s with
      main := .resetFlag
      mapFiles := (loadMapFiles o s.mapFiles).1
      mapFilesOk := (loadMapFiles o s.mapFiles).2 } : MapPlugin).Inv o := by
  have hidle := h.idle hreceiver
  refine ⟨h.cohda, fun _ => h.loading (.inr (.inl hmain)), ?_, ?_⟩
  · rw [ReceiverInv, hreceiver]
    exact { hidle with table := hidle.table.load, fetching := nofun }
  · intro htrue
    exact { h.clean htrue with flag := by simp, action := by simp }

theorem Inv.readAction (h : s.Inv o) (hmain : s.main = .readAction) (hnonneg : ¬ s.mapAction < 0) :
    ({ s with main := .fetch s.mapAction } : MapPlugin).Inv o := by
  refine ⟨h.cohda, by simp, ?_, ?_⟩
  · have hinv := h.receiver
    unfold ReceiverInv at hinv ⊢
    dsimp only
    split at hinv
    · refine { hinv with fetching := ?_ }
      rintro action ⟨⟩
      exact .inr (.inr (.inl rfl))
    · refine { hinv with fetching := ?_ }
      rintro action ⟨⟩
      exact .inr (.inr rfl)
    · exact { hinv with }
  · intro htrue
    have hclean := h.clean htrue
    exact
      { hclean with
        flag := fun _ => hclean.flag (.inl hmain)
        action := fun _ => Int.not_lt.mp hnonneg }

/-- On to the broadcast with the message as it is. -/
theorem Inv.send (h : s.Inv o) (hmain : s.main = .readAction ∨ ∃ action, s.main = .fetch action)
    (hnonneg : s.clean = true → 0 ≤ s.mapAction) :
    ({ s with main := .send } : MapPlugin).Inv o := by
  refine ⟨h.cohda, by simp, h.receiver.main s.clean nofun, ?_⟩
  intro htrue
  have hclean := h.clean htrue
  refine { hclean with flag := fun _ => hclean.flag ?_, action := fun _ => hnonneg htrue }
  exact hmain.imp_right .inl

/-- The table may have one more empty file. -/
theorem Inv.emptyFile (h : s.Inv o) (hreceiver : s.receiver = .idle) (action : Int) :
    ({ s with mapFiles := assign action {} s.mapFiles } : MapPlugin).Inv o := by
  have hidle := h.idle hreceiver
  refine { h with receiver := ?_, clean := fun htrue => { h.clean htrue with } }
  rw [ReceiverInv, hreceiver]
  exact { hidle with table := hidle.table.assign_empty action }

/-- A new message. -/
theorem Inv.fetched (h : s.Inv o) (hreceiver : s.receiver = .idle) {action : Int} {file : MapFile}
    (hmain : s.main = .fetch action) (hfile : s.mapFiles.lookup action = some file)
    (hbytes : file.bytes ≠ "") :
    ({ s with main := .send, msg := some file.bytes, activeAction := action } : MapPlugin).Inv
      o := by
  have hidle := h.idle hreceiver
  obtain ⟨file₀, hfile₀, hencoding⟩ : ∃ file₀, (configured s.applied).lookup action = some file₀ ∧
      fileBytes o file₀ = some file.bytes := by
    rcases hidle.table.from_configured action file hfile with rfl | ⟨file₀, hfile₀, hfrom⟩
    · exact absurd rfl hbytes
    · exact ⟨file₀, hfile₀, hfrom.fileBytes hbytes⟩
  refine ⟨h.cohda, by simp, ?_, ?_⟩
  · rw [ReceiverInv, hreceiver]
    refine { hidle with msg := ?_, fetching := nofun }
    rcases hidle.fetching action hmain with hnew | hneg | heq | hnone
    · exact .inl hnew
    · exact .inr (.inl hneg)
    · refine .inr (.inr ⟨?_, .inr heq⟩)
      rintro payload ⟨⟩
      exact ⟨file₀, hfile₀, hencoding⟩
    · rw [hfile₀] at hnone
      cases hnone
  · intro htrue
    have hclean := h.clean htrue
    exact
      { hclean with
        flag := fun _ => hclean.flag (.inr (.inl ⟨action, hmain⟩))
        action := fun _ => hclean.action (.inl ⟨action, hmain⟩) }

/-- The message could not be created. -/
theorem Inv.notCreated (h : s.Inv o) (hreceiver : s.receiver = .idle) :
    ({ s with main := .test, msg := none } : MapPlugin).Inv o := by
  have hidle := h.idle hreceiver
  refine ⟨h.cohda, fun _ => rfl, ?_, ?_⟩
  · rw [ReceiverInv, hreceiver]
    refine { hidle with msg := ?_, fetching := nofun }
    exact hidle.msg.imp_right (.imp_right fun _ => ⟨nofun, .inl rfl⟩)
  · intro htrue
    exact { h.clean htrue with flag := by simp, action := by simp }

/-- Back to the test of the flag. -/
theorem Inv.again (h : s.Inv o) : ({ s with main := .test } : MapPlugin).Inv o := by
  refine ⟨h.cohda, by simp, h.receiver.main s.clean nofun, ?_⟩
  intro htrue
  exact { h.clean htrue with flag := by simp, action := by simp }

theorem Inv.fetch (h : s.Inv o) {action : Int} {created : Bool} (hmain : s.main = .fetch action)
    (hstep : s.mainStep o created = some t) : t.Inv o := by
  have hnonneg : s.clean = true → 0 ≤ s.mapAction :=
    fun hclean => (h.clean hclean).action (.inl ⟨action, hmain⟩)
  rw [mainStep, hmain] at hstep
  dsimp only at hstep
  split at hstep
  · rename_i hreceiver
    cases hlookup : s.mapFiles.lookup action with
    | none =>
        rw [hlookup] at hstep
        cases hstep
        exact (h.emptyFile hreceiver action).send (.inr ⟨action, hmain⟩) hnonneg
    | some file =>
        rw [hlookup] at hstep
        dsimp only at hstep
        split at hstep
        · cases hstep
          exact h.send (.inr ⟨action, hmain⟩) hnonneg
        · rename_i hbytes
          split at hstep
          · cases hstep
            exact h.fetched hreceiver hmain hlookup hbytes
          · cases hstep
            exact h.notCreated hreceiver
  · cases hstep

theorem Inv.mainStep (h : s.Inv o) {created : Bool} (hstep : s.mainStep o created = some t) :
    t.Inv o := by
  cases hmain : s.main with
  | fetch action => exact h.fetch hmain hstep
  | test =>
      have hclean : (decide (s.handled = true ∧ s.receiver = .idle)) = true →
          s.receiver = .idle ∧ s.handled = true := by
        intro htrue
        exact (of_decide_eq_true htrue).symm
      rw [MapPlugin.mainStep, hmain] at hstep
      dsimp only at hstep
      split at hstep
      · rename_i hnew
        cases hstep
        exact h.forget hnew hclean
      · rename_i hold
        cases hstep
        -- no new file: what is known of the flag is that it is not set
        refine ⟨h.cohda, by simp, ?_, ?_⟩
        · exact h.receiver.main _ nofun
        · intro htrue
          exact ⟨(hclean htrue).1, (hclean htrue).2, fun _ => by simpa using hold, by simp⟩
  | loadStart =>
      rw [MapPlugin.mainStep, hmain] at hstep
      cases hstep
      apply h.started hmain
      split
      · exact .inl rfl
      · exact .inr rfl
  | load =>
      rw [MapPlugin.mainStep, hmain] at hstep
      dsimp only at hstep
      split at hstep
      · rename_i hreceiver
        cases hstep
        exact h.load hreceiver hmain
      · cases hstep
  | resetFlag =>
      rw [MapPlugin.mainStep, hmain] at hstep
      cases hstep
      exact h.resetFlag hmain
  | readAction =>
      rw [MapPlugin.mainStep, hmain] at hstep
      dsimp only at hstep
      split at hstep
      · cases hstep
        exact h.again
      · rename_i hnonneg
        split at hstep
        · cases hstep
          exact h.readAction hmain hnonneg
        · cases hstep
          exact h.send (.inl hmain) fun _ => Int.not_lt.mp hnonneg
  | send =>
      rw [MapPlugin.mainStep, hmain] at hstep
      cases hstep
      exact h.again

/-! ### Whole runs -/

theorem Inv.step {e : Event} (h : s.Inv o) (hproper : s.Proper o e)
    (hstep : s.step o e = some t) : t.Inv o := by
  cases e with
  | config key value =>
      by_cases hreceiver : s.receiver = .idle
      · exact h.config hreceiver hproper hstep
      · rw [MapPlugin.step, if_neg hreceiver] at hstep
        cases hstep
  | register =>
      rw [MapPlugin.step] at hstep
      split at hstep
      · rename_i hready
        cases hstep
        exact h.updateConfigSettings hready.1 hproper true
      · cases hstep
  | disconnect =>
      rw [MapPlugin.step] at hstep
      split at hstep
      · cases hstep
        exact h.disconnect
      · cases hstep
  | action action =>
      rw [MapPlugin.step] at hstep
      split at hstep
      · rename_i hreceiver
        cases hstep
        exact h.action hreceiver action
      · cases hstep
  | receiver => exact h.receiverStep hstep
  | main created => exact h.mainStep hstep

theorem safe_of_run {text : String} {es : List Event}
    (h : Run (Guarded (Proper o) (Steps (step o))) { mapFilesText := text } es s) : s.Safe o := by
  refine Inv.safe (h.invariant ?_ (inv_initial text))
  rintro s e t hinv ⟨hproper, hstep⟩
  exact hinv.step hproper hstep

/-- Two intersections with a map each, and a value that exchanges the first. -/
def intersections : Outside where
  mapFiles
    | "A" => some [⟨some 0, { filePath := "a.txt" }⟩, ⟨some 1, { filePath := "b.txt" }⟩]
    | "B" => some [⟨some 0, { filePath := "b.txt" }⟩, ⟨some 1, { filePath := "b.txt" }⟩]
    | _ => none
  content
    | "a.txt" => some "00120201AB\n".toList
    | "b.txt" => some "00120202CD\n".toList
    | _ => none
  uper payload := .bytes (String.ofList payload)
  xml _ := .throws

/-- From the registration to a broadcast. -/
def registration : List Event :=
  [.register, .receiver, .receiver, .receiver, .main true, .main true, .main true, .main true,
    .main true, .main true]

/-- The signal controller changes to the other action. -/
theorem safe_of_run_action :
    ∃ es s, Run (Guarded (Proper intersections) (Steps (step intersections)))
        { mapFilesText := "A" } es s ∧
      s.main = .send ∧ s.mapFilesOk = true ∧ s.clean = true ∧ s.msg = some "02CD" ∧
      s.expectedBytes intersections = some "02CD" ∧ s.Safe intersections := by
  let es : List Event := registration ++
    [.main true, .action 1, .receiver, .main true, .main true, .main true, .main true, .main true,
      .main true]
  obtain ⟨s, hs, hmain, hok, hclean, hmsg, hexpected⟩ :
      ∃ s, es.foldlM (guardedStep (fun s e => decide (Proper intersections s e))
          (step intersections)) { mapFilesText := "A" } = some s ∧
        s.main = .send ∧ s.mapFilesOk = true ∧ s.clean = true ∧ s.msg = some "02CD" ∧
        s.expectedBytes intersections = some "02CD" :=
    ⟨_, by rfl, by rfl, by rfl, by rfl, by rfl, by decide +kernel⟩
  have hrun : Run (Guarded (Proper intersections) (Steps (step intersections)))
      { mapFilesText := "A" } es s :=
    (Run.guarded_of_foldlM hs).mono fun s e t hstep => ⟨of_decide_eq_true hstep.1, hstep.2⟩
  exact ⟨es, s, hrun, hmain, hok, hclean, hmsg, hexpected, safe_of_run hrun⟩

/-- `MAP_Files` is changed while the plugin is registered: the old map is broadcast on. -/
theorem old_map_broadcast :
    ¬ ∀ o text es s, Run (Steps (step o)) { mapFilesText := text } es s → s.Safe o := by
  intro hclaim
  let es : List Event :=
    registration ++ [.main true, .config "MAP_Files" "B", .main true, .main true]
  obtain ⟨s, hs, hmain, hok, hclean, hmsg, hexpected⟩ :
      ∃ s, es.foldlM (step intersections) { mapFilesText := "A" } = some s ∧
        s.main = .send ∧ s.mapFilesOk = true ∧ s.clean = true ∧ s.msg = some "01AB" ∧
        s.expectedBytes intersections = some "02CD" :=
    ⟨_, by rfl, by rfl, by rfl, by rfl, by rfl, by decide +kernel⟩
  have hsafe := hclaim intersections "A" es s (Run.of_foldlM hs) hmain hok
  have heq := hexpected.symm.trans (hsafe.2 hclean "01AB" hmsg)
  exact absurd heq (by decide)

end MapPlugin

end V2XHub.Map
