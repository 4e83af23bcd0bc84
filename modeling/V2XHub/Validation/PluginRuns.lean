import V2XHub.Lib.Throwing
import V2XHub.Validation.Plugin

/-!
# Runs of the validation plugin

What one handler does to the plugin, stage by stage, and the runs of the plugin together with what
has been shown to its validator, forwarded and reported.
-/

namespace V2XHub.Validation

open V2XHub.Lib

variable {write : Json → String} {past : List Occurrence} {ts : String} {doc : Document}
  {result : RevisionCounterResult}

/-! ## The revision check -/

theorem evaluateProgression_contentChanged (change : IntersectionChangeInfo) (prevRevision : Int)
    (ctx : MsgProgressionCtx) :
    (evaluateProgression change prevRevision ctx).contentChanged = change.contentChanged := by
  unfold evaluateProgression
  dsimp only
  split
  · split
    · rfl
    · split <;> rfl
  · split <;> rfl

theorem changeRecord_contentChanged (ctx : MsgProgressionCtx) (q : Option Occurrence × Occurrence) :
    (changeRecord write ctx q).contentChanged = changed write q := by
  obtain ⟨earlier, o⟩ := q
  cases earlier with
  | none => rfl
  | some e => exact evaluateProgression_contentChanged _ _ _

namespace RevisionCounterValidator

variable {v v' : RevisionCounterValidator}

theorem validateMsgIssueRevision_changes (currentMsgRevision : Int) (anyChanged : Bool) :
    (v.validateMsgIssueRevision currentMsgRevision anyChanged result).intersectionChanges =
      result.intersectionChanges := by
  unfold validateMsgIssueRevision
  split
  · rfl
  · dsimp only
    split
    · rfl
    · split <;> rfl

/-- The change records of a MAP document. -/
theorem validateMapRevision_changes (hpast : Remembers write v.prevMapIntersections past)
    (h : v.validateMapRevision write doc ts = some (result, v')) :
    ∃ ctx, result.intersectionChanges =
      (withEarlier Occurrence.id past (MessageType.map.occurrences doc ts)).map
        (changeRecord write ctx) := by
  cases doc with
  | parseError =>
      cases h
      exact ⟨{}, rfl⟩
  | root doc =>
      unfold validateMapRevision at h
      cases hdata : readMapData doc with
      | none => simp [hdata] at h
      | some found =>
          cases found with
          | none =>
              simp only [hdata, Option.some.injEq] at h
              cases h
              have hview : MessageType.map.occurrences (.root doc) ts = [] := by
                simp [MessageType.occurrences, Document.mapView, hdata]
              rw [hview]
              exact ⟨{}, rfl⟩
          | some data =>
              obtain ⟨revision, vs⟩ := data
              simp only [hdata] at h
              obtain ⟨p, hp, heq⟩ := Option.bind_eq_some_iff.mp h
              cases heq
              obtain ⟨occs, hoccs, rfl⟩ := processIntersectionArray_eq_some hp
              have hrec := recorded_foldl (p := { prevStates := v.prevMapIntersections })
                "MAP" ⟨true, v.hasMapPrevious, v.prevMapMessage, revision⟩ hpast occs
              have hview : MessageType.map.occurrences (.root doc) ts = occs := by
                simp [MessageType.occurrences, Document.mapView, hdata, hoccs]
              refine ⟨⟨true, v.hasMapPrevious, v.prevMapMessage, revision⟩, ?_⟩
              have hchanges := hrec.changes
              rw [List.nil_append] at hchanges
              rw [hview, ← hchanges]
              split
              · exact validateMsgIssueRevision_changes _ _
              · exact validateMsgIssueRevision_changes _ _

/-- What the check of either type keeps and reports. -/
structure RevisionStep (write : Json → String) (type : MessageType) (past occs : List Occurrence)
    (v : RevisionCounterValidator) (result : RevisionCounterResult)
    (v' : RevisionCounterValidator) : Prop where
  remembers : Remembers write (v'.states type) (past ++ occs)
  others : ∀ t, t ≠ type → v'.states t = v.states t
  changes : ∃ ctx, result.intersectionChanges =
    (withEarlier Occurrence.id past occs).map (changeRecord write ctx)

theorem validateRevision_spec {type : MessageType} (hpast : Remembers write (v.states type) past)
    (h : v.validateRevision write type doc ts = some (result, v')) :
    RevisionStep write type past (type.occurrences doc ts) v result v' := by
  cases type with
  | spat =>
      have hspec := validateSpatRevision_spec hpast h
      refine ⟨hspec.remembers, ?_, {}, hspec.changes⟩
      intro t ht
      cases t with
      | spat => exact absurd rfl ht
      | map => rw [hspec.frame, states, states]
  | map =>
      have hspec := validateMapRevision_spec hpast h
      have hchanges := validateMapRevision_changes hpast h
      cases hview : doc.mapView ts with
      | none =>
          rw [hview] at hspec
          dsimp only at hspec
          subst hspec
          refine ⟨?_, fun _ _ => rfl, hchanges⟩
          rw [MessageType.occurrences, hview, Option.elim_none, List.append_nil]
          exact hpast
      | some view =>
          rw [hview] at hspec
          dsimp only at hspec
          refine ⟨?_, ?_, hchanges⟩
          · rw [MessageType.occurrences, hview]
            exact hspec.remembers
          · intro t ht
            cases t with
            | map => exact absurd rfl ht
            | spat => rw [hspec.frame, states, states]

variable {type : MessageType} {occs : List Occurrence}

theorem RevisionStep.planForwarding_of_changed (h : RevisionStep write type past occs v result v')
    (hany : (withEarlier Occurrence.id past occs).any (changed write) = true) :
    planForwarding result = true := by
  obtain ⟨ctx, hchanges⟩ := h.changes
  rw [planForwarding]
  split
  · rfl
  · rw [hchanges, List.any_map]
    obtain ⟨q, hq, hchanged⟩ := List.any_eq_true.mp hany
    refine List.any_eq_true.mpr ⟨q, hq, ?_⟩
    rw [Function.comp_apply, changeRecord_contentChanged]
    exact hchanged

/-- Where nothing has changed, every intersection is as it was last. -/
theorem same_of_not_changed
    (hany : (withEarlier Occurrence.id past occs).any (changed write) = false) :
    ∀ o ∈ occs, ∃ e, latest Occurrence.id o.id past = some e ∧
      e.contentHash write = o.contentHash write := by
  rw [← forall_withEarlier_iff (Occurrence.contentHash write)]
  intro q hq
  have hsame := List.any_eq_false.mp hany q hq
  obtain ⟨earlier, o⟩ := q
  cases earlier with
  | none => exact absurd rfl hsame
  | some e =>
      refine ⟨e, rfl, ?_⟩
      have hhash : ¬ o.contentHash write ≠ e.contentHash write := by
        intro hne
        exact hsame (decide_eq_true hne)
      exact (not_not.mp hhash).symm

end RevisionCounterValidator

/-! ## The stages of a handler -/

namespace Handling

variable {h h' : Handling} {action : Action}

/-- The event is out, and so is its entry in the event log. -/
def reported (h : Handling) (event : Action) : Handling := (h.act event).act .eventLog

theorem broadcast_of_left (hleft : h.left = none) : h.broadcast action = .ok (h.act action) := by
  rw [broadcast, hleft]

theorem report_of_left (hleft : h.left = none) : h.report action = .ok (h.reported action) := by
  rw [report, broadcast_of_left hleft]
  exact broadcast_of_left hleft

theorem broadcast_eq_ok (hb : h.broadcast action = .ok h') :
    h'.plugin = h.plugin ∧ h'.actions = h.actions ++ [action] := by
  rw [broadcast] at hb
  split at hb
  · cases hb
    exact ⟨rfl, rfl⟩
  · cases hb
  · cases hb
    exact ⟨rfl, rfl⟩

theorem broadcast_eq_error (hb : h.broadcast action = .error h') : h' = h := by
  rw [broadcast] at hb
  split at hb
  · cases hb
  · cases hb
    rfl
  · cases hb

/-- From `h` to `h'` only such actions were taken, and the plugin has kept what `f` tells of it. -/
structure Acted {α : Type} (f : IntersectionValidationPlugin → α) (P : Action → Prop)
    (h h' : Handling) : Prop where
  kept : f h'.plugin = f h.plugin
  actions : ∃ new, h'.actions = h.actions ++ new ∧ ∀ a ∈ new, P a

variable {α : Type} {f : IntersectionValidationPlugin → α} {P : Action → Prop}

theorem Acted.of_kept (hkept : f h'.plugin = f h.plugin) (hactions : h'.actions = h.actions) :
    Acted f P h h' :=
  ⟨hkept, [], by rw [hactions, List.append_nil], by intro a ha; cases ha⟩

theorem Acted.refl (h : Handling) : Acted f P h h := .of_kept rfl rfl

theorem Acted.trans (h₁ h₂ h₃ : Handling) (h : Acted f P h₁ h₂) (h' : Acted f P h₂ h₃) :
    Acted f P h₁ h₃ := by
  obtain ⟨new, hnew, hP⟩ := h.actions
  obtain ⟨new', hnew', hP'⟩ := h'.actions
  refine ⟨h'.kept.trans h.kept, new ++ new', ?_, ?_⟩
  · rw [hnew', hnew, List.append_assoc]
  · intro a ha
    rcases List.mem_append.mp ha with ha | ha
    · exact hP a ha
    · exact hP' a ha

theorem Acted.mono {Q : Action → Prop} (hacted : Acted f P h h') (hPQ : ∀ a, P a → Q a) :
    Acted f Q h h' := by
  obtain ⟨new, hnew, hall⟩ := hacted.actions
  exact ⟨hacted.kept, new, hnew, fun a ha => hPQ a (hall a ha)⟩

theorem broadcast_acted (hP : P action) : Acted f P h (final (h.broadcast action)) := by
  cases hb : h.broadcast action with
  | ok h' =>
      obtain ⟨hplugin, hactions⟩ := broadcast_eq_ok hb
      rw [final]
      exact ⟨by rw [hplugin], [action], hactions, List.forall_mem_singleton.mpr hP⟩
  | error h' =>
      rw [final, broadcast_eq_error hb]
      exact .refl h

theorem report_acted (hP : P action) (hlog : P .eventLog) :
    Acted f P h (final (h.report action)) := by
  apply final_bind Acted.trans (broadcast_acted hP)
  intro h₁ _
  exact broadcast_acted hlog

theorem mem_actions_of_report_eq_ok (hr : h.report action = .ok h') : action ∈ h'.actions := by
  rw [report] at hr
  cases hb : h.broadcast action with
  | ok h₁ =>
      rw [hb] at hr
      rw [(broadcast_eq_ok hr).2, (broadcast_eq_ok hb).2]
      simp
  | error h₁ =>
      rw [hb] at hr
      cases hr

theorem Acted.subset (hacted : Acted f P h h') : h.actions ⊆ h'.actions := by
  obtain ⟨new, hnew, _⟩ := hacted.actions
  rw [hnew]
  exact List.subset_append_left _ _

/-- Nothing else than `P` comes into the list of actions. -/
theorem Acted.mem_iff (hacted : Acted f P h h') (hP : ¬ P action) :
    action ∈ h'.actions ↔ action ∈ h.actions := by
  refine ⟨?_, fun hmem => hacted.subset hmem⟩
  obtain ⟨new, hnew, hall⟩ := hacted.actions
  rw [hnew, List.mem_append]
  intro hmem
  exact hmem.resolve_right fun hin => hP (hall action hin)

end Handling

namespace Received

open Handling

variable {m : Received} {h h' : Handling} {lib : Rapidjson}

/-- The broadcasts of the two checks. -/
def IsReport : Action → Prop
  | .progression _ => True
  | .minimumData _ => True
  | .eventLog => True
  | _ => False

theorem ne_forward_of_isReport {a : Action} (ha : IsReport a) : a ≠ .forward := by
  intro heq
  rw [heq] at ha
  exact ha

/-- The revision check keeps the validator and the last minimum-data events. -/
theorem reportProgression_acted (h : Handling) (change : IntersectionChangeInfo) :
    Acted (fun s => (s.revisionValidator, s.lastContentValidationMessage)) IsReport h
      (final (m.reportProgression h change)) := by
  rw [reportProgression]
  split
  · exact .refl h
  · dsimp only
    split
    · exact .refl h
    · apply final_bind Acted.trans (report_acted trivial trivial)
      intro h₁ _
      exact .of_kept rfl rfl

theorem reportProgression_ok (h : Handling) (change : IntersectionChangeInfo)
    (hleft : h.left = none) : ∃ h', m.reportProgression h change = .ok h' ∧ h'.left = none := by
  rw [reportProgression]
  split
  · exact ⟨h, rfl, hleft⟩
  · dsimp only
    split
    · exact ⟨h, rfl, hleft⟩
    · rw [report_of_left hleft]
      exact ⟨_, rfl, hleft⟩

/-- The field check keeps the validator. -/
theorem reportMinimumData_acted (h : Handling) (intersectionId : Int) (elements : List String) :
    Acted IntersectionValidationPlugin.revisionValidator IsReport h
      (final (m.reportMinimumData h intersectionId elements)) := by
  rw [reportMinimumData]
  split
  · exact .refl h
  · apply final_bind Acted.trans (report_acted trivial trivial)
    intro h₁ _
    exact .of_kept rfl rfl

theorem reportMinimumData_ok (h : Handling) (intersectionId : Int) (elements : List String)
    (hleft : h.left = none) :
    ∃ h', m.reportMinimumData h intersectionId elements = .ok h' ∧ h'.left = none := by
  rw [reportMinimumData]
  split
  · exact ⟨h, rfl, hleft⟩
  · dsimp only
    rw [report_of_left hleft]
    exact ⟨_, rfl, hleft⟩

theorem validateMessageFields_spec {schema doc : Json} {intersectionId : Int} {changed : Bool}
    {r : Except Handling Handling}
    (hr : m.validateMessageFields lib h schema doc intersectionId changed = some r) :
    Acted IntersectionValidationPlugin.revisionValidator (· ≠ .forward) h (final r) ∧
      .fieldCheck ∈ (final r).actions := by
  have hcheck : Acted IntersectionValidationPlugin.revisionValidator (· ≠ .forward) h
      (h.act .fieldCheck) :=
    ⟨rfl, [.fieldCheck], rfl, List.forall_mem_singleton.mpr (by intro heq; cases heq)⟩
  have hmem : Action.fieldCheck ∈ (h.act .fieldCheck).actions := by simp [act]
  rw [validateMessageFields] at hr
  split at hr
  · cases hr
    exact ⟨hcheck, hmem⟩
  · split at hr
    · cases hr
      exact ⟨hcheck, hmem⟩
    · obtain ⟨elements, _, heq⟩ := Option.bind_eq_some_iff.mp hr
      cases heq
      have hreport := (reportMinimumData_acted (m := m) (h.act .fieldCheck) intersectionId
        elements).mono fun a ha => ne_forward_of_isReport ha
      exact ⟨hcheck.trans _ _ _ hreport, hreport.subset hmem⟩

theorem validateMessageFields_ok {schema doc : Json} {intersectionId : Int} {changed : Bool}
    {r : Except Handling Handling} (hleft : h.left = none)
    (hr : m.validateMessageFields lib h schema doc intersectionId changed = some r) :
    ∃ h', r = .ok h' ∧ h'.left = none := by
  rw [validateMessageFields] at hr
  split at hr
  · cases hr
    exact ⟨_, rfl, hleft⟩
  · split at hr
    · cases hr
      exact ⟨_, rfl, hleft⟩
    · obtain ⟨elements, _, heq⟩ := Option.bind_eq_some_iff.mp hr
      cases heq
      exact reportMinimumData_ok _ intersectionId elements hleft

theorem forward_acted (m : Received) (result : RevisionCounterResult) (h : Handling) :
    Acted (fun s => (s.revisionValidator, s.lastContentValidationMessage)) (· = .forward) h
      (m.forward result h) := by
  have hacted : Acted (fun s => (s.revisionValidator, s.lastContentValidationMessage))
      (· = .forward) h (final (h.broadcast .forward)) := broadcast_acted rfl
  rw [forward]
  split
  · split
    · rename_i h₁ hb
      rw [hb] at hacted
      exact hacted
    · rename_i h₁ hb
      rw [hb] at hacted
      exact hacted.trans _ _ _ (.of_kept rfl rfl)
  · exact .refl h

theorem forward_mem (hplan : planForwarding result = true) (hleft : h.left = none) :
    .forward ∈ (m.forward result h).actions := by
  rw [forward, if_pos (.inl hplan), broadcast_of_left hleft]
  simp [act]

/-! ## The handler -/

/-- What `validate` does, whatever throws: the validator has gone on, and a message that is
forwarded has been checked twice. -/
structure Validates (m : Received) (result : RevisionCounterResult)
    (validator : RevisionCounterValidator) (h : Handling) : Prop where
  validator : h.plugin.revisionValidator = validator
  checked : .forward ∈ h.actions → .revisionCheck ∈ h.actions ∧ .fieldCheck ∈ h.actions
  forwards : planForwarding result = true → m.throwsAt = none → .forward ∈ h.actions

theorem validate_spec {s : IntersectionValidationPlugin} {intersectionId : Int} {schema doc : Json}
    (hv : m.validate lib s intersectionId schema doc = some h) :
    ∃ result validator, s.revisionValidator.validateRevision lib.write m.type (.root doc)
        m.currentTimestamp = some (result, validator) ∧ Validates m result validator h := by
  rw [validate] at hv
  split at hv
  · cases hv
  · rename_i result validator hresult
    refine ⟨result, validator, hresult, ?_⟩
    -- the reports do not forward: the message can only be forwarded at the end
    have hreports := final_foldlM Acted.refl Acted.trans m.reportProgression_acted
      result.intersectionChanges
      ⟨{ s with revisionValidator := validator }, [.revisionCheck], m.throwsAt⟩
    have hok : m.throwsAt = none → ∃ h', result.intersectionChanges.foldlM m.reportProgression
        ⟨{ s with revisionValidator := validator }, [.revisionCheck], m.throwsAt⟩ = .ok h' ∧
          h'.left = none := by
      intro hleft
      apply exists_foldlM_eq_ok (P := fun h : Handling => h.left = none)
      · exact reportProgression_ok
      · exact hleft
    dsimp only at hv
    generalize result.intersectionChanges.foldlM m.reportProgression
      ⟨{ s with revisionValidator := validator }, [.revisionCheck], m.throwsAt⟩ = r at *
    have hnot : ¬ Action.forward ∈ (final r).actions := by
      rw [hreports.mem_iff fun hf => ne_forward_of_isReport hf rfl]
      simp
    have hchecked : Action.revisionCheck ∈ (final r).actions :=
      hreports.subset (List.mem_singleton.mpr rfl)
    have hvalidator := congrArg Prod.fst hreports.kept
    cases r with
    | error h₁ =>
        cases hv
        refine ⟨hvalidator, fun hmem => absurd hmem hnot, ?_⟩
        intro _ hleft
        obtain ⟨h₂, heq, _⟩ := hok hleft
        cases heq
    | ok h₁ =>
        dsimp only at hv
        split at hv
        · cases hv
        · -- the check of the fields has thrown
          rename_i h₂ hfields
          -- a report has thrown
          cases hv
          obtain ⟨hacted, hfield⟩ := validateMessageFields_spec hfields
          refine ⟨hacted.kept.trans hvalidator, ?_, ?_⟩
          · intro hmem
            exact absurd ((hacted.mem_iff (fun hf => hf rfl)).mp hmem) hnot
          · intro _ hleft
            obtain ⟨h₃, heq, hleft₃⟩ := hok hleft
            cases heq
            obtain ⟨h₄, heq, _⟩ := validateMessageFields_ok hleft₃ hfields
            cases heq
        · -- both checks are done, and the message is forwarded by the plan
          rename_i h₂ hfields
          cases hv
          obtain ⟨hacted, hfield⟩ := validateMessageFields_spec hfields
          have hforward := forward_acted m result h₂
          refine ⟨?_, ?_, ?_⟩
          · exact (congrArg Prod.fst hforward.kept).trans (hacted.kept.trans hvalidator)
          · intro _
            exact ⟨hforward.subset (hacted.subset hchecked), hforward.subset hfield⟩
          · intro hplan hleft
            obtain ⟨h₃, heq, hleft₃⟩ := hok hleft
            cases heq
            obtain ⟨h₄, heq, hleft₄⟩ := validateMessageFields_ok hleft₃ hfields
            cases heq
            exact forward_mem hplan hleft₄

/-! ## Runs -/

/-- The intersections that the validator is shown of a message. -/
def shown (m : Received) (lib : Rapidjson) : List Occurrence :=
  match m.examine lib with
  | .parsed _ _ doc => m.type.occurrences (.root doc) m.currentTimestamp
  | _ => []

/-- The text of the message. -/
def document (m : Received) (lib : Rapidjson) : Document :=
  match m.data with
  | none => .parseError
  | some (_, jsonStr) => lib.parse jsonStr

/-- The intersections that a message contains: after the preprocessing, or as they stand in the text
if there was none. -/
def content (m : Received) (lib : Rapidjson) : List Occurrence :=
  match m.examine lib with
  | .parsed _ _ doc => m.type.occurrences (.root doc) m.currentTimestamp
  | _ => m.type.occurrences (m.document lib) m.currentTimestamp

end Received

/-- A message that fails the field check, as it is to be reported. -/
structure Failure where
  eventType : String
  intersectionID : Int
  missingDataElements : List String
  deriving DecidableEq

def MinimumData.failure (event : MinimumData) : Failure :=
  ⟨event.eventType, event.intersectionID, event.missingDataElements⟩

def Received.failure (m : Received) (lib : Rapidjson) : Option Failure :=
  match m.examine lib with
  | .parsed intersectionId schema doc => do
      let invalid ← lib.invalid schema doc
      let elements ← Received.minimumDataElements lib schema doc invalid
      some ⟨m.type.fieldEventType, intersectionId, elements⟩
  | _ => none

def Action.minimumData? : Action → Option MinimumData
  | .minimumData event => some event
  | _ => none

/-- The plugin and what it has taken in and put out. -/
structure World where
  plugin : IntersectionValidationPlugin := {}
  /-- the intersections that the validator was shown, and those in forwarded messages -/
  shown : MessageType → List Occurrence := fun _ => []
  forwarded : MessageType → List Occurrence := fun _ => []
  failures : List Failure := []
  events : List MinimumData := []

theorem setFor_self {α : Type} (type : MessageType) (a : α) (f : MessageType → α) :
    setFor type a f type = a :=
  if_pos rfl

theorem setFor_of_ne {α : Type} {type t : MessageType} (h : t ≠ type) (a : α)
    (f : MessageType → α) : setFor type a f t = f t :=
  if_neg h

theorem setFor_eq_self {α : Type} (type : MessageType) (f : MessageType → α) :
    setFor type (f type) f = f := by
  funext t
  rw [setFor]
  split
  · rename_i heq
    rw [heq]
  · rfl

def World.step (lib : Rapidjson) (w : World) (m : Received) : Option World := do
  let h ← m.handle lib w.plugin
  some
    { plugin := h.plugin
      shown := setFor m.type (w.shown m.type ++ m.shown lib) w.shown
      forwarded :=
        if .forward ∈ h.actions then
          setFor m.type (w.forwarded m.type ++ m.content lib) w.forwarded
        else w.forwarded
      failures := w.failures ++ (m.failure lib).toList
      events := w.events ++ h.actions.filterMap Action.minimumData? }

namespace World

variable {lib : Rapidjson} {m : Received} {h : Handling} {w w' : World}

/-- Only what is shown of a message changes the tables. -/
theorem remembers_of_handle
    (hw : ∀ type, Remembers lib.write (w.plugin.revisionValidator.states type) (w.shown type))
    (hh : m.handle lib w.plugin = some h) (type : MessageType) :
    Remembers lib.write (h.plugin.revisionValidator.states type)
      (setFor m.type (w.shown m.type ++ m.shown lib) w.shown type) := by
  rw [Received.handle] at hh
  rw [Received.shown]
  split at hh
  · rename_i hex
    cases hh
    rw [hex]
    dsimp only
    rw [List.append_nil, setFor_eq_self]
    exact hw type
  · rename_i hex
    cases hh
    have hkept := congrArg Prod.fst (Received.forward_acted m {} ⟨w.plugin, [], m.throwsAt⟩).kept
    dsimp only at hkept
    rw [hex, hkept]
    dsimp only
    rw [List.append_nil, setFor_eq_self]
    exact hw type
  · rename_i intersectionId schema doc hex
    obtain ⟨result, validator, hresult, hvalidates⟩ := Received.validate_spec hh
    have hspec := RevisionCounterValidator.validateRevision_spec (hw m.type) hresult
    rw [hex, hvalidates.validator]
    by_cases htype : type = m.type
    · subst htype
      rw [setFor_self]
      exact hspec.remembers
    · rw [setFor_of_ne htype, hspec.others type htype]
      exact hw type

theorem forward_mem_of_changes
    (hw : ∀ type, Remembers lib.write (w.plugin.revisionValidator.states type) (w.shown type))
    (hh : m.handle lib w.plugin = some h)
    (hchanges : (withEarlier Occurrence.id (w.shown m.type) (m.shown lib)).any
      (changed lib.write) = true)
    (hthrow : m.throwsAt = none) : .forward ∈ h.actions := by
  rw [Received.handle] at hh
  rw [Received.shown] at hchanges
  split at hh
  · rename_i hex
    rw [hex] at hchanges
    cases hchanges
  · rename_i hex
    rw [hex] at hchanges
    cases hchanges
  · rename_i intersectionId schema doc hex
    rw [hex] at hchanges
    obtain ⟨result, validator, hresult, hvalidates⟩ := Received.validate_spec hh
    have hspec := RevisionCounterValidator.validateRevision_spec (hw m.type) hresult
    exact hvalidates.forwards (hspec.planForwarding_of_changed hchanges) hthrow

end World

end V2XHub.Validation
