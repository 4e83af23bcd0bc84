import V2XHub.Validation.PluginRuns

/-!
# Minimum-data failures

A message that fails its schema is reported with what it is missing, unless its content is unchanged
or the last report of its type says the same. The content that is compared leaves out more than what
can be missing, and the last report may be of another intersection, so that a failure can be
suppressed that was never reported. A first failure is reported if it passes both throttles.
-/

namespace V2XHub.Validation

open V2XHub.Lib Handling

/-! ## Nothing to compare with -/

namespace RevisionCounterValidator

variable {write : Json → String} {v v' : RevisionCounterValidator} {doc : Json} {ts : String}
  {result : RevisionCounterResult}

theorem validateSpatRevision_of_nil (h : v.validateSpatRevision write (.root doc) ts =
    some (result, v')) (hocc : (Document.root doc).spatOccurrences ts = []) : result = {} := by
  unfold validateSpatRevision at h
  unfold Document.spatOccurrences at hocc
  cases hvs : spatIntersections doc with
  | none => simp [hvs] at h
  | some found =>
      cases found with
      | none =>
          simp only [hvs, Option.some.injEq] at h
          cases h
          rfl
      | some vs =>
          simp only [hvs] at h hocc
          obtain ⟨p, hp, heq⟩ := Option.bind_eq_some_iff.mp h
          cases heq
          obtain ⟨occs, hoccs, rfl⟩ := processIntersectionArray_eq_some hp
          rw [hoccs, Option.getD_some] at hocc
          rw [hocc]
          rfl

/-- A MAP document without intersections is not compared if no document came before it. -/
theorem validateMapRevision_of_nil (h : v.validateMapRevision write (.root doc) ts =
    some (result, v')) (hocc : MessageType.map.occurrences (.root doc) ts = [])
    (hprev : v.hasMapPrevious = false ∨ (Document.root doc).mapView ts = none) :
    result.comparisonPerformed = false := by
  unfold validateMapRevision at h
  unfold MessageType.occurrences Document.mapView at hocc
  unfold Document.mapView at hprev
  cases hdata : readMapData doc with
  | none => simp [hdata] at h
  | some found =>
      cases found with
      | none =>
          simp only [hdata, Option.some.injEq] at h
          cases h
          rfl
      | some data =>
          obtain ⟨revision, vs⟩ := data
          simp only [hdata, reduceCtorEq, or_false, Option.elim_some] at h hocc hprev
          obtain ⟨p, hp, heq⟩ := Option.bind_eq_some_iff.mp h
          obtain ⟨occs, hoccs, rfl⟩ := processIntersectionArray_eq_some hp
          rw [hoccs, Option.getD_some] at hocc
          subst hocc
          simp only [validateMsgIssueRevision, hprev] at heq
          cases heq
          rfl

end RevisionCounterValidator

/-! ## The last report of a type -/

/-- The last report of each type is of that type, and was broadcast. -/
def LastReported (events : List MinimumData) (h : Handling) : Prop :=
  ∀ type last, h.plugin.lastContentValidationMessage type = some last →
    (last ∈ events ∨ .minimumData last ∈ h.actions) ∧ last.eventType = type.fieldEventType

variable {events : List MinimumData} {m : Received} {h h' : Handling} {lib : Rapidjson}
  {s : IntersectionValidationPlugin}

theorem LastReported.of_acted {P : Action → Prop} (hlast : LastReported events h)
    (hacted : Acted (fun s => (s.revisionValidator, s.lastContentValidationMessage)) P h h') :
    LastReported events h' := by
  have hkept : h'.plugin.lastContentValidationMessage = h.plugin.lastContentValidationMessage :=
    congrArg Prod.snd hacted.kept
  intro type last htype
  rw [hkept] at htype
  obtain ⟨hmem, heventType⟩ := hlast type last htype
  exact ⟨hmem.imp_right fun hin => hacted.subset hin, heventType⟩

theorem LastReported.reportMinimumData (intersectionId : Int) (elements : List String)
    (hlast : LastReported events h) :
    LastReported events (final (m.reportMinimumData h intersectionId elements)) := by
  rw [Received.reportMinimumData]
  split
  · exact hlast
  · apply final_bind (R := fun h h' => LastReported events h → LastReported events h')
      (fun _ _ _ h₁ h₂ hl => h₂ (h₁ hl)) _ _ hlast
    · intro hl
      exact hl.of_acted (report_acted (P := fun _ => True) trivial trivial)
    · intro h₁ hr hl type last htype
      change setFor m.type _ h₁.plugin.lastContentValidationMessage type = some last at htype
      by_cases heq : type = m.type
      · subst heq
        rw [setFor_self] at htype
        cases htype
        have hmem := mem_actions_of_report_eq_ok hr
        exact ⟨.inr hmem, rfl⟩
      · rw [setFor_of_ne heq] at htype
        exact hl type last htype

theorem LastReported.fieldCheck (hlast : LastReported events h) :
    LastReported events (h.act .fieldCheck) :=
  hlast.of_acted (P := fun _ => True) ⟨rfl, [.fieldCheck], rfl, fun _ _ => trivial⟩

theorem LastReported.validateMessageFields {schema doc : Json} {intersectionId : Int}
    {changed : Bool} {r : Except Handling Handling} (hlast : LastReported events h)
    (hr : m.validateMessageFields lib h schema doc intersectionId changed = some r) :
    LastReported events (final r) := by
  rw [Received.validateMessageFields] at hr
  split at hr
  · cases hr
    exact hlast.fieldCheck
  · split at hr
    · cases hr
      exact hlast.fieldCheck
    · obtain ⟨elements, _, heq⟩ := Option.bind_eq_some_iff.mp hr
      cases heq
      exact hlast.fieldCheck.reportMinimumData intersectionId elements

theorem LastReported.handle (hlast : LastReported events ⟨s, [], m.throwsAt⟩)
    (hh : m.handle lib s = some h) : LastReported events h := by
  rw [Received.handle] at hh
  split at hh
  · cases hh
    exact hlast
  · cases hh
    exact hlast.of_acted (Received.forward_acted m _ _)
  · rw [Received.validate] at hh
    split at hh
    · cases hh
    · rename_i result validator _
      have hstart : LastReported events
          ⟨{ s with revisionValidator := validator }, [.revisionCheck], m.throwsAt⟩ := by
        intro type last htype
        obtain ⟨hmem, heventType⟩ := hlast type last htype
        exact ⟨.inl (hmem.resolve_right List.not_mem_nil), heventType⟩
      have hreports := hstart.of_acted (final_foldlM Acted.refl Acted.trans
        m.reportProgression_acted result.intersectionChanges _)
      dsimp only at hh
      split at hh
      · rename_i h₁ hfold
        cases hh
        rw [hfold] at hreports
        exact hreports
      · rename_i h₁ hfold
        rw [hfold] at hreports
        split at hh
        · cases hh
        · rename_i h₂ hfields
          cases hh
          exact hreports.validateMessageFields hfields
        · rename_i h₂ hfields
          cases hh
          have hfinal := hreports.validateMessageFields hfields
          exact hfinal.of_acted (Received.forward_acted m result h₂)

/-! ## A failure that passes the first throttle -/

theorem reportMinimumData_mem (hleft : h.left = none) (intersectionId : Int)
    (elements : List String) :
    ∃ h', m.reportMinimumData h intersectionId elements = .ok h' ∧
      ((∃ last, h.plugin.lastContentValidationMessage m.type = some last ∧
          m.throttles elements last = true) ∨
        .minimumData (m.minimumDataEvent intersectionId elements) ∈ h'.actions) := by
  rw [Received.reportMinimumData]
  split
  · rename_i hany
    exact ⟨h, rfl, .inl ((Option.any_eq_true _ _).mp hany)⟩
  · dsimp only
    rw [report_of_left hleft]
    refine ⟨_, rfl, .inr ?_⟩
    simp [reported, act]

/-- With content that counts as changed and no throw, a failure is reported unless the last report
throttles it. -/
theorem minimumData_mem_of_validate {intersectionId : Int} {schema doc : Json} {invalid : Invalid}
    {elements : List String} {result : RevisionCounterResult}
    {validator : RevisionCounterValidator} (hthrow : m.throwsAt = none)
    (hresult : s.revisionValidator.validateRevision lib.write m.type (.root doc)
      m.currentTimestamp = some (result, validator))
    (hplan : planForwarding result = true) (hinvalid : lib.invalid schema doc = some invalid)
    (helements : Received.minimumDataElements lib schema doc invalid = some elements)
    (hh : m.validate lib s intersectionId schema doc = some h) :
    (∃ last, s.lastContentValidationMessage m.type = some last ∧
        m.throttles elements last = true) ∨
      .minimumData (m.minimumDataEvent intersectionId elements) ∈ h.actions := by
  rw [Received.validate, hresult] at hh
  dsimp only at hh
  have hreports := final_foldlM Acted.refl Acted.trans m.reportProgression_acted
    result.intersectionChanges
    ⟨{ s with revisionValidator := validator }, [.revisionCheck], m.throwsAt⟩
  obtain ⟨h₁, hfold, hleft⟩ : ∃ h', result.intersectionChanges.foldlM m.reportProgression
      ⟨{ s with revisionValidator := validator }, [.revisionCheck], m.throwsAt⟩ = .ok h' ∧
        h'.left = none := by
    apply exists_foldlM_eq_ok (P := fun h : Handling => h.left = none)
    · exact Received.reportProgression_ok
    · exact hthrow
  rw [hfold] at hh hreports
  -- the reports of the revisions leave the last report of the content as it was
  have hkept : h₁.plugin.lastContentValidationMessage = s.lastContentValidationMessage :=
    congrArg Prod.snd hreports.kept
  have hfields : m.validateMessageFields lib h₁ schema doc intersectionId (planForwarding result) =
      some (m.reportMinimumData (h₁.act .fieldCheck) intersectionId elements) := by
    rw [Received.validateMessageFields, hinvalid, hplan]
    dsimp only
    rw [helements]
    rfl
  obtain ⟨h₂, hreport, hmem⟩ := reportMinimumData_mem (m := m) (h := h₁.act .fieldCheck) hleft
    intersectionId elements
  dsimp only at hh
  rw [hfields, hreport] at hh
  cases hh
  rcases hmem with ⟨last, hlast, hthrottles⟩ | hmem
  · rw [← hkept]
    exact .inl ⟨last, hlast, hthrottles⟩
  · exact .inr ((Received.forward_acted m result h₂).subset hmem)

/-! ## Runs -/

namespace World

variable {w w' : World}

/-- A document without `MapData`. -/
def HasNoMapData (lib : Rapidjson) (m : Received) : Prop :=
  ∀ intersectionId schema doc, m.examine lib = .parsed intersectionId schema doc →
    (Document.root doc).mapView m.currentTimestamp = none

/-- The content of the message counts as changed: some intersection is new or not as it was last, or
there is nothing to compare. -/
def CountsAsChanged (lib : Rapidjson) (w : World) (m : Received) : Prop :=
  (withEarlier Occurrence.id (w.shown m.type) (m.shown lib)).any (changed lib.write) = true ∨
    (m.shown lib = [] ∧ (m.type = .spat ∨ w.plugin.revisionValidator.hasMapPrevious = false ∨
      HasNoMapData lib m))

/-- A failure that is no repeat counts as changed content, and is not throttled by the report of
another intersection; and no broadcast throws for it. -/
def FirstPasses (lib : Rapidjson) (w : World) (m : Received) : Prop :=
  ∀ f, m.failure lib = some f → f ∈ w.failures ∨
    (m.throwsAt = none ∧ w.CountsAsChanged lib m ∧
      ∀ last, w.plugin.lastContentValidationMessage m.type = some last →
        m.throttles f.missingDataElements last = true → last.intersectionID = f.intersectionID)

def FailuresReported (w : World) : Prop :=
  ∀ f ∈ w.failures, ∃ event ∈ w.events, event.failure = f

structure Reporting (lib : Rapidjson) (w : World) : Prop where
  remembers : ∀ type, Remembers lib.write (w.plugin.revisionValidator.states type) (w.shown type)
  last : ∀ type last, w.plugin.lastContentValidationMessage type = some last →
    last ∈ w.events ∧ last.eventType = type.fieldEventType
  reported : w.FailuresReported

theorem planForwarding_of_countsAsChanged {intersectionId : Int} {schema doc : Json}
    {result : RevisionCounterResult} {validator : RevisionCounterValidator}
    (hw : ∀ type, Remembers lib.write (w.plugin.revisionValidator.states type) (w.shown type))
    (hex : m.examine lib = .parsed intersectionId schema doc)
    (hresult : w.plugin.revisionValidator.validateRevision lib.write m.type (.root doc)
      m.currentTimestamp = some (result, validator))
    (hm : w.CountsAsChanged lib m) : planForwarding result = true := by
  have hshown : m.shown lib = m.type.occurrences (.root doc) m.currentTimestamp := by
    rw [Received.shown, hex]
  rw [CountsAsChanged, hshown] at hm
  rcases hm with hchanged | ⟨hnil, htype⟩
  · have hspec := RevisionCounterValidator.validateRevision_spec (hw m.type) hresult
    exact hspec.planForwarding_of_changed hchanged
  · cases hmtype : m.type with
    | spat =>
        rw [hmtype] at hnil hresult
        rw [RevisionCounterValidator.validateSpatRevision_of_nil hresult hnil]
        rfl
    | map =>
        rw [hmtype] at hnil hresult htype
        have hprev := htype.resolve_left (by intro heq; cases heq)
        rw [planForwarding, RevisionCounterValidator.validateMapRevision_of_nil hresult hnil
          (hprev.imp_right fun hno => hno intersectionId schema doc hex)]
        rfl

theorem mem_events_of_mem_actions {events : List MinimumData} {event : MinimumData}
    (hmem : event ∈ events ∨ .minimumData event ∈ h.actions) :
    event ∈ events ++ h.actions.filterMap Action.minimumData? := by
  rcases hmem with hmem | hmem
  · exact List.mem_append_left _ hmem
  · exact List.mem_append_right _ (List.mem_filterMap.mpr ⟨_, hmem, rfl⟩)

/-- A first failure is reported by its own message, or was by an earlier one of its intersection. -/
theorem Reporting.reported_of_failure {f : Failure} (hw : w.Reporting lib)
    (hh : m.handle lib w.plugin = some h) (hf : m.failure lib = some f)
    (hthrow : m.throwsAt = none) (hchanged : w.CountsAsChanged lib m)
    (hlast : ∀ last, w.plugin.lastContentValidationMessage m.type = some last →
      m.throttles f.missingDataElements last = true → last.intersectionID = f.intersectionID) :
    ∃ event ∈ w.events ++ h.actions.filterMap Action.minimumData?, event.failure = f := by
  rw [Received.failure] at hf
  rw [Received.handle] at hh
  split at hf
  · rename_i intersectionId schema doc hex
    rw [hex] at hh
    dsimp only at hh
    obtain ⟨invalid, hinvalid, hf⟩ := Option.bind_eq_some_iff.mp hf
    obtain ⟨elements, helements, hf⟩ := Option.bind_eq_some_iff.mp hf
    cases hf
    obtain ⟨result, validator, hresult, _⟩ := Received.validate_spec hh
    have hplan := planForwarding_of_countsAsChanged hw.remembers hex hresult hchanged
    rcases minimumData_mem_of_validate hthrow hresult hplan hinvalid helements hh with
      ⟨last, hmem, hthrottles⟩ | hmem
    · -- the last report is of this intersection, with these elements
      obtain ⟨hevent, htype⟩ := hw.last m.type last hmem
      refine ⟨last, List.mem_append_left _ hevent, ?_⟩
      have hid := hlast last hmem hthrottles
      have helems := of_decide_eq_true (Bool.and_eq_true_iff.mp hthrottles).1
      rw [MinimumData.failure, htype, hid, ← helems]
    · exact ⟨_, mem_events_of_mem_actions (.inr hmem), rfl⟩
  · cases hf

theorem Reporting.step (hw : w.Reporting lib) (hm : w.FirstPasses lib m)
    (hst : w.step lib m = some w') : w'.Reporting lib := by
  obtain ⟨h, hh, heq⟩ := Option.bind_eq_some_iff.mp hst
  cases heq
  refine ⟨remembers_of_handle hw.remembers hh, ?_, ?_⟩
  · have hlast : LastReported w.events ⟨w.plugin, [], m.throwsAt⟩ := by
      intro type last htype
      obtain ⟨hmem, heventType⟩ := hw.last type last htype
      exact ⟨.inl hmem, heventType⟩
    intro type last htype
    obtain ⟨hmem, heventType⟩ := hlast.handle hh type last htype
    exact ⟨mem_events_of_mem_actions hmem, heventType⟩
  · intro f hf
    have hold : f ∈ w.failures →
        ∃ event ∈ w.events ++ h.actions.filterMap Action.minimumData?, event.failure = f := by
      intro hmem
      obtain ⟨event, hevent, heq⟩ := hw.reported f hmem
      exact ⟨event, List.mem_append_left _ hevent, heq⟩
    rcases List.mem_append.mp hf with hf | hf
    · exact hold hf
    · have hfailure := Option.mem_toList.mp hf
      rcases hm f hfailure with hmem | ⟨hthrow, hchanged, hlast⟩
      · exact hold hmem
      · exact hw.reported_of_failure hh hfailure hthrow hchanged hlast

theorem reporting_init : ({} : World).Reporting lib where
  remembers type := by
    cases type
    · exact remembers_nil
    · exact remembers_nil
  last _ _ h := by cases h
  reported f h := by cases h

/-- **Minimum-data failures are reported.** In every run in which first failures pass both
throttles, each failure has an event of its type, intersection and missing elements. -/
theorem failuresReported_of_run {ms : List Received} {w : World}
    (h : Run (Guarded (FirstPasses lib) (Steps (step lib))) {} ms w) : w.FailuresReported := by
  have hreporting : w.Reporting lib := by
    apply Run.invariant _ h reporting_init
    intro w m w' hw ⟨hm, hst⟩
    exact hw.step hm hst
  exact hreporting.reported

/-- Intersection 1 in a SPaT with and without a time stamp. -/
def spatStamped (timeStamp : List (String × Json)) : Json :=
  .obj [("value", .obj [("SPAT", .obj (timeStamp ++ [("intersections", .arr [.obj
    [("id", .obj [("id", .int 1)]), ("revision", .int 3)]])]))])]

def stampedText : String :=
  "\x7b\"value\":\x7b\"SPAT\":\x7b\"timeStamp\":7,\"intersections\":" ++
    "[\x7b\"id\":\x7b\"id\":1\x7d,\"revision\":3\x7d]\x7d\x7d\x7d"

def bareText : String :=
  "\x7b\"value\":\x7b\"SPAT\":\x7b\"intersections\":" ++
    "[\x7b\"id\":\x7b\"id\":1\x7d,\"revision\":3\x7d]\x7d\x7d\x7d"

/-- The part of the SPaT schema that asks for it. -/
def requiredText : String :=
  "\x7b\"properties\":\x7b\"value\":\x7b\"properties\":" ++
    "\x7b\"SPAT\":\x7b\"required\":[\"timeStamp\"]\x7d\x7d\x7d\x7d\x7d"

/-- The library on these texts. -/
def onStamped : Rapidjson where
  parse text :=
    if text = requiredText then
      .root (.obj [("properties", .obj [("value", .obj [("properties", .obj
        [("SPAT", .obj [("required", .arr [.str "timeStamp"])])])])])])
    else if text = stampedText then .root (spatStamped [("timeStamp", .int 7)])
    else if text = bareText then .root (spatStamped [])
    else .parseError
  write := Json.compact
  invalid _ doc :=
    match doc.findPath ["value", "SPAT", "timeStamp"] with
    | some (some _) => none
    | _ => some ⟨"required", "#/value/SPAT", "#/properties/value/properties/SPAT"⟩
  pointerGet _ _ := none

/-- The event that a SPaT without a time stamp is to be reported with. -/
def noTimeStamp : Failure where
  eventType := "SpatMinimumData"
  intersectionID := 1
  missingDataElements := ["$.value.SPAT.timeStamp is missing " ++
    "(#/properties/value/properties/SPAT/properties/timeStamp)"]

def stampedMessage (text : String) : Received where
  type := .spat
  flags := 0
  config := ⟨"rsu", 60000, 60000⟩
  data := some (1, text)
  schemaFile := some requiredText
  currentTimestamp := "t"
  handlerBeginMs := 1000
  revisionEndMs := 1000
  fieldEndMs := 1000
  throwsAt := none

theorem failuresReported_of_run_bareText :
    ∃ ms w, Run (Guarded (FirstPasses onStamped) (Steps (step onStamped))) {} ms w ∧
      w.FailuresReported ∧ w.failures.length = 2 := by
  have hfailure : (stampedMessage bareText).failure onStamped =
      some noTimeStamp := by decide
  have hrun := @Run.cons World Received
    (Guarded (FirstPasses onStamped) (Steps (step onStamped))) {} _ _ (stampedMessage bareText) _
    ⟨fun f _ => .inr ⟨rfl, .inl (by decide), by intro last hlast; cases hlast⟩, rfl⟩
    (.cons (e := stampedMessage bareText)
      ⟨fun f hf => by cases hfailure.symm.trans hf; exact .inl (by decide), rfl⟩ .nil)
  exact ⟨_, _, hrun, failuresReported_of_run hrun, by decide⟩

/-- The time stamp goes missing, and the intersection stays as it is: nothing is reported. -/
theorem unchanged_not_reported :
    ¬ ∀ (lib : Rapidjson) (ms : List Received) (w : World),
      Run (Steps (step lib)) {} ms w → w.FailuresReported := by
  intro hall
  have hreported := hall onStamped [stampedMessage stampedText, stampedMessage bareText] _
    (.cons rfl (.cons rfl .nil))
  obtain ⟨event, hmem, _⟩ := hreported noTimeStamp (by decide)
  have hevents : event ∈ ([] : List MinimumData) := hmem
  cases hevents

end World

end V2XHub.Validation
