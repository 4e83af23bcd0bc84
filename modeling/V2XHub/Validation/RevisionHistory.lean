import V2XHub.Lib.History
import V2XHub.Lib.Run
import V2XHub.Validation.RevisionCounter

/-!
# The validator as a function of the history

The validator updates its tables in the middle of a document. What it reports nevertheless has a
description without any table: each intersection is compared with the latest earlier one of its id,
in the same document or in any document before it. This module proves that, at the level of the
texts the code compares. What the texts have to do with the contents is left to the laws.
-/

namespace V2XHub.Validation

open V2XHub.Lib

variable {write : Json → String} {ctx : MsgProgressionCtx} {messageType ts : String}
  {past occs occs' : List Occurrence} {p p' p'' : Progress}

/-! ## One comparison -/

def Occurrence.contentHash (write : Json → String) (o : Occurrence) : String :=
  createContentHash write o.members

abbrev Occurrence.state (write : Json → String) (o : Occurrence) : IntersectionState :=
  ⟨o.revision, o.contentHash write, o.timestamp⟩

/-- Whether the text changed. A first occurrence counts as a change. -/
def changed (write : Json → String) (q : Option Occurrence × Occurrence) : Bool :=
  match q.1 with
  | none => true
  | some e => q.2.contentHash write ≠ e.contentHash write

/-- Text and revision changed both or neither. -/
def inStep (write : Json → String) (q : Option Occurrence × Occurrence) : Bool :=
  match q.1 with
  | none => true
  | some e => (q.2.contentHash write ≠ e.contentHash write) == (q.2.revision ≠ e.revision)

def changeRecord (write : Json → String) (ctx : MsgProgressionCtx)
    (q : Option Occurrence × Occurrence) : IntersectionChangeInfo :=
  match q.1 with
  | none =>
      { id := q.2.id, contentChanged := true, currentRevision := q.2.revision
        timestampB := q.2.timestamp }
  | some e =>
      evaluateProgression
        { id := q.2.id
          contentChanged := q.2.contentHash write ≠ e.contentHash write
          revisionChanged := q.2.revision ≠ e.revision
          currentRevision := q.2.revision
          timestampA := e.timestamp
          timestampB := q.2.timestamp } e.revision ctx

theorem checkRevisionViolation_spec (id revision : Int) (hash : String) (prev : IntersectionState)
    (messageType : String) (result : RevisionCounterResult) :
    let checked := checkRevisionViolation id revision hash prev messageType result
    checked.1 = decide (hash ≠ prev.contentHash) ∧
      checked.2.intersectionChanges = result.intersectionChanges ∧
      checked.2.valid = (result.valid &&
        (decide (hash ≠ prev.contentHash) == decide (revision ≠ prev.revision))) := by
  unfold checkRevisionViolation RevisionCounterResult.violation
  by_cases hcontent : hash = prev.contentHash
  · by_cases hrevision : revision = prev.revision
    · simp [hcontent, hrevision]
    · simp [hcontent, hrevision]
  · by_cases hrevision : revision = prev.revision
    · simp [hcontent, hrevision]
    · simp [hcontent, hrevision]

/-! ## The loop -/

/-- The table holds the latest occurrence of every id, and nothing else. -/
def Remembers (write : Json → String) (states : IntersectionStates) (past : List Occurrence) :
    Prop :=
  ∀ x, states.lookup x = (latest Occurrence.id x past).map (Occurrence.state write)

theorem remembers_nil : Remembers write ∅ [] := fun _ => rfl

theorem Remembers.insert {states : IntersectionStates} (h : Remembers write states past)
    (o : Occurrence) : Remembers write (states.insert o.id (o.state write)) (past ++ [o]) := by
  intro x
  rw [latest_concat]
  by_cases hx : o.id = x
  · subst hx
    rw [AList.lookup_insert, if_pos rfl]
    rfl
  · rw [AList.lookup_insert_ne (Ne.symm hx), if_neg hx]
    exact h x

/-- From `p` to `p'` the loop has gone through `occs`. -/
structure Recorded (write : Json → String) (ctx : MsgProgressionCtx) (past occs : List Occurrence)
    (p p' : Progress) : Prop where
  remembers : Remembers write p'.prevStates (past ++ occs)
  changes : p'.result.intersectionChanges = p.result.intersectionChanges ++
    (withEarlier Occurrence.id past occs).map (changeRecord write ctx)
  valid : p'.result.valid =
    (p.result.valid && (withEarlier Occurrence.id past occs).all (inStep write))
  anyChanged : p'.anyChanged =
    (p.anyChanged || (withEarlier Occurrence.id past occs).any (changed write))

/-- One turn of the loop. -/
theorem recorded_record (messageType : String) (ctx : MsgProgressionCtx)
    (h : Remembers write p.prevStates past) (o : Occurrence) :
    Recorded write ctx past [o] p (p.record write messageType ctx o) := by
  have hlookup := h o.id
  unfold Progress.record
  cases hearlier : latest Occurrence.id o.id past with
  | none =>
      rw [hearlier, Option.map_none] at hlookup
      rw [hlookup]
      refine ⟨h.insert o, ?_, ?_, ?_⟩
      · simp [withEarlier, hearlier, changeRecord, Progress.pushChange]
      · simp [withEarlier, hearlier, inStep, Progress.pushChange]
      · simp [withEarlier, hearlier, changed]
  | some e =>
      rw [hearlier, Option.map_some] at hlookup
      rw [hlookup]
      obtain ⟨hchanged, hchanges, hvalid⟩ := checkRevisionViolation_spec
        o.id o.revision (o.contentHash write) (e.state write) messageType p.result
      simp only [Occurrence.state, Occurrence.contentHash] at hchanged hchanges hvalid
      refine ⟨h.insert o, ?_, ?_, ?_⟩
      · simp [withEarlier, hearlier, changeRecord, Progress.pushChange, hchanges, hchanged,
          Occurrence.state, Occurrence.contentHash]
      · simp [withEarlier, hearlier, inStep, Progress.pushChange, hvalid, Occurrence.state,
          Occurrence.contentHash]
      · simp [withEarlier, hearlier, changed, Progress.pushChange, hchanged, Occurrence.state,
          Occurrence.contentHash]

theorem Recorded.cons {o : Occurrence} (h : Recorded write ctx past [o] p p')
    (h' : Recorded write ctx (past ++ [o]) occs p' p'') :
    Recorded write ctx past (o :: occs) p p'' where
  remembers := by simpa using h'.remembers
  changes := by simp [h'.changes, h.changes, withEarlier]
  valid := by simp [h'.valid, h.valid, withEarlier, Bool.and_assoc]
  anyChanged := by simp [h'.anyChanged, h.anyChanged, withEarlier, Bool.or_assoc]

/-- All turns of the loop. -/
theorem recorded_foldl (messageType : String) (ctx : MsgProgressionCtx)
    (h : Remembers write p.prevStates past) (occs : List Occurrence) :
    Recorded write ctx past occs p (occs.foldl (Progress.record write messageType ctx) p) := by
  induction occs generalizing past p with
  | nil =>
      refine ⟨by simpa using h, ?_, ?_, ?_⟩
      · simp [withEarlier]
      · simp [withEarlier]
      · simp [withEarlier]
  | cons o occs ih =>
      have hone := recorded_record messageType ctx h o
      exact hone.cons (ih hone.remembers)

/-! ## What a document contains -/

/-- The occurrences in an array of intersections, in order. -/
def readIntersections (ts : String) : List Json → Option (List Occurrence)
  | [] => some []
  | v :: vs => do
      let o ← readIntersection ts v
      let os ← readIntersections ts vs
      some (o.toList ++ os)

/-- Reading first and recording afterwards. -/
theorem processIntersectionArray_eq_some {vs : List Json}
    (h : processIntersectionArray write vs messageType ts ctx p = some p') :
    ∃ occs, readIntersections ts vs = some occs ∧
      p' = occs.foldl (Progress.record write messageType ctx) p := by
  unfold processIntersectionArray at h
  induction vs generalizing p with
  | nil =>
      cases h
      exact ⟨[], rfl, rfl⟩
  | cons v vs ih =>
      rw [List.foldlM_cons] at h
      obtain ⟨q, hq, hrest⟩ := Option.bind_eq_some_iff.mp h
      obtain ⟨read, hread, hq⟩ := Option.bind_eq_some_iff.mp hq
      obtain ⟨occs, hoccs, rfl⟩ := ih hrest
      cases read with
      | none =>
          cases hq
          exact ⟨occs, by simp [readIntersections, hread, hoccs], rfl⟩
      | some o =>
          cases hq
          exact ⟨o :: occs, by simp [readIntersections, hread, hoccs], rfl⟩

/-- The occurrences of a SPaT document. -/
def Document.spatOccurrences (ts : String) : Document → List Occurrence
  | .parseError => []
  | .root doc =>
      match RevisionCounterValidator.spatIntersections doc with
      | some (some vs) => (readIntersections ts vs).getD []
      | _ => []

/-- The counter of a MAP document and its occurrences. -/
structure MapView where
  msgIssueRevision : Int
  intersections : List Occurrence

def Document.mapView (ts : String) : Document → Option MapView
  | .parseError => none
  | .root doc =>
      match RevisionCounterValidator.readMapData doc with
      | some (some (revision, vs)) => some ⟨revision, (readIntersections ts vs).getD []⟩
      | _ => none

def Document.parsed : Document → Bool
  | .parseError => false
  | .root _ => true

namespace RevisionCounterValidator

variable {s t : RevisionCounterValidator} {doc : Document} {result : RevisionCounterResult}

/-- What `validateSpatRevision` reports and keeps. -/
structure SpatStep (write : Json → String) (past occs : List Occurrence) (parsed : Bool)
    (s : RevisionCounterValidator) (result : RevisionCounterResult)
    (t : RevisionCounterValidator) : Prop where
  remembers : Remembers write t.prevSpatIntersections (past ++ occs)
  frame : t = { s with prevSpatIntersections := t.prevSpatIntersections }
  changes : result.intersectionChanges =
    (withEarlier Occurrence.id past occs).map (changeRecord write {})
  valid : result.valid = (parsed && (withEarlier Occurrence.id past occs).all (inStep write))

theorem validateSpatRevision_spec (hpast : Remembers write s.prevSpatIntersections past)
    (h : s.validateSpatRevision write doc ts = some (result, t)) :
    SpatStep write past (doc.spatOccurrences ts) doc.parsed s result t := by
  cases doc with
  | parseError =>
      cases h
      exact ⟨by simpa [Document.spatOccurrences] using hpast, rfl, rfl, rfl⟩
  | root doc =>
      unfold validateSpatRevision at h
      cases hvs : spatIntersections doc with
      | none => simp [hvs] at h
      | some found =>
          cases found with
          | none =>
              simp only [hvs, Option.some.injEq] at h
              cases h
              have hread : (Document.root doc).spatOccurrences ts = [] := by
                simp [Document.spatOccurrences, hvs]
              rw [hread]
              exact ⟨by simpa using hpast, rfl, rfl, rfl⟩
          | some vs =>
              simp only [hvs] at h
              obtain ⟨p, hp, heq⟩ := Option.bind_eq_some_iff.mp h
              cases heq
              obtain ⟨occs, hoccs, rfl⟩ := processIntersectionArray_eq_some hp
              have hrec := recorded_foldl (p := { prevStates := s.prevSpatIntersections })
                "SPaT" {} hpast occs
              have hread : (Document.root doc).spatOccurrences ts = occs := by
                simp [Document.spatOccurrences, hvs, hoccs]
              rw [hread]
              exact ⟨hrec.remembers, rfl, by simpa using hrec.changes, hrec.valid⟩

theorem validateMsgIssueRevision_valid (currentMsgRevision : Int) (anyChanged : Bool) :
    (s.validateMsgIssueRevision currentMsgRevision anyChanged result).valid =
      (result.valid && (!s.hasMapPrevious ||
        (anyChanged == decide (currentMsgRevision ≠ s.prevMapMessage)))) := by
  unfold validateMsgIssueRevision RevisionCounterResult.violation
  by_cases hprev : s.hasMapPrevious = true
  · by_cases hmsg : currentMsgRevision = s.prevMapMessage
    · cases anyChanged
      · simp [hprev, hmsg]
      · simp [hprev, hmsg]
    · cases anyChanged
      · simp [hprev, hmsg]
      · simp [hprev, hmsg]
  · simp [hprev]

/-- What `validateMapRevision` reports and keeps of a document with a `MapData`. -/
structure MapStep (write : Json → String) (past : List Occurrence) (view : MapView)
    (s : RevisionCounterValidator) (result : RevisionCounterResult)
    (t : RevisionCounterValidator) : Prop where
  remembers : Remembers write t.prevMapIntersections (past ++ view.intersections)
  frame : t = { s with
    prevMapIntersections := t.prevMapIntersections
    prevMapMessage := view.msgIssueRevision
    hasMapPrevious := true }
  valid : result.valid =
    ((withEarlier Occurrence.id past view.intersections).all (inStep write) &&
      (!s.hasMapPrevious ||
        ((withEarlier Occurrence.id past view.intersections).any (changed write) ==
          decide (view.msgIssueRevision ≠ s.prevMapMessage))))

theorem validateMapRevision_spec (hpast : Remembers write s.prevMapIntersections past)
    (h : s.validateMapRevision write doc ts = some (result, t)) :
    match doc.mapView ts with
    | none => t = s
    | some view => MapStep write past view s result t := by
  cases doc with
  | parseError =>
      cases h
      rfl
  | root doc =>
      unfold validateMapRevision at h
      -- the history is touched only when the revision and the intersections could be read
      cases hdata : readMapData doc with
      | none => simp [hdata] at h
      | some found =>
          cases found with
          | none =>
              simp only [hdata, Option.some.injEq] at h
              cases h
              have hview : (Document.root doc).mapView ts = none := by
                simp [Document.mapView, hdata]
              rw [hview]
          | some data =>
              obtain ⟨revision, vs⟩ := data
              simp only [hdata] at h
              obtain ⟨p, hp, heq⟩ := Option.bind_eq_some_iff.mp h
              cases heq
              obtain ⟨occs, hoccs, rfl⟩ := processIntersectionArray_eq_some hp
              have hrec := recorded_foldl (p := { prevStates := s.prevMapIntersections })
                "MAP" ⟨true, s.hasMapPrevious, s.prevMapMessage, revision⟩ hpast occs
              have hview : (Document.root doc).mapView ts = some ⟨revision, occs⟩ := by
                simp [Document.mapView, hdata, hoccs]
              rw [hview]
              refine ⟨hrec.remembers, rfl, ?_⟩
              have hvalid := hrec.valid
              have hany := hrec.anyChanged
              simp only [Bool.true_and, Bool.false_or] at hvalid hany
              rw [← hvalid, ← hany, ← validateMsgIssueRevision_valid]
              split
              · rfl
              · rfl

end RevisionCounterValidator

/-! ## Runs

The two validating functions are called from one plugin with one validator, in any order. The
monitor is the validator together with what it has been shown. -/

inductive Message
  | spat (doc : Document) (currentTimestamp : String)
  | map (doc : Document) (currentTimestamp : String)

structure Monitor where
  validator : RevisionCounterValidator := {}
  /-- every occurrence in a SPaT document so far -/
  spatHistory : List Occurrence := []
  mapHistory : List Occurrence := []
  previousMap : Option MapView := none
  /-- of the latest call -/
  result : RevisionCounterResult := {}

namespace Monitor

def step (write : Json → String) (s : Monitor) : Message → Option Monitor
  | .spat doc ts => do
      let (result, validator) ← s.validator.validateSpatRevision write doc ts
      some { s with
        validator := validator, result := result
        spatHistory := s.spatHistory ++ doc.spatOccurrences ts }
  | .map doc ts => do
      let (result, validator) ← s.validator.validateMapRevision write doc ts
      let view := doc.mapView ts
      some { s with
        validator := validator, result := result
        mapHistory := s.mapHistory ++ (view.elim [] MapView.intersections)
        previousMap := view.or s.previousMap }

/-- What the validator holds is determined by what it has been shown. -/
structure Recalls (write : Json → String) (s : Monitor) : Prop where
  spat : Remembers write s.validator.prevSpatIntersections s.spatHistory
  map : Remembers write s.validator.prevMapIntersections s.mapHistory
  hasPrevious : s.validator.hasMapPrevious = s.previousMap.isSome
  previous : ∀ view ∈ s.previousMap,
    s.validator.prevMapMessage = view.msgIssueRevision ∧ view.intersections <:+ s.mapHistory

variable {s t : Monitor} {doc : Document}

theorem recalls_init : Recalls write {} where
  spat := remembers_nil
  map := remembers_nil
  hasPrevious := rfl
  previous view h := by cases h

/-- A SPaT document leaves the MAP half alone. -/
theorem Recalls.spatStep (h : Recalls write s) (hstep : s.step write (.spat doc ts) = some t) :
    Recalls write t ∧ t.spatHistory = s.spatHistory ++ doc.spatOccurrences ts ∧
      RevisionCounterValidator.SpatStep write s.spatHistory (doc.spatOccurrences ts) doc.parsed
        s.validator t.result t.validator := by
  obtain ⟨⟨result, validator⟩, hvalidate, heq⟩ := Option.bind_eq_some_iff.mp hstep
  cases heq
  have hspec := RevisionCounterValidator.validateSpatRevision_spec h.spat hvalidate
  refine ⟨⟨hspec.remembers, ?_, ?_, ?_⟩, rfl, hspec⟩
  · rw [hspec.frame]
    exact h.map
  · rw [hspec.frame]
    exact h.hasPrevious
  · rw [hspec.frame]
    exact h.previous

theorem Recalls.mapStep (h : Recalls write s) (hstep : s.step write (.map doc ts) = some t) :
    Recalls write t ∧ ∀ view ∈ doc.mapView ts,
      t.mapHistory = s.mapHistory ++ view.intersections ∧
      RevisionCounterValidator.MapStep write s.mapHistory view s.validator t.result
        t.validator := by
  obtain ⟨⟨result, validator⟩, hvalidate, heq⟩ := Option.bind_eq_some_iff.mp hstep
  cases heq
  have hspec := RevisionCounterValidator.validateMapRevision_spec h.map hvalidate
  cases hview : doc.mapView ts with
  | none =>
      simp only [hview] at hspec
      subst hspec
      refine ⟨⟨h.spat, ?_, h.hasPrevious, ?_⟩, fun view hmem => by cases hmem⟩
      · simpa using h.map
      · simpa using h.previous
  | some view =>
      simp only [hview] at hspec
      refine ⟨⟨?_, hspec.remembers, ?_, ?_⟩, ?_⟩
      · rw [hspec.frame]
        exact h.spat
      · rw [hspec.frame]
        rfl
      · rintro _ ⟨⟩
        rw [hspec.frame]
        exact ⟨rfl, List.suffix_append _ _⟩
      · rintro _ ⟨⟩
        exact ⟨rfl, hspec⟩

theorem Recalls.step (h : Recalls write s) {m : Message} (hstep : s.step write m = some t) :
    Recalls write t := by
  cases m with
  | spat doc ts => exact (h.spatStep hstep).1
  | map doc ts => exact (h.mapStep hstep).1

theorem recalls_of_run {ms : List Message} (h : Run (Steps (Monitor.step write)) {} ms s) :
    Recalls write s :=
  h.invariant (I := Recalls write) (fun _ _ _ hs hstep => hs.step hstep) recalls_init

end Monitor

end V2XHub.Validation
