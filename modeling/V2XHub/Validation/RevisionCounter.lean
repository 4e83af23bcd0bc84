import Mathlib.Data.List.AList
import V2XHub.Validation.Json

/-!
# The revision counter validator

SPaT and MAP messages carry revision counters: one for each intersection, and in a MAP message one
for the message, `msgIssueRevision`. A counter is to count up when the content it stands for changes
and to stay when it does not. `RevisionCounterValidator` keeps, for every intersection id it has
met, what it last saw of it, and reports the messages that break the rule.

The text that contents are compared by is written by `rapidjson::Writer`. It is a parameter,
`write`.
-/

namespace V2XHub.Validation

/-! ## Records and results -/

structure IntersectionChangeInfo where
  id : Int := -1
  contentChanged : Bool := false
  revisionChanged : Bool := false
  currentRevision : Int := -1
  timestampA : String := ""
  timestampB : String := ""
  progressionViolation : Bool := false
  progressionCountA : Int := 0
  progressionCountB : Int := 0
  deriving DecidableEq, Repr

structure MsgProgressionCtx where
  /-- the rule for MAP messages instead of the one for SPaT messages -/
  mapStyle : Bool := false
  hasMsgPrev : Bool := false
  prevMsgRevision : Int := -1
  currentMsgRevision : Int := -1
  deriving DecidableEq, Repr

structure RevisionCounterResult where
  valid : Bool := true
  comparisonPerformed : Bool := false
  violations : List String := []
  intersectionChanges : List IntersectionChangeInfo := []
  currentMsgRevision : Int := -1
  msgRevisionChanged : Bool := false
  hasMsgRevision : Bool := false
  deriving DecidableEq, Repr

/-- `valid = false` and one more violation. -/
def RevisionCounterResult.violation (result : RevisionCounterResult) (text : String) :
    RevisionCounterResult :=
  { result with valid := false, violations := result.violations ++ [text] }

structure IntersectionState where
  revision : Int := -1
  contentHash : String
  timestamp : String
  deriving DecidableEq, Repr

abbrev IntersectionStates := AList (fun _ : Int => IntersectionState)

/-! ## One intersection -/

/-- What is compared of an intersection: its members without the timestamps and the revision. -/
def createContentHash (write : Json → String) (members : Json.Members) : String :=
  write (.obj (Json.removeMember "revision" (Json.stripMembers members)))

def evaluateProgression (change : IntersectionChangeInfo) (prevRevision : Int)
    (ctx : MsgProgressionCtx) : IntersectionChangeInfo :=
  let revisionProperIncrement := decide ((prevRevision + 1).tmod 128 = change.currentRevision)
  if ctx.mapStyle then
    let revisionBad := change.contentChanged && !revisionProperIncrement
    let msgRevisionBad := change.contentChanged && ctx.hasMsgPrev &&
      decide ((ctx.prevMsgRevision + 1).tmod 128 ≠ ctx.currentMsgRevision)
    if !revisionBad && !msgRevisionBad then change
    else if revisionBad then
      { change with
        progressionViolation := true
        progressionCountA := prevRevision
        progressionCountB := change.currentRevision }
    else
      { change with
        progressionViolation := true
        progressionCountA := ctx.prevMsgRevision
        progressionCountB := ctx.currentMsgRevision }
  else
    let noChange := !change.contentChanged && !change.revisionChanged
    let validIncrement := change.contentChanged && revisionProperIncrement
    if noChange || validIncrement then change
    else
      { change with
        progressionViolation := true
        progressionCountA := prevRevision
        progressionCountB := change.currentRevision }

/-- Whether the content changed, and the result with what there is to report. -/
def checkRevisionViolation (intersectionId currentRevision : Int) (contentHash : String)
    (prevState : IntersectionState) (messageType : String) (result : RevisionCounterResult) :
    Bool × RevisionCounterResult :=
  let result := { result with comparisonPerformed := true }
  let contentChanged := decide (contentHash ≠ prevState.contentHash)
  let revisionChanged := decide (currentRevision ≠ prevState.revision)
  if contentChanged && !revisionChanged then
    (contentChanged, result.violation (messageType ++ " intersection " ++ toString intersectionId ++
      " content changed but revision counter did not increment (revision=" ++
      toString currentRevision ++ ")"))
  else if !contentChanged && revisionChanged then
    (contentChanged, result.violation (messageType ++ " intersection " ++ toString intersectionId ++
      " content unchanged but revision counter incremented (prev=" ++
      toString prevState.revision ++ ", current=" ++ toString currentRevision ++ ")"))
  else (contentChanged, result)

/-- What the loop reads of an intersection. -/
structure Occurrence where
  id : Int
  revision : Int
  members : Json.Members
  timestamp : String

/-- Intersections without an id are skipped. -/
def readIntersection (currentTimestamp : String) : Json → Option (Option Occurrence)
  | .obj members =>
      match (Json.obj members).findPath ["id", "id"] with
      | none => none
      | some none => some none
      | some (some idValue) => do
          let id ← idValue.getInt
          let revision ← Json.getIntOr (-1) (members.lookup "revision")
          some (some ⟨id, revision, members, currentTimestamp⟩)
  | _ => none

/-! ## The loop -/

/-- The states, the result and the flag, all passed by reference. -/
structure Progress where
  prevStates : IntersectionStates
  result : RevisionCounterResult := {}
  anyChanged : Bool := false

def Progress.pushChange (p : Progress) (change : IntersectionChangeInfo) : Progress :=
  { p with result.intersectionChanges := p.result.intersectionChanges ++ [change] }

/-- The loop's body, from the hash on. -/
def Progress.record (write : Json → String) (messageType : String) (ctx : MsgProgressionCtx)
    (p : Progress) (o : Occurrence) : Progress :=
  let contentHash := createContentHash write o.members
  let change : IntersectionChangeInfo :=
    { id := o.id, currentRevision := o.revision, timestampB := o.timestamp }
  let p := match p.prevStates.lookup o.id with
    | none => { p.pushChange { change with contentChanged := true } with anyChanged := true }
    | some prev =>
        let (contentChanged, result) :=
          checkRevisionViolation o.id o.revision contentHash prev messageType p.result
        let change := { change with
          contentChanged := contentChanged
          revisionChanged := decide (o.revision ≠ prev.revision)
          timestampA := prev.timestamp }
        { p with result := result, anyChanged := p.anyChanged || contentChanged }.pushChange
          (evaluateProgression change prev.revision ctx)
  { p with prevStates := p.prevStates.insert o.id ⟨o.revision, contentHash, o.timestamp⟩ }

def processIntersectionArray (write : Json → String) (intersections : List Json)
    (messageType currentTimestamp : String) (ctx : MsgProgressionCtx) (p : Progress) :
    Option Progress :=
  intersections.foldlM (fun p intersection => do
    match ← readIntersection currentTimestamp intersection with
    | none => some p
    | some o => some (p.record write messageType ctx o)) p

/-! ## The validator -/

/-- `rapidjson::Document`: the root, or `HasParseError`. -/
inductive Document
  | parseError
  | root (v : Json)

structure RevisionCounterValidator where
  prevSpatIntersections : IntersectionStates := ∅
  prevMapIntersections : IntersectionStates := ∅
  /-- the `msgIssueRevision` of `_prevMapMessage` -/
  prevMapMessage : Int := -1
  hasMapPrevious : Bool := false

namespace RevisionCounterValidator

/-- The intersections of a SPaT document; `some none` where there is no such array. -/
def spatIntersections (doc : Json) : Option (Option (List Json)) :=
  (doc.findPath ["value", "SPAT", "intersections"]).map (·.bind Json.elements?)

def validateSpatRevision (write : Json → String) (s : RevisionCounterValidator) (doc : Document)
    (currentTimestamp : String) : Option (RevisionCounterResult × RevisionCounterValidator) :=
  match doc with
  | .parseError => some (RevisionCounterResult.violation {} "Failed to parse SPaT JSON", s)
  | .root doc =>
      match spatIntersections doc with
      | none => none
      | some none => some ({}, s)
      | some (some intersections) => do
          let p ← processIntersectionArray write intersections "SPaT" currentTimestamp {}
            { prevStates := s.prevSpatIntersections }
          some (p.result, { s with prevSpatIntersections := p.prevStates })

/-- The loop over the intersections of a MAP message, for which `_prevMapMessage` still is the
message before. -/
def validateMapIntersections (write : Json → String) (s : RevisionCounterValidator)
    (intersections : List Json) (currentTimestamp : String) (currentMsgRevision : Int) :
    Option Progress :=
  processIntersectionArray write intersections "MAP" currentTimestamp
    ⟨true, s.hasMapPrevious, s.prevMapMessage, currentMsgRevision⟩
    { prevStates := s.prevMapIntersections }

def validateMsgIssueRevision (s : RevisionCounterValidator) (currentMsgRevision : Int)
    (anyIntersectionChanged : Bool) (result : RevisionCounterResult) : RevisionCounterResult :=
  if !s.hasMapPrevious then result
  else
    let result := { result with comparisonPerformed := true }
    let msgRevisionChanged := decide (currentMsgRevision ≠ s.prevMapMessage)
    if anyIntersectionChanged && !msgRevisionChanged then
      result.violation
        ("MAP content changed but msgIssueRevision did not increment (msgIssueRevision=" ++
          toString currentMsgRevision ++ ")")
    else if !anyIntersectionChanged && msgRevisionChanged then
      result.violation ("MAP content unchanged but msgIssueRevision incremented (prev=" ++
        toString s.prevMapMessage ++ ", current=" ++ toString currentMsgRevision ++ ")")
    else result

/-- What the validator reads of a MAP document: the counter and the intersections. -/
def readMapData (doc : Json) : Option (Option (Int × List Json)) :=
  match doc.findPath ["value", "MapData"] with
  | none => none
  | some none => some none
  | some (some mapData) => do
      let currentMsgRevision ← Json.getIntOr (-1) (← mapData.findMember "msgIssueRevision")
      let intersections ← mapData.findMember "intersections"
      some (some (currentMsgRevision, (intersections.bind Json.elements?).getD []))

def validateMapRevision (write : Json → String) (s : RevisionCounterValidator) (doc : Document)
    (currentTimestamp : String) : Option (RevisionCounterResult × RevisionCounterValidator) :=
  match doc with
  | .parseError => some (RevisionCounterResult.violation {} "Failed to parse MAP JSON", s)
  | .root doc =>
      match readMapData doc with
      | none => none
      | some none => some ({}, s)
      | some (some (currentMsgRevision, intersections)) => do
          let p ← s.validateMapIntersections write intersections currentTimestamp currentMsgRevision
          let result := s.validateMsgIssueRevision currentMsgRevision p.anyChanged p.result
          let result := { result with currentMsgRevision := currentMsgRevision }
          let result :=
            if s.hasMapPrevious then
              { result with
                hasMsgRevision := true
                msgRevisionChanged := decide (currentMsgRevision ≠ s.prevMapMessage) }
            else result
          some (result,
            { s with
              prevMapIntersections := p.prevStates
              prevMapMessage := currentMsgRevision
              hasMapPrevious := true })

end RevisionCounterValidator

end V2XHub.Validation
