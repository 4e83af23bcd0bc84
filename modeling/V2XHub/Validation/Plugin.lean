import V2XHub.Validation.Fields
import V2XHub.Validation.RevisionHistory

/-!
# The validation plugin

`HandleSpatMessage` and `HandleMapDataMessage` take a message through the revision check and the
field check, report what they find, and broadcast it again with the `Validated` flag if its content
is new. The reports are throttled, in part by the result of the revision check.

Every broadcast may throw, and what was done before stays done. A handler that throws is an
`Except.error` of the state it has got to.
-/

namespace V2XHub.Validation

open V2XHub.Lib

/-! ## The two message types -/

inductive MessageType where
  | spat
  | map
  deriving DecidableEq, Repr

namespace MessageType

def name : MessageType → String
  | spat => "SPaT"
  | map => "MAP"

def schemaPath : MessageType → String
  | spat => "/var/www/plugins/IntersectionValidationPlugin/resources/spat.schema.json"
  | map => "/var/www/plugins/IntersectionValidationPlugin/resources/map.schema.json"

def fieldEventType : MessageType → String
  | spat => "SpatMinimumData"
  | map => "MapMinimumData"

def revisionEventType : MessageType → String
  | spat => "SpatMessageCountProgression"
  | map => "MapMessageCountProgression"

/-- The intersections that the validator reads. -/
def occurrences (type : MessageType) (doc : Document) (ts : String) : List Occurrence :=
  match type with
  | spat => doc.spatOccurrences ts
  | map => (doc.mapView ts).elim [] MapView.intersections

end MessageType

namespace RevisionCounterValidator

def states (v : RevisionCounterValidator) : MessageType → IntersectionStates
  | .spat => v.prevSpatIntersections
  | .map => v.prevMapIntersections

def validateRevision (write : Json → String) (v : RevisionCounterValidator) (type : MessageType)
    (doc : Document) (currentTimestamp : String) :
    Option (RevisionCounterResult × RevisionCounterValidator) :=
  match type with
  | .spat => v.validateSpatRevision write doc currentTimestamp
  | .map => v.validateMapRevision write doc currentTimestamp

end RevisionCounterValidator

/-! ## What comes in and what goes out -/

/-- Where a document breaks its schema, with the pointers as URI fragments. -/
structure Invalid where
  keyword : Option String
  documentPointer : String
  schemaPointer : String

/-- `rapidjson`. -/
structure Rapidjson where
  parse : String → Document
  write : Json → String
  /-- what the `SchemaValidator` finds, `none` for a document that is accepted -/
  invalid : Json → Json → Option Invalid
  pointerGet : String → Json → Option Json

structure Config where
  rsuSource : String
  contentValidationTimeWindow : UInt64
  contentUnchangedTimeWindow : UInt64

/-- A message with all that its handler reads: clocks, files and the outcomes of its calls. -/
structure Received where
  type : MessageType
  flags : UInt32
  config : Config
  /-- the id of the first intersection or `-1` and the JSON text, unless decoding, measuring the
  interval or writing the text throws -/
  data : Option (Int × String)
  /-- the schema file, if it can be opened -/
  schemaFile : Option String
  currentTimestamp : String
  handlerBeginMs : UInt64
  /-- `handlerEndMs` of the revision check and of the field check -/
  revisionEndMs : UInt64
  fieldEndMs : UInt64
  /-- the number of broadcasts before the one that throws -/
  throwsAt : Option Nat

structure MinimumData where
  eventGeneratedAt : UInt64
  eventType : String
  intersectionID : Int
  roadRegulatorID : Int := -1
  source : String
  timePeriod : UInt64 × UInt64
  missingDataElements : List String
  deriving DecidableEq

structure MessageCountProgression where
  eventGeneratedAt : UInt64
  eventType : String
  intersectionID : Int
  roadRegulatorID : Int := -1
  source : String
  messageType : String
  messageCountA : Int
  messageCountB : Int
  timestampA : String
  timestampB : String
  deriving DecidableEq

/-- What a handler does that can be seen: its checks and its broadcasts. -/
inductive Action where
  | revisionCheck
  | fieldCheck
  | progression (event : MessageCountProgression)
  | minimumData (event : MinimumData)
  | eventLog
  /-- the message with the `Validated` flag -/
  | forward
  deriving DecidableEq

/-! ## The plugin -/

structure IntersectionValidationPlugin where
  revisionValidator : RevisionCounterValidator := {}
  lastContentValidationMessage : MessageType → Option MinimumData := fun _ => none
  lastRevisionValidationMessage : MessageType → Option MessageCountProgression := fun _ => none
  lastBroadcastMessageTime : MessageType → UInt64 := fun _ => 0

/-- The plugin in the middle of a handler. -/
structure Handling where
  plugin : IntersectionValidationPlugin
  actions : List Action
  /-- the broadcasts left before the one that throws -/
  left : Option Nat

namespace Handling

def act (h : Handling) (action : Action) : Handling :=
  { h with actions := h.actions ++ [action] }

def broadcast (h : Handling) (action : Action) : Except Handling Handling :=
  match h.left with
  | none => .ok (h.act action)
  | some 0 => .error h
  | some (n + 1) => .ok { h.act action with left := some n }

/-- An event and its entry in the event log. -/
def report (h : Handling) (event : Action) : Except Handling Handling := do
  let h ← h.broadcast event
  h.broadcast .eventLog

end Handling

/-- The entry of a type is overwritten. -/
def setFor {α : Type} (type : MessageType) (a : α) (f : MessageType → α) : MessageType → α :=
  fun t => if t = type then a else f t

/-- `IvpMsgFlags_Validated`. -/
def validatedFlag : UInt32 := 0x02

def planForwarding (result : RevisionCounterResult) : Bool :=
  if !result.comparisonPerformed then true
  else result.intersectionChanges.any IntersectionChangeInfo.contentChanged

/-- Both events count nothing at all. -/
def compareRevisionValidationMessages (a b : MessageCountProgression) : Bool :=
  if a.messageCountA ≠ b.messageCountA then false
  else if a.messageCountB ≠ b.messageCountB then false
  else a.messageCountA = 0 ∧ b.messageCountA = 0 ∧ a.messageCountB = 0 ∧ b.messageCountB = 0

namespace Received

variable (m : Received)

def flagged : Bool := m.flags &&& validatedFlag ≠ 0

/-- An event of the revision check for one intersection. -/
def progressionEvent (change : IntersectionChangeInfo) : MessageCountProgression where
  eventGeneratedAt := m.revisionEndMs
  eventType := m.type.revisionEventType
  intersectionID := change.id
  source := m.config.rsuSource
  messageType := m.type.name
  messageCountA := change.progressionCountA
  messageCountB := change.progressionCountB
  timestampA := change.timestampA
  timestampB := change.timestampB

def minimumDataEvent (intersectionId : Int) (elements : List String) : MinimumData where
  eventGeneratedAt := m.fieldEndMs
  eventType := m.type.fieldEventType
  intersectionID := intersectionId
  source := m.config.rsuSource
  timePeriod := (m.handlerBeginMs, m.fieldEndMs)
  missingDataElements := elements

/-- The turn of the loop in `validateRevisionCounters` for one intersection. -/
def reportProgression (h : Handling) (change : IntersectionChangeInfo) :
    Except Handling Handling :=
  if !change.progressionViolation then .ok h
  else
    let event := m.progressionEvent change
    let throttled := (h.plugin.lastRevisionValidationMessage m.type).any fun last =>
      compareRevisionValidationMessages event last &&
        !(m.revisionEndMs - last.eventGeneratedAt > m.config.contentValidationTimeWindow)
    if throttled then .ok h
    else do
      let h ← h.report (.progression event)
      .ok { h with plugin.lastRevisionValidationMessage :=
              setFor m.type (some event) h.plugin.lastRevisionValidationMessage }

/-- Whether the last event of the type has the same elements and is recent. -/
def throttles (elements : List String) (last : MinimumData) : Bool :=
  elements = last.missingDataElements &&
    !(m.fieldEndMs - last.eventGeneratedAt > m.config.contentValidationTimeWindow)

/-- The report of `validateMessageFields`. -/
def reportMinimumData (h : Handling) (intersectionId : Int) (elements : List String) :
    Except Handling Handling :=
  if (h.plugin.lastContentValidationMessage m.type).any (m.throttles elements) then .ok h
  else do
    let event := m.minimumDataEvent intersectionId elements
    let h ← h.report (.minimumData event)
    .ok { h with plugin.lastContentValidationMessage :=
            setFor m.type (some event) h.plugin.lastContentValidationMessage }

/-- The end of the handler. -/
def forward (result : RevisionCounterResult) (h : Handling) : Handling :=
  if planForwarding result ∨
      m.handlerBeginMs - h.plugin.lastBroadcastMessageTime m.type >
        m.config.contentUnchangedTimeWindow then
    match h.broadcast .forward with
    | .error h => h
    | .ok h =>
        { h with plugin.lastBroadcastMessageTime :=
            setFor m.type m.handlerBeginMs h.plugin.lastBroadcastMessageTime }
  else h

section

variable (lib : Rapidjson)

/-- What a document that fails is reported with. -/
def minimumDataElements (schema doc : Json) (invalid : Invalid) : Option (List String) := do
  let missing ← Json.collectMissingRequiredFields lib.pointerGet schema doc
  if missing = [] then
    some [invalid.documentPointer ++ " failed " ++ invalid.keyword.getD "validation" ++ " (" ++
      invalid.schemaPointer ++ ")"]
  else some missing

def validateMessageFields (h : Handling) (schema doc : Json) (intersectionId : Int)
    (contentChanged : Bool) : Option (Except Handling Handling) :=
  let h := h.act .fieldCheck
  match lib.invalid schema doc with
  | none => some (.ok h)
  | some invalid =>
      if !contentChanged then some (.ok h)
      else do
        let elements ← minimumDataElements lib schema doc invalid
        some (m.reportMinimumData h intersectionId elements)

/-- How far a message gets before it is validated. -/
inductive Examined where
  /-- the handler returns or throws -/
  | left
  /-- the message or the schema does not parse -/
  | unparsed
  /-- with the document after its preprocessing -/
  | parsed (intersectionId : Int) (schema doc : Json)

def examine : Examined :=
  if m.flagged then .left
  else if m.type.schemaPath = "" then .left
  else
    match m.data with
    | none => .left
    | some (intersectionId, jsonStr) =>
        match lib.parse jsonStr with
        | .parseError => .unparsed
        | .root doc =>
            match m.schemaFile with
            | none => .left
            | some schemaStr =>
                match lib.parse schemaStr with
                | .parseError => .unparsed
                | .root schema =>
                    .parsed intersectionId schema
                      (Json.convertNumericStrings schema (Json.removeEmptyStrings doc))

/-- From the revision check on. -/
def validate (s : IntersectionValidationPlugin) (intersectionId : Int) (schema doc : Json) :
    Option Handling :=
  match s.revisionValidator.validateRevision lib.write m.type (.root doc) m.currentTimestamp with
  | none => none
  | some (result, validator) =>
      let h : Handling := ⟨{ s with revisionValidator := validator }, [.revisionCheck], m.throwsAt⟩
      match result.intersectionChanges.foldlM m.reportProgression h with
      | .error h => some h
      | .ok h =>
          match m.validateMessageFields lib h schema doc intersectionId (planForwarding result) with
          | none => none
          | some (.error h) => some h
          | some (.ok h) => some (m.forward result h)

/-- `HandleSpatMessage` and `HandleMapDataMessage`. After a text that does not parse, the result is
a default one. -/
def handle (s : IntersectionValidationPlugin) : Option Handling :=
  match m.examine lib with
  | .left => some ⟨s, [], m.throwsAt⟩
  | .unparsed => some (m.forward {} ⟨s, [], m.throwsAt⟩)
  | .parsed intersectionId schema doc => m.validate lib s intersectionId schema doc

end

end Received

end V2XHub.Validation
