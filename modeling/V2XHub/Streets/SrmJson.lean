import V2XHub.Streets.JsonValue

/-!
# Signal requests as JSON

A signal request message asks for one or more intersections. `toSRMJsonV` makes one JSON object of
every request, from the fields of the request and those of the message. The time stamp of the
message is assigned as the pointer it is, which JSON takes for a boolean; the id of the vehicle is
always read as that of a temporary id; and the elevation is multiplied by ten.

To read an optional field that is absent, or an alternative that is not the one present, has no
meaning: the result is then `none`.
-/

namespace V2XHub.Streets

open V2XHub.Lib

/-! ## The message -/

/-- `TemporaryID ::= OCTET STRING (SIZE(4))`. -/
structure TemporaryID where
  octets : List UInt8
  size : octets.length = 4

inductive VehicleID
  | entityID (id : TemporaryID)
  | stationID (id : Int)

inductive IntersectionAccessPoint
  | lane (id : Int)
  | approach (id : Int)
  | connection (id : Int)
  deriving DecidableEq, Repr

/-- `SignalRequestPackage`, with its `request`. -/
structure SignalRequestPackage where
  intersectionID : Int
  requestType : Int
  inBoundLane : IntersectionAccessPoint
  minute : Option Int := none
  second : Option Int := none
  duration : Option Int := none
  deriving DecidableEq, Repr

/-- `RequestorPositionVector`, with the place in it. `speed` is that of `TransmissionAndSpeed`. -/
structure RequestorPositionVector where
  lat : Int
  long : Int
  elevation : Option Int := none
  heading : Option Int := none
  speed : Option Int := none
  deriving DecidableEq, Repr

/-- `RequestorDescription`. The type is read for its role. -/
structure RequestorDescription where
  id : VehicleID
  role : Option Int := none
  position : Option RequestorPositionVector := none

structure SignalRequestMessage where
  timeStamp : Option Int := none
  second : Int
  sequenceNumber : Option Int := none
  requests : Option (List SignalRequestPackage) := none
  requestor : RequestorDescription

/-! ## The converter -/

namespace J2735ToSRMJson

/-- `FIFTY_TH` and `DEGREE_TO_TENTH_MICRODEGREE`. -/
def fiftyTh : ℚ := 2 / 100

def degreeToTenthMicrodegree : ℚ := 10000000

/-- `if (field) v[key] = *field`. -/
def setOptional (v : Value) (key : String) : Option Int → Value
  | some z => v.set key (.int z)
  | none => v

/-- The first four bytes of the buffer as an `int32_t`, lowest first. -/
def int32OfBytes (octets : List UInt8) : Int :=
  Int.bmod ((octets.take 4).foldr (fun b n => b.toNat + 256 * n) 0) 4294967296

/-- `memcpy` from `requestor.id.choice.entityID.buf`. -/
def vehicleValue : VehicleID → Option Int
  | .entityID id => some (int32OfBytes id.octets)
  | .stationID _ => none

def inBoundLaneJson : IntersectionAccessPoint → Value
  | .lane id => .obj [("LaneID", .int id)]
  | .approach id => .obj [("ApproachID", .int id)]
  | .connection id => .obj [("ConnectionID", .int id)]

def expectedTimeOfArrivalJson (package : SignalRequestPackage) : Value :=
  let eta := setOptional .null "ETA_Minute" package.minute
  let eta := setOptional eta "ETA_Second" package.second
  setOptional eta "ETA_Duration" package.duration

def positionJson (p : RequestorPositionVector) : Value :=
  let position := Value.null.set "latitude_DecimalDegree" (.real (p.lat / degreeToTenthMicrodegree))
  let position := position.set "longitude_DecimalDegree" (.real (p.long / degreeToTenthMicrodegree))
  match p.elevation with
  | some elevation => position.set "elevation_Meter" (.int (elevation * 10))
  | none => position

/-- The members for the time of the request. -/
def setTimes (request : Value) (srm : SignalRequestMessage) (package : SignalRequestPackage) :
    Value :=
  let request :=
    match srm.timeStamp with
    -- the pointer is assigned, not what it points to
    | some _ => request.set "minuteOfYear" (.bool true)
    | none => request
  let request := request.set "msOfMinute" (.int srm.second)
  let request := setOptional request "minuteOfYear" package.minute
  setOptional request "msOfMinute" package.second

/-- The members that are guarded by a test of the position. -/
def setMotion (request : Value) : Option RequestorPositionVector → Value
  | some p =>
      let request := setOptional request "heading_Degree" p.heading
      match p.speed with
      | some speed => request.set "speed_MeterPerSecond" (.real (speed / fiftyTh))
      | none => request
  | none => request

def requestJson (srm : SignalRequestMessage) (package : SignalRequestPackage) : Option Value := do
  let request :=
    match srm.sequenceNumber with
    | some n => Value.null.set "msgCount" (.int (n % 256))
    | none => .null
  let request := setTimes request srm package
  let request := request.set "intersectionID" (.int package.intersectionID)
  let request := request.set "priorityRequestType" (.int package.requestType)
  let role ← srm.requestor.role
  let request := request.set "basicVehicleRole" (.int role)
  let request := request.set "inBoundLane" (inBoundLaneJson package.inBoundLane)
  let request := request.set "expectedTimeOfArrival" (expectedTimeOfArrivalJson package)
  let value ← vehicleValue srm.requestor.id
  let request := request.set "vehicleID" (.int value)
  let request := setMotion request srm.requestor.position
  let p ← srm.requestor.position
  some (request.set "position" (positionJson p))

def srmJson (srm : SignalRequestMessage) (package : SignalRequestPackage) : Option Value := do
  let request ← requestJson srm package
  some ((Value.null.set "MsgType" (.str "SRM")).set "SignalRequest" request)

def toSRMJsonV (jsonV : List Value) (srm : SignalRequestMessage) : Option (List Value) :=
  match srm.requests with
  | some requests => (requests.mapM (srmJson srm)).map (jsonV ++ ·)
  | none => some jsonV

/-! ## What is asked of a request -/

/-- The number that stands for a vehicle. -/
def vehicleNumber : VehicleID → Int
  | .entityID id => int32OfBytes id.octets
  | .stationID id => id

/-- The minute of the year, the vehicle and the elevation in metres stand in the JSON of a request
as the message has them. -/
structure Describes (srm : SignalRequestMessage) (package : SignalRequestPackage) (json : Value) :
    Prop where
  minuteOfYear : ∃ request, json.member? "SignalRequest" = some request ∧
    request.member? "minuteOfYear" = (package.minute.or srm.timeStamp).map .int
  vehicleID : ∃ request, json.member? "SignalRequest" = some request ∧
    request.member? "vehicleID" = some (.int (vehicleNumber srm.requestor.id))
  elevation : ∃ request position, json.member? "SignalRequest" = some request ∧
    request.member? "position" = some position ∧
    (position.member? "elevation_Meter").bind Value.number? =
      (srm.requestor.position.bind (·.elevation)).map fun e => (e / 10 : ℚ)

/-- One JSON object for each request, in order, behind those that were there. -/
def Appends (srm : SignalRequestMessage) (jsonV : List Value) : Prop :=
  ∃ jsons, toSRMJsonV jsonV srm = some (jsonV ++ jsons) ∧
    List.Forall₂ (Describes srm) (srm.requests.getD []) jsons

/-! ## Members of a request -/

@[simp] theorem member?_setOptional (v : Value) (key k : String) (field : Option Int) :
    (setOptional v key field).member? k =
      if k = key then (field.map .int).or (v.member? k) else v.member? k := by
  cases field with
  | none =>
      show v.member? k = _
      split_ifs <;> rfl
  | some z =>
      show (v.set key (.int z)).member? k = _
      rw [Value.member?_set]
      split_ifs <;> rfl

theorem minuteOfYear_setTimes {request : Value} {srm : SignalRequestMessage}
    (package : SignalRequestPackage) (h : request.member? "minuteOfYear" = none) :
    (setTimes request srm package).member? "minuteOfYear" =
      (package.minute.map .int).or (srm.timeStamp.map fun _ => .bool true) := by
  unfold setTimes
  cases srm.timeStamp with
  | none => simp [h]
  | some t => simp

theorem member?_setMotion (request : Value) (p : Option RequestorPositionVector) {k : String}
    (hheading : k ≠ "heading_Degree") (hspeed : k ≠ "speed_MeterPerSecond") :
    (setMotion request p).member? k = request.member? k := by
  cases p with
  | none => rfl
  | some p =>
      have hsame : (setOptional request "heading_Degree" p.heading).member? k =
          request.member? k := by
        rw [member?_setOptional, if_neg hheading]
      simp only [setMotion]
      cases p.speed with
      | none => exact hsame
      | some speed => rw [Value.member?_set, if_neg hspeed, hsame]

theorem elevation_positionJson (p : RequestorPositionVector) :
    (positionJson p).member? "elevation_Meter" = p.elevation.map fun e => .int (e * 10) := by
  unfold positionJson
  cases p.elevation with
  | none => simp
  | some e => simp

variable {srm : SignalRequestMessage} {package : SignalRequestPackage}
  {p : RequestorPositionVector} {role : Int} {id : TemporaryID}

/-- **The request** of a vehicle with a temporary id. -/
theorem requestJson_entityID (package : SignalRequestPackage)
    (hrole : srm.requestor.role = some role) (hposition : srm.requestor.position = some p)
    (hid : srm.requestor.id = .entityID id) :
    ∃ request, requestJson srm package = some request ∧
      request.member? "minuteOfYear" =
        (package.minute.map .int).or (srm.timeStamp.map fun _ => .bool true) ∧
      request.member? "vehicleID" = some (.int (int32OfBytes id.octets)) ∧
      request.member? "position" = some (positionJson p) := by
  unfold requestJson
  rw [hrole, hposition, hid]
  refine ⟨_, rfl, ?_, ?_, ?_⟩
  · simp only [Value.member?_set, String.reduceEq, if_false]
    rw [member?_setMotion _ _ (by decide) (by decide)]
    simp only [Value.member?_set, String.reduceEq, if_false]
    apply minuteOfYear_setTimes
    cases srm.sequenceNumber <;> rfl
  · simp only [Value.member?_set, String.reduceEq, if_false]
    rw [member?_setMotion _ _ (by decide) (by decide)]
    simp
  · simp

/-- No request of a vehicle with a station id can be converted. -/
theorem requestJson_stationID {station : Int} (hid : srm.requestor.id = .stationID station) :
    requestJson srm package = none := by
  unfold requestJson
  rw [hid]
  cases srm.requestor.role <;> rfl

/-! ## The requests of a message -/

/-- Where the converter gets its values right: no request falls back on the time stamp of the
message, the vehicle goes by a temporary id, and there is no elevation but that of the ellipsoid. -/
@[mk_iff]
structure WellSourced (srm : SignalRequestMessage) : Prop where
  minute : ∀ package ∈ srm.requests.getD [], package.minute.isSome ∨ srm.timeStamp = none
  id : ∃ id, srm.requestor.id = .entityID id
  elevation : ∀ p, srm.requestor.position = some p → p.elevation = none ∨ p.elevation = some 0

theorem minute_eq_iff {minute timeStamp : Option Int} :
    (minute.map .int).or (timeStamp.map fun _ => .bool true) =
        (minute.or timeStamp).map Value.int ↔
      minute.isSome ∨ timeStamp = none := by
  cases minute <;> cases timeStamp <;> simp

theorem elevation_eq_iff {elevation : Option Int} :
    (elevation.map fun e => Value.int (e * 10)).bind Value.number? =
        elevation.map (fun e => (e / 10 : ℚ)) ↔
      elevation = none ∨ elevation = some 0 := by
  cases elevation with
  | none => simp
  | some e =>
      have htenth : (e : ℚ) * 10 = e / 10 ↔ e = 0 := by
        refine ⟨fun heq => ?_, fun heq => by rw [heq]; norm_num⟩
        have hzero : (e : ℚ) = 0 := by linarith
        exact_mod_cast hzero
      simpa [Value.number?] using htenth

/-- What is asked of the JSON is asked of the request in it. -/
theorem describes_set_iff {request : Value} :
    Describes srm package ((Value.null.set "MsgType" (.str "SRM")).set "SignalRequest" request) ↔
      request.member? "minuteOfYear" = (package.minute.or srm.timeStamp).map .int ∧
        request.member? "vehicleID" = some (.int (vehicleNumber srm.requestor.id)) ∧
        ∃ position, request.member? "position" = some position ∧
          (position.member? "elevation_Meter").bind Value.number? =
            (srm.requestor.position.bind (·.elevation)).map fun e => (e / 10 : ℚ) := by
  have hrequest : ((Value.null.set "MsgType" (.str "SRM")).set "SignalRequest" request).member?
      "SignalRequest" = some request := by simp
  constructor
  · rintro ⟨⟨r, hr, hminute⟩, ⟨r', hr', hvehicle⟩, r'', position, hr'', hplace, helevation⟩
    cases hrequest.symm.trans hr
    cases hrequest.symm.trans hr'
    cases hrequest.symm.trans hr''
    exact ⟨hminute, hvehicle, position, hplace, helevation⟩
  · rintro ⟨hminute, hvehicle, position, hplace, helevation⟩
    exact ⟨⟨request, hrequest, hminute⟩, ⟨request, hrequest, hvehicle⟩, request, position,
      hrequest, hplace, helevation⟩

/-- A request is converted as it should be exactly if its values come from the right places. -/
theorem describes_iff (hrole : srm.requestor.role = some role)
    (hposition : srm.requestor.position = some p) :
    (∃ json, srmJson srm package = some json ∧ Describes srm package json) ↔
      (package.minute.isSome ∨ srm.timeStamp = none) ∧
        (∃ id, srm.requestor.id = .entityID id) ∧ (p.elevation = none ∨ p.elevation = some 0) := by
  unfold srmJson
  cases hid : srm.requestor.id with
  | stationID station =>
      refine iff_of_false ?_ (fun h => nomatch h.2.1)
      rintro ⟨json, hjson, -⟩
      rw [requestJson_stationID hid] at hjson
      cases hjson
  | entityID id =>
      obtain ⟨request, hrequest, hminute, hvehicle, hplace⟩ :=
        requestJson_entityID package hrole hposition hid
      rw [hrequest, ← minute_eq_iff, ← elevation_eq_iff]
      simp only [Option.bind_eq_bind, Option.bind_some, Option.some.injEq, exists_eq_left']
      rw [describes_set_iff, hminute, hvehicle, hplace, hposition, hid]
      simp [elevation_positionJson, vehicleNumber]

/-- Every request is converted as it should be. -/
theorem appends_iff {jsonV : List Value} (hrole : srm.requestor.role = some role)
    (hposition : srm.requestor.position = some p) :
    Appends srm jsonV ↔ ∀ package ∈ srm.requests.getD [],
      (package.minute.isSome ∨ srm.timeStamp = none) ∧
        (∃ id, srm.requestor.id = .entityID id) ∧ (p.elevation = none ∨ p.elevation = some 0) := by
  have hmapM : Appends srm jsonV ↔ ∃ jsons, (srm.requests.getD []).mapM (srmJson srm) =
      some jsons ∧ List.Forall₂ (Describes srm) (srm.requests.getD []) jsons := by
    unfold Appends toSRMJsonV
    cases srm.requests with
    | none => simp
    | some requests => simp
  rw [hmapM, exists_mapM_iff]
  simp only [describes_iff hrole hposition]

/-- **Signal requests as JSON**: every request is there, in order and with its values from the right
places, exactly if there is none or the message is one for which the converter finds them. -/
theorem toSRMJsonV_appends_iff (srm : SignalRequestMessage) (jsonV : List Value)
    (hrole : srm.requestor.role.isSome = true) (hposition : srm.requestor.position.isSome = true) :
    Appends srm jsonV ↔ srm.requests.getD [] = [] ∨ WellSourced srm := by
  obtain ⟨role, hrole⟩ := Option.isSome_iff_exists.mp hrole
  obtain ⟨p, hposition⟩ := Option.isSome_iff_exists.mp hposition
  rw [appends_iff hrole hposition, wellSourced_iff, hposition]
  cases srm.requests.getD [] with
  | nil => simp
  | cons package requests =>
      have hfirst : package ∈ package :: requests := List.mem_cons_self
      constructor
      · intro h
        refine .inr ⟨fun package hpackage => (h package hpackage).1, (h package hfirst).2.1, ?_⟩
        intro q hq
        cases hq
        exact (h package hfirst).2.2
      · rintro (h | ⟨hminute, hid, helevation⟩) package hpackage
        · cases h
        · exact ⟨hminute package hpackage, hid, helevation p rfl⟩

/-- A vehicle that asks for one intersection. -/
def oneRequest (id : VehicleID) (minute : Option Int) (elevation : Option Int) :
    SignalRequestMessage where
  timeStamp := some 1000
  second := 500
  requests := some
    [{ intersectionID := 7, requestType := 1, inBoundLane := .lane 3, minute }]
  requestor :=
    { id, role := some 0, position := some { lat := 389549775, long := -771493380, elevation } }

def temporaryID : TemporaryID := ⟨[1, 2, 3, 4], rfl⟩

/-- A vehicle that asks for two intersections, the second by its approach. -/
def secondRequest : SignalRequestMessage :=
  { oneRequest (.entityID temporaryID) (some 1001) none with
    requests := some
      [{ intersectionID := 7, requestType := 1, inBoundLane := .lane 3, minute := some 1001 },
        { intersectionID := 8, requestType := 2, inBoundLane := .approach 4, minute := some 1002,
          second := some 30, duration := some 5 }] }

/-- Both requests are added behind what is there. -/
theorem toSRMJsonV_appends_secondRequest : Appends secondRequest [.str "earlier"] := by
  have hsourced : WellSourced secondRequest :=
    { minute := by decide
      id := ⟨temporaryID, rfl⟩
      elevation := by
        rintro p ⟨⟩
        exact .inl rfl }
  exact (toSRMJsonV_appends_iff secondRequest [.str "earlier"] rfl rfl).mpr (.inr hsourced)

/-- Without a minute of its own, from a station, or 12 decimetres up, a request is not converted as
it should be. -/
theorem toSRMJsonV_wrong_sources :
    ¬ Appends (oneRequest (.entityID temporaryID) none none) [] ∧
      ¬ Appends (oneRequest (.stationID 42) (some 1001) none) [] ∧
      ¬ Appends (oneRequest (.entityID temporaryID) (some 1001) (some 12)) [] := by
  refine ⟨?_, ?_, ?_⟩
  all_goals
    rw [appends_iff rfl rfl]
    intro hall
    obtain ⟨hminute, ⟨id, hid⟩, helevation⟩ := hall _ List.mem_cons_self
  · simp [oneRequest] at hminute
  · cases hid
  · simp at helevation

end J2735ToSRMJson

end V2XHub.Streets
