import V2XHub.Streets.JsonValue

/-!
# MAP messages as JSON

A MAP message describes the lanes of intersections. A lane is a list of nodes, most of them offsets
from the one before, and `convertNodeListToJSON` goes over the list and asks of each node which of
the six kinds of XY offset it is. A node of another kind, a place given by latitude and longitude or
a regional extension, is none of them and is left out.

Optional fields are pointers. To read one that is null has no meaning: the result is then `none`.
-/

namespace V2XHub.Streets

/-! ## The message -/

/-- A `BIT_STRING_t`. -/
structure BitString where
  buf : List UInt8
  bitsUnused : Nat
  deriving DecidableEq, Repr

/-- `NodeOffsetPointXY`: the six sizes of XY offsets, a place, or a regional extension. -/
inductive NodeOffsetPointXY
  | nodeXY1 (x y : Int)
  | nodeXY2 (x y : Int)
  | nodeXY3 (x y : Int)
  | nodeXY4 (x y : Int)
  | nodeXY5 (x y : Int)
  | nodeXY6 (x y : Int)
  | nodeLatLon (lon lat : Int)
  | regional
  deriving DecidableEq, Repr

structure NodeXY where
  delta : NodeOffsetPointXY
  deriving DecidableEq, Repr

/-- A computed lane refers to another lane, and has no nodes of its own. -/
inductive NodeListXY
  | nodes (list : List NodeXY)
  | computed (referenceLaneId : Int)
  deriving DecidableEq, Repr

/-- `LaneTypeAttributes`, with the bits of the type. -/
inductive LaneTypeAttributes
  | vehicle (bits : BitString)
  | crosswalk (bits : BitString)
  | bikeLane (bits : BitString)
  | sidewalk (bits : BitString)
  | median (bits : BitString)
  | striping (bits : BitString)
  | trackedVehicle (bits : BitString)
  | parking (bits : BitString)
  deriving DecidableEq, Repr

structure LaneAttributes where
  directionalUse : BitString
  sharedWith : BitString
  laneType : LaneTypeAttributes
  deriving DecidableEq, Repr

structure Connection where
  connectingLane : Int
  signalGroup : Option Int
  deriving DecidableEq, Repr

structure GenericLane where
  laneID : Int
  ingressApproach : Option Int
  egressApproach : Option Int
  laneAttributes : LaneAttributes
  nodeList : NodeListXY
  connectsTo : Option (List Connection)
  deriving DecidableEq, Repr

structure RefPoint where
  lat : Int
  long : Int
  elevation : Option Int
  deriving DecidableEq, Repr

structure IntersectionGeometry where
  id : Int
  revision : Int
  refPoint : RefPoint
  laneWidth : Option Int
  laneSet : List GenericLane
  deriving DecidableEq, Repr

structure MapData where
  msgIssueRevision : Int
  layerType : Option Int
  layerID : Option Int
  intersections : Option (List IntersectionGeometry)
  deriving DecidableEq, Repr

/-! ## The converter -/

namespace J2735MapToJson

/-- `std::to_string` of a number, and what a stream prints for it. -/
def text (z : Int) : Value := .str (toString z)

/-- What a stream prints for a buffer of bytes: the characters up to the first null. The decoder
puts one behind the last byte. -/
def bufText (bits : BitString) : Value :=
  .str (String.ofList ((bits.buf.takeWhile (· ≠ 0)).map fun b => Char.ofNat b.toNat))

/-- The JSON of a node with an XY offset. -/
def nodeXYJson (x y : Int) : Value :=
  .obj [("delta", .obj [("node-xy", .obj [("x", text x), ("y", text y)])])]

/-- A turn of the loop over the nodes. -/
def appendNode (nodeListJson : Value) (node : NodeXY) : Value :=
  match node.delta with
  | .nodeXY1 x y => nodeListJson.append (nodeXYJson x y)
  | .nodeXY2 x y => nodeListJson.append (nodeXYJson x y)
  | .nodeXY3 x y => nodeListJson.append (nodeXYJson x y)
  | .nodeXY4 x y => nodeListJson.append (nodeXYJson x y)
  | .nodeXY5 x y => nodeListJson.append (nodeXYJson x y)
  | .nodeXY6 x y => nodeListJson.append (nodeXYJson x y)
  | _ => nodeListJson

def convertNodeListToJSON (lane : GenericLane) (nodeListJson : Value) : Value :=
  match lane.nodeList with
  | .nodes list => list.foldl appendNode nodeListJson
  | .computed _ => nodeListJson

/-- A connection. Its signal group is read whether it is there or not. -/
def connJson (connect : Connection) : Option Value := do
  let signalGroup ← connect.signalGroup
  some (.obj
    [("connecting_lane", .obj [("lane", text connect.connectingLane)]),
     ("signal_group", text signalGroup)])

def convertConnectsToJSON (lane : GenericLane) (connectsJson : Value) : Option Value :=
  match lane.connectsTo with
  | some list => connectsJson.appendEach connJson list
  | none => some connectsJson

def convertLaneAttributeToJSON (lane : GenericLane) : Value :=
  let attributes := lane.laneAttributes
  let directionalUse :=
    match attributes.directionalUse.buf with
    | [] => []
    | b :: _ =>
        let binary := b.toNat >>> attributes.directionalUse.bitsUnused
        [("directional_use", .str (toString (binary / 2) ++ toString (binary % 2)))]
  let laneType :=
    match attributes.laneType with
    | .vehicle bits => ("vehicle", bufText bits)
    | .crosswalk bits => ("crosswalk", bufText bits)
    | .bikeLane bits => ("bike_lane", bufText bits)
    | .median bits => ("median", bufText bits)
    | .parking bits => ("parking", bufText bits)
    | .sidewalk bits => ("sidewalk", bufText bits)
    | .striping bits => ("striping", bufText bits)
    | .trackedVehicle bits => ("tracked_vehicle", bufText bits)
  .obj (directionalUse ++
    [("shared_with", bufText attributes.sharedWith), ("lane_type", .obj [laneType])])

/-- A member for an optional field, if it is there. -/
def optional (key : String) (field : Option Int) : List (String × Value) :=
  match field with
  | some z => [(key, text z)]
  | none => []

/-- The member for the connections, if there are any. -/
def connectsTo (lane : GenericLane) : Option (List (String × Value)) :=
  match lane.connectsTo with
  | some _ => (convertConnectsToJSON lane .null).map fun json => [("connects_to", json)]
  | none => some []

def laneJson (lane : GenericLane) : Option Value := do
  let connectsTo ← connectsTo lane
  some (.obj ([("lane_id", text lane.laneID)] ++
    optional "ingress_approach" lane.ingressApproach ++
    optional "egressApproach" lane.egressApproach ++
    [("lane_attributes", convertLaneAttributeToJSON lane),
     ("node_list", .obj [("nodes", convertNodeListToJSON lane .null)])] ++
    connectsTo))

def convertLanesetToJSON (intersection : IntersectionGeometry) (laneSetJson : Value) :
    Option Value :=
  laneSetJson.appendEach laneJson intersection.laneSet

def intersectionJson (intersection : IntersectionGeometry) : Option Value := do
  let laneWidth ← intersection.laneWidth
  let laneSetJson ← convertLanesetToJSON intersection .null
  some (.obj
    [("id", .obj [("id", text intersection.id)]),
     ("lane_width", text laneWidth),
     ("revision", text intersection.revision),
     ("ref_point", .obj ([("lat", text intersection.refPoint.lat),
       ("long", text intersection.refPoint.long)] ++
       optional "elevation" intersection.refPoint.elevation)),
     ("lane_set", laneSetJson)])

/-- Each intersection takes the place of the one before. -/
def intersectionsJson (intersections : List IntersectionGeometry) : Option Value :=
  intersections.foldlM (fun intersectionsJson intersection => do
    let intersectionJson ← intersectionJson intersection
    some (intersectionsJson.set "intersection_geometry" intersectionJson)) .null

/-- The member for the intersections, if there is a list of them. -/
def intersections (mapMsg : MapData) : Option (List (String × Value)) :=
  match mapMsg.intersections with
  | some list => (intersectionsJson list).map fun json => [("intersections", json)]
  | none => some []

/-- `timestamp` is the clock in milliseconds. -/
def convertJ2735MAPToMapJSON (timestamp : Int) (mapMsg : MapData) : Option Value := do
  let layerID ← mapMsg.layerID
  let intersections ← intersections mapMsg
  some (.obj
    [("metadata", .obj [("timestamp", text timestamp)]),
     ("map_data", .obj ([("layer_id", text layerID),
       ("msg_issue_revision", text mapMsg.msgIssueRevision)] ++
       optional "layer_type" mapMsg.layerType ++ intersections))])

/-! ## Nodes -/

/-- An XY offset. -/
def xy? : NodeOffsetPointXY → Option (Int × Int)
  | .nodeXY1 x y | .nodeXY2 x y | .nodeXY3 x y | .nodeXY4 x y | .nodeXY5 x y | .nodeXY6 x y =>
      some (x, y)
  | .nodeLatLon _ _ => none
  | .regional => none

theorem appendNode_eq (nodeListJson : Value) (node : NodeXY) :
    appendNode nodeListJson node =
      match xy? node.delta with
      | some (x, y) => nodeListJson.append (nodeXYJson x y)
      | none => nodeListJson := by
  unfold appendNode
  cases node.delta <;> rfl

/-- The JSON node that stands for a node, any for one that has no XY offset. -/
def Describes (node : NodeXY) (json : Value) : Prop :=
  ∀ x y, xy? node.delta = some (x, y) → json = nodeXYJson x y

/-- One JSON node for every node, in order. -/
def NodesKept (list : List NodeXY) (nodeListJson : Value) : Prop :=
  List.Forall₂ Describes list nodeListJson.elements

/-- The JSON nodes are those of the nodes with an XY offset. -/
theorem elements_foldl_appendNode (v : Value) (list : List NodeXY) :
    (list.foldl appendNode v).elements =
      v.elements ++
        list.filterMap fun node => (xy? node.delta).map fun p => nodeXYJson p.1 p.2 := by
  induction list generalizing v with
  | nil => simp
  | cons node list ih =>
      rw [List.foldl_cons, ih, appendNode_eq, List.filterMap_cons]
      cases xy? node.delta with
      | none => rfl
      | some p =>
          show (v.append (nodeXYJson p.1 p.2)).elements ++ _ = _
          rw [Value.elements_append, List.append_assoc]
          rfl

theorem forall₂_describes {list : List NodeXY}
    (h : ∀ node ∈ list, (xy? node.delta).isSome = true) :
    List.Forall₂ Describes list
      (list.filterMap fun node => (xy? node.delta).map fun p => nodeXYJson p.1 p.2) := by
  induction list with
  | nil => exact .nil
  | cons node list ih =>
      obtain ⟨hnode, hlist⟩ := List.forall_mem_cons.mp h
      obtain ⟨p, hp⟩ := Option.isSome_iff_exists.mp hnode
      rw [List.filterMap_cons, hp]
      refine .cons ?_ (ih hlist)
      intro x y hxy
      rw [hp] at hxy
      cases hxy
      rfl

/-- **The nodes of a lane**: each of them has its JSON node exactly if all of them are XY offsets.
-/
theorem convertNodeListToJSON_kept_iff (lane : GenericLane) (list : List NodeXY)
    (hnodes : lane.nodeList = .nodes list) :
    NodesKept list (convertNodeListToJSON lane .null) ↔
      ∀ node ∈ list, (xy? node.delta).isSome = true := by
  have helements := elements_foldl_appendNode .null list
  unfold NodesKept convertNodeListToJSON
  rw [hnodes]
  show List.Forall₂ Describes list (list.foldl appendNode .null).elements ↔ _
  rw [helements]
  constructor
  · intro hkept node hnode
    -- nothing has been left out, since nothing was added either
    have hlength := hkept.length_eq.symm
    have hall := List.filterMap_length_eq_length.mp hlength node hnode
    simpa using hall
  · intro hall
    exact forall₂_describes hall

/-- Where the nodes of a lane stand in its JSON. -/
theorem nodes_laneJson {lane : GenericLane} {json : Value} (h : laneJson lane = some json) :
    json.getPath ["node_list", "nodes"] = some (convertNodeListToJSON lane .null) := by
  unfold laneJson at h
  obtain ⟨connectsTo, -, hjson⟩ := Option.bind_eq_some_iff.mp h
  cases hjson
  have hlookup : ∀ key field, key ≠ "node_list" →
      (optional key field).lookup "node_list" = none := by
    intro key field hkey
    cases field with
    | none => rfl
    | some z => simp [optional, List.lookup_cons, beq_eq_false_iff_ne.mpr (Ne.symm hkey)]
  simp only [Value.getPath, Value.get, List.append_assoc, List.lookup_append]
  rw [hlookup _ _ (by decide), hlookup _ _ (by decide)]
  rfl

/-- The lanes keep their order, each with its nodes. -/
theorem convertLanesetToJSON_nodes {intersection : IntersectionGeometry} {laneSetJson : Value}
    (h : convertLanesetToJSON intersection .null = some laneSetJson) :
    List.Forall₂ (fun lane json => json.getPath ["node_list", "nodes"] =
        some (convertNodeListToJSON lane .null))
      intersection.laneSet laneSetJson.elements := by
  obtain ⟨jsons, helements, hjsons⟩ := Value.appendEach_eq_some h
  rw [helements]
  exact hjsons.imp fun _ _ hjson => nodes_laneJson hjson

/-- A lane of three nodes. -/
def lane (deltas : List NodeOffsetPointXY) : GenericLane where
  laneID := 1
  ingressApproach := some 1
  egressApproach := none
  laneAttributes :=
    { directionalUse := ⟨[0x80], 6⟩, sharedWith := ⟨[0, 0], 6⟩, laneType := .vehicle ⟨[0], 0⟩ }
  nodeList := .nodes (deltas.map NodeXY.mk)
  connectsTo := none

theorem convertNodeListToJSON_kept_three :
    NodesKept (([.nodeXY1 1 2, .nodeXY6 3 4, .nodeXY2 5 6] : List _).map NodeXY.mk)
      (convertNodeListToJSON (lane [.nodeXY1 1 2, .nodeXY6 3 4, .nodeXY2 5 6]) .null) :=
  (convertNodeListToJSON_kept_iff (lane [.nodeXY1 1 2, .nodeXY6 3 4, .nodeXY2 5 6]) _ rfl).mpr
    (by decide)

/-- A lane that goes on from a place: the offset behind it is counted from the node before it. -/
theorem convertNodeListToJSON_drops_place :
    (convertNodeListToJSON (lane [.nodeXY1 1 2, .nodeLatLon 3 4, .nodeXY2 5 6]) .null).elements =
        [nodeXYJson 1 2, nodeXYJson 5 6] ∧
      ¬ NodesKept (([.nodeXY1 1 2, .nodeLatLon 3 4, .nodeXY2 5 6] : List _).map NodeXY.mk)
        (convertNodeListToJSON (lane [.nodeXY1 1 2, .nodeLatLon 3 4, .nodeXY2 5 6]) .null) := by
  refine ⟨rfl, fun hkept => ?_⟩
  have hlength := hkept.length_eq
  cases hlength

end J2735MapToJson

end V2XHub.Streets
