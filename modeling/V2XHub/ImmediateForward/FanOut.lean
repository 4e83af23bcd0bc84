import Mathlib.Data.List.Induction
import Mathlib.Data.List.Sigma
import V2XHub.ImmediateForward.Plugin
import V2XHub.Lib.EarlyExit

/-!
# The fan-out to the roadside units

A message should go to every unit once for each of its message configurations that has the type of
the message, unless signing fails for it, and through the unit's own client. Since
`SendMessageToRadio` returns when signing fails, and throws when an SNMP message cannot be made, a
failure keeps the message from all units behind. And since a client is kept under the name of its
unit, a unit loses its client to a later one with the same protocol and name.
-/

namespace V2XHub.ImmediateForward

open V2XHub.Lib V2XHub.Tmx

variable {hsm : Hsm} {createsPdu : CreatesPdu} {msg : IvpMessage}
  {imfConfigs : List ImfConfiguration}

/-! ## What should be sent -/

/-- The units with each of their message configurations. -/
def pairs (imfConfigs : List ImfConfiguration) : List Pair :=
  imfConfigs.zipIdx.flatMap fun (imfConfig, rsu) =>
    imfConfig.messageConfigs.zipIdx.map fun (messageConfig, message) =>
      Pair.mk rsu message imfConfig messageConfig

/-- The type of the message, for an SPDU that of the message in it. -/
def IvpMessage.tmxType (msg : IvpMessage) : String :=
  if isSPDU msg then msg.rawSpdu.messageType else msg.subtype

/-- The payload in upper case, for an SPDU its bytes. -/
def IvpMessage.text (msg : IvpMessage) : String :=
  if isSPDU msg then toUpperHex msg.rawSpdu.fullByteData else msg.payload.toUpper

def matching (imfConfigs : List ImfConfiguration) (msg : IvpMessage) : List Pair :=
  (pairs imfConfigs).filter fun p => p.messageConfig.tmxType = msg.tmxType

/-- What the unit should broadcast, unless signing fails. An SPDU is signed already. -/
def signedText (hsm : Hsm) (msg : IvpMessage) (p : Pair) : Option String :=
  if p.imfConfig.enableHsm = some true ∧ isSPDU msg = false then hsm p else some msg.text

/-- The unit's own client and table. -/
def ImfConfiguration.route (imfConfig : ImfConfiguration) (sendType : String) : Route :=
  match imfConfig.spec with
  | .RSU_4_1 => .udp ⟨imfConfig.address, imfConfig.port⟩
  | .NTCIP_1218 =>
      .ntcip1218 ⟨imfConfig.address, imfConfig.port, imfConfig.snmpAuth⟩
        (initializeImmediateForwardTable imfConfig.messageConfigs sendType)

/-- One delivery for each pair with the type of the message whose signing succeeds. -/
def expected (imfConfigs : List ImfConfiguration) (hsm : Hsm) (msg : IvpMessage) : List Delivery :=
  (matching imfConfigs msg).filterMap fun p => (signedText hsm msg p).map fun text =>
    p.deliver msg text (p.imfConfig.signMessage && !isSPDU msg)
      (p.imfConfig.route p.messageConfig.sendType)

/-! ## When it is sent -/

/-- The last unit with the same protocol and name, whose client it is that stays in the map. -/
def keeper (imfConfigs : List ImfConfiguration) (imfConfig : ImfConfiguration) :
    Option ImfConfiguration :=
  imfConfigs.reverse.find? fun other => other.spec = imfConfig.spec ∧ other.name = imfConfig.name

/-- Where the fan-out is as it should be. -/
structure FansOut (imfConfigs : List ImfConfiguration) (hsm : Hsm) (createsPdu : CreatesPdu)
    (msg : IvpMessage) : Prop where
  /-- an SPDU is valid, or nobody asks for it -/
  valid : (typeAndPayload msg).isSome ∨ matching imfConfigs msg = []
  /-- no failure of signing stands before a pair whose signing succeeds -/
  unbroken : (matching imfConfigs msg).Pairwise fun p q =>
    (signedText hsm msg q).isSome = true → (signedText hsm msg p).isSome = true
  /-- an SNMP message can be made of what should be sent -/
  created : ∀ p ∈ matching imfConfigs msg, ∀ text, signedText hsm msg p = some text →
    (p.deliver msg text (p.imfConfig.signMessage && !isSPDU msg)
      (p.imfConfig.route p.messageConfig.sendType)).sent.throws createsPdu = false
  /-- no unit has lost its client -/
  own : ∀ p ∈ matching imfConfigs msg, (signedText hsm msg p).isSome = true →
    ∀ other, keeper imfConfigs p.imfConfig = some other →
      other.route p.messageConfig.sendType = p.imfConfig.route p.messageConfig.sendType

/-! ## The clients -/

theorem route_setUp (s : Connections) (imfConfig other : ImfConfiguration) (sendType : String) :
    (setUp s other).route imfConfig sendType =
      if other.spec = imfConfig.spec ∧ other.name = imfConfig.name then
        some (other.route sendType)
      else
        s.route imfConfig sendType := by
  unfold setUp Connections.route ImfConfiguration.route
  cases hspec : other.spec <;> cases hspec' : imfConfig.spec <;>
    by_cases hname : imfConfig.name = other.name <;>
      simp [hname, eq_comm]

theorem keeper_concat (imfConfigs : List ImfConfiguration) (other imfConfig : ImfConfiguration) :
    keeper (imfConfigs ++ [other]) imfConfig =
      if other.spec = imfConfig.spec ∧ other.name = imfConfig.name then some other
      else keeper imfConfigs imfConfig := by
  unfold keeper
  rw [List.reverse_append, List.reverse_singleton, List.singleton_append, List.find?_cons]
  by_cases h : other.spec = imfConfig.spec ∧ other.name = imfConfig.name <;> simp [h]

theorem route_connect (imfConfigs : List ImfConfiguration) (imfConfig : ImfConfiguration)
    (sendType : String) :
    (connect imfConfigs).route imfConfig sendType =
      (keeper imfConfigs imfConfig).map (·.route sendType) := by
  induction imfConfigs using List.reverseRecOn with
  | nil =>
      unfold connect Connections.route
      cases imfConfig.spec <;> rfl
  | append_singleton imfConfigs other ih =>
      have hconnect : connect (imfConfigs ++ [other]) = setUp (connect imfConfigs) other :=
        List.foldl_append
      rw [hconnect, route_setUp, keeper_concat, ih]
      split_ifs <;> rfl

theorem mem_of_mem_pairs {p : Pair} (h : p ∈ pairs imfConfigs) : p.imfConfig ∈ imfConfigs := by
  obtain ⟨⟨imfConfig, rsu⟩, hrsu, hp⟩ := List.mem_flatMap.mp h
  obtain ⟨⟨messageConfig, message⟩, -, rfl⟩ := List.mem_map.mp hp
  exact List.fst_mem_of_mem_zipIdx hrsu

theorem exists_keeper {imfConfig : ImfConfiguration} (h : imfConfig ∈ imfConfigs) :
    ∃ other, keeper imfConfigs imfConfig = some other := by
  have hsome : (keeper imfConfigs imfConfig).isSome = true := by
    unfold keeper
    rw [List.find?_isSome]
    exact ⟨imfConfig, List.mem_reverse.mpr h, by simp⟩
  exact Option.isSome_iff_exists.mp hsome

theorem spec_of_keeper {imfConfig other : ImfConfiguration}
    (h : keeper imfConfigs imfConfig = some other) : other.spec = imfConfig.spec := by
  have hfound := List.find?_some h
  exact (of_decide_eq_true hfound).1

/-- Every pair has its place. -/
theorem nodup_places (imfConfigs : List ImfConfiguration) :
    ((pairs imfConfigs).map fun p => (p.rsu, p.message)).Nodup := by
  unfold pairs
  rw [List.map_flatMap, List.nodup_flatMap]
  constructor
  · rintro ⟨imfConfig, rsu⟩ -
    have hmessages := List.nodup_zipIdx_map_snd imfConfig.messageConfigs
    simp only [List.map_map]
    have hinj : Function.Injective fun message : Nat => (rsu, message) :=
      fun _ _ h => (Prod.mk.inj h).2
    have hplaces := hmessages.map hinj
    rwa [List.map_map] at hplaces
  · have hrsus := List.nodup_zipIdx_map_snd imfConfigs
    refine (List.pairwise_map.mp hrsus).imp ?_
    rintro ⟨c, i⟩ ⟨c', i'⟩ hne place hi hi'
    simp only [List.map_map, List.mem_map, Function.comp] at hi hi'
    obtain ⟨m, -, rfl⟩ := hi
    obtain ⟨m', -, heq⟩ := hi'
    exact hne (Prod.mk.inj heq).1.symm

/-! ## The loops -/

theorem sendToEach_eq (hsm : Hsm) (createsPdu : CreatesPdu) (msg : IvpMessage)
    (tmxType payload : String) (s : Sending) :
    sendToEach hsm createsPdu msg tmxType payload s =
      (pairs s.plugin.imfConfigs).foldlM (sendTo hsm createsPdu msg tmxType payload) s :=
  foldlM_flatMap _ _

theorem payloadByte_eq (hsm : Hsm) (msg : IvpMessage) (p : Pair) :
    payloadByte hsm msg msg.text p =
      (signedText hsm msg p).map fun text => (text, p.imfConfig.signMessage && !isSPDU msg) := by
  unfold payloadByte signedText
  by_cases hspdu : isSPDU msg = true
  · simp [hspdu]
  · by_cases hhsm : p.imfConfig.enableHsm = some true <;> simp [hspdu, hhsm]

theorem typeAndPayload_eq (h : (typeAndPayload msg).isSome = true) :
    typeAndPayload msg = some (msg.tmxType, msg.text) := by
  unfold typeAndPayload IvpMessage.tmxType IvpMessage.text getRawSpdu at *
  split_ifs at * <;> simp_all

/-- What is sent for a pair, through the client under the name of its unit. -/
def delivery (imfConfigs : List ImfConfiguration) (hsm : Hsm) (msg : IvpMessage) (p : Pair) :
    Delivery :=
  p.deliver msg ((signedText hsm msg p).getD "") (p.imfConfig.signMessage && !isSPDU msg)
    (((keeper imfConfigs p.imfConfig).getD p.imfConfig).route p.messageConfig.sendType)

/-- What should be sent for a pair. -/
def ownDelivery (hsm : Hsm) (msg : IvpMessage) (p : Pair) : Delivery :=
  p.deliver msg ((signedText hsm msg p).getD "") (p.imfConfig.signMessage && !isSPDU msg)
    (p.imfConfig.route p.messageConfig.sendType)

@[simp] theorem imfConfigs_count (u : ClockUnits) (now : Int) (tmxType : String) (s : Plugin) :
    (s.count u now tmxType).imfConfigs = s.imfConfigs := by
  simp only [Plugin.count]
  split_ifs <;> rfl

@[simp] theorem connections_count (u : ClockUnits) (now : Int) (tmxType : String) (s : Plugin) :
    (s.count u now tmxType).connections = s.connections := by
  simp only [Plugin.count]
  split_ifs <;> rfl

/-- The message is sent for a pair. -/
def goesOut (imfConfigs : List ImfConfiguration) (hsm : Hsm) (createsPdu : CreatesPdu)
    (msg : IvpMessage) (p : Pair) : Bool :=
  (signedText hsm msg p).isSome && !(delivery imfConfigs hsm msg p).sent.throws createsPdu

/-- The route for a pair, and the turn in which its text goes there. -/
theorem sendTo_eq {s : Sending} {p : Pair} (hp : p ∈ matching s.plugin.imfConfigs msg)
    (hsigned : (signedText hsm msg p).isSome = true) :
    sendTo hsm createsPdu msg msg.tmxType msg.text s p =
      if (delivery s.plugin.imfConfigs hsm msg p).sent.throws createsPdu then
        .error { s with foundMessageType := true }
      else .ok
        { s with
          foundMessageType := true
          deliveries := s.deliveries ++ [delivery s.plugin.imfConfigs hsm msg p] } := by
  obtain ⟨hpairs, htype⟩ := List.mem_filter.mp hp
  obtain ⟨text, htext⟩ := Option.isSome_iff_exists.mp hsigned
  obtain ⟨other, hother⟩ := exists_keeper (mem_of_mem_pairs hpairs)
  have hroute : s.plugin.connections.route p.imfConfig p.messageConfig.sendType =
      some (other.route p.messageConfig.sendType) := by
    rw [s.plugin.connected, route_connect, hother]
    rfl
  have hdelivery : delivery s.plugin.imfConfigs hsm msg p =
      p.deliver msg text (p.imfConfig.signMessage && !isSPDU msg)
        (other.route p.messageConfig.sendType) := by
    rw [delivery, htext, hother]
    rfl
  unfold sendTo
  rw [if_neg (not_not.mpr (of_decide_eq_true htype)), payloadByte_eq, htext, hdelivery]
  simp only [Option.map_some, hroute]

/-- A turn in which nothing goes wrong. -/
theorem sendTo_of_goesOut {s : Sending} {p : Pair} (hp : p ∈ matching s.plugin.imfConfigs msg)
    (hgoes : goesOut s.plugin.imfConfigs hsm createsPdu msg p = true) :
    ∃ t, sendTo hsm createsPdu msg msg.tmxType msg.text s p = .ok t ∧
      t.plugin = s.plugin ∧
      t.deliveries = s.deliveries ++ [delivery s.plugin.imfConfigs hsm msg p] := by
  obtain ⟨hsigned, hcreated⟩ := Bool.and_eq_true_iff.mp hgoes
  rw [sendTo_eq hp hsigned, if_neg (by simpa using hcreated)]
  exact ⟨_, rfl, rfl, rfl⟩

/-- A turn in which signing fails, or the client throws. -/
theorem sendTo_of_not_goesOut {s : Sending} {p : Pair} (hp : p ∈ matching s.plugin.imfConfigs msg)
    (hgoes : goesOut s.plugin.imfConfigs hsm createsPdu msg p = false) :
    ∃ t, sendTo hsm createsPdu msg msg.tmxType msg.text s p = .error t ∧
      t.deliveries = s.deliveries := by
  obtain ⟨-, htype⟩ := List.mem_filter.mp hp
  cases hsigned : signedText hsm msg p with
  | none =>
      unfold sendTo
      rw [if_neg (not_not.mpr (of_decide_eq_true htype)), payloadByte_eq, hsigned]
      exact ⟨_, rfl, rfl⟩
  | some text =>
      have hthrows : (delivery s.plugin.imfConfigs hsm msg p).sent.throws createsPdu = true := by
        simpa [goesOut, hsigned] using hgoes
      rw [sendTo_eq hp (Option.isSome_of_eq_some hsigned), if_pos hthrows]
      exact ⟨_, rfl, rfl⟩

/-- The turns of the pairs with another type do nothing. -/
theorem foldlM_sendTo_matching (s : Sending) :
    (pairs s.plugin.imfConfigs).foldlM (sendTo hsm createsPdu msg msg.tmxType msg.text) s =
      (matching s.plugin.imfConfigs msg).foldlM
        (sendTo hsm createsPdu msg msg.tmxType msg.text) s := by
  unfold matching
  rw [List.foldlM_filter]
  congr 1
  funext s p
  by_cases htype : p.messageConfig.tmxType = msg.tmxType
  · simp [htype]
  · simp [sendTo, htype]
    rfl

/-- What is sent is what the loops have sent when they are left. -/
theorem snd_sendMessageToRadio (u : ClockUnits) (now : Int) (hsm : Hsm)
    (createsPdu : CreatesPdu) (s : Plugin)
    {tmxType payload : String} (h : typeAndPayload msg = some (tmxType, payload)) :
    (sendMessageToRadio u now hsm createsPdu msg s).2 =
      (final (sendToEach hsm createsPdu msg tmxType payload
        ⟨s.count u now tmxType, false, []⟩)).deliveries := by
  unfold sendMessageToRadio
  rw [h]
  simp only
  split
  · next t ht => rw [ht]; rfl
  · next t ht =>
      rw [ht]
      split_ifs <;> rfl

/-- **What is sent** is what goes out for the matching pairs before the first failure. -/
theorem deliveries_sendMessageToRadio (u : ClockUnits) (now : Int) (hsm : Hsm)
    (createsPdu : CreatesPdu) (s : Plugin)
    (h : (typeAndPayload msg).isSome = true) :
    (sendMessageToRadio u now hsm createsPdu msg s).2 =
      ((matching s.imfConfigs msg).takeWhile (goesOut s.imfConfigs hsm createsPdu msg)).map
        (delivery s.imfConfigs hsm msg) := by
  rw [snd_sendMessageToRadio u now hsm createsPdu s (typeAndPayload_eq h), sendToEach_eq,
    foldlM_sendTo_matching]
  simp only [imfConfigs_count]
  refine (done_foldlM (I := fun t => t.plugin.imfConfigs = s.imfConfigs) ?_ ?_ ?_).trans
    (List.nil_append _)
  · intro t ht p hp hgoes
    rw [← ht] at hp hgoes
    obtain ⟨t', hsent, hplugin, hdeliveries⟩ := sendTo_of_goesOut hp hgoes
    exact ⟨t', hsent, hplugin ▸ ht, ht ▸ hdeliveries⟩
  · intro t ht p hp hgoes
    rw [← ht] at hp hgoes
    exact sendTo_of_not_goesOut hp hgoes
  · exact imfConfigs_count u now msg.tmxType s

/-! ## The fan-out -/

theorem expected_eq (imfConfigs : List ImfConfiguration) (hsm : Hsm) (msg : IvpMessage) :
    expected imfConfigs hsm msg =
      ((matching imfConfigs msg).filter fun p => (signedText hsm msg p).isSome).map
        (ownDelivery hsm msg) := by
  unfold expected
  induction matching imfConfigs msg with
  | nil => rfl
  | cons p ps ih =>
      cases hsigned : signedText hsm msg p with
      | none => simp [hsigned, ih]
      | some text => simp [hsigned, ih, ownDelivery]

theorem deliver_inj {p : Pair} {text : String} {sign : Bool} {route route' : Route} :
    p.deliver msg text sign route = p.deliver msg text sign route' ↔ route = route' := by
  cases route <;> cases route' <;> simp [Pair.deliver]

/-- A pair has its own delivery exactly if the unit has not lost its client. -/
theorem delivery_eq_iff {p : Pair} (hp : p ∈ pairs imfConfigs) :
    delivery imfConfigs hsm msg p = ownDelivery hsm msg p ↔
      ∀ other, keeper imfConfigs p.imfConfig = some other →
        other.route p.messageConfig.sendType = p.imfConfig.route p.messageConfig.sendType := by
  obtain ⟨other, hother⟩ := exists_keeper (mem_of_mem_pairs hp)
  unfold delivery ownDelivery
  rw [deliver_inj, hother]
  simp

theorem nodup_places_matching (imfConfigs : List ImfConfiguration) (msg : IvpMessage) :
    ((matching imfConfigs msg).map fun p => (p.rsu, p.message)).Nodup :=
  (nodup_places imfConfigs).sublist (List.filter_sublist.map _)

/-- An SPDU that is not valid is not sent at all. -/
theorem sendMessageToRadio_invalid_iff (u : ClockUnits) (now : Int) (hsm : Hsm)
    (createsPdu : CreatesPdu) (s : Plugin)
    (h : typeAndPayload msg = none) :
    (sendMessageToRadio u now hsm createsPdu msg s).2.Perm (expected s.imfConfigs hsm msg) ↔
      matching s.imfConfigs msg = [] := by
  have hspdu : isSPDU msg = true := by
    by_contra hplain
    simp [typeAndPayload, hplain] at h
  have hsigned : ∀ p, signedText hsm msg p = some msg.text := fun p => by
    simp [signedText, hspdu]
  have hnothing : (sendMessageToRadio u now hsm createsPdu msg s).2 = [] := by
    unfold sendMessageToRadio
    rw [h]
  rw [hnothing, List.nil_perm, expected_eq, List.map_eq_nil_iff, List.filter_eq_nil_iff]
  simp [hsigned, List.eq_nil_iff_forall_not_mem]

/-- **The fan-out**: each unit gets what it should, once, exactly if no failure of signing stands
before it, an SNMP message can be made of all that should be sent, and no unit has lost its
client. -/
theorem sendMessageToRadio_perm_expected_iff (u : ClockUnits) (now : Int) (hsm : Hsm)
    (createsPdu : CreatesPdu) (msg : IvpMessage) (s : Plugin) :
    (sendMessageToRadio u now hsm createsPdu msg s).2.Perm (expected s.imfConfigs hsm msg) ↔
      FansOut s.imfConfigs hsm createsPdu msg := by
  cases hvalid : typeAndPayload msg with
  | none =>
      rw [sendMessageToRadio_invalid_iff u now hsm createsPdu s hvalid]
      constructor
      · intro hnil
        constructor
        · exact .inr hnil
        · simp [hnil]
        · simp [hnil]
        · simp [hnil]
      · intro h
        exact h.valid.resolve_left (by simp [hvalid])
  | some typed =>
      have hsome : (typeAndPayload msg).isSome = true := Option.isSome_of_eq_some hvalid
      have hmem : ∀ p ∈ matching s.imfConfigs msg, p ∈ pairs s.imfConfigs := fun p hp =>
        (List.mem_filter.mp hp).1
      have hgoes : ∀ p, goesOut s.imfConfigs hsm createsPdu msg p = true →
          (signedText hsm msg p).isSome = true := fun p h => (Bool.and_eq_true_iff.mp h).1
      rw [deliveries_sendMessageToRadio u now hsm createsPdu s hsome, expected_eq,
        takeWhile_map_perm_iff (fun d => (d.rsu, d.message)) (fun p => (p.rsu, p.message)) hgoes
          (fun _ => rfl) (fun _ => rfl) (nodup_places_matching s.imfConfigs msg)]
      constructor
      · rintro ⟨hall, hunbroken, hown⟩
        refine ⟨.inl hsome, hunbroken, fun p hp text htext => ?_, fun p hp hsigned => ?_⟩
        · have hsigned := Option.isSome_of_eq_some htext
          have hout := (Bool.and_eq_true_iff.mp (hall p hp hsigned)).2
          rw [hown p hp hsigned, ownDelivery, htext] at hout
          simpa using hout
        · exact (delivery_eq_iff (hmem p hp)).mp (hown p hp hsigned)
      · intro h
        have hown : ∀ p ∈ matching s.imfConfigs msg, (signedText hsm msg p).isSome = true →
            delivery s.imfConfigs hsm msg p = ownDelivery hsm msg p :=
          fun p hp hsigned => (delivery_eq_iff (hmem p hp)).mpr (h.own p hp hsigned)
        refine ⟨fun p hp hsigned => ?_, h.unbroken, hown⟩
        obtain ⟨text, htext⟩ := Option.isSome_iff_exists.mp hsigned
        have hcreated := h.created p hp text htext
        rw [goesOut, hown p hp hsigned, ownDelivery, htext]
        exact Bool.and_eq_true_iff.mpr ⟨rfl, by simpa using hcreated⟩

/-- Two units that take MAP messages, the first one signed by the HSM. -/
def twoUnits : List ImfConfiguration := [
  { name := "East", spec := .RSU_4_1, address := "10.0.0.1", port := 1516
    messageConfigs := [⟨"MAP-P", "MAP", "0x8002", some 183⟩]
    signMessage := false
    enableHsm := some true },
  { name := "West", spec := .RSU_4_1, address := "10.0.0.2", port := 1516
    messageConfigs := [⟨"MAP-P", "MAP", "0x8002", some 183⟩]
    signMessage := false }]

/-- The HSM fails for the first unit, and the second gets nothing either. -/
theorem sendMessageToRadio_first_failing :
    (sendMessageToRadio ⟨1, by decide⟩ 0 (fun _ => none) (fun _ => true)
        { type := "J2735", subtype := "MAP-P", payload := "0012", channel := 183 }
        (.started twoUnits)).2 = [] ∧
      ¬ (sendMessageToRadio ⟨1, by decide⟩ 0 (fun _ => none) (fun _ => true)
          { type := "J2735", subtype := "MAP-P", payload := "0012", channel := 183 }
          (.started twoUnits)).2.Perm
        (expected twoUnits (fun _ => none)
          { type := "J2735", subtype := "MAP-P", payload := "0012", channel := 183 }) := by
  have hsent : (sendMessageToRadio ⟨1, by decide⟩ 0 (fun _ => none) (fun _ => true)
      { type := "J2735", subtype := "MAP-P", payload := "0012", channel := 183 }
      (.started twoUnits)).2 = [] := rfl
  refine ⟨hsent, fun hperm => ?_⟩
  have hlength := hperm.length_eq
  rw [hsent] at hlength
  cases hlength

end V2XHub.ImmediateForward
