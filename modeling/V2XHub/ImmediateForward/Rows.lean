import Mathlib.Data.List.TakeWhile
import V2XHub.ImmediateForward.FanOut
import V2XHub.ImmediateForward.Worker
import V2XHub.Lib.History

/-!
# The rows of the NTCIP 1218 units

A row of the table of a unit is made for each message configuration, with the channel of it. The
rows are looked up by send type, and what is written to a row later leaves its channel alone. So a
message goes out on the channel of the last message configuration with its send type.
-/

namespace V2XHub.ImmediateForward

open V2XHub.Lib V2XHub.Lib.Outside

/-! ## Units that keep their objects -/

/-- What the objects of a unit have been set to, by their OIDs. -/
abbrev Objects := String → Option String

def Objects.write (objects : Objects) (requests : List SnmpRequest) : Objects :=
  requests.foldl (fun objects request =>
    Function.update objects request.oid (some request.value)) objects

/-- A unit that sets its objects to what it is asked for, where it accepts it. -/
def keeping (accepts : List SnmpRequest → Bool) : Network Objects where
  validate_address _ s := (true, s)
  generate_Ku _ _ s := (true, s)
  snmp_open _ s := (true, s)
  socket _ _ s := (none, s)
  get _ oid s := ((s oid).map String.toInt?, s)
  set _ request s := if accepts [request] then (true, s.write [request]) else (false, s)
  set_requests _ requests s :=
    if accepts requests then (.ok true, s.write requests) else (.ok false, s)

/-- The objects of each unit, by its name. -/
abbrev Tables := String → Objects

variable (accepts : List SnmpRequest → Bool)

/-- The rows of a unit are made after its table has been emptied. There is nothing if it fails. -/
def setUpTable (tables : Tables) (imfConfig : ImfConfiguration) : Option Tables :=
  match imfConfig.spec with
  | .RSU_4_1 => some tables
  | .NTCIP_1218 =>
      match outcome (createImmediateForwardTable (keeping accepts)
          ⟨imfConfig.address, imfConfig.port, imfConfig.snmpAuth⟩ imfConfig.messageConfigs
          imfConfig.signMessage (imfConfig.payloadPlaceholder.getD "FFFF")) fun _ => none with
      | (.ok _, objects) => some (Function.update tables imfConfig.name objects)
      | (.error _, _) => none

def setUpTables (imfConfigs : List ImfConfiguration) : Option Tables :=
  imfConfigs.foldlM (setUpTable accepts) fun _ _ => none

/-- The objects after a message has been sent to the unit of that name. -/
def transmit (tables : Tables) (name : String) (sent : Sent) : Tables :=
  match sent with
  | .udp _ _ => tables
  | .ntcip1218 client message index psid signMessage =>
      Function.update tables name
        (outcome (sendNTCIP1218ImfMessage (keeping accepts) client message index psid signMessage)
          (tables name)).2

/-- The messages that are sent, each with the objects as they are then. -/
def transmissions (imfConfigs : List ImfConfiguration) (tables : Tables) :
    List Delivery → List (Tables × Delivery) × Tables
  | [] => ([], tables)
  | d :: ds =>
      let name := (imfConfigs[d.rsu]?.map (·.name)).getD ""
      let tables := transmit accepts tables name d.sent
      let rest := transmissions imfConfigs tables ds
      ((tables, d) :: rest.1, rest.2)

/-- A message that comes, and what the HSM and net-snmp make of it. -/
structure Post where
  now : Int
  hsm : Hsm
  createsPdu : CreatesPdu
  msg : IvpMessage

/-- What is sent for messages that come one after the other. -/
def broadcasts (u : Tmx.ClockUnits) : List Post → Plugin → Tables → List (Tables × Delivery)
  | [], _, _ => []
  | post :: posts, s, tables =>
      let sent := sendMessageToRadio u post.now post.hsm post.createsPdu post.msg s
      let made := transmissions accepts s.imfConfigs tables sent.2
      made.1 ++ broadcasts u posts sent.1 made.2

/-! ## The channel of a message -/

/-- A row that was made for a channel, and has it still. -/
def RowMade (objects : Objects) (index : Nat) (channel : Int) : Prop :=
  objects (inRow rsuIFMStatusOid index) = some "4" ∧
    objects (inRow rsuIFMTxChannelOid index) = some (toString channel)

/-- A message to an NTCIP 1218 unit is written to a row that was made with the channel of its
message configuration. -/
def OnChannel (imfConfigs : List ImfConfiguration) (tables : Tables) (d : Delivery) : Prop :=
  ∀ client message index psid signMessage,
    d.sent = .ntcip1218 client message index psid signMessage →
    ∃ p ∈ pairs imfConfigs, p.rsu = d.rsu ∧ p.message = d.message ∧
      ∃ channel, p.messageConfig.channel = some channel ∧
        RowMade (tables p.imfConfig.name) index channel

/-- The last message configuration of that send type, in the unit whose client stays in the map. -/
def rowConfig (imfConfigs : List ImfConfiguration) (p : Pair) : Option MessageConfig :=
  (keeper imfConfigs p.imfConfig).bind fun other =>
    latest (·.sendType) p.messageConfig.sendType other.messageConfigs

/-- Where every message goes out on its channel. -/
def OneChannelEach (imfConfigs : List ImfConfiguration) : Prop :=
  ∀ p ∈ pairs imfConfigs, p.imfConfig.spec = .NTCIP_1218 →
    ∃ m, rowConfig imfConfigs p = some m ∧ m.channel = p.messageConfig.channel

/-! ## The objects of a row -/

theorem toList_inRow (oid : String) (i : Nat) :
    (inRow oid i).toList = oid.toList ++ '.' :: (Nat.repr i).toList := by
  show (oid ++ "." ++ Nat.repr i).toList = _
  rw [String.toList_append, String.toList_append, List.append_assoc]
  rfl

theorem inRow_inj {oid oid' : String} (hlength : oid.toList.length = oid'.toList.length)
    {i j : Nat} : inRow oid i = inRow oid' j ↔ oid = oid' ∧ i = j := by
  constructor
  · intro h
    have hlist := congrArg String.toList h
    rw [toList_inRow, toList_inRow] at hlist
    obtain ⟨hoid, hindex⟩ := List.append_inj hlist hlength
    have hrepr := List.tail_eq_of_cons_eq hindex
    exact ⟨String.toList_inj.mp hoid, Nat.repr_inj.mp (String.toList_inj.mp hrepr)⟩
  · rintro ⟨rfl, rfl⟩
    rfl

/-- The columns of the table that are written. -/
def columns : List String := [
  rsuIFMPsidOid, rsuIFMTxChannelOid, rsuIFMPayloadOid, rsuIFMEnableOid, rsuIFMStatusOid,
  rsuIFMPriorityOid, rsuIFMOptionsOid]

theorem length_column {oid : String} (h : oid ∈ columns) : oid.toList.length = 31 := by
  have hall : ∀ oid ∈ columns, oid.toList.length = 31 := by decide
  exact hall oid h

theorem inRow_column_inj {oid oid' : String} (h : oid ∈ columns) (h' : oid' ∈ columns)
    {i j : Nat} : inRow oid i = inRow oid' j ↔ oid = oid' ∧ i = j :=
  inRow_inj ((length_column h).trans (length_column h').symm)

/-- Objects that no request is about keep their values. -/
theorem write_of_not_mem {objects : Objects} {requests : List SnmpRequest} {oid : String}
    (h : ∀ request ∈ requests, request.oid ≠ oid) : objects.write requests oid = objects oid := by
  unfold Objects.write
  induction requests generalizing objects with
  | nil => rfl
  | cons request requests ih =>
      rw [List.foldl_cons, ih fun r hr => h r (List.mem_cons_of_mem request hr)]
      exact Function.update_of_ne (h request List.mem_cons_self).symm _ _

/-- An object that one request is about has its value. -/
theorem write_of_mem (objects : Objects) {requests : List SnmpRequest}
    (hnodup : (requests.map (·.oid)).Nodup) {request : SnmpRequest} (h : request ∈ requests) :
    objects.write requests request.oid = some request.value := by
  obtain ⟨before, after, rfl⟩ := List.append_of_mem h
  rw [List.map_append, List.map_cons, List.nodup_append, List.nodup_cons] at hnodup
  have hsplit : objects.write (before ++ request :: after) =
      Objects.write (Function.update (objects.write before) request.oid (some request.value))
        after := by
    unfold Objects.write
    rw [List.foldl_append, List.foldl_cons]
  rw [hsplit, write_of_not_mem, Function.update_self]
  intro r hr heq
  exact hnodup.2.1.1 (heq ▸ List.mem_map_of_mem hr)

/-- Sending a message makes no row, and leaves the channel of each. -/
theorem rowMade_messageRequests {objects : Objects} {message psid : String} {signMessage : Bool}
    {index i : Nat} {channel : Int} :
    RowMade (objects.write (messageRequests message index psid signMessage)) i channel ↔
      RowMade objects i channel := by
  have hcolumns : ∀ oid ∈ [rsuIFMStatusOid, rsuIFMTxChannelOid],
      ∀ oid' ∈ [rsuIFMPsidOid, rsuIFMOptionsOid, rsuIFMPayloadOid, rsuIFMEnableOid],
        oid ∈ columns ∧ oid' ∈ columns ∧ oid' ≠ oid := by decide
  have hkept : ∀ oid ∈ [rsuIFMStatusOid, rsuIFMTxChannelOid],
      objects.write (messageRequests message index psid signMessage) (inRow oid i) =
        objects (inRow oid i) := by
    intro oid hoid
    apply write_of_not_mem
    intro request hrequest heq
    have hwritten : request.oid ∈
        [rsuIFMPsidOid, rsuIFMOptionsOid, rsuIFMPayloadOid, rsuIFMEnableOid].map
          (inRow · index) := List.mem_map_of_mem (f := SnmpRequest.oid) hrequest
    obtain ⟨oid', hoid', heq'⟩ := List.mem_map.mp hwritten
    obtain ⟨hcolumn, hcolumn', hne⟩ := hcolumns oid hoid oid' hoid'
    exact hne ((inRow_column_inj hcolumn' hcolumn).mp (heq'.trans heq)).1
  unfold RowMade
  rw [hkept rsuIFMStatusOid (by simp), hkept rsuIFMTxChannelOid (by simp)]

section

variable {objects : Objects} {psid payloadPlaceholder : String} {signMessages : Bool}

theorem oids_rowRequests (index : Nat) (made : Int) :
    (rowRequests index psid made signMessages payloadPlaceholder).map (·.oid) =
      columns.map (inRow · index) := rfl

theorem nodup_rowRequests (index : Nat) (psid : String) (made : Int) (signMessages : Bool)
    (payloadPlaceholder : String) :
    ((rowRequests index psid made signMessages payloadPlaceholder).map (·.oid)).Nodup := by
  rw [oids_rowRequests]
  apply List.Nodup.map_on
  · intro oid hoid oid' hoid' heq
    exact ((inRow_column_inj hoid hoid').mp heq).1
  · decide

/-- A row that is made, and those that are there. -/
theorem rowMade_rowRequests {index i : Nat} {made channel : Int} :
    RowMade (objects.write (rowRequests index psid made signMessages payloadPlaceholder)) i
        channel ↔
      if i = index then channel = made else RowMade objects i channel := by
  have hnodup := nodup_rowRequests index psid made signMessages payloadPlaceholder
  split_ifs with hi
  · subst hi
    have hstatus : objects.write (rowRequests i psid made signMessages payloadPlaceholder)
        (inRow rsuIFMStatusOid i) = some "4" := by
      have hmem : ⟨inRow rsuIFMStatusOid i, 'i', "4"⟩ ∈
          rowRequests i psid made signMessages payloadPlaceholder := by simp [rowRequests]
      exact write_of_mem objects hnodup hmem
    have hchannel : objects.write (rowRequests i psid made signMessages payloadPlaceholder)
        (inRow rsuIFMTxChannelOid i) = some (toString made) := by
      have hmem : ⟨inRow rsuIFMTxChannelOid i, 'i', toString made⟩ ∈
          rowRequests i psid made signMessages payloadPlaceholder := by simp [rowRequests]
      exact write_of_mem objects hnodup hmem
    unfold RowMade
    rw [hstatus, hchannel]
    constructor
    · rintro ⟨-, h⟩
      exact (Int.repr_inj.mp (Option.some.inj h)).symm
    · rintro rfl
      exact ⟨rfl, rfl⟩
  · have hkept : ∀ oid ∈ columns,
        objects.write (rowRequests index psid made signMessages payloadPlaceholder)
          (inRow oid i) = objects (inRow oid i) := by
      intro oid hoid
      apply write_of_not_mem
      intro request hrequest heq
      have hwritten : request.oid ∈ columns.map (inRow · index) :=
        List.mem_map_of_mem (f := SnmpRequest.oid) hrequest
      obtain ⟨oid', hoid', heq'⟩ := List.mem_map.mp hwritten
      exact hi ((inRow_column_inj hoid' hoid).mp (heq'.trans heq)).2.symm
    unfold RowMade
    rw [hkept rsuIFMStatusOid (by decide), hkept rsuIFMTxChannelOid (by decide)]

end

/-! ## The rows of a unit -/

variable {accepts} {client : SnmpClient} {payloadPlaceholder : String} {signMessages : Bool}
  {index index' : String → Nat} {s t : Objects}

theorem eq_write_of_set {requests : List SnmpRequest}
    (h : (keeping accepts).set_requests client requests s = (.ok true, t)) :
    t = s.write requests := by
  unfold keeping at h
  simp only at h
  split_ifs at h
  · exact (Prod.mk.inj h).2.symm
  · simp at h

/-- Rows with places of their own are made for the channels of their message configurations. -/
theorem rowMade_createRow {rows : List (MessageConfig × Nat)} (hnodup : (rows.map (·.2)).Nodup)
    (h : outcome (rows.foldlM (createRow (keeping accepts) client signMessages payloadPlaceholder)
      index) s = (.ok index', t)) :
    (∀ row ∈ rows, row.1.channel.isSome = true) ∧
      ∀ i channel, RowMade t i channel ↔
        (∃ row ∈ rows, row.2 = i ∧ row.1.channel = some channel) ∨
          (i ∉ rows.map (·.2) ∧ RowMade s i channel) := by
  induction rows generalizing index s with
  | nil =>
      cases h
      simp
  | cons row rows ih =>
      rw [List.map_cons, List.nodup_cons] at hnodup
      rw [List.foldlM_cons] at h
      obtain ⟨index₁, u, hrow, hrest⟩ := outcome_bind_ok.mp h
      obtain ⟨-, made, hmade, hset, -⟩ := createRow_ok hrow
      obtain ⟨hchannels, hrows⟩ := ih hnodup.2 hrest
      refine ⟨List.forall_mem_cons.mpr ⟨by rw [hmade]; rfl, hchannels⟩, ?_⟩
      intro i channel
      rw [hrows, eq_write_of_set hset, rowMade_rowRequests]
      by_cases hi : i = row.2
      · subst hi
        have hlast : ¬ ∃ other ∈ rows, other.2 = row.2 ∧ other.1.channel = some channel := by
          rintro ⟨other, hother, heq, -⟩
          exact hnodup.1 (heq ▸ List.mem_map_of_mem hother)
        simp only [if_true, hlast, hnodup.1, false_or, not_false_eq_true, true_and,
          List.mem_cons, List.map_cons, not_true_eq_false, false_and, or_false,
          exists_eq_or_imp, hmade, Option.some.injEq]
        exact eq_comm
      · have hne : row.2 ≠ i := Ne.symm hi
        simp [hi, hne]

/-- The row that is found for a send type is that of the last message configuration with it. -/
theorem initializeImmediateForwardTable_latest (messageConfigs : List MessageConfig)
    (sendType : String) :
    match latest (·.sendType) sendType messageConfigs with
    | some m => (m, initializeImmediateForwardTable messageConfigs sendType) ∈
        messageConfigs.zipIdx 1
    | none => initializeImmediateForwardTable messageConfigs sendType = 0 := by
  induction messageConfigs using List.reverseRecOn with
  | nil => rfl
  | append_singleton messageConfigs m ih =>
      have hindex : initializeImmediateForwardTable (messageConfigs ++ [m]) sendType =
          if m.sendType = sendType then messageConfigs.length + 1
          else initializeImmediateForwardTable messageConfigs sendType := by
        unfold initializeImmediateForwardTable
        rw [List.zipIdx_append, List.foldl_append, Nat.add_comm]
        by_cases hsend : m.sendType = sendType
        · simp [hsend]
        · simp [hsend, Function.update_of_ne (Ne.symm hsend)]
      rw [latest_concat, hindex, List.zipIdx_append, Nat.add_comm]
      by_cases hsend : m.sendType = sendType
      · simp [hsend, Nat.add_comm]
      · rw [if_neg hsend, if_neg hsend]
        cases hlatest : latest (·.sendType) sendType messageConfigs with
        | none =>
            rw [hlatest] at ih
            exact ih
        | some found =>
            rw [hlatest] at ih
            exact List.mem_append_left _ ih

theorem nodup_places_rows (messageConfigs : List MessageConfig) :
    ((messageConfigs.zipIdx 1).map (·.2)).Nodup := by
  show ((messageConfigs.zipIdx 1).map Prod.snd).Nodup
  rw [List.zipIdx_map_snd]
  exact List.nodup_range'

/-- A unit whose rows have been made has a channel for each of its message configurations. -/
theorem isSome_channel {messageConfigs : List MessageConfig}
    (h : outcome (createImmediateForwardTable (keeping accepts) client messageConfigs signMessages
      payloadPlaceholder) s = (.ok index, t)) {m : MessageConfig} (hm : m ∈ messageConfigs) :
    m.channel.isSome = true := by
  obtain ⟨i, hi⟩ := List.mem_iff_getElem?.mp hm
  have hrow : (m, 1 + i) ∈ messageConfigs.zipIdx 1 :=
    List.mk_add_mem_zipIdx_iff_getElem?.mpr hi
  exact (rowMade_createRow (nodup_places_rows messageConfigs) h).1 _ hrow

/-- **The row of a send type** has the channel of the last message configuration with it. -/
theorem rowMade_index_iff {messageConfigs : List MessageConfig}
    (h : outcome (createImmediateForwardTable (keeping accepts) client messageConfigs signMessages
      payloadPlaceholder) (fun _ => none) = (.ok index, t)) (sendType : String) (channel : Int) :
    RowMade t (initializeImmediateForwardTable messageConfigs sendType) channel ↔
      ∃ m, latest (·.sendType) sendType messageConfigs = some m ∧ m.channel = some channel := by
  have hnodup := nodup_places_rows messageConfigs
  have hempty : ∀ i, ¬ RowMade (fun _ => none) i channel := by
    intro i hmade
    cases hmade.1
  have hrow := initializeImmediateForwardTable_latest messageConfigs sendType
  rw [(rowMade_createRow hnodup h).2]
  simp only [hempty, and_false, or_false]
  cases hlatest : latest (·.sendType) sendType messageConfigs with
  | none =>
      rw [hlatest] at hrow
      constructor
      · rintro ⟨row, hmem, hplace, -⟩
        have hpos := (List.mem_zipIdx hmem).1
        change initializeImmediateForwardTable messageConfigs sendType = 0 at hrow
        omega
      · rintro ⟨m, hm, -⟩
        cases hm
  | some m =>
      rw [hlatest] at hrow
      constructor
      · rintro ⟨row, hmem, hplace, hchannel⟩
        have heq : row = (m, _) := List.inj_on_of_nodup_map hnodup hmem hrow hplace
        exact ⟨m, rfl, by rw [← hchannel, heq]⟩
      · rintro ⟨m', hm', hchannel⟩
        cases hm'
        exact ⟨_, hrow, rfl, hchannel⟩

/-! ## The tables of the units -/

/-- The rows are those of the units whose clients stay in the map. -/
structure Laid (imfConfigs : List ImfConfiguration) (tables : Tables) : Prop where
  channels : ∀ imfConfig ∈ imfConfigs, imfConfig.spec = .NTCIP_1218 →
    ∀ m ∈ imfConfig.messageConfigs, m.channel.isSome = true
  rows : ∀ imfConfig other, imfConfig.spec = .NTCIP_1218 →
    keeper imfConfigs imfConfig = some other → ∀ sendType channel,
      RowMade (tables imfConfig.name)
          (initializeImmediateForwardTable other.messageConfigs sendType) channel ↔
        ∃ m, latest (·.sendType) sendType other.messageConfigs = some m ∧ m.channel = some channel

theorem laid_nil : Laid [] fun _ _ => none :=
  ⟨fun _ h => absurd h List.not_mem_nil, fun _ _ _ h => nomatch h⟩

theorem laid_setUpTable {imfConfigs : List ImfConfiguration} {imfConfig : ImfConfiguration}
    {tables tables' : Tables} (hlaid : Laid imfConfigs tables)
    (h : setUpTable accepts tables imfConfig = some tables') :
    Laid (imfConfigs ++ [imfConfig]) tables' := by
  unfold setUpTable at h
  cases hspec : imfConfig.spec with
  | RSU_4_1 =>
      rw [hspec] at h
      cases h
      constructor
      · intro c hc hntcip
        rcases List.mem_append.mp hc with hc | hc
        · exact hlaid.channels c hc hntcip
        · rw [List.mem_singleton.mp hc, hspec] at hntcip
          cases hntcip
      · intro c other hntcip hkeeper
        rw [keeper_concat, hspec, hntcip, if_neg (by simp)] at hkeeper
        exact hlaid.rows c other hntcip hkeeper
  | NTCIP_1218 =>
      rw [hspec] at h
      simp only at h
      split at h
      · next index objects hcreated =>
        cases h
        constructor
        · intro c hc hntcip
          rcases List.mem_append.mp hc with hc | hc
          · exact hlaid.channels c hc hntcip
          · rw [List.mem_singleton.mp hc]
            exact fun m hm => isSome_channel hcreated hm
        · intro c other hntcip hkeeper
          rw [keeper_concat, hspec, hntcip] at hkeeper
          by_cases hname : imfConfig.name = c.name
          · rw [if_pos ⟨rfl, hname⟩] at hkeeper
            cases hkeeper
            rw [← hname, Function.update_self]
            exact rowMade_index_iff hcreated
          · rw [if_neg fun h => hname h.2] at hkeeper
            rw [Function.update_of_ne (Ne.symm hname)]
            exact hlaid.rows c other hntcip hkeeper
      · cases h

theorem laid_setUpTables {imfConfigs : List ImfConfiguration} {tables : Tables}
    (h : setUpTables accepts imfConfigs = some tables) : Laid imfConfigs tables := by
  induction imfConfigs using List.reverseRecOn generalizing tables with
  | nil =>
      cases h
      exact laid_nil
  | append_singleton imfConfigs imfConfig ih =>
      unfold setUpTables at h
      rw [List.foldlM_append] at h
      obtain ⟨tables₁, h₁, h₂⟩ := Option.bind_eq_some_iff.mp h
      rw [List.foldlM_cons] at h₂
      obtain ⟨tables₂, h₃, h₄⟩ := Option.bind_eq_some_iff.mp h₂
      cases h₄
      exact laid_setUpTable (ih h₁) h₃

/-- A message that is sent changes no channel. -/
theorem rowMade_transmit {tables : Tables} {name name' : String} {sent : Sent} {i : Nat}
    {channel : Int} :
    RowMade (transmit accepts tables name sent name') i channel ↔
      RowMade (tables name') i channel := by
  cases sent with
  | udp client message => exact Iff.rfl
  | ntcip1218 client message index psid signMessage =>
      show RowMade (Function.update tables name _ name') i channel ↔ _
      by_cases hname : name' = name
      · subst hname
        rw [Function.update_self]
        rw [outcome_sendNTCIP1218ImfMessage]
        show RowMade (if accepts _ = true then _ else _ : Except Nat Bool × Objects).2 i channel ↔ _
        split_ifs
        · exact rowMade_messageRequests
        · exact Iff.rfl
      · rw [Function.update_of_ne hname]

theorem laid_transmit {imfConfigs : List ImfConfiguration} {tables : Tables} {name : String}
    {sent : Sent} (h : Laid imfConfigs tables) :
    Laid imfConfigs (transmit accepts tables name sent) := by
  constructor
  · exact h.channels
  · intro imfConfig other hspec hkeeper sendType channel
    rw [rowMade_transmit]
    exact h.rows imfConfig other hspec hkeeper sendType channel

/-- Every message is sent, while the rows stay. -/
theorem laid_transmissions (accepts : List SnmpRequest → Bool)
    {imfConfigs : List ImfConfiguration} {tables : Tables} (h : Laid imfConfigs tables)
    (ds : List Delivery) :
    Laid imfConfigs (transmissions accepts imfConfigs tables ds).2 ∧
      (∀ x ∈ (transmissions accepts imfConfigs tables ds).1, Laid imfConfigs x.1 ∧ x.2 ∈ ds) ∧
      (transmissions accepts imfConfigs tables ds).1.map (·.2) = ds := by
  induction ds generalizing tables with
  | nil => exact ⟨h, fun _ hx => absurd hx List.not_mem_nil, rfl⟩
  | cons d ds ih =>
      have hsent : Laid imfConfigs (transmit accepts tables
          ((imfConfigs[d.rsu]?.map (·.name)).getD "") d.sent) := laid_transmit h
      obtain ⟨hrest, hall, hmap⟩ := ih hsent
      refine ⟨hrest, ?_, congrArg (d :: ·) hmap⟩
      intro x hx
      rcases List.mem_cons.mp hx with rfl | hx
      · exact ⟨hsent, List.mem_cons_self⟩
      · exact ⟨(hall x hx).1, List.mem_cons_of_mem d (hall x hx).2⟩

/-! ## Runs -/

theorem imfConfigs_sendTo {hsm : Hsm} {createsPdu : CreatesPdu} {msg : IvpMessage}
    {tmxType payload : String} (s : Sending) (p : Pair) :
    (final (sendTo hsm createsPdu msg tmxType payload s p)).plugin.imfConfigs =
      s.plugin.imfConfigs := by
  unfold sendTo
  split_ifs
  · rfl
  · simp only
    split
    · rfl
    · split
      · rfl
      · split_ifs <;> rfl

theorem imfConfigs_sendMessageToRadio (u : Tmx.ClockUnits) (now : Int) (hsm : Hsm)
    (createsPdu : CreatesPdu) (msg : IvpMessage) (s : Plugin) :
    (sendMessageToRadio u now hsm createsPdu msg s).1.imfConfigs = s.imfConfigs := by
  unfold sendMessageToRadio
  split
  · rfl
  · next tmxType payload _ =>
    have hkept : ∀ t : Sending,
        (final (sendToEach hsm createsPdu msg tmxType payload t)).plugin.imfConfigs =
          t.plugin.imfConfigs := by
      intro t
      rw [sendToEach_eq]
      exact final_foldlM (R := fun t t' : Sending => t'.plugin.imfConfigs = t.plugin.imfConfigs)
        (fun _ => rfl) (fun _ _ _ h h' => h'.trans h) imfConfigs_sendTo _ t
    have hsent := hkept ⟨s.count u now tmxType, false, []⟩
    rw [imfConfigs_count] at hsent
    split
    · next t ht =>
      rw [ht] at hsent
      exact hsent
    · next t ht =>
      rw [ht] at hsent
      split_ifs
      · exact hsent
      · exact hsent

/-- What is sent in a run is sent in a call, while the rows stay. -/
theorem laid_broadcasts (u : Tmx.ClockUnits) (posts : List Post)
    {imfConfigs : List ImfConfiguration} {s : Plugin} {tables : Tables}
    (hs : s.imfConfigs = imfConfigs) (h : Laid imfConfigs tables) :
    ∀ x ∈ broadcasts accepts u posts s tables, Laid imfConfigs x.1 ∧
      ∃ (post : Post) (t : Plugin), t.imfConfigs = imfConfigs ∧
        x.2 ∈ (sendMessageToRadio u post.now post.hsm post.createsPdu post.msg t).2 := by
  induction posts generalizing s tables with
  | nil => exact fun x hx => absurd hx List.not_mem_nil
  | cons post posts ih =>
      obtain ⟨hlaid, hall, -⟩ := laid_transmissions accepts h
        (sendMessageToRadio u post.now post.hsm post.createsPdu post.msg s).2
      have hconfigs := imfConfigs_sendMessageToRadio u post.now post.hsm post.createsPdu post.msg s
      intro x hx
      subst hs
      rcases List.mem_append.mp hx with hx | hx
      · exact ⟨(hall x hx).1, post, s, rfl, (hall x hx).2⟩
      · exact ih hconfigs hlaid x hx

/-- What is sent is the delivery of a pair. -/
theorem exists_delivery {u : Tmx.ClockUnits} {now : Int} {hsm : Hsm} {createsPdu : CreatesPdu}
    {msg : IvpMessage} {s : Plugin} {d : Delivery}
    (h : d ∈ (sendMessageToRadio u now hsm createsPdu msg s).2) :
    ∃ p ∈ pairs s.imfConfigs, d = delivery s.imfConfigs hsm msg p := by
  cases hvalid : typeAndPayload msg with
  | none =>
      unfold sendMessageToRadio at h
      rw [hvalid] at h
      exact absurd h List.not_mem_nil
  | some typed =>
      have hsome : (typeAndPayload msg).isSome = true := Option.isSome_of_eq_some hvalid
      rw [deliveries_sendMessageToRadio u now hsm createsPdu s hsome] at h
      obtain ⟨p, hp, rfl⟩ := List.mem_map.mp h
      exact ⟨p, (List.mem_filter.mp ((List.takeWhile_sublist _).subset hp)).1, rfl⟩

/-- Each pair gets a message in some call. -/
theorem exists_message {imfConfigs : List ImfConfiguration} {p : Pair} (hp : p ∈ pairs imfConfigs)
    (u : Tmx.ClockUnits) (s : Plugin) (hs : s.imfConfigs = imfConfigs) :
    ∃ post : Post, delivery imfConfigs post.hsm post.msg p ∈
      (sendMessageToRadio u post.now post.hsm post.createsPdu post.msg s).2 := by
  refine ⟨⟨0, fun _ => some "", fun _ => true,
    ⟨"J2735", p.messageConfig.tmxType, "", {}, 0⟩⟩, ?_⟩
  subst hs
  rw [deliveries_sendMessageToRadio]
  · apply List.mem_map_of_mem
    rw [List.takeWhile_eq_self_iff.mpr]
    · exact List.mem_filter.mpr ⟨hp, by simp [IvpMessage.tmxType, isSPDU]⟩
    · intro q _
      have hcreated : ∀ sent : Sent, sent.throws (fun _ => true) = false := fun sent => by
        cases sent <;> rfl
      rw [goesOut, hcreated]
      unfold signedText
      split_ifs <;> rfl
  · rfl

/-! ## The channels -/

/-- A place is that of one pair. -/
theorem eq_of_places {imfConfigs : List ImfConfiguration} {p q : Pair} (hp : p ∈ pairs imfConfigs)
    (hq : q ∈ pairs imfConfigs) (hrsu : q.rsu = p.rsu) (hmessage : q.message = p.message) :
    q = p :=
  List.inj_on_of_nodup_map (nodup_places imfConfigs) hq hp
    (show (q.rsu, q.message) = (p.rsu, p.message) by rw [hrsu, hmessage])

theorem mem_messageConfigs {imfConfigs : List ImfConfiguration} {p : Pair}
    (h : p ∈ pairs imfConfigs) : p.messageConfig ∈ p.imfConfig.messageConfigs := by
  obtain ⟨⟨imfConfig, rsu⟩, hrsu, hp⟩ := List.mem_flatMap.mp h
  obtain ⟨⟨messageConfig, message⟩, hmessage, rfl⟩ := List.mem_map.mp hp
  exact List.fst_mem_of_mem_zipIdx hmessage

/-- The delivery of a pair goes out on its channel exactly if the row that it finds was made for
it. -/
theorem onChannel_delivery_iff {imfConfigs : List ImfConfiguration} {tables : Tables}
    (h : Laid imfConfigs tables) {p : Pair} (hp : p ∈ pairs imfConfigs) (hsm : Hsm)
    (msg : IvpMessage) :
    OnChannel imfConfigs tables (delivery imfConfigs hsm msg p) ↔
      (p.imfConfig.spec = .NTCIP_1218 →
        ∃ m, rowConfig imfConfigs p = some m ∧ m.channel = p.messageConfig.channel) := by
  obtain ⟨other, hother⟩ := exists_keeper (mem_of_mem_pairs hp)
  have hspec : other.spec = p.imfConfig.spec := spec_of_keeper hother
  have hrow : rowConfig imfConfigs p =
      latest (·.sendType) p.messageConfig.sendType other.messageConfigs := by
    unfold rowConfig
    rw [hother]
    rfl
  unfold delivery
  rw [hother, hrow]
  cases hntcip : p.imfConfig.spec with
  | RSU_4_1 =>
      rw [hntcip] at hspec
      constructor
      · intro _ hne
        cases hne
      · intro _ client text row psid sign hsent
        simp [Pair.deliver, ImfConfiguration.route, hspec] at hsent
  | NTCIP_1218 =>
      rw [hntcip] at hspec
      obtain ⟨channel, hchannel⟩ := Option.isSome_iff_exists.mp
        (h.channels _ (mem_of_mem_pairs hp) hntcip _ (mem_messageConfigs hp))
      have hrows := h.rows p.imfConfig other hntcip hother p.messageConfig.sendType channel
      obtain ⟨text, hdeliver⟩ : ∃ text, (p.deliver msg ((signedText hsm msg p).getD "")
          (p.imfConfig.signMessage && !isSPDU msg)
          (((some other).getD p.imfConfig).route p.messageConfig.sendType)).sent =
            .ntcip1218 ⟨other.address, other.port, other.snmpAuth⟩ text
              (initializeImmediateForwardTable other.messageConfigs p.messageConfig.sendType)
              p.messageConfig.psid (p.imfConfig.signMessage && !isSPDU msg) :=
        ⟨(signedText hsm msg p).getD "", by simp [Pair.deliver, ImfConfiguration.route, hspec]⟩
      constructor
      · intro hon _
        obtain ⟨q, hq, hrsu, hmessage, channel', hchannel', hmade⟩ := hon _ _ _ _ _ hdeliver
        obtain rfl := eq_of_places hp hq hrsu hmessage
        obtain rfl := Option.some.inj (hchannel.symm.trans hchannel')
        obtain ⟨m, hlatest, hm⟩ := hrows.mp hmade
        exact ⟨m, hlatest, hm.trans hchannel.symm⟩
      · intro hm client text' row psid sign heq
        obtain ⟨m, hlatest, hm⟩ := hm rfl
        rw [hdeliver] at heq
        cases heq
        exact ⟨p, hp, rfl, rfl, channel, hchannel, hrows.mpr ⟨m, hlatest, hm.trans hchannel⟩⟩

/-- A run in which a message reaches every pair. -/
theorem oneChannelEach_of_onChannel {u : Tmx.ClockUnits} {s : Plugin} {tables : Tables}
    (hlaid : Laid s.imfConfigs tables)
    (hall : ∀ posts, ∀ x ∈ broadcasts accepts u posts s tables,
      OnChannel s.imfConfigs x.1 x.2) : OneChannelEach s.imfConfigs := by
  intro p hp
  obtain ⟨post, hpost⟩ := exists_message hp u s rfl
  obtain ⟨-, hsent, hmap⟩ := laid_transmissions accepts hlaid
    (sendMessageToRadio u post.now post.hsm post.createsPdu post.msg s).2
  rw [← hmap] at hpost
  obtain ⟨x, hx, hdelivery⟩ := List.mem_map.mp hpost
  have hon := hall [post] x (List.mem_append_left _ hx)
  rw [hdelivery] at hon
  exact (onChannel_delivery_iff (hsent x hx).1 hp post.hsm post.msg).mp hon

/-- **The channels of the messages**: in every run after the tables have been set up, each message
goes out on the channel of its message configuration, exactly if the last message configuration with
its send type has that channel. -/
theorem onChannel_iff (u : Tmx.ClockUnits) (s : Plugin) {tables : Tables}
    (h : setUpTables accepts s.imfConfigs = some tables) :
    (∀ posts, ∀ x ∈ broadcasts accepts u posts s tables, OnChannel s.imfConfigs x.1 x.2) ↔
      OneChannelEach s.imfConfigs := by
  have hlaid := laid_setUpTables h
  constructor
  · exact oneChannelEach_of_onChannel hlaid
  · intro heach posts x hx
    obtain ⟨hrows, post, t, ht, hd⟩ := laid_broadcasts u posts rfl hlaid x hx
    obtain ⟨p, hp, hdelivery⟩ := exists_delivery hd
    rw [ht] at hp hdelivery
    rw [hdelivery]
    exact (onChannel_delivery_iff hrows hp post.hsm post.msg).mpr (heach p hp)

theorem exists_pair {imfConfigs : List ImfConfiguration} {imfConfig : ImfConfiguration}
    (hc : imfConfig ∈ imfConfigs) {m : MessageConfig} (hm : m ∈ imfConfig.messageConfigs) :
    ∃ p ∈ pairs imfConfigs, p.imfConfig = imfConfig ∧ p.messageConfig = m := by
  obtain ⟨rsu, hrsu⟩ := List.mem_iff_getElem?.mp hc
  obtain ⟨message, hmessage⟩ := List.mem_iff_getElem?.mp hm
  refine ⟨⟨rsu, message, imfConfig, m⟩, ?_, rfl, rfl⟩
  apply List.mem_flatMap.mpr
  refine ⟨(imfConfig, rsu), List.mk_mem_zipIdx_iff_getElem?.mpr hrsu, ?_⟩
  exact List.mem_map.mpr ⟨(m, message), List.mk_mem_zipIdx_iff_getElem?.mpr hmessage, rfl⟩

/-- Where no two units have the same name, the message configurations of a unit with the same send
type should have the same channel. -/
theorem oneChannelEach_iff_of_names {imfConfigs : List ImfConfiguration}
    (h : ∀ imfConfig ∈ imfConfigs, imfConfig.spec = .NTCIP_1218 →
      keeper imfConfigs imfConfig = some imfConfig) :
    OneChannelEach imfConfigs ↔
      ∀ imfConfig ∈ imfConfigs, imfConfig.spec = .NTCIP_1218 →
        ∀ m ∈ imfConfig.messageConfigs, ∀ m' ∈ imfConfig.messageConfigs,
          m.sendType = m'.sendType → m.channel = m'.channel := by
  have hrow : ∀ p ∈ pairs imfConfigs, p.imfConfig.spec = .NTCIP_1218 →
      rowConfig imfConfigs p =
        latest (·.sendType) p.messageConfig.sendType p.imfConfig.messageConfigs := by
    intro p hp hspec
    unfold rowConfig
    rw [h _ (mem_of_mem_pairs hp) hspec]
    rfl
  constructor
  · intro heach imfConfig hc hspec m hm m' hm' hsend
    obtain ⟨p, hp, rfl, rfl⟩ := exists_pair hc hm
    obtain ⟨q, hq, hunit, rfl⟩ := exists_pair hc hm'
    rw [← hunit] at hspec
    obtain ⟨found, hfound, hchannel⟩ := heach p hp (hunit ▸ hspec)
    obtain ⟨found', hfound', hchannel'⟩ := heach q hq hspec
    rw [hrow p hp (hunit ▸ hspec), hsend] at hfound
    rw [hrow q hq hspec, hunit, hfound] at hfound'
    rw [← hchannel, ← hchannel', Option.some.inj hfound']
  · intro hsame p hp hspec
    obtain ⟨found, hfound⟩ := exists_latest (·.sendType) (mem_messageConfigs hp)
    obtain ⟨hmem, hsend⟩ := latest_eq_some hfound
    refine ⟨found, (hrow p hp hspec).trans hfound, ?_⟩
    exact hsame _ (mem_of_mem_pairs hp) hspec found hmem _ (mem_messageConfigs hp) hsend

/-- An NTCIP 1218 unit with these message configurations. -/
def unitWith (messageConfigs : List MessageConfig) : ImfConfiguration where
  name := "East"
  spec := .NTCIP_1218
  address := "10.0.0.1"
  port := 161
  snmpAuth := some { user := "hub", securityLevel := .authPriv, community := "public" }
  messageConfigs := messageConfigs
  signMessage := false

/-- MAP messages of two types share a channel, and SPAT messages have their own. -/
def twoRows : ImfConfiguration :=
  unitWith [⟨"MAP-P", "MAP", "0x8002", some 183⟩, ⟨"SPAT-P", "SPAT", "0x8002", some 172⟩,
    ⟨"MAP-S", "MAP", "0x8003", some 183⟩]

theorem oneChannelEach_twoRows : OneChannelEach [twoRows] := by
  have hkeeper : keeper [twoRows] twoRows = some twoRows := by
    simp [keeper]
  refine (oneChannelEach_iff_of_names fun imfConfig h _ => ?_).mpr fun imfConfig h _ => ?_
  · rw [List.mem_singleton.mp h]
    exact hkeeper
  · rw [List.mem_singleton.mp h]
    decide

theorem onChannel_iff_twoRows :
    ∃ tables, setUpTables (fun _ => true) (Plugin.started [twoRows]).imfConfigs = some tables ∧
      ∀ posts, ∀ x ∈ broadcasts (fun _ => true) ⟨1, by decide⟩ posts (.started [twoRows]) tables,
        OnChannel (Plugin.started [twoRows]).imfConfigs x.1 x.2 := by
  have hsetup : ∃ tables,
      setUpTables (fun _ => true) (Plugin.started [twoRows]).imfConfigs = some tables :=
    ⟨_, rfl⟩
  obtain ⟨tables, htables⟩ := hsetup
  exact ⟨tables, htables, (onChannel_iff ⟨1, by decide⟩ _ htables).mpr oneChannelEach_twoRows⟩

/-- A unit that takes MAP messages twice, for two channels. -/
def twoChannels : ImfConfiguration :=
  unitWith [⟨"MAP-P", "MAP", "0x8002", some 183⟩, ⟨"MAP-S", "MAP", "0x8002", some 172⟩]

/-- The messages for channel 183 are written to the row for channel 172. -/
theorem not_onChannel_twoChannels :
    ∃ tables, setUpTables (fun _ => true) (Plugin.started [twoChannels]).imfConfigs = some tables ∧
      ¬ ∀ posts, ∀ x ∈ broadcasts (fun _ => true) ⟨1, by decide⟩ posts
        (.started [twoChannels]) tables,
        OnChannel (Plugin.started [twoChannels]).imfConfigs x.1 x.2 := by
  have hsetup : ∃ tables,
      setUpTables (fun _ => true) (Plugin.started [twoChannels]).imfConfigs = some tables :=
    ⟨_, rfl⟩
  obtain ⟨tables, htables⟩ := hsetup
  refine ⟨tables, htables, fun hall => ?_⟩
  have heach := oneChannelEach_of_onChannel (laid_setUpTables htables) hall
  obtain ⟨m, hm, hchannel⟩ :=
    heach ⟨0, 0, twoChannels, ⟨"MAP-P", "MAP", "0x8002", some 183⟩⟩ List.mem_cons_self rfl
  have hlast : m = ⟨"MAP-S", "MAP", "0x8002", some 172⟩ := by
    apply Option.some.inj
    rw [← hm]
    rfl
  rw [hlast] at hchannel
  cases hchannel

end V2XHub.ImmediateForward
