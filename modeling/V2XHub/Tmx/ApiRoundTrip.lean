import V2XHub.Tmx.ApiCalls

/-!
# What the receiver of an API message reads

Filters, status items and configuration values are added to a collection one by one; the collection
is sent as the payload of a message, which travels as a text, and read item by item. An error
travels as a single object.

**Main results** `subscribe_roundTrip`, `status_roundTrip`, `config_roundTrip`, `error_roundTrip`:
what was added is what is read, in order, but for the values of status items, of which the last for
a key is kept; an error arrives with its level and number, but with its number also for the number
of the system error, as both fields of the text have one name.
-/

namespace V2XHub.Tmx

namespace IvpCodec

open V2XHub.Lib CJsonText

/-! ## Collections -/

/-- One call after the other, from a collection that may be `NULL`. -/
def addEach {α : Type} (add : Option Item → α → Except Halt Item) (collection : Option Item) :
    List α → Except Halt (Option Item)
  | [] => .ok collection
  | call :: calls =>
      match add collection call with
      | .error h => .error h
      | .ok collection => addEach add (some collection) calls

section

variable {α : Type} {add : Option Item → α → Except Halt Item} {item : α → Option Item}

theorem addEach_array (hadd : ∀ items call,
      add (some (.array items)) call = .ok (.array (items ++ (item call).toList)))
    (items : List Item) (calls : List α) :
    addEach add (some (.array items)) calls =
      .ok (some (.array (items ++ calls.filterMap item))) := by
  -- on the calls; each goes on with the array that the last one left
  induction calls generalizing items with
  | nil => rw [List.filterMap_nil, List.append_nil, addEach]
  | cons call calls ih =>
      rw [addEach, hadd]
      show addEach add (some (.array (items ++ (item call).toList))) calls = _
      rw [ih, List.append_assoc]
      cases hitem : item call with
      | none => rw [List.filterMap_cons_none hitem, Option.toList_none, List.nil_append]
      | some item => rw [List.filterMap_cons_some hitem, Option.toList_some, List.singleton_append]

theorem printableItems_filterMap (hitem : ∀ call i, item call = some i → Printable i)
    (calls : List α) : PrintableItems (calls.filterMap item) := by
  induction calls with
  | nil => trivial
  | cons call calls ih =>
      cases h : item call with
      | none => rwa [List.filterMap_cons_none h]
      | some i =>
          rw [List.filterMap_cons_some h]
          exact ⟨hitem call i h, ih⟩

theorem viewItems_reparsedItems (items : List Item) :
    viewItems (reparsedItems items) = items.map fun i => view (reparsed i) := by
  induction items with
  | nil => rfl
  | cons i items ih => rw [reparsedItems, viewItems, ih, List.map_cons]

/-- What the core finds in a collection that was `NULL` before the calls. -/
theorem exists_collection (hnull : ∀ call, add none call = add (some (.array [])) call)
    (hadd : ∀ items call,
      add (some (.array items)) call = .ok (.array (items ++ (item call).toList)))
    (hitem : ∀ call i, item call = some i → Printable i) (calls : List α) :
    ∃ collection, addEach add none calls = .ok collection ∧
      (∀ i ∈ collection, Printable i) ∧
      collectionItems ((collection.map reparsed).map view) =
        .ok ((calls.filterMap item).map fun i => view (reparsed i)) := by
  cases calls with
  | nil =>
      refine ⟨none, rfl, ?_, rfl⟩
      rintro _ ⟨⟩
  | cons call calls =>
      -- the first call makes the array
      have harray := addEach_array hadd [] (call :: calls)
      rw [addEach, ← hnull] at harray
      refine ⟨_, harray, printable_some (printableItems_filterMap hitem _), ?_⟩
      show collectionItems (some (.array (viewItems (reparsedItems _)))) = _
      rw [viewItems_reparsedItems]
      rfl

end

theorem forall_mem_map_val {s : Option CText} : ∀ t ∈ s.map Subtype.val, 0 ∉ t := by
  intro t ht
  obtain ⟨s, -, rfl⟩ := Option.map_eq_some_iff.mp ht
  exact s.property

/-! ## Filters -/

/-- The arguments of `ivpSubscribe_addFilterEntryWithFlagMask`. -/
structure FilterCall where
  type : Option CText
  subtype : Option CText
  flagmask : UInt32

def addFilterEntry (filter : Option Item) (entry : FilterCall) : Except Halt Item :=
  ivpSubscribe_addFilterEntryWithFlagMask filter (entry.type.map Subtype.val)
    (entry.subtype.map Subtype.val) entry.flagmask

def addFilterEntries (filter : Option Item) (entries : List FilterCall) :
    Except Halt (Option Item) :=
  addEach addFilterEntry filter entries

/-- What the router is to hold for a call. -/
def FilterCall.filterEntry (entry : FilterCall) : Option MessageFilterEntry :=
  entry.type.map fun type =>
    { type := cppString type.val
      subtype := (entry.subtype.map fun s => cppString s.val).getD ""
      flagmask := entry.flagmask }

/-- What a call adds to the array. -/
def FilterCall.item (entry : FilterCall) : Option Item :=
  entry.type.map fun type =>
    .object (addString "type" (some type.val) ++
      addString "subtype" (entry.subtype.map Subtype.val) ++
      if entry.flagmask ≠ 0 then
        [(ascii "flagmask", cJson_createNumber entry.flagmask.toNat)]
      else [])

theorem addFilterEntry_array (items : List Item) (entry : FilterCall) :
    addFilterEntry (some (.array items)) entry = .ok (.array (items ++ entry.item.toList)) := by
  obtain ⟨type, subtype, flagmask⟩ := entry
  cases type with
  | none =>
      show Except.ok (Item.array items) = _
      rw [FilterCall.item, Option.map_none, Option.toList_none, List.append_nil]
  | some type => rfl

theorem getFilterEntry_view (item : Item) :
    ivpSubscribe_getFilterEntry (view item) =
      { type := (getStr item (ascii "type")).map cppString
        subtype := (getStr item (ascii "subtype")).map cppString
        flagmask := toUnsigned ((getInt item (ascii "flagmask")).getD 0) } := by
  have htype : (view item).tryGetStr "type" = (getStr item (ascii "type")).map cppString :=
    getStr_view item (ascii "type")
  have hsubtype : (view item).tryGetStr "subtype" =
      (getStr item (ascii "subtype")).map cppString := getStr_view item (ascii "subtype")
  have hflagmask : (view item).tryGetInt "flagmask" = getInt item (ascii "flagmask") :=
    getInt_view item (ascii "flagmask")
  rw [ivpSubscribe_getFilterEntry, htype, hsubtype, hflagmask]

/-- An entry of the array is read as the call that has added it. -/
theorem getFilterEntry_item (entry : FilterCall) {item : Item} (hitem : entry.item = some item) :
    PluginConnection.filterEntries [ivpSubscribe_getFilterEntry (view (reparsed item))] =
      entry.filterEntry.toList := by
  obtain ⟨type, subtype, flagmask⟩ := entry
  cases type with
  | none => cases hitem
  | some type =>
      cases hitem
      rw [getFilterEntry_view]
      by_cases hzero : flagmask = 0
      · subst hzero
        cases subtype <;> rfl
      · have hmask : toUnsigned (trunc ((flagmask.toNat : Int) : ℚ)) = flagmask := by
          rw [trunc_intCast]
          exact ofInt_toNat_uint32 flagmask
        have hentry (subtype : Option String) :
            PluginConnection.filterEntries [⟨some (cppString type.val), subtype,
              toUnsigned (trunc ((flagmask.toNat : Int) : ℚ))⟩] =
              [⟨cppString type.val, subtype.getD "", flagmask⟩] := by
          rw [hmask]
          rfl
        rw [if_pos hzero]
        cases subtype with
        | none => exact hentry none
        | some subtype => exact hentry (some (cppString subtype.val))

theorem printable_filterItem (entry : FilterCall) {item : Item} (hitem : entry.item = some item) :
    Printable item := by
  obtain ⟨type, subtype, flagmask⟩ := entry
  cases type with
  | none => cases hitem
  | some type =>
      cases hitem
      refine printableMembers_append (printableMembers_append
        (printableMembers_addString (by decide) (forall_mem_some type.property))
        (printableMembers_addString (by decide) forall_mem_map_val)) ?_
      split
      · exact ⟨by decide, printable_uint32Number flagmask, trivial⟩
      · trivial

theorem filterEntries_cons (entry : SubscribeEntry) (entries : List SubscribeEntry) :
    PluginConnection.filterEntries (entry :: entries) =
      PluginConnection.filterEntries [entry] ++ PluginConnection.filterEntries entries := by
  rw [← List.singleton_append, PluginConnection.filterEntries, List.filterMap_append]
  rfl

theorem filterEntries_filter (entries : List FilterCall) :
    PluginConnection.filterEntries (((entries.filterMap FilterCall.item).map fun item =>
      view (reparsed item)).map ivpSubscribe_getFilterEntry) =
      entries.filterMap FilterCall.filterEntry := by
  induction entries with
  | nil => rfl
  | cons entry entries ih =>
      obtain ⟨type, subtype, flagmask⟩ := entry
      cases type with
      | none => exact ih
      | some type =>
          have hitem : ∃ item, FilterCall.item ⟨some type, subtype, flagmask⟩ = some item :=
            ⟨_, rfl⟩
          obtain ⟨item, hitem⟩ := hitem
          rw [List.filterMap_cons_some hitem, List.map_cons, List.map_cons, filterEntries_cons,
            getFilterEntry_item _ hitem, ih]
          rfl

theorem getFilterEntries_of_collectionItems {payload : Option CJson} {items : List CJson}
    (h : collectionItems payload = .ok items) :
    ivpSubscribe_getFilterEntries payload = items.map ivpSubscribe_getFilterEntry := by
  unfold collectionItems at h
  split at h <;> cases h
  · rfl
  · rfl

/-- **Subscriptions arrive**: the filters that a registered connection has after the subscribe
message are the entries with a type, in the order in which the plugin has added them. -/
theorem subscribe_roundTrip (realText : ℚ → List UInt8) (malloced : IvpDsrcMetadata)
    (entries : List FilterCall) {now : UInt64} (hnow : now.toNat < 2 ^ 53)
    (options : IvpMsg_FormatOptions) {c : CoreConnection} (hc : c.registered = true) :
    ∃ filter msg, addFilterEntries none entries = .ok filter ∧
      ivpMsg_parse malloced
        (ivpMsg_createJsonString realText (ivpSubscribe_createMsg filter now) options) = some msg ∧
      c.processSubscribeMessage (viewMessage msg) =
        ({ c with filters := some (entries.filterMap FilterCall.filterEntry) }, .ok ()) := by
  obtain ⟨filter, hfilter, hprintable, hitems⟩ := exists_collection (fun _ => rfl)
    addFilterEntry_array (fun entry _ => printable_filterItem entry) entries
  have hplain : ∃ m : PlainMessage, m.toIvpMessage = ivpSubscribe_createMsg filter now :=
    exists_plain_create (forall_mem_some (by decide)) forall_mem_none hprintable hnow
  have hparse := parse_createJsonString_of_plain hplain realText malloced options
  refine ⟨filter, _, hfilter, hparse, ?_⟩
  have hgo : c.requireRegistered = .ok () := CoreConnection.requireRegistered_ok_iff.mpr hc
  show CoreConnection.catchPlugin (c.subscribeForMessages (PluginConnection.filterEntries
    (ivpSubscribe_getFilterEntries ((filter.map reparsed).map view)))) _ = _
  rw [getFilterEntries_of_collectionItems hitems, filterEntries_filter,
    CoreConnection.subscribeForMessages, hgo]
  rfl

/-- One entry with a subtype and one without a type. -/
theorem subscribe_roundTrip_map :
    ∃ filter msg,
      addFilterEntries none [⟨some ⟨ascii "J2735", by decide⟩, some ⟨ascii "MAP-P", by decide⟩, 0⟩,
        ⟨none, none, 1⟩] = .ok filter ∧
      ivpMsg_parse ⟨0, 0⟩
        (ivpMsg_createJsonString (fun _ => []) (ivpSubscribe_createMsg filter 0) .none) =
          some msg ∧
      registeredConnection.processSubscribeMessage (viewMessage msg) =
        ({ registeredConnection with filters := some [⟨"J2735", "MAP-P", 0⟩] }, .ok ()) :=
  subscribe_roundTrip (fun _ => []) ⟨0, 0⟩ _ (by decide) .none rfl

/-! ## Status items -/

/-- The arguments of `ivpPluginStatus_addStatusItem`. -/
structure StatusCall where
  key : Option CText
  value : Option CText

def addStatusItem (collection : Option Item) (call : StatusCall) : Except Halt Item :=
  ivpPluginStatus_addStatusItem collection (call.key.map Subtype.val) (call.value.map Subtype.val)

def addStatusItems (collection : Option Item) (calls : List StatusCall) :
    Except Halt (Option Item) :=
  addEach addStatusItem collection calls

/-- What the core is to update for a call; a status without a key has the empty one. -/
def StatusCall.update (call : StatusCall) : Option (String × String) :=
  call.value.map fun value =>
    ((call.key.map fun key => cppString key.val).getD "", cppString value.val)

/-- What the core is to remove for a call. -/
def StatusCall.removal (call : StatusCall) : Option String :=
  match call.value, call.key with
  | none, some key => if key.val = [] then none else some (cppString key.val)
  | _, _ => none

/-- What a call adds to the array. -/
def StatusCall.item (call : StatusCall) : Option Item :=
  if call.value.isSome ∨ call.key.isSome then
    some (.object (addString "key" (call.key.map Subtype.val) ++
      addString "value" (call.value.map Subtype.val)))
  else none

theorem addStatusItem_array (items : List Item) (call : StatusCall) :
    addStatusItem (some (.array items)) call = .ok (.array (items ++ call.item.toList)) := by
  obtain ⟨key, value⟩ := call
  cases value with
  | some value => rfl
  | none =>
      cases key with
      | some key => rfl
      | none =>
          have hitem : StatusCall.item ⟨none, none⟩ = none := rfl
          rw [hitem, Option.toList_none, List.append_nil]
          rfl

theorem printable_statusCall (call : StatusCall) {item : Item} (hitem : call.item = some item) :
    Printable item := by
  unfold StatusCall.item at hitem
  split at hitem
  · cases hitem
    exact (printable_statusItem forall_mem_map_val forall_mem_map_val).1
  · cases hitem

theorem getItem_view (item : Item) :
    ivpPluginStatus_getItem (view item) =
      { key := (getStr item (ascii "key")).map cppString
        value := (getStr item (ascii "value")).map cppString } := by
  have hkey : (view item).tryGetStr "key" = (getStr item (ascii "key")).map cppString :=
    getStr_view item (ascii "key")
  have hvalue : (view item).tryGetStr "value" = (getStr item (ascii "value")).map cppString :=
    getStr_view item (ascii "value")
  rw [ivpPluginStatus_getItem, hkey, hvalue]

theorem statusItems_filterMap (updateItems : List (String × String)) (removeItems : List String)
    (calls : List StatusCall) :
    CoreConnection.statusItems updateItems removeItems
      ((calls.filterMap StatusCall.item).map fun item => view (reparsed item)) =
      .ok ((calls.filterMap StatusCall.update).foldl (fun m e => assign e.1 e.2 m) updateItems,
        removeItems ++ calls.filterMap StatusCall.removal) := by
  -- on the calls, by what each of them is given
  induction calls generalizing updateItems removeItems with
  | nil => simp [CoreConnection.statusItems]
  | cons call calls ih =>
      obtain ⟨key, value⟩ := call
      cases value with
      | some value =>
          cases key with
          | some key =>
              show CoreConnection.statusItems _ _ (view (reparsed _) :: _) = _
              rw [CoreConnection.statusItems, getItem_view]
              exact ih _ _
          | none =>
              show CoreConnection.statusItems _ _ (view (reparsed _) :: _) = _
              rw [CoreConnection.statusItems, getItem_view]
              exact ih _ _
      | none =>
          cases key with
          | none => exact ih _ _
          | some key =>
              show CoreConnection.statusItems _ _ (view (reparsed _) :: _) = _
              rw [CoreConnection.statusItems, getItem_view]
              show CoreConnection.statusItems updateItems
                (if cppString key.val = "" then _ else _) _ = _
              by_cases hempty : key.val = []
              · have hremoval : StatusCall.removal ⟨some key, none⟩ = none := if_pos hempty
                rw [if_pos (cppString_eq_empty.mpr hempty), List.filterMap_cons_none hremoval]
                exact ih _ _
              · have hremoval : StatusCall.removal ⟨some key, none⟩ = some (cppString key.val) :=
                  if_neg hempty
                rw [if_neg (mt cppString_eq_empty.mp hempty), List.filterMap_cons_some hremoval,
                  ih, List.append_assoc]
                rfl

/-- **Status items arrive**: from one message the core updates each key that was given a value, in
the order of the keys and with the last value, and removes those that have a key only, in the order
in which the plugin has added them. -/
theorem status_roundTrip (realText : ℚ → List UInt8) (malloced : IvpDsrcMetadata)
    (calls : List StatusCall) {now : UInt64} (hnow : now.toNat < 2 ^ 53)
    (options : IvpMsg_FormatOptions) :
    ∃ collection msg items updateItems, addStatusItems none calls = .ok collection ∧
      ivpMsg_parse malloced
        (ivpMsg_createJsonString realText (ivpPluginStatus_createMsg collection now) options) =
          some msg ∧
      collectionItems (viewMessage msg).payload = .ok items ∧
      CoreConnection.statusItems [] [] items =
        .ok (updateItems, calls.filterMap StatusCall.removal) ∧
      Rising updateItems ∧
      ∀ key, updateItems.lookup key = (calls.filterMap StatusCall.update).reverse.lookup key := by
  obtain ⟨collection, hcollection, hprintable, hitems⟩ := exists_collection (fun _ => rfl)
    addStatusItem_array (fun call _ => printable_statusCall call) calls
  have hplain : ∃ m : PlainMessage, m.toIvpMessage = ivpPluginStatus_createMsg collection now :=
    exists_plain_create (forall_mem_some (by decide)) (forall_mem_some (by decide)) hprintable hnow
  have hparse := parse_createJsonString_of_plain hplain realText malloced options
  have hrising : Rising ([] : List (String × String)) := List.Pairwise.nil
  refine ⟨collection, _, _, _, hcollection, hparse, hitems, statusItems_filterMap [] [] calls,
    hrising.foldl_assign _, ?_⟩
  intro key
  rw [lookup_foldl_assign, List.lookup_nil, Option.or_none]

/-- Two items are set, one of them twice, one is removed, and one call is given nothing. -/
theorem status_roundTrip_twice :
    ∃ collection msg items updateItems,
      addStatusItems none [⟨some ⟨ascii "Speed", by decide⟩, some ⟨ascii "1", by decide⟩⟩,
        ⟨some ⟨ascii "Speed", by decide⟩, none⟩, ⟨none, none⟩,
        ⟨some ⟨ascii "Heading", by decide⟩, some ⟨ascii "7", by decide⟩⟩,
        ⟨some ⟨ascii "Speed", by decide⟩, some ⟨ascii "2", by decide⟩⟩] = .ok collection ∧
      ivpMsg_parse ⟨0, 0⟩ (ivpMsg_createJsonString (fun _ => [])
        (ivpPluginStatus_createMsg collection 0) .none) = some msg ∧
      collectionItems (viewMessage msg).payload = .ok items ∧
      CoreConnection.statusItems [] [] items = .ok (updateItems, ["Speed"]) ∧
      Rising updateItems ∧ updateItems.lookup "Speed" = some "2" ∧
      updateItems.lookup "Heading" = some "7" ∧ updateItems.lookup "" = none := by
  obtain ⟨collection, msg, items, updateItems, hcollection, hparse, hitems, hstatus, hrising,
    hlookup⟩ := status_roundTrip (fun _ => []) ⟨0, 0⟩
      [⟨some ⟨ascii "Speed", by decide⟩, some ⟨ascii "1", by decide⟩⟩,
        ⟨some ⟨ascii "Speed", by decide⟩, none⟩, ⟨none, none⟩,
        ⟨some ⟨ascii "Heading", by decide⟩, some ⟨ascii "7", by decide⟩⟩,
        ⟨some ⟨ascii "Speed", by decide⟩, some ⟨ascii "2", by decide⟩⟩]
      (show (0 : UInt64).toNat < 2 ^ 53 by decide) .none
  exact ⟨collection, msg, items, updateItems, hcollection, hparse, hitems, hstatus, hrising,
    hlookup "Speed", hlookup "Heading", hlookup ""⟩

/-! ## Configuration items -/

/-- The arguments of `ivpConfig_addItemToCollection`. -/
structure ConfigCall where
  key : CText
  value : Option CText
  defaultValue : Option CText

def addConfigItem (collection : Option Item) (call : ConfigCall) : Except Halt Item :=
  ivpConfig_addItemToCollection collection call.key.val (call.value.map Subtype.val)
    (call.defaultValue.map Subtype.val)

def addConfigItems (collection : Option Item) (calls : List ConfigCall) :
    Except Halt (Option Item) :=
  addEach addConfigItem collection calls

/-- What is to be read for a call. -/
def ConfigCall.configItem (call : ConfigCall) : Option IvpConfigItem :=
  if call.value.isSome ∨ call.defaultValue.isSome then
    some
      { key := some (cppString call.key.val)
        value := call.value.map fun value => cppString value.val
        defaultValue := call.defaultValue.map fun value => cppString value.val
        description := none }
  else none

/-- What a call adds to the array. -/
def ConfigCall.item (call : ConfigCall) : Option Item :=
  if call.value.isSome ∨ call.defaultValue.isSome then
    some (.object (addString "key" (some call.key.val) ++
      addString "value" (call.value.map Subtype.val) ++
      addString "default" (call.defaultValue.map Subtype.val)))
  else none

theorem addConfigItem_array (items : List Item) (call : ConfigCall) :
    addConfigItem (some (.array items)) call = .ok (.array (items ++ call.item.toList)) := by
  obtain ⟨key, value, defaultValue⟩ := call
  cases value with
  | some value => rfl
  | none =>
      cases defaultValue with
      | some defaultValue => rfl
      | none =>
          have hitem : ConfigCall.item ⟨key, none, none⟩ = none := rfl
          rw [hitem, Option.toList_none, List.append_nil]
          rfl

theorem printable_configCall (call : ConfigCall) {item : Item} (hitem : call.item = some item) :
    Printable item := by
  unfold ConfigCall.item at hitem
  split at hitem
  · cases hitem
    exact printableMembers_append (printableMembers_append
      (printableMembers_addString (by decide) (forall_mem_some call.key.property))
      (printableMembers_addString (by decide) forall_mem_map_val))
      (printableMembers_addString (by decide) forall_mem_map_val)
  · cases hitem

theorem getConfigItem_view (item : Item) :
    ivpConfig_getItem (view item) =
      { key := (getStr item (ascii "key")).map cppString
        value := (getStr item (ascii "value")).map cppString
        defaultValue := (getStr item (ascii "default")).map cppString
        description := (getStr item (ascii "description")).map cppString } := by
  have hstr (name : String) (h : cppString (ascii name) = name) :
      (view item).tryGetStr name = (getStr item (ascii name)).map cppString := by
    rw [← getStr_view, h]
  rw [ivpConfig_getItem, hstr "key" rfl, hstr "value" rfl, hstr "default" rfl,
    hstr "description" rfl]

/-- An item of the array is read as the call that has added it. -/
theorem getItem_configCall (call : ConfigCall) :
    (call.item.map fun item => ivpConfig_getItem (view (reparsed item))) = call.configItem := by
  obtain ⟨key, value, defaultValue⟩ := call
  cases value with
  | some value =>
      show some (ivpConfig_getItem (view (reparsed _))) = _
      rw [getConfigItem_view]
      cases defaultValue <;> rfl
  | none =>
      cases defaultValue with
      | some defaultValue =>
          show some (ivpConfig_getItem (view (reparsed _))) = _
          rw [getConfigItem_view]
          rfl
      | none => rfl

/-- **Configuration values arrive**, in order, and an item that has neither a value nor a default is
left out. -/
theorem config_roundTrip (realText : ℚ → List UInt8) (malloced : IvpDsrcMetadata)
    (calls : List ConfigCall) {now : UInt64} (hnow : now.toNat < 2 ^ 53)
    (options : IvpMsg_FormatOptions) :
    ∃ collection msg items, addConfigItems none calls = .ok collection ∧
      ivpMsg_parse malloced
        (ivpMsg_createJsonString realText (ivpConfig_createMsg collection now) options) =
          some msg ∧
      collectionItems (viewMessage msg).payload = .ok items ∧
      items.map ivpConfig_getItem = calls.filterMap ConfigCall.configItem := by
  obtain ⟨collection, hcollection, hprintable, hitems⟩ := exists_collection (fun _ => rfl)
    addConfigItem_array (fun call _ => printable_configCall call) calls
  have hplain : ∃ m : PlainMessage, m.toIvpMessage = ivpConfig_createMsg collection now :=
    exists_plain_create (forall_mem_some (by decide)) (forall_mem_some (by decide)) hprintable hnow
  have hparse := parse_createJsonString_of_plain hplain realText malloced options
  refine ⟨collection, _, _, hcollection, hparse, hitems, ?_⟩
  rw [List.map_map, List.map_filterMap]
  exact congrArg (fun f => calls.filterMap f) (funext getItem_configCall)

/-- A value, a default, neither, and both. -/
theorem config_roundTrip_fourCalls :
    ∃ collection msg items,
      addConfigItems none [⟨⟨ascii "Frequency", by decide⟩, some ⟨ascii "10", by decide⟩, none⟩,
        ⟨⟨ascii "Port", by decide⟩, none, some ⟨ascii "26789", by decide⟩⟩,
        ⟨⟨ascii "Address", by decide⟩, none, none⟩,
        ⟨⟨ascii "Log", by decide⟩, some ⟨ascii "", by decide⟩, some ⟨ascii "on", by decide⟩⟩] =
        .ok collection ∧
      ivpMsg_parse ⟨0, 0⟩ (ivpMsg_createJsonString (fun _ => [])
        (ivpConfig_createMsg collection 0) .none) = some msg ∧
      collectionItems (viewMessage msg).payload = .ok items ∧
      items.map ivpConfig_getItem = [⟨some "Frequency", some "10", none, none⟩,
        ⟨some "Port", none, some "26789", none⟩, ⟨some "Log", some "", some "on", none⟩] :=
  config_roundTrip (fun _ => []) ⟨0, 0⟩ _ (by decide) .none

/-! ## Errors -/

/-- The enumerations are read as any `int`. -/
structure IvpError where
  level : Int32
  error : Int32
  sysErrNo : Int32

/-- `IVP_ERROR_FIELD_ERROR` and `IVP_ERROR_FIELD_SYSTEM_ERROR_NUMBER` are the same. -/
def errorItems (err : IvpError) : List (List UInt8 × Item) :=
  [(ascii "level", cJson_createNumber err.level.toInt),
    (ascii "error", cJson_createNumber err.error.toInt),
    (ascii "error", cJson_createNumber err.sysErrNo.toInt)]

def ivpError_createMsg (err : IvpError) (now : UInt64) : IvpMessage :=
  ivpMsg_create (some (ascii "__error")) none (some (ascii "json")) 0
    (some (.object (errorItems err))) now

/-- A message of another type is an assertion that fails. -/
def ivpError_getError (msg : IvpMessage) : Except Halt IvpError :=
  if msg.type = some (ascii "__error") then
    match msg.payload with
    | none => .ok ⟨0, 0, 0⟩
    | some payload =>
        .ok { level := Int32.ofInt ((getInt payload (ascii "level")).getD 0)
              error := Int32.ofInt ((getInt payload (ascii "error")).getD 0)
              sysErrNo := Int32.ofInt ((getInt payload (ascii "error")).getD 0) }
  else .error .assertion

theorem printable_errorItems (err : IvpError) : Printable (.object (errorItems err)) :=
  ⟨by decide, printable_int32Number _, by decide, printable_int32Number _, by decide,
    printable_int32Number _, trivial⟩

theorem ofInt_trunc (n : Int32) : Int32.ofInt (trunc (n.toInt : ℚ)) = n := by
  rw [trunc_intCast]
  exact Int32.ofInt_toInt n

/-- **Errors arrive** with their level and number. The number of the system error does not: what is
read for it is the first field of the name, the number of the error. -/
theorem error_roundTrip (realText : ℚ → List UInt8) (malloced : IvpDsrcMetadata) (err : IvpError)
    {now : UInt64} (hnow : now.toNat < 2 ^ 53) (options : IvpMsg_FormatOptions) :
    ∃ msg, ivpMsg_parse malloced
        (ivpMsg_createJsonString realText (ivpError_createMsg err now) options) = some msg ∧
      ivpError_getError msg = .ok { err with sysErrNo := err.error } := by
  have hplain : ∃ m : PlainMessage, m.toIvpMessage = ivpError_createMsg err now :=
    exists_plain_create (forall_mem_some (by decide)) (forall_mem_some (by decide))
      (printable_some (printable_errorItems err)) hnow
  have hparse := parse_createJsonString_of_plain hplain realText malloced options
  refine ⟨_, hparse, ?_⟩
  show Except.ok (IvpError.mk (Int32.ofInt (trunc (err.level.toInt : ℚ)))
    (Int32.ofInt (trunc (err.error.toInt : ℚ))) (Int32.ofInt (trunc (err.error.toInt : ℚ)))) = _
  rw [ofInt_trunc, ofInt_trunc]

/-- A connection that was refused: 9 is `IvpError_connectFail`, 111 is `ECONNREFUSED`. -/
theorem error_roundTrip_connectFail :
    ∃ msg, ivpMsg_parse ⟨0, 0⟩
        (ivpMsg_createJsonString (fun _ => []) (ivpError_createMsg ⟨3, 9, 111⟩ 0) .none) =
          some msg ∧
      ivpError_getError msg = .ok ⟨3, 9, 9⟩ :=
  error_roundTrip (fun _ => []) ⟨0, 0⟩ ⟨3, 9, 111⟩ (by decide) .none

end IvpCodec

end V2XHub.Tmx
