import V2XHub.Lib.AssocList
import V2XHub.Tmx.CJsonRoundTrip

/-!
# The text of an IVP message

`ivpMsg_createJsonString` builds an object from a message and prints it, and `ivpMsg_parse` parses a
text and looks the fields up. Strings that are absent and a source id of zero have no field.

A `double` is a rational number, as in the texts of cJSON; the integer beside the number of a
timestamp may be another one above 2^52, where it is not printed.

**Main result** `createJsonString_roundTrip`: a message is parsed from its text, formatted or not,
and the framer finds none of its bytes in the unformatted text.
-/

namespace V2XHub.Tmx

namespace IvpCodec

open V2XHub.Lib CJsonText

/-! ## Messages -/

structure IvpDsrcMetadata where
  psid : Int32
  channel : Int32

structure IvpMessage where
  type : Option (List UInt8)
  subtype : Option (List UInt8)
  source : Option (List UInt8)
  sourceId : UInt32
  encoding : Option (List UInt8)
  timestamp : UInt64
  flags : UInt32
  dsrcMetadata : Option IvpDsrcMetadata
  payload : Option Item

inductive IvpMsg_FormatOptions where
  | none
  | formatted
  deriving DecidableEq

/-- The names of the members, `IVPMSG_FIELD_*` and `IVPMSG_HFIELD_*`. -/
inductive Field where
  | header
  | payload
  | type
  | subtype
  | source
  | sourceId
  | encoding
  | flags
  | dsrcMetadata
  | channel
  | psid
  | timestamp
  deriving DecidableEq

def Field.name : Field → List UInt8
  | .header => ascii "header"
  | .payload => ascii "payload"
  | .type => ascii "type"
  | .subtype => ascii "subtype"
  | .source => ascii "source"
  | .sourceId => ascii "sourceId"
  | .encoding => ascii "encoding"
  | .flags => ascii "flags"
  | .dsrcMetadata => ascii "dsrcMetadata"
  | .channel => ascii "channel"
  | .psid => ascii "psid"
  | .timestamp => ascii "timestamp"

/-! ## Items -/

def tolower (b : UInt8) : UInt8 := if 0x41 ≤ b ∧ b ≤ 0x5a then b + 0x20 else b

/-- `cJSON_strcasecmp` finds no difference. -/
def sameName (s1 s2 : List UInt8) : Bool := s1.map tolower = s2.map tolower

/-- `cJSON_GetObjectItem`: the entries of an array have no names. -/
def cJson_getObjectItem (object : Item) (field : Field) : Option Item :=
  match object with
  | .object members => (members.find? fun member => sameName member.1 field.name).map Prod.snd
  | _ => none

def tryGetStr (root : Item) (field : Field) : Option (List UInt8) :=
  match cJson_getObjectItem root field with
  | some (.string valuestring) => some valuestring
  | _ => none

/-- `cJSONxtra_tryGetUnsignedInt`, `cJSONxtra_tryGetInt` and `cJSONxtra_tryGetInt64`, before the
integer is assigned to a type of its own. -/
def tryGetNumber (root : Item) (field : Field) : Option Int :=
  match cJson_getObjectItem root field with
  | some (.number valueint _) => some valueint
  | _ => none

def tryGetUnsignedInt (root : Item) (field : Field) : Option UInt32 :=
  (tryGetNumber root field).map UInt32.ofInt

def tryGetInt (root : Item) (field : Field) : Option Int32 :=
  (tryGetNumber root field).map Int32.ofInt

def tryGetInt64 (root : Item) (field : Field) : Option UInt64 :=
  (tryGetNumber root field).map UInt64.ofInt

def cJson_createNumber (num : ℚ) : Item := .number (trunc (num + 1 / 2)) num

/-- What is added to an object, of the items that there are. -/
def members (items : List (Field × Option Item)) : List (List UInt8 × Item) :=
  items.filterMap fun entry => entry.2.map fun item => (entry.1.name, item)

def object (items : List (Field × Option Item)) : Item := .object (members items)

/-! ## Creation and parsing -/

def dsrcMetadataItems (dsrcMetadata : IvpDsrcMetadata) : List (Field × Option Item) :=
  [(.channel, some (cJson_createNumber dsrcMetadata.channel.toInt)),
    (.psid, some (cJson_createNumber dsrcMetadata.psid.toInt))]

def headerItems (msg : IvpMessage) : List (Field × Option Item) :=
  [(.type, msg.type.map Item.string),
    (.subtype, msg.subtype.map Item.string),
    (.source, msg.source.map Item.string),
    (.sourceId, if msg.sourceId ≠ 0 then some (cJson_createNumber msg.sourceId.toNat) else none),
    (.encoding, msg.encoding.map Item.string),
    (.timestamp, some (cJson_createNumber msg.timestamp.toNat)),
    (.flags, some (cJson_createNumber msg.flags.toNat)),
    (.dsrcMetadata, msg.dsrcMetadata.map fun metadata => object (dsrcMetadataItems metadata))]

def rootItems (msg : IvpMessage) : List (Field × Option Item) :=
  [(.header, some (object (headerItems msg))), (.payload, msg.payload)]

def ivpMsg_createJsonString (realText : ℚ → List UInt8) (msg : IvpMessage)
    (options : IvpMsg_FormatOptions) : List UInt8 :=
  cJson_print realText (options = .formatted) (object (rootItems msg))

/-- The DSRC metadata are allocated uninitialised. -/
def ivpMsg_parse (malloced : IvpDsrcMetadata) (jsonmsg : List UInt8) : Option IvpMessage :=
  (cJson_parse jsonmsg).bind fun root =>
    (cJson_getObjectItem root .header).map fun header =>
      { type := tryGetStr header .type
        subtype := tryGetStr header .subtype
        source := tryGetStr header .source
        sourceId := (tryGetUnsignedInt header .sourceId).getD 0
        encoding := tryGetStr header .encoding
        timestamp := (tryGetInt64 header .timestamp).getD 0
        flags := (tryGetUnsignedInt header .flags).getD 0
        dsrcMetadata := (cJson_getObjectItem header .dsrcMetadata).map fun dsrcMetadata =>
          { psid := (tryGetInt dsrcMetadata .psid).getD malloced.psid
            channel := (tryGetInt dsrcMetadata .channel).getD malloced.channel }
        payload := cJson_getObjectItem root .payload }

/-! ## Objects -/

theorem Field.sameName_name (f g : Field) : sameName f.name g.name = decide (f = g) := by
  cases f <;> cases g <;> decide

theorem Field.zero_notMem_name (f : Field) : 0 ∉ f.name := by
  cases f <;> decide

section

variable {items : List (Field × Option Item)}

theorem getObjectItem_cons_self (f : Field) (item : Item) (items : List (Field × Option Item)) :
    cJson_getObjectItem (object ((f, some item) :: items)) f = some item := by
  show Option.map _ (List.find? _ ((f.name, item) :: members items)) = _
  rw [List.find?_cons_of_pos (by simp [Field.sameName_name])]
  rfl

theorem getObjectItem_cons_of_ne {f g : Field} (h : g ≠ f) (item : Option Item)
    (items : List (Field × Option Item)) :
    cJson_getObjectItem (object ((g, item) :: items)) f = cJson_getObjectItem (object items) f := by
  cases item with
  | none => rfl
  | some item =>
      show Option.map _ (List.find? _ ((g.name, item) :: members items)) = _
      rw [List.find?_cons_of_neg (by simp [Field.sameName_name, h])]
      rfl

/-- Where every member has a name of its own, look-up finds the item that was added. -/
theorem getObjectItem_object (h : (items.map Prod.fst).Nodup) (f : Field) :
    cJson_getObjectItem (object items) f = (items.lookup f).join := by
  induction items with
  | nil => rfl
  | cons entry items ih =>
      obtain ⟨g, item⟩ := entry
      rw [List.map_cons, List.nodup_cons] at h
      have hrest := ih h.2
      rw [List.lookup_cons]
      by_cases hfg : g = f
      · subst hfg
        -- no later member has that name
        have hlater : items.lookup g = none := lookup_eq_none_iff_not_mem.mpr h.1
        rw [beq_self_eq_true]
        cases item with
        | none =>
            show cJson_getObjectItem (object items) g = none
            rw [hrest, hlater]
            rfl
        | some item => exact getObjectItem_cons_self g item items
      · rw [getObjectItem_cons_of_ne hfg, hrest, beq_eq_false_iff_ne.mpr (Ne.symm hfg)]

theorem reparsed_object (items : List (Field × Option Item)) :
    reparsed (object items) = object (items.map fun entry => (entry.1, entry.2.map reparsed)) := by
  show Item.object (reparsedMembers (members items)) = Item.object (members _)
  congr 1
  induction items with
  | nil => rfl
  | cons entry items ih =>
      obtain ⟨f, item⟩ := entry
      cases item with
      | none => exact ih
      | some item => exact congrArg ((f.name, reparsed item) :: ·) ih

theorem getObjectItem_reparsed (h : (items.map Prod.fst).Nodup) (f : Field) :
    cJson_getObjectItem (reparsed (object items)) f = (items.lookup f).join.map reparsed := by
  have hmap : ((items.map fun entry => (entry.1, entry.2.map reparsed)).map Prod.fst).Nodup := by
    rwa [List.map_map]
  rw [reparsed_object, getObjectItem_object hmap,
    lookup_map (fun _ item => Option.map reparsed item)]
  cases items.lookup f with
  | none => rfl
  | some item => rfl

theorem printable_object (h : ∀ entry ∈ items, ∀ item ∈ entry.2, Printable item) :
    Printable (object items) := by
  show PrintableMembers (members items)
  induction items with
  | nil => trivial
  | cons entry items ih =>
      obtain ⟨f, item⟩ := entry
      have hitems := ih fun entry hentry => h entry (List.mem_cons_of_mem _ hentry)
      cases item with
      | none => exact hitems
      | some item => exact ⟨f.zero_notMem_name, h _ List.mem_cons_self item rfl, hitems⟩

end

section

variable {z : Int}

theorem printable_createNumber (hz : |z| < 2 ^ 53) : Printable (cJson_createNumber z) :=
  ⟨z, rfl, hz⟩

theorem reparsed_createNumber (z : Int) : reparsed (cJson_createNumber z) = .number z z := by
  show Item.number (trunc (z : ℚ)) z = _
  rw [trunc_intCast]

end

section

variable {root : Item} {f : Field}

theorem tryGetStr_eq {value : Option (List UInt8)}
    (h : cJson_getObjectItem root f = value.map Item.string) : tryGetStr root f = value := by
  rw [tryGetStr, h]
  cases value with
  | none => rfl
  | some s => rfl

theorem tryGetNumber_eq {z : Int} (h : cJson_getObjectItem root f = some (.number z z)) :
    tryGetNumber root f = some z := by
  rw [tryGetNumber, h]

theorem ofInt_toNat_uint32 (n : UInt32) : UInt32.ofInt n.toNat = n := by
  have hlt : (n.toNat : Int) < 2 ^ 32 := by exact_mod_cast n.toNat_lt
  rw [UInt32.ofInt, Int.emod_eq_of_lt (Int.natCast_nonneg _) hlt, Int.toNat_natCast,
    UInt32.ofNat_toNat]

theorem ofInt_toNat_uint64 (n : UInt64) : UInt64.ofInt n.toNat = n := by
  have hlt : (n.toNat : Int) < 2 ^ 64 := by exact_mod_cast n.toNat_lt
  rw [UInt64.ofInt, Int.emod_eq_of_lt (Int.natCast_nonneg _) hlt, Int.toNat_natCast,
    UInt64.ofNat_toNat]

theorem tryGetUnsignedInt_eq {n : UInt32}
    (h : cJson_getObjectItem root f = some (.number (n.toNat : Int) (n.toNat : Int))) :
    tryGetUnsignedInt root f = some n := by
  rw [tryGetUnsignedInt, tryGetNumber_eq h]
  exact congrArg some (ofInt_toNat_uint32 n)

theorem tryGetInt64_eq {n : UInt64}
    (h : cJson_getObjectItem root f = some (.number (n.toNat : Int) (n.toNat : Int))) :
    tryGetInt64 root f = some n := by
  rw [tryGetInt64, tryGetNumber_eq h]
  exact congrArg some (ofInt_toNat_uint64 n)

theorem tryGetInt_eq {n : Int32}
    (h : cJson_getObjectItem root f = some (.number n.toInt n.toInt)) :
    tryGetInt root f = some n := by
  rw [tryGetInt, tryGetNumber_eq h]
  exact congrArg some (Int32.ofInt_toInt n)

end

/-! ## Messages that are parsed from their text -/

theorem nodup_headerItems (msg : IvpMessage) : ((headerItems msg).map Prod.fst).Nodup := by
  show [Field.type, .subtype, .source, .sourceId, .encoding, .timestamp, .flags,
    .dsrcMetadata].Nodup
  decide

theorem nodup_rootItems (msg : IvpMessage) : ((rootItems msg).map Prod.fst).Nodup := by
  show [Field.header, .payload].Nodup
  decide

theorem nodup_dsrcMetadataItems (dsrcMetadata : IvpDsrcMetadata) :
    ((dsrcMetadataItems dsrcMetadata).map Prod.fst).Nodup := by
  show [Field.channel, .psid].Nodup
  decide

theorem tryGetInt_dsrcMetadataItems {dsrcMetadata : IvpDsrcMetadata} (f : Field) {n : Int32}
    (h : (dsrcMetadataItems dsrcMetadata).lookup f = some (some (cJson_createNumber n.toInt))) :
    tryGetInt (reparsed (object (dsrcMetadataItems dsrcMetadata))) f = some n := by
  apply tryGetInt_eq
  rw [getObjectItem_reparsed (nodup_dsrcMetadataItems dsrcMetadata), h]
  exact congrArg some (reparsed_createNumber n.toInt)

section

variable {msg : IvpMessage} {f : Field}

theorem tryGetStr_header (msg : IvpMessage) (f : Field) {value : Option (List UInt8)}
    (h : (headerItems msg).lookup f = some (value.map Item.string)) :
    tryGetStr (reparsed (object (headerItems msg))) f = value := by
  apply tryGetStr_eq
  rw [getObjectItem_reparsed (nodup_headerItems msg), h]
  cases value with
  | none => rfl
  | some s => rfl

theorem getObjectItem_header_number {z : Int}
    (h : (headerItems msg).lookup f = some (some (cJson_createNumber z))) :
    cJson_getObjectItem (reparsed (object (headerItems msg))) f = some (.number z z) := by
  rw [getObjectItem_reparsed (nodup_headerItems msg), h]
  exact congrArg some (reparsed_createNumber z)

/-- An id of zero has no member, and is what a message has from the start. -/
theorem sourceId_header (msg : IvpMessage) :
    (tryGetUnsignedInt (reparsed (object (headerItems msg))) .sourceId).getD 0 = msg.sourceId := by
  by_cases hzero : msg.sourceId = 0
  · have hnone : (headerItems msg).lookup .sourceId = some none := congrArg some (if_neg (by simpa))
    have hget : cJson_getObjectItem (reparsed (object (headerItems msg))) .sourceId = none := by
      rw [getObjectItem_reparsed (nodup_headerItems msg), hnone]
      rfl
    rw [tryGetUnsignedInt, tryGetNumber, hget]
    exact hzero.symm
  · have hsome : (headerItems msg).lookup .sourceId =
        some (some (cJson_createNumber ((msg.sourceId.toNat : Int) : ℚ))) :=
      congrArg some (if_pos hzero)
    rw [tryGetUnsignedInt_eq (getObjectItem_header_number hsome)]
    rfl

theorem dsrcMetadata_header (malloced : IvpDsrcMetadata) (msg : IvpMessage) :
    ((cJson_getObjectItem (reparsed (object (headerItems msg))) .dsrcMetadata).map
      fun dsrcMetadata =>
        { psid := (tryGetInt dsrcMetadata .psid).getD malloced.psid
          channel := (tryGetInt dsrcMetadata .channel).getD malloced.channel }) =
      msg.dsrcMetadata := by
  have hlookup : (headerItems msg).lookup .dsrcMetadata =
      some (msg.dsrcMetadata.map fun dsrcMetadata => object (dsrcMetadataItems dsrcMetadata)) := rfl
  rw [getObjectItem_reparsed (nodup_headerItems msg), hlookup]
  cases msg.dsrcMetadata with
  | none => rfl
  | some dsrcMetadata =>
      show some (IvpDsrcMetadata.mk _ _) = _
      have hpsid := tryGetInt_dsrcMetadataItems .psid (n := dsrcMetadata.psid) rfl
      have hchannel := tryGetInt_dsrcMetadataItems .channel (n := dsrcMetadata.channel) rfl
      rw [hpsid, hchannel]
      rfl

end

/-- A message as it is parsed from its text: the integers of its payload are made anew from their
numbers. -/
def IvpMessage.reparsed (msg : IvpMessage) : IvpMessage :=
  { msg with payload := msg.payload.map CJsonText.reparsed }

theorem ivpMsg_parse_createJsonString {msg : IvpMessage}
    (h : Printable (object (rootItems msg))) (realText : ℚ → List UInt8)
    (malloced : IvpDsrcMetadata) (options : IvpMsg_FormatOptions) :
    ivpMsg_parse malloced (ivpMsg_createJsonString realText msg options) = some msg.reparsed := by
  have hheader : cJson_getObjectItem (CJsonText.reparsed (object (rootItems msg))) .header =
      some (CJsonText.reparsed (object (headerItems msg))) :=
    getObjectItem_reparsed (nodup_rootItems msg) .header
  have hpayload : cJson_getObjectItem (CJsonText.reparsed (object (rootItems msg))) .payload =
      msg.payload.map CJsonText.reparsed :=
    getObjectItem_reparsed (nodup_rootItems msg) .payload
  have htimestamp : tryGetInt64 (CJsonText.reparsed (object (headerItems msg))) .timestamp =
      some msg.timestamp := tryGetInt64_eq (getObjectItem_header_number rfl)
  have hflags : tryGetUnsignedInt (CJsonText.reparsed (object (headerItems msg))) .flags =
      some msg.flags := tryGetUnsignedInt_eq (getObjectItem_header_number rfl)
  have htype := tryGetStr_header msg .type rfl
  have hsubtype := tryGetStr_header msg .subtype rfl
  have hsource := tryGetStr_header msg .source rfl
  have hencoding := tryGetStr_header msg .encoding rfl
  rw [ivpMsg_parse, ivpMsg_createJsonString, cJson_parse_print h, Option.bind_some, hheader,
    Option.map_some, hpayload, htimestamp, hflags, sourceId_header, dsrcMetadata_header, htype,
    hsubtype, hsource, hencoding]
  rfl

/-! ## Plain messages -/

/-- A message with C strings, and with numbers that a `double` holds exactly. -/
structure PlainMessage extends IvpMessage where
  type_cString : ∀ s ∈ type, 0 ∉ s
  subtype_cString : ∀ s ∈ subtype, 0 ∉ s
  source_cString : ∀ s ∈ source, 0 ∉ s
  encoding_cString : ∀ s ∈ encoding, 0 ∉ s
  timestamp_lt : timestamp.toNat < 2 ^ 53
  payload_printable : ∀ item ∈ payload, Printable item

theorem printable_natNumber {n : Nat} (hn : n < 2 ^ 53) : Printable (cJson_createNumber n) := by
  have habs : |(n : Int)| < 2 ^ 53 := by
    rw [Nat.abs_cast]
    exact_mod_cast hn
  exact printable_createNumber habs

theorem printable_int32Number (n : Int32) : Printable (cJson_createNumber n.toInt) := by
  have hle := n.le_toInt
  have hlt := n.toInt_lt
  exact printable_createNumber (abs_lt.mpr ⟨by omega, by omega⟩)

theorem printable_uint32Number (n : UInt32) : Printable (cJson_createNumber n.toNat) := by
  have hlt := n.toNat_lt
  exact printable_natNumber (by omega)

theorem printable_some {item : Item} (h : Printable item) :
    ∀ item' ∈ some item, Printable item' := by
  rintro _ ⟨⟩
  exact h

theorem printable_strings {value : Option (List UInt8)} (h : ∀ s ∈ value, 0 ∉ s) :
    ∀ item ∈ value.map Item.string, Printable item := by
  intro item hitem
  obtain ⟨s, hs, rfl⟩ := Option.map_eq_some_iff.mp hitem
  exact h s hs

theorem printable_dsrcMetadataItems (dsrcMetadata : IvpDsrcMetadata) :
    Printable (object (dsrcMetadataItems dsrcMetadata)) := by
  apply printable_object
  simp only [dsrcMetadataItems, List.forall_mem_cons]
  exact ⟨printable_some (printable_int32Number _), printable_some (printable_int32Number _),
    List.forall_mem_nil _⟩

theorem PlainMessage.printable_headerItems (m : PlainMessage) :
    Printable (object (headerItems m.toIvpMessage)) := by
  have hsourceId : ∀ item ∈ (if m.sourceId ≠ 0 then some (cJson_createNumber m.sourceId.toNat)
      else none), Printable item := by
    split
    · exact printable_some (printable_uint32Number _)
    · rintro _ ⟨⟩
  have hdsrcMetadata : ∀ item ∈ m.dsrcMetadata.map fun dsrcMetadata =>
      object (dsrcMetadataItems dsrcMetadata), Printable item := by
    intro item hitem
    obtain ⟨dsrcMetadata, -, rfl⟩ := Option.map_eq_some_iff.mp hitem
    exact printable_dsrcMetadataItems dsrcMetadata
  apply printable_object
  simp only [headerItems, List.forall_mem_cons]
  exact ⟨printable_strings m.type_cString, printable_strings m.subtype_cString,
    printable_strings m.source_cString, hsourceId, printable_strings m.encoding_cString,
    printable_some (printable_natNumber m.timestamp_lt), printable_some (printable_uint32Number _),
    hdsrcMetadata, List.forall_mem_nil _⟩

theorem PlainMessage.printable_rootItems (m : PlainMessage) :
    Printable (object (rootItems m.toIvpMessage)) := by
  apply printable_object
  simp only [rootItems, List.forall_mem_cons]
  exact ⟨printable_some m.printable_headerItems, m.payload_printable, List.forall_mem_nil _⟩

theorem IvpMessage.reparsed_eq_self {msg : IvpMessage}
    (h : ∀ item ∈ msg.payload, KeepsIntegers item) : msg.reparsed = msg := by
  have hpayload : msg.payload.map CJsonText.reparsed = msg.payload := by
    cases hp : msg.payload with
    | none => rfl
    | some item => exact congrArg some (CJsonText.reparsed_eq_self (h item hp))
  rw [IvpMessage.reparsed, hpayload]

/-- **Round trip**: a message is parsed from its text, formatted or not, and equal to what it was
where its payload kept its numbers as integers. An unformatted text has no NUL and none of the bytes
that frame it. -/
theorem createJsonString_roundTrip (realText : ℚ → List UInt8) (malloced : IvpDsrcMetadata)
    (m : PlainMessage) :
    (∀ options, ivpMsg_parse malloced (ivpMsg_createJsonString realText m.toIvpMessage options) =
      some m.toIvpMessage.reparsed) ∧
    ((∀ item ∈ m.payload, KeepsIntegers item) → m.toIvpMessage.reparsed = m.toIvpMessage) ∧
    ∀ b ∈ ivpMsg_createJsonString realText m.toIvpMessage .none,
      b ≠ 0x00 ∧ b ≠ 0x02 ∧ b ≠ 0x03 := by
  refine ⟨ivpMsg_parse_createJsonString m.printable_rootItems realText malloced,
    IvpMessage.reparsed_eq_self, ?_⟩
  intro b hb
  have hvisible : 32 ≤ b := visible_cJson_print m.printable_rootItems b hb
  refine ⟨?_, ?_, ?_⟩
  all_goals
    rintro rfl
    exact absurd hvisible (by decide)

end IvpCodec

end V2XHub.Tmx
