import V2XHub.Tmx.ApiMessages
import V2XHub.Tmx.IvpCodec

/-!
# The items of a text as the handlers see them

The texts on the sockets are bytes, and so are the strings in an `IvpMessage`. The handlers of the
core work on `std::string`s, which compare as the bytes do. `view` takes each byte for a character
and leaves of a number its integer; look-up by name does not notice the difference.

**Main result** `ivpMsg_parse_view`: a message is parsed from the view of an item as it is parsed
from a text of the item.
-/

namespace V2XHub.Tmx

namespace IvpCodec

open CJsonText

/-! ## Strings -/

def cppString (s : List UInt8) : String := String.ofList (s.map fun b => Char.ofNat b.toNat)

theorem toNat_ofNat (b : UInt8) : (Char.ofNat b.toNat).toNat = b.toNat := by
  have hvalid : b.toNat.isValidChar := by
    have hlt := b.toNat_lt
    exact .inl (by omega)
  rw [Char.ofNat, dif_pos hvalid]
  rfl

theorem ofNat_toNat_injective : Function.Injective fun b : UInt8 => Char.ofNat b.toNat := by
  intro b b' h
  have htoNat : (Char.ofNat b.toNat).toNat = (Char.ofNat b'.toNat).toNat := congrArg Char.toNat h
  rw [toNat_ofNat, toNat_ofNat] at htoNat
  exact UInt8.toNat_inj.mp htoNat

theorem toList_cppString (s : List UInt8) :
    (cppString s).toList = s.map fun b => Char.ofNat b.toNat := String.toList_ofList

theorem cppString_injective {s s' : List UInt8} (h : cppString s = cppString s') : s = s' := by
  have hlist := congrArg String.toList h
  rw [toList_cppString, toList_cppString] at hlist
  exact List.map_injective_iff.mpr ofNat_toNat_injective hlist

@[simp] theorem cppString_inj {s s' : List UInt8} : cppString s = cppString s' ↔ s = s' :=
  ⟨cppString_injective, congrArg cppString⟩

@[simp] theorem cppString_eq_empty {s : List UInt8} : cppString s = "" ↔ s = [] := by
  show cppString s = cppString [] ↔ s = []
  exact cppString_inj

theorem toLower_byte : ∀ b : Fin 256,
    (Char.ofNat b).toLower = Char.ofNat (tolower (UInt8.ofNat b)).toNat := by
  decide +kernel

theorem toLower_ofNat (b : UInt8) :
    (Char.ofNat b.toNat).toLower = Char.ofNat (tolower b).toNat := by
  have h := toLower_byte ⟨b.toNat, b.toNat_lt⟩
  rwa [UInt8.ofNat_toNat] at h

/-- `cJSON_strcasecmp` on both sides. -/
theorem sameName_cppString (s s' : List UInt8) :
    CJson.sameName (cppString s) (cppString s') = sameName s s' := by
  have hlower (s : List UInt8) :
      (cppString s).toList.map Char.toLower = (cppString (s.map tolower)).toList := by
    rw [toList_cppString, toList_cppString, List.map_map, List.map_map]
    exact List.map_congr_left fun b _ => toLower_ofNat b
  rw [CJson.sameName, sameName, hlower, hlower]
  apply decide_eq_decide.mpr
  rw [String.toList_inj, cppString_inj]

/-! ## Items -/

mutual

def view : Item → CJson
  | .false => .false
  | .true => .true
  | .null => .null
  | .number valueint _ => .number valueint
  | .string s => .string (cppString s)
  | .array items => .array (viewItems items)
  | .object members => .object (viewMembers members)

def viewItems : List Item → List CJson
  | [] => []
  | item :: items => view item :: viewItems items

def viewMembers : List (List UInt8 × Item) → List (String × CJson)
  | [] => []
  | (name, item) :: members => (cppString name, view item) :: viewMembers members

end

attribute [local simp] view viewItems viewMembers

theorem viewMembers_eq_map (members : List (List UInt8 × Item)) :
    viewMembers members = members.map fun m => (cppString m.1, view m.2) := by
  induction members with
  | nil => rfl
  | cons m members ih => simp [ih]

/-- `cJSON_GetObjectItem` by a name that need not be one of a message. -/
def getObjectItem (object : Item) (name : List UInt8) : Option Item :=
  match object with
  | .object members => (members.find? fun m => sameName m.1 name).map Prod.snd
  | _ => none

theorem getObjectItem_view (root : Item) (name : List UInt8) :
    (view root).getObjectItem (cppString name) = (getObjectItem root name).map view := by
  cases root with
  | object members =>
      show Option.map Prod.snd (List.find? _ (viewMembers members)) = _
      rw [viewMembers_eq_map, List.find?_map, getObjectItem, Option.map_map, Option.map_map]
      simp only [Function.comp_def, sameName_cppString]
  | _ => rfl

/-- `cJSONxtra_tryGetStr` by any name. -/
def getStr (root : Item) (name : List UInt8) : Option (List UInt8) :=
  match getObjectItem root name with
  | some (.string s) => some s
  | _ => none

theorem getStr_view (root : Item) (name : List UInt8) :
    (view root).tryGetStr (cppString name) = (getStr root name).map cppString := by
  rw [CJson.tryGetStr, getStr, getObjectItem_view]
  cases getObjectItem root name with
  | none => rfl
  | some item => cases item <;> rfl

/-- `cJSONxtra_tryGetInt` by any name. -/
def getInt (root : Item) (name : List UInt8) : Option Int :=
  match getObjectItem root name with
  | some (.number valueint _) => some valueint
  | _ => none

theorem getInt_view (root : Item) (name : List UInt8) :
    (view root).tryGetInt (cppString name) = getInt root name := by
  rw [CJson.tryGetInt, getInt, getObjectItem_view]
  cases getObjectItem root name with
  | none => rfl
  | some item => cases item <;> rfl

/-! ## Messages -/

/-- The message as the handlers of the core see it. -/
def viewMessage (msg : IvpMessage) : CoreMessage where
  type := msg.type.map cppString
  subtype := msg.subtype.map cppString
  flags := msg.flags
  source := msg.source.map cppString
  payload := msg.payload.map view

/-- Both ways to a message agree, on every text. -/
theorem ivpMsg_parse_view (malloced : IvpDsrcMetadata) (jsonmsg : List UInt8) :
    (ivpMsg_parse malloced jsonmsg).map viewMessage =
      (cJson_parse jsonmsg).bind fun root => Tmx.ivpMsg_parse (view root) := by
  rw [ivpMsg_parse, Option.map_bind]
  congr 1
  funext root
  have hheader : (view root).getObjectItem "header" =
      (cJson_getObjectItem root .header).map view := getObjectItem_view root (ascii "header")
  have hpayload : (view root).getObjectItem "payload" =
      (cJson_getObjectItem root .payload).map view := getObjectItem_view root (ascii "payload")
  show Option.map viewMessage (Option.map _ _) = _
  rw [Tmx.ivpMsg_parse, hheader, hpayload, Option.map_map, Option.map_map]
  congr 1
  funext header
  have htype : (view header).tryGetStr "type" = (tryGetStr header .type).map cppString :=
    getStr_view header (ascii "type")
  have hsubtype : (view header).tryGetStr "subtype" = (tryGetStr header .subtype).map cppString :=
    getStr_view header (ascii "subtype")
  have hsource : (view header).tryGetStr "source" = (tryGetStr header .source).map cppString :=
    getStr_view header (ascii "source")
  have hflags : (view header).tryGetInt "flags" = tryGetNumber header .flags :=
    getInt_view header (ascii "flags")
  have hunsigned : toUnsigned ((tryGetNumber header .flags).getD 0) =
      (tryGetUnsignedInt header .flags).getD 0 := by
    rw [tryGetUnsignedInt]
    cases tryGetNumber header .flags <;> rfl
  simp only [Function.comp_def, viewMessage, htype, hsubtype, hsource, hflags, hunsigned]

end IvpCodec

end V2XHub.Tmx
