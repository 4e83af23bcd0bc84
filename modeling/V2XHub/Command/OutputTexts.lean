import V2XHub.Command.EventLog
import V2XHub.Command.Session
import V2XHub.Command.TelemetryRounds
import V2XHub.Lib.Decimal

/-!
# The texts of the output buffer

What the four functions append to the buffer of a session: a header and a payload between two
delimiters. Some payloads come from `write_json`, others are put together here, with names and
values that are pasted in as they are or with their quotes escaped. For each call there is an exact
condition that what is appended is one JSON text and says what went in.
-/

namespace V2XHub.Command

open V2XHub.Lib
open V2XHub.Lib.JsonText

/-! ## Messages -/

/-- The frame of every message, around its payload. -/
def messageText (type subtype : String) (ms : Nat) (payload : List Char) : List Char :=
  ("\x02\x7b\"header\":\x7b\"type\":\"" ++ type ++ "\",\"subtype\":\"" ++ subtype ++
    "\",\"encoding\":\"jsonstring\",\"timestamp\":\"" ++ toString ms ++
    "\",\"flags\":\"0\"\x7d,\"payload\":").toList ++ payload ++ ['\x7d', '\x03']

def headerFields (type subtype : String) (ms : Nat) : List (String × String) :=
  [("type", type), ("subtype", subtype), ("encoding", "jsonstring"), ("timestamp", toString ms),
   ("flags", "0")]

/-- The object of these names and strings. -/
def fieldsDoc (fields : List (String × String)) : List (String × Doc) :=
  fields.map fun field => (field.1, .text field.2)

/-- What a message says. -/
def messageDoc (type subtype : String) (ms : Nat) (payload : Doc) : Doc :=
  .object [("header", .object (fieldsDoc (headerFields type subtype ms))), ("payload", payload)]

/-- `0x02`, a JSON text of that document with neither delimiter in it, and `0x03`. -/
def Framed (d : Doc) (text : List Char) : Prop :=
  ∃ json, text = '\x02' :: json ++ ['\x03'] ∧ '\x02' ∉ json ∧ '\x03' ∉ json ∧
    readDoc json = some d

/-- The delimiters cannot stand in a text that is read. -/
theorem framed_iff {d : Doc} {json : List Char} :
    Framed d ('\x02' :: json ++ ['\x03']) ↔ readDoc json = some d := by
  constructor
  · rintro ⟨json', htext, _, _, hread⟩
    have heq : json = json' := by simpa using htext
    rw [heq]
    exact hread
  · intro hread
    have hlegible := legible_of_readDoc hread
    have hnot : ∀ c : Char, ¬ Legible c → c ∉ json := fun c hc hmem => hc (hlegible c hmem)
    exact ⟨json, rfl, hnot _ (by decide), hnot _ (by decide), hread⟩

/-! ## Names and strings as they are -/

/-- A name and a string between quotes. -/
def fieldText (field : String × String) : List Char :=
  '"' :: field.1.toList ++ '"' :: ':' :: '"' :: field.2.toList ++ ['"']

/-- Name and string stand for themselves. -/
def PlainField (field : String × String) : Prop := Plain field.1 ∧ Plain field.2

instance decidablePlainField (field : String × String) : Decidable (PlainField field) :=
  inferInstanceAs (Decidable (_ ∧ _))

theorem readsMemberIff_field (field : String × String) :
    ReadsMemberIff (fieldText field) (field.1, .text field.2) (PlainField field) := by
  refine ⟨field.1.toList, [], '"' :: field.2.toList ++ ['"'], Plain field.1, Plain field.2, ?_,
    spellsIff_plain field.1, List.forall_mem_nil _, .text (spellsIff_plain field.2), .rfl⟩
  simp [fieldText]

theorem readsMembersIff_fields (fields : List (String × String)) :
    ReadsMembersIff (fields.map fieldText) (fieldsDoc fields) (∀ field ∈ fields, PlainField field) :=
  .map fun field _ => readsMemberIff_field field

/-- A member with a name that stands for itself. -/
theorem readsMemberIff_named {name : String} (hname : Plain name) {value : List Char} {d : Doc}
    {P : Prop} (h : ReadsIff value d P) :
    ReadsMemberIff ('"' :: name.toList ++ '"' :: ':' :: value) (name, d) P :=
  ⟨name.toList, [], value, Plain name, P, by simp, spellsIff_plain name, List.forall_mem_nil _, h,
    (and_iff_right hname).symm⟩

theorem plain_repr (n : Nat) : Plain (Nat.repr n) := by
  intro c hc
  rw [Nat.toList_repr] at hc
  have hdigit := Nat.isDigit_of_mem_toDigits (by decide) (by decide) hc
  rw [Decimal.isDigit_iff] at hdigit
  refine ⟨?_, ?_, by omega⟩
  · rintro rfl
    exact absurd hdigit (by decide)
  · rintro rfl
    exact absurd hdigit (by decide)

theorem plain_toString_int (n : Int) : Plain (toString n) := by
  cases n with
  | ofNat n => exact plain_repr n
  | negSucc n =>
      have htext : (toString (Int.negSucc n)).toList = '-' :: (Nat.repr (n + 1)).toList := by
        show ("-" ++ Nat.repr (n + 1)).toList = _
        rw [String.toList_append]
        rfl
      unfold Plain
      rw [htext]
      exact List.forall_mem_cons.mpr ⟨by decide, plain_repr (n + 1)⟩

/-! ## Frames -/

section Frames

variable {type subtype : String} {d : Doc} {payload : List Char} {P : Prop}

def headerText (type subtype : String) (ms : Nat) : List Char :=
  '"' :: "header".toList ++ '"' :: ':' ::
    ('\x7b' :: commaSeparated ((headerFields type subtype ms).map fieldText) ++ ['\x7d'])

/-- The JSON text of a message. -/
def messageJson (type subtype : String) (ms : Nat) (payload : List Char) : List Char :=
  '\x7b' :: commaSeparated
    [headerText type subtype ms, '"' :: "payload".toList ++ '"' :: ':' :: payload] ++ ['\x7d']

theorem messageText_eq (type subtype : String) (ms : Nat) (payload : List Char) :
    messageText type subtype ms payload =
      '\x02' :: messageJson type subtype ms payload ++ ['\x03'] := by
  simp [messageText, messageJson, headerText, headerFields, fieldText, commaSeparated]

theorem plainField_headerFields (htype : Plain type) (hsubtype : Plain subtype) (ms : Nat) :
    ∀ field ∈ headerFields type subtype ms, PlainField field := by
  simp only [headerFields, List.forall_mem_cons]
  have hname : ∀ name ∈ ["type", "subtype", "timestamp"], Plain name := by decide
  simp only [List.forall_mem_cons] at hname
  exact ⟨⟨hname.1, htype⟩, ⟨hname.2.1, hsubtype⟩, by decide, ⟨hname.2.2.1, plain_repr ms⟩,
    by decide, List.forall_mem_nil _⟩

theorem readsMemberIff_header (htype : Plain type) (hsubtype : Plain subtype) (ms : Nat) :
    ReadsMemberIff (headerText type subtype ms)
      ("header", .object (fieldsDoc (headerFields type subtype ms))) True := by
  apply readsMemberIff_named (by decide)
  apply ReadsIff.object
  apply (readsMembersIff_fields _).congr
  exact iff_of_true (plainField_headerFields htype hsubtype ms) trivial

/-- A message is as it should be if and only if its payload is. -/
theorem framed_message_iff (htype : Plain type) (hsubtype : Plain subtype)
    (h : ReadsIff payload d P) {gap : List Char} (hgap : ∀ c ∈ gap, isSpace c = true) (ms : Nat) :
    Framed (messageDoc type subtype ms d) (messageText type subtype ms (payload ++ gap)) ↔ P := by
  have hpayload : ReadsMemberIff ('"' :: "payload".toList ++ '"' :: ':' :: payload)
      ("payload", d) P := readsMemberIff_named (by decide) h
  have hread := ReadsIff.object_gap
    (.cons (readsMemberIff_header htype hsubtype ms) (.cons hpayload .nil)) hgap
  have hgap' : ∀ header name : List Char,
      commaSeparated [header, '"' :: name ++ '"' :: ':' :: (payload ++ gap)] =
        commaSeparated [header, '"' :: name ++ '"' :: ':' :: payload] ++ gap := by
    intro header name
    simp [commaSeparated]
  rw [messageText_eq, framed_iff, messageJson, hgap', messageDoc, hread.readDoc_iff, true_and,
    and_true]

/-- Without a payload, the text is not JSON. -/
theorem not_framed_nil (htype : Plain type) (hsubtype : Plain subtype) (ms : Nat) :
    ¬ Framed (messageDoc type subtype ms d) (messageText type subtype ms []) := by
  rw [messageText_eq, framed_iff]
  intro hread
  obtain ⟨rest, hvalue⟩ := readValue_of_readDoc hread
  have hjson : messageJson type subtype ms [] = '\x7b' :: (headerText type subtype ms ++
      ',' :: ('"' :: "payload".toList ++ '"' :: ':' :: '\x7d' :: [])) := by
    simp [messageJson, commaSeparated]
  have hheader := readsMemberIff_header htype hsubtype ms
  obtain ⟨t, ht⟩ := hheader.first
  rw [hjson, ht, List.cons_append] at hvalue
  obtain ⟨n, members, hdoc, hmembers⟩ := readValue_object hvalue
  rw [← List.cons_append, ← ht] at hmembers
  cases hdoc
  -- the header is read, and then there is a name with nothing after the colon
  rcases (readMembers_inv hheader hmembers).2 with ⟨n', t', hcomma, hpayload⟩ | ⟨hclose, _⟩
  · rw [skipSpace_cons rfl] at hcomma
    have hname : Spells "payload".toList "payload" := spells_plain (by decide)
    rw [← (List.cons.inj hcomma).2, readMembers_without_value hname] at hpayload
    cases hpayload
  · cases hclose

end Frames

/-! ## Command responses -/

/-- The payload of `BuildCommandResponse`. -/
def responsePayload (r : Response) : List Char :=
  ("\x7b\"id\":\"" ++ r.id ++ "\",\"status\":\"" ++ r.status ++ "\",\"command\":\"" ++
      r.command ++ "\",\"reason\":\"" ++ r.reason).toList ++
    r.data.flatMap (fun entry => ("\",\"" ++ entry.1 ++ "\":\"" ++ entry.2).toList) ++ '"' ::
    r.arrayData.flatMap (fun entry => (",\"" ++ entry.1 ++ "\":" ++ entry.2).toList) ++ ['\x7d']

def buildCommandResponse (ms : Nat) (r : Response) : List Char :=
  messageText "Command" "Execute" ms (responsePayload r)

/-- The array that `userlist` responds with. -/
def usersData (users : List User) : List (String × String) :=
  if users = [] then [] else [("users", "[" ++ ",".intercalate (users.map Turn.userText) ++ "]")]

def userFields (u : User) : List (String × String) :=
  [("username", u.username), ("accesslevel", toString u.accessLevel)]

def usersDoc (users : List User) : List (String × Doc) :=
  if users = [] then []
  else [("users", .array (users.map fun u => .object (fieldsDoc (userFields u))))]

def responseFields (r : Response) : List (String × String) :=
  [("id", r.id), ("status", r.status), ("command", r.command), ("reason", r.reason)] ++ r.data

section Responses

variable {r : Response}

theorem commaSeparated_cons (text : List Char) (texts : List (List Char)) :
    commaSeparated (text :: texts) = text ++ texts.flatMap fun text => ',' :: text := by
  induction texts generalizing text with
  | nil => simp [commaSeparated]
  | cons next texts ih => rw [commaSeparated, ih, List.flatMap_cons, List.cons_append]

theorem commaSeparated_eq (texts : List (List Char)) :
    commaSeparated texts = ",".toList.intercalate texts := by
  induction texts with
  | nil => rfl
  | cons text texts ih =>
      cases texts with
      | nil => rw [commaSeparated, List.intercalate_singleton]
      | cons next texts =>
          rw [commaSeparated, List.intercalate_cons_cons, ih, List.append_assoc]
          rfl

/-- Quotes before the fields are quotes after the fields before them. -/
theorem flatMap_fields (fields : List (String × String)) (s : List Char) :
    (fields.flatMap fun field => ("\",\"" ++ field.1 ++ "\":\"" ++ field.2).toList) ++ '"' :: s =
      '"' :: ((fields.map fieldText).flatMap fun text => ',' :: text) ++ s := by
  induction fields with
  | nil => rfl
  | cons field fields ih =>
      rw [List.flatMap_cons, List.append_assoc, ih]
      simp [fieldText]

def arrayText (entry : String × String) : List Char :=
  '"' :: entry.1.toList ++ '"' :: ':' :: entry.2.toList

theorem responsePayload_eq (r : Response) : responsePayload r =
    '\x7b' :: commaSeparated ((responseFields r).map fieldText ++ r.arrayData.map arrayText) ++
      ['\x7d'] := by
  unfold responsePayload
  rw [List.append_assoc, List.append_assoc, List.cons_append, flatMap_fields, responseFields]
  simp [commaSeparated_cons, fieldText, arrayText, List.flatMap_map, List.flatMap_append]

theorem readsIff_users (users : List User) :
    ReadsIff ("[" ++ ",".intercalate (users.map Turn.userText) ++ "]").toList
      (.array (users.map fun u => .object (fieldsDoc (userFields u))))
      (∀ u ∈ users, Plain u.username) := by
  have huser : ∀ u : User, (Turn.userText u).toList =
      '\x7b' :: commaSeparated ((userFields u).map fieldText) ++ ['\x7d'] := by
    intro u
    unfold Turn.userText
    simp only [String.toList_append]
    simp [userFields, commaSeparated, fieldText]
  have htext : ("[" ++ ",".intercalate (users.map Turn.userText) ++ "]").toList =
      '[' :: commaSeparated (users.map fun u => (Turn.userText u).toList) ++ [']'] := by
    rw [String.toList_append, String.toList_append, String.toList_intercalate, List.map_map,
      commaSeparated_eq]
    rfl
  rw [htext]
  apply ReadsIff.array
  intro u _
  rw [huser]
  apply (ReadsIff.object (readsMembersIff_fields (userFields u))).congr
  have hname : ∀ name ∈ ["username", "accesslevel"], Plain name := by decide
  simp only [List.forall_mem_cons] at hname
  simp only [userFields, List.forall_mem_cons]
  constructor
  · exact fun h => h.1.2
  · exact fun h => ⟨⟨hname.1, h⟩, ⟨hname.2.1, plain_toString_int _⟩, List.forall_mem_nil _⟩

theorem readsMembersIff_usersData (users : List User) :
    ReadsMembersIff ((usersData users).map arrayText) (usersDoc users)
      (∀ u ∈ users, Plain u.username) := by
  unfold usersData usersDoc
  by_cases hnil : users = []
  · subst hnil
    exact ReadsMembersIff.nil.congr (iff_of_true trivial (List.forall_mem_nil _))
  · rw [if_neg hnil, if_neg hnil]
    have hmember := readsMemberIff_named (by decide : Plain "users") (readsIff_users users)
    exact (ReadsMembersIff.cons hmember .nil).congr (and_iff_left trivial)

/-- The names and strings of a response, and its arrays. -/
theorem readsIff_responsePayload {arrays : List (String × Doc)} {P : Prop}
    (h : ReadsMembersIff (r.arrayData.map arrayText) arrays P) :
    ReadsIff (responsePayload r) (.object (fieldsDoc (responseFields r) ++ arrays))
      ((∀ field ∈ responseFields r, PlainField field) ∧ P) := by
  rw [responsePayload_eq]
  exact .object ((readsMembersIff_fields (responseFields r)).append h)

end Responses

/-! ## What updates say -/

/-- Names with the whole of what they stand for. -/
def membersDoc (children : List (String × Ptree)) : Doc :=
  .object (children.map fun child => (child.1, docOf child.2))

/-- What is remembered of a configuration variable. -/
def oldVariable (old : Option Ptree) (cfg : String × Ptree) : Option Ptree :=
  old.bind fun t => t.getPath (splitPath '|' cfg.1)

/-- The configuration variables with pairs that have changed. -/
def changedVariables (old : Option Ptree) (t : Ptree) : List (String × Ptree) :=
  t.children.filter fun cfg => changedPairs (oldVariable old cfg) cfg.2.children ≠ []

/-- The elements that go into an update. -/
def sentElements (ending : Bool) (pJSON : List Char) (elements : List (String × Ptree)) :
    List (String × Ptree) :=
  elements.filter fun element => !finds (writeJson ending element.2) pJSON

/-- What `write_json` makes of a tree. -/
def rootDoc (t : Ptree) : Doc := .object (docMembers t.children)

/-- What goes into the update of a plugin. -/
def sentDoc (k : DataType) (ending : Bool) (old : Option Ptree) (pJSON : List Char)
    (plugin : Ptree) : Doc :=
  match k with
  | .list | .state => membersDoc (changedPairs old plugin.children)
  | .config => .object ((changedVariables old plugin).map fun cfg =>
      (cfg.1, membersDoc (changedPairs (oldVariable old cfg) cfg.2.children)))
  | .status => docOf plugin
  | .messages =>
      .array ((sentElements ending pJSON plugin.children).map fun element => docOf element.2)
  | .systemConfig =>
      .array ((sentElements ending pJSON plugin.children).map fun element => rootDoc element.2)

/-- A pair that is read as what it is: there is nothing below the value, the name stands for itself,
and the value does with its quotes escaped. -/
def PairFits (nvp : String × Ptree) : Prop :=
  Plain nvp.1 ∧ Clean nvp.2.data ∧ nvp.2.children = []

/-- An element that `write_json` writes as it would write it inside of a larger tree. -/
def IsObject (t : Ptree) : Prop := t.children ≠ [] ∧ ∃ child ∈ t.children, child.1 ≠ ""

/-- The update of a plugin is read as what went into it. -/
def UpdateFits (k : DataType) (ending : Bool) (old : Option Ptree) (pJSON : List Char)
    (plugin : Ptree) : Prop :=
  match k with
  | .list | .state => ∀ nvp ∈ changedPairs old plugin.children, PairFits nvp
  | .config => ∀ cfg ∈ changedVariables old plugin, Plain cfg.1 ∧
      ∀ nvp ∈ changedPairs (oldVariable old cfg) cfg.2.children, PairFits nvp
  | .status => Plain plugin.data ∧ plugin.children = []
  | .messages => ∀ element ∈ sentElements ending pJSON plugin.children, IsObject element.2
  | .systemConfig => False

section Updates

variable {old : Option Ptree} {t : Ptree}

/-- Data between quotes says all there is to say of a leaf. -/
theorem readsIff_data {raw : List Char} {P : Prop} (h : SpellsIff raw t.data P) :
    ReadsIff ('"' :: raw ++ ['"']) (docOf t) (P ∧ t.children = []) := by
  obtain ⟨data, children⟩ := t
  cases children with
  | nil =>
      rw [docOf]
      exact (ReadsIff.text h).congr (and_iff_left rfl).symm
  | cons child children =>
      refine (ReadsIff.text_of_ne raw ?_).congr (iff_of_false id fun h => List.cons_ne_nil _ _ h.2)
      intro v hv
      rw [docOf] at hv
      split at hv
      · cases hv
      · cases hv

theorem readsMemberIff_pairText (nvp : String × Ptree) :
    ReadsMemberIff (pairText nvp) (nvp.1, docOf nvp.2) (PairFits nvp) := by
  refine ⟨nvp.1.toList, [' '], '"' :: replaceQuotes nvp.2.data ++ ['"'], _, _, ?_,
    spellsIff_plain nvp.1, isSpace_gap, readsIff_data (spellsIff_replaceQuotes nvp.2.data), .rfl⟩
  simp [pairText]

theorem readsIff_pairs (pairs : List (String × Ptree)) :
    ReadsIff ('\x7b' :: commaSeparated (pairs.map pairText) ++ ['\x7d']) (membersDoc pairs)
      (∀ nvp ∈ pairs, PairFits nvp) :=
  .object (.map fun nvp _ => readsMemberIff_pairText nvp)

/-- The text of a variable that goes into an update. -/
def variableText (old : Option Ptree) (cfg : String × Ptree) : List Char :=
  '"' :: cfg.1.toList ++ '"' :: ':' :: ' ' :: '\x7b' ::
    commaSeparated ((changedPairs (oldVariable old cfg) cfg.2.children).map pairText) ++ ['\x7d']

theorem changedVariable_eq (old : Option Ptree) (cfg : String × Ptree) :
    changedVariable old cfg =
      if changedPairs (oldVariable old cfg) cfg.2.children ≠ [] then some (variableText old cfg)
      else none := by
  unfold changedVariable variableText
  have hold : (old.bind fun t => t.getPath (splitPath '|' cfg.1)) = oldVariable old cfg := rfl
  rw [hold]
  cases changedPairs (oldVariable old cfg) cfg.2.children with
  | nil => exact (if_neg (not_not.mpr rfl)).symm
  | cons pair pairs => exact (if_pos (List.cons_ne_nil _ _)).symm

theorem filterMap_changedVariable (old : Option Ptree) (t : Ptree) :
    t.children.filterMap (changedVariable old) =
      (changedVariables old t).map (variableText old) := by
  unfold changedVariables
  induction t.children with
  | nil => rfl
  | cons cfg children ih =>
      rw [List.filterMap_cons, List.filter_cons, changedVariable_eq, ih]
      by_cases hne : changedPairs (oldVariable old cfg) cfg.2.children ≠ []
      · rw [if_pos hne, if_pos (decide_eq_true hne), List.map_cons]
      · rw [if_neg hne, if_neg (by simpa using hne)]

theorem readsIff_variables (old : Option Ptree) (t : Ptree) :
    ReadsIff
      ('\x7b' :: commaSeparated (t.children.filterMap (changedVariable old)) ++ ['\x7d'])
      (.object ((changedVariables old t).map fun cfg =>
        (cfg.1, membersDoc (changedPairs (oldVariable old cfg) cfg.2.children))))
      (∀ cfg ∈ changedVariables old t, Plain cfg.1 ∧
        ∀ nvp ∈ changedPairs (oldVariable old cfg) cfg.2.children, PairFits nvp) := by
  rw [filterMap_changedVariable]
  refine .object (.map fun cfg _ => ⟨cfg.1.toList, [' '], _, _, _, ?_, spellsIff_plain cfg.1,
    isSpace_gap, readsIff_pairs _, .rfl⟩)
  simp [variableText]

theorem rootDoc_eq_iff (t : Ptree) : rootDoc t = docOf t ↔ IsObject t := by
  obtain ⟨data, children⟩ := t
  cases children with
  | nil =>
      rw [docOf]
      exact iff_of_false Doc.noConfusion fun h => h.1 rfl
  | cons child children =>
      rw [docOf]
      split
      · next hall =>
          refine iff_of_false Doc.noConfusion ?_
          rintro ⟨_, c, hc, hne⟩
          exact hne (of_decide_eq_true (List.all_eq_true.mp hall c hc))
      · next hall =>
          refine iff_of_true rfl ⟨List.cons_ne_nil _ _, ?_⟩
          by_contra hnone
          apply hall
          apply List.all_eq_true.mpr
          intro c hc
          exact decide_eq_true (by_contra fun hne => hnone ⟨c, hc, hne⟩)

theorem missingElements_eq (ending : Bool) (pJSON : List Char) (elements : List (String × Ptree)) :
    missingElements ending pJSON elements =
      (sentElements ending pJSON elements).map fun element => writeJson ending element.2 :=
  List.filter_map ..

theorem readsIff_elements (ending : Bool) (pJSON : List Char) (elements : List (String × Ptree)) :
    ReadsIff ('[' :: commaSeparated (missingElements ending pJSON elements) ++ [']'])
      (.array ((sentElements ending pJSON elements).map fun element => docOf element.2))
      (∀ element ∈ sentElements ending pJSON elements, IsObject element.2) := by
  have hread : Reads ('[' :: commaSeparated (missingElements ending pJSON elements) ++ [']'])
      (.array ((sentElements ending pJSON elements).map fun element => rootDoc element.2)) := by
    rw [missingElements_eq]
    refine .array ?_
    rw [List.forall₂_map_left_iff, List.forall₂_map_right_iff]
    exact List.forall₂_same.mpr fun element _ => readsElement_writeJson ending element.2
  apply (hread.readsIff _).congr
  rw [Doc.array.injEq, List.map_inj_left]
  exact forall₂_congr fun element _ => rootDoc_eq_iff element.2

theorem readsIff_updateValue {k : DataType} (hk : k ≠ .systemConfig) (ending : Bool)
    (old : Option Ptree) (pJSON : List Char) (plugin : Ptree) :
    ReadsIff (updateValue k ending old pJSON plugin) (sentDoc k ending old pJSON plugin)
      (UpdateFits k ending old pJSON plugin) := by
  cases k with
  | list => exact readsIff_pairs _
  | state => exact readsIff_pairs _
  | config => exact readsIff_variables old plugin
  | status => exact readsIff_data (spellsIff_plain plugin.data)
  | messages => exact readsIff_elements ending pJSON plugin.children
  | systemConfig => exact absurd rfl hk

theorem readsMemberIff_updateText {k : DataType} (hk : k ≠ .systemConfig) (ending : Bool)
    (remembered : Option (List Char)) (plugin : String × Ptree) :
    ReadsMemberIff (updateText k ending remembered plugin.1 plugin.2)
      (plugin.1, sentDoc k ending (oldData remembered plugin.1)
        (pluginJSON ending plugin.1 plugin.2) plugin.2)
      (Plain plugin.1 ∧ UpdateFits k ending (oldData remembered plugin.1)
        (pluginJSON ending plugin.1 plugin.2) plugin.2) := by
  refine ⟨plugin.1.toList, [' '], _, _, _, ?_, spellsIff_plain plugin.1, isSpace_gap,
    readsIff_updateValue hk ending _ _ plugin.2, .rfl⟩
  rw [updateText, if_neg hk]
  rfl

end Updates

/-! ## Plugins that are not there any more -/

section Removals

variable {name : String} {t : Ptree}

/-- A name with dots in it comes back in pieces. -/
theorem nest_splitPath (hname : name ≠ "") (t : Ptree) :
    ∃ child : String × Ptree, (t.nest (splitPath '.' name)).children = [child] ∧
      ((child.1, docOf child.2) = (name, docOf t) ↔ '.' ∉ name.toList) := by
  by_cases hdot : '.' ∈ name.toList
  · obtain ⟨before, after, hsplit, hbefore⟩ := List.eq_append_cons_of_mem hdot
    have hpath : splitPath '.' name =
        String.ofList before :: (after.splitOn '.').map String.ofList := by
      rw [splitPath, if_neg hname, hsplit, List.splitOn_append_cons_self_of_not_mem hbefore,
        List.map_cons]
    rw [hpath]
    refine ⟨(String.ofList before, t.nest ((after.splitOn '.').map String.ofList)), rfl,
      iff_of_false ?_ (not_not.mpr hdot)⟩
    intro heq
    have hlength := congrArg (fun d : String × Doc => d.1.toList.length) heq
    simp [hsplit] at hlength
  · have hpath : splitPath '.' name = [name] := by
      rw [splitPath, if_neg hname, List.splitOn_eq_singleton hdot, List.map_cons, List.map_nil,
        String.ofList_toList]
    rw [hpath]
    exact ⟨(name, t), rfl, iff_of_true rfl hdot⟩

/-- The members that the removals consist of, for each plugin one. -/
theorem removals (ending : Bool) {gone : List (String × Ptree)}
    (hnames : ∀ plugin ∈ gone, plugin.1 ≠ "") :
    ∃ children : List (String × Ptree),
      (texts ending gone).filterMap KindData.removedText = writeMembers children ∧
        (docMembers children = docMembers gone ↔ ∀ plugin ∈ gone, '.' ∉ plugin.1.toList) := by
  induction gone with
  | nil => exact ⟨[], rfl, iff_of_true rfl (List.forall_mem_nil _)⟩
  | cons plugin gone ih =>
      obtain ⟨hplugin, hgone⟩ := List.forall_mem_cons.mp hnames
      obtain ⟨children, htexts, hdocs⟩ := ih hgone
      obtain ⟨child, hchild, hdoc⟩ := nest_splitPath hplugin plugin.2
      refine ⟨child :: children, ?_, ?_⟩
      · show ((plugin.1, pluginJSON ending plugin.1 plugin.2) :: texts ending gone).filterMap _ = _
        rw [List.filterMap_cons_some (removedText_pluginJSON ending hchild), htexts]
        rfl
      · rw [docMembers, docMembers, List.cons.injEq, hdoc, hdocs, List.forall_mem_cons]

end Removals

end V2XHub.Command
