import V2XHub.Tmx.MessageProfiler
import V2XHub.Lib.Delimited

/-!
# What the counts of the profiler say

A count stands under the row of a type and a source. It is the number of the messages with exactly
that type and subtype as long as no two types in use have the same text, the database tells them
apart too, and the insertion of a new type never fails. Otherwise a message is counted under another
type, or under a type without an id.
-/

namespace V2XHub.Tmx

open V2XHub.Lib

/-! ## Texts of keys -/

/-- A number has no separator in it. -/
theorem not_mem_toList_repr (n : Nat) : '|' ∉ (Nat.repr n).toList := by
  rw [Nat.toList_repr]
  intro h
  have hdigit := Nat.isDigit_of_mem_toDigits (by decide) (by decide) h
  exact absurd hdigit (by decide)

theorem toDigits_inj {m n : Nat} (h : Nat.toDigits 10 m = Nat.toDigits 10 n) : m = n := by
  have hvalue := congrArg (fun digits => Nat.ofDigitChars 10 digits 0) h
  simpa using hvalue

/-- Keys with the same text have the same source, and types with the same text. -/
theorem PluginIdMessageTypeKey.text_inj {k k' : PluginIdMessageTypeKey} (h : k.text = k'.text) :
    k.pluginId = k'.pluginId ∧ k.messageType.text = k'.messageType.text := by
  have htext : ∀ q : PluginIdMessageTypeKey, q.text.toList =
      (Nat.repr q.pluginId).toList ++ '|' :: '|' :: q.messageType.text.toList := by
    intro q
    simp [text, MessageTypeEntry.text]
  have hlist := congrArg String.toList h
  rw [htext k, htext k'] at hlist
  obtain ⟨hnumber, hrest⟩ := Delimited.append_cons_inj (not_mem_toList_repr k.pluginId)
    (not_mem_toList_repr k'.pluginId) hlist
  rw [Nat.toList_repr, Nat.toList_repr] at hnumber
  exact ⟨toDigits_inj hnumber, String.toList_injective (List.cons.inj hrest).2⟩

/-! ## The type table -/

/-- What the keys of the table stand for: ids are not zero and not used twice, and there are no two
rows for what the database takes for the same type. -/
structure MessageDatabase.Keyed (collate : String → String) (db : MessageDatabase) : Prop where
  nonzero : ∀ row ∈ db.messageType, row.id ≠ 0
  ids : ∀ row ∈ db.messageType, ∀ row' ∈ db.messageType, row.id = row'.id → row = row'
  types : ∀ row ∈ db.messageType, ∀ row' ∈ db.messageType,
    collate row.type = collate row'.type → collate row.subtype = collate row'.subtype → row = row'

namespace MessageDatabase

variable {collate : String → String} {db : MessageDatabase} {newId : Nat} {type subtype : String}

theorem mem_insertType {row : MessageTypeEntry} (h : row ∈ db.messageType) :
    row ∈ (db.insertType collate newId type subtype).1.messageType := by
  unfold insertType
  split
  · exact h
  · exact List.mem_append_left _ h

theorem insertType_mem :
    (db.insertType collate newId type subtype).2 ∈
      (db.insertType collate newId type subtype).1.messageType := by
  unfold insertType
  split
  · next row hrow => exact List.mem_of_find?_eq_some hrow
  · exact List.mem_append_right _ (List.mem_singleton_self _)

/-- The row is the one asked for, if the database does not take another for the same. -/
theorem insertType_eq
    (h : ∀ row, db.findType collate type subtype = some row →
      row.type = type ∧ row.subtype = subtype) :
    (db.insertType collate newId type subtype).2 =
      ⟨(db.insertType collate newId type subtype).2.id, type, subtype⟩ := by
  unfold insertType
  split
  · next row hrow =>
      obtain ⟨htype, hsubtype⟩ := h row hrow
      rw [← htype, ← hsubtype]
  · rfl

theorem insertType_activity :
    (db.insertType collate newId type subtype).1.messageActivity = db.messageActivity := by
  unfold insertType
  split <;> rfl

theorem Keyed.insertType (h : db.Keyed collate) (hfresh : db.fresh newId = true) :
    (db.insertType collate newId type subtype).1.Keyed collate := by
  unfold MessageDatabase.fresh at hfresh
  rw [decide_eq_true_iff] at hfresh
  obtain ⟨hnonzero, hunused⟩ := hfresh
  unfold MessageDatabase.insertType
  split
  · exact h
  · next hnone =>
      have hdifferent : ∀ row ∈ db.messageType,
          ¬ (collate row.type = collate type ∧ collate row.subtype = collate subtype) := by
        intro row hrow
        have := List.find?_eq_none.mp hnone row hrow
        simpa using this
      have hnonzero' := h.nonzero
      have hids := h.ids
      have htypes := h.types
      constructor <;> grind

end MessageDatabase

/-! ## The invariant -/

namespace MessageProfiler

/-- The message that a key stands for. -/
def counted (k : PluginIdMessageTypeKey) : CountedMessage :=
  ⟨k.pluginId, k.messageType.type, k.messageType.subtype⟩

/-- How many of these messages were received. -/
def number (s : MessageProfiler) (r : CountedMessage) : Nat := s.received.count r

/-- The data of each key is about the messages with exactly its source, type and subtype, and each
type has its row in the database. Activity is as it was in the beginning (`before`) except under the
keys. -/
structure Counted (collate : String → String) (before : Nat → Nat → Option MessageActivity)
    (s : MessageProfiler) : Prop where
  keyed : s.database.Keyed collate
  types : ∀ e ∈ s.messageTypes, e ∈ s.database.messageType
  texts : ∀ e ∈ s.messageTypes, ∀ e' ∈ s.messageTypes, e.text = e'.text → e = e'
  keys : ∀ q ∈ s.profileData, q.1.messageType ∈ s.messageTypes ∧ q.1.pluginId ≠ 0
  unique : ∀ q ∈ s.profileData, ∀ q' ∈ s.profileData, q.1 = q'.1 → q = q'
  counts : ∀ q ∈ s.profileData, q.2.messageCounts = s.number (counted q.1)
  seen : ∀ q ∈ s.profileData, counted q.1 ∈ s.received
  complete : ∀ r ∈ s.received, ∃ q ∈ s.profileData, counted q.1 = r
  activity : ∀ t p, (∀ q ∈ s.profileData, q.1.messageType.id = t → q.1.pluginId ≠ p) →
    s.database.messageActivity t p = before t p
  asserts : s.assertFailed = false

variable {collate : String → String} {before : Nat → Nat → Option MessageActivity}
  {s : MessageProfiler}

/-- Types with the same texts in the set, and keys of them, are the same. -/
theorem Counted.key_eq (h : s.Counted collate before) {q : PluginIdMessageTypeKey × ProfileData}
    {k : PluginIdMessageTypeKey} (hq : q ∈ s.profileData) (hk : k.messageType ∈ s.messageTypes)
    (htext : q.1.text = k.text) : q.1 = k := by
  obtain ⟨hplugin, htype⟩ := PluginIdMessageTypeKey.text_inj htext
  have hsame := h.texts _ (h.keys q hq).1 _ hk htype
  cases hq' : q.1 with
  | mk pluginId messageType =>
      rw [hq'] at hplugin hsame
      cases k
      dsimp only at hplugin hsame
      rw [hplugin, hsame]

theorem text_eq_of_counted {k k' : PluginIdMessageTypeKey} (h : counted k = counted k') :
    k.text = k'.text := by
  unfold counted at h
  obtain ⟨hplugin, htype, hsubtype⟩ := CountedMessage.mk.inj h
  unfold PluginIdMessageTypeKey.text
  rw [hplugin, htype, hsubtype]

/-! ## Messages -/

/-- The message is taken for what it is: a type of the set with its text is its type; for a new type
the insertion succeeds, with a row of its own; and the count is not at its end. -/
def Sound (collate : String → String) (s : MessageProfiler) : Event → Prop
  | .message m _ reply => ∀ r, m.counted? = some r →
      s.number r + 1 < 4294967296 ∧
        match s.messageTypes.find? (fun e => e.text = r.type ++ "||" ++ r.subtype) with
        | some e => e.type = r.type ∧ e.subtype = r.subtype
        | none => (∃ newId, reply = .done newId) ∧
            ∀ row, s.database.findType collate r.type r.subtype = some row →
              row.type = r.type ∧ row.subtype = r.subtype
  | _ => True

theorem Counted.insertType (h : s.Counted collate before) {newId : Nat} (type subtype : String)
    (hfresh : s.database.fresh newId = true) :
    Counted collate before
      { s with database := (s.database.insertType collate newId type subtype).1 } :=
  { h with
    keyed := h.keyed.insertType hfresh
    types := fun e he => MessageDatabase.mem_insertType (h.types e he)
    activity := by
      rw [MessageDatabase.insertType_activity]
      exact h.activity }

/-- A new type of the set that has its row, and a text of its own. -/
theorem Counted.insertLocalType (h : s.Counted collate before) {e : MessageTypeEntry}
    (hrow : e ∈ s.database.messageType) (hnew : ∀ e' ∈ s.messageTypes, e'.text ≠ e.text) :
    Counted collate before { s with messageTypes := insertLocalType s.messageTypes e } ∧
      e ∈ MessageProfiler.insertLocalType s.messageTypes e := by
  have hinsert : MessageProfiler.insertLocalType s.messageTypes e = s.messageTypes ++ [e] := by
    unfold MessageProfiler.insertLocalType
    rw [if_neg]
    simpa using hnew
  rw [hinsert]
  constructor
  · have htypes := h.types
    have htexts := h.texts
    exact { h with
      types := by grind
      texts := by grind
      keys := fun q hq => ⟨List.mem_append_left _ (h.keys q hq).1, (h.keys q hq).2⟩ }
  · exact List.mem_append_right _ (List.mem_singleton_self e)

/-- The type that a message is counted under is its own, and is in the set. -/
theorem lookupType_spec (h : s.Counted collate before) {r : CountedMessage} {reply : InsertReply}
    (hfind : match s.messageTypes.find? (fun e => e.text = r.type ++ "||" ++ r.subtype) with
      | some e => e.type = r.type ∧ e.subtype = r.subtype
      | none => (∃ newId, reply = .done newId) ∧
          ∀ row, s.database.findType collate r.type r.subtype = some row →
            row.type = r.type ∧ row.subtype = r.subtype)
    (hfresh : ∀ newId, reply = .done newId → s.database.fresh newId = true) :
    ∃ s' e, s.lookupType collate { type := r.type, subtype := r.subtype } reply = (s', e) ∧
      s'.Counted collate before ∧ s'.profileData = s.profileData ∧ s'.received = s.received ∧
      e ∈ s'.messageTypes ∧ e.type = r.type ∧ e.subtype = r.subtype := by
  unfold lookupType
  have htext : (MessageTypeEntry.mk 0 r.type r.subtype).text = r.type ++ "||" ++ r.subtype := rfl
  rw [htext]
  generalize hlocal : s.messageTypes.find? (fun e => e.text = r.type ++ "||" ++ r.subtype) = found
    at hfind ⊢
  cases found with
  | some e => exact ⟨s, e, rfl, h, rfl, rfl, List.mem_of_find?_eq_some hlocal, hfind.1, hfind.2⟩
  | none =>
      obtain ⟨⟨newId, rfl⟩, hrow⟩ := hfind
      dsimp only
      have hfreshId := hfresh newId rfl
      have hcounted := h.insertType r.type r.subtype hfreshId
      have hmem := @MessageDatabase.insertType_mem collate s.database newId r.type r.subtype
      have heq := @MessageDatabase.insertType_eq collate s.database newId r.type r.subtype hrow
      rw [heq] at hmem
      have hnew : ∀ e' ∈ s.messageTypes, e'.text ≠ r.type ++ "||" ++ r.subtype := by
        intro e' he'
        simpa using List.find?_eq_none.mp hlocal e' he'
      obtain ⟨hcounted', hin⟩ := hcounted.insertLocalType hmem hnew
      rw [if_neg (hcounted.keyed.nonzero _ hmem)]
      exact ⟨_, _, rfl, hcounted', rfl, rfl, hin, rfl, rfl⟩

theorem mem_insertProfile {key : PluginIdMessageTypeKey} {data : ProfileData}
    {l : List (PluginIdMessageTypeKey × ProfileData)} {q : PluginIdMessageTypeKey × ProfileData} :
    q ∈ insertProfile key data l ↔ q = (key, data) ∨ q ∈ l := by
  induction l with
  | nil => simp [insertProfile]
  | cons q' rest ih =>
      rw [insertProfile]
      split
      · rw [List.mem_cons]
      · rw [List.mem_cons, ih, List.mem_cons]
        tauto

/-- What is in the map afterwards, if no other key has the text. -/
theorem mem_addProfile {l : List (PluginIdMessageTypeKey × ProfileData)}
    {key : PluginIdMessageTypeKey} {rxTime : Nat} {q : PluginIdMessageTypeKey × ProfileData}
    (hkey : ∀ q ∈ l, q.1.text = key.text → q.1 = key) :
    q ∈ addProfile l key rxTime ↔
      (q ∈ l ∧ q.1 ≠ key) ∨ (∃ d, (key, d) ∈ l ∧ q = (key, d.add rxTime)) ∨
        ((∀ q ∈ l, q.1 ≠ key) ∧ q = (key, ProfileData.add {} rxTime)) := by
  have htext : ∀ q ∈ l, q.1.text = key.text ↔ q.1 = key := by
    intro q hq
    exact ⟨hkey q hq, fun h => by rw [h]⟩
  unfold addProfile
  split
  · next hany =>
      obtain ⟨q₀, hq₀, hsame⟩ := List.any_eq_true.mp hany
      rw [decide_eq_true_iff, htext q₀ hq₀] at hsame
      rw [List.mem_map]
      constructor
      · rintro ⟨a, ha, rfl⟩
        split
        · next hsame' =>
            obtain rfl := hkey a ha hsame'
            exact .inr (.inl ⟨a.2, ha, rfl⟩)
        · next hdifferent => exact .inl ⟨ha, fun heq => hdifferent (by rw [heq])⟩
      · rintro (⟨hq, hne⟩ | ⟨d, hd, rfl⟩ | ⟨hnot, _⟩)
        · exact ⟨q, hq, if_neg (fun h => hne (hkey q hq h))⟩
        · exact ⟨(key, d), hd, if_pos rfl⟩
        · exact absurd hsame (hnot q₀ hq₀)
  · next hnone =>
      have hnot : ∀ q ∈ l, q.1 ≠ key := by
        intro q hq heq
        exact hnone (List.any_eq_true.mpr ⟨q, hq, by simp [heq]⟩)
      rw [mem_insertProfile]
      constructor
      · rintro (rfl | hq)
        · exact .inr (.inr ⟨hnot, rfl⟩)
        · exact .inl ⟨hq, hnot q hq⟩
      · rintro (⟨hq, _⟩ | ⟨d, hd, _⟩ | ⟨_, rfl⟩)
        · exact .inr hq
        · exact absurd rfl (hnot _ hd)
        · exact .inl rfl

/-- A message is counted under its own type. -/
theorem Counted.message (h : s.Counted collate before) {r : CountedMessage} {e : MessageTypeEntry}
    {rxTime : Nat} (he : e ∈ s.messageTypes) (htype : e.type = r.type)
    (hsubtype : e.subtype = r.subtype) (hsource : r.sourceId ≠ 0)
    (hlimit : s.number r + 1 < 4294967296) :
    Counted collate before
      { s with
        assertFailed := s.assertFailed || e.id = 0
        profileData := addProfile s.profileData ⟨r.sourceId, e⟩ rxTime
        received := s.received ++ [r] } := by
  have hmem := fun q => @mem_addProfile s.profileData ⟨r.sourceId, e⟩ rxTime q
    (fun q hq htext => h.key_eq hq he htext)
  have hcounted : counted ⟨r.sourceId, e⟩ = r := by
    unfold counted
    rw [htype, hsubtype]
  -- a key for the same message is the same key
  have hsame : ∀ q ∈ s.profileData, counted q.1 = r → q.1 = ⟨r.sourceId, e⟩ := by
    intro q hq hqr
    exact h.key_eq hq he (text_eq_of_counted (hqr.trans hcounted.symm))
  have hnumber : ∀ x, (s.received ++ [r]).count x = s.number x + if r = x then 1 else 0 := by
    intro x
    rw [List.count_append, List.count_singleton, number]
    simp
  -- no key is lost
  have hkept : ∀ q ∈ s.profileData, ∃ d, (q.1, d) ∈ addProfile s.profileData ⟨r.sourceId, e⟩ rxTime
      := by
    intro q hq
    by_cases hkey : q.1 = ⟨r.sourceId, e⟩
    · refine ⟨q.2.add rxTime, (hmem _).mpr (.inr (.inl ⟨q.2, hkey ▸ hq, ?_⟩))⟩
      rw [hkey]
    · exact ⟨q.2, (hmem _).mpr (.inl ⟨hq, hkey⟩)⟩
  have hadded : ∃ d, ((⟨r.sourceId, e⟩ : PluginIdMessageTypeKey), d) ∈
      addProfile s.profileData ⟨r.sourceId, e⟩ rxTime := by
    by_cases hin : ∃ q ∈ s.profileData, q.1 = ⟨r.sourceId, e⟩
    · obtain ⟨q, hq, hkey⟩ := hin
      have hq' := hkept q hq
      rw [hkey] at hq'
      exact hq'
    · refine ⟨_, (hmem _).mpr (.inr (.inr ⟨fun q hq hkey => hin ⟨q, hq, hkey⟩, rfl⟩))⟩
  exact {
    keyed := h.keyed
    types := h.types
    texts := h.texts
    keys := by
      intro q hq
      rcases (hmem q).mp hq with ⟨hold, _⟩ | ⟨d, _, rfl⟩ | ⟨_, rfl⟩
      · exact h.keys q hold
      · exact ⟨he, hsource⟩
      · exact ⟨he, hsource⟩
    unique := by
      have hunique := h.unique
      intro q hq q' hq' heq
      rcases (hmem q).mp hq with ⟨hold, hne⟩ | ⟨d, hd, rfl⟩ | ⟨hnot, rfl⟩ <;>
        rcases (hmem q').mp hq' with ⟨hold', hne'⟩ | ⟨d', hd', rfl⟩ | ⟨hnot', rfl⟩ <;> grind
    counts := by
      intro q hq
      unfold number
      rw [hnumber]
      rcases (hmem q).mp hq with ⟨hold, hne⟩ | ⟨d, hd, rfl⟩ | ⟨hnot, rfl⟩
      · rw [if_neg (fun hr => hne (hsame q hold hr.symm)), h.counts q hold]
        rfl
      · have hd' := h.counts _ hd
        dsimp only at hd' ⊢
        rw [hcounted] at hd' ⊢
        rw [if_pos rfl, ProfileData.add, hd', Nat.mod_eq_of_lt hlimit]
      · have hzero : s.number r = 0 := by
          apply List.count_eq_zero_of_not_mem
          intro hr
          obtain ⟨q, hq, hqr⟩ := h.complete r hr
          exact hnot q hq (hsame q hq hqr)
        dsimp only
        rw [hcounted, hzero, if_pos rfl]
        rfl
    seen := by
      intro q hq
      rcases (hmem q).mp hq with ⟨hold, _⟩ | ⟨d, _, rfl⟩ | ⟨_, rfl⟩
      · exact List.mem_append_left _ (h.seen q hold)
      · exact List.mem_append_right _ (List.mem_singleton.mpr hcounted)
      · exact List.mem_append_right _ (List.mem_singleton.mpr hcounted)
    complete := by
      intro x hx
      rcases List.mem_append.mp hx with hold | hnew
      · obtain ⟨q, hq, hqx⟩ := h.complete x hold
        obtain ⟨d, hd⟩ := hkept q hq
        exact ⟨_, hd, hqx⟩
      · obtain ⟨d, hd⟩ := hadded
        exact ⟨_, hd, hcounted.trans (List.mem_singleton.mp hnew).symm⟩
    activity := by
      intro t p hother
      apply h.activity t p
      intro q hq hid
      obtain ⟨d, hd⟩ := hkept q hq
      exact hother (q.1, d) hd hid
    asserts := by
      have hid := h.keyed.nonzero e (h.types e he)
      simp [h.asserts, hid] }

/-! ## Refreshes -/

section

variable {l : List (PluginIdMessageTypeKey × ProfileData)} {stores : String → Bool}
  {purgeWindow : Nat}

theorem foldl_storeActivity_other {t p : Nat}
    (h : ∀ q ∈ l, q.1.messageType.id = t → q.1.pluginId ≠ p)
    (activity : Nat → Nat → Option MessageActivity) :
    l.foldl (storeActivity purgeWindow stores) activity t p = activity t p := by
  induction l generalizing activity with
  | nil => rfl
  | cons q rest ih =>
      rw [List.foldl_cons, ih (fun q' hq' => h q' (List.mem_cons_of_mem _ hq'))]
      apply if_neg
      rintro ⟨_, rfl, rfl⟩
      exact h q List.mem_cons_self rfl rfl

/-- Of the rows written, the one for a type and a plugin is that of their only key. -/
theorem foldl_storeActivity {q : PluginIdMessageTypeKey × ProfileData} (hq : q ∈ l)
    (h : ∀ q' ∈ l, q'.1.messageType.id = q.1.messageType.id → q'.1.pluginId = q.1.pluginId →
      q' = q) (activity : Nat → Nat → Option MessageActivity) :
    l.foldl (storeActivity purgeWindow stores) activity q.1.messageType.id q.1.pluginId =
      if stores q.1.text then some (activityEntry purgeWindow q.2)
      else activity q.1.messageType.id q.1.pluginId := by
  induction l generalizing activity with
  | nil => cases hq
  | cons q' rest ih =>
      rw [List.foldl_cons]
      have hrest : ∀ q'' ∈ rest, q''.1.messageType.id = q.1.messageType.id →
          q''.1.pluginId = q.1.pluginId → q'' = q :=
        fun q'' hq'' => h q'' (List.mem_cons_of_mem _ hq'')
      have hstored : storeActivity purgeWindow stores activity q q.1.messageType.id q.1.pluginId =
          if stores q.1.text then some (activityEntry purgeWindow q.2)
          else activity q.1.messageType.id q.1.pluginId := by
        simp [storeActivity]
      by_cases hin : q ∈ rest
      · rw [ih hin hrest]
        split
        · rfl
        · next hnot =>
            unfold storeActivity
            apply if_neg
            rintro ⟨hstores, hid, hplugin⟩
            rw [h q' List.mem_cons_self hid.symm hplugin.symm] at hstores
            exact hnot hstores
      · obtain rfl : q = q' := (List.mem_cons.mp hq).resolve_right hin
        rw [foldl_storeActivity_other, hstored]
        intro q'' hq'' hid hplugin
        exact hin (hrest q'' hq'' hid hplugin ▸ hq'')

end

theorem Counted.refresh (h : s.Counted collate before) (purgeWindow currentTime : Nat)
    (stores : String → Bool) :
    (s.refresh purgeWindow currentTime stores).Counted collate before := by
  -- a purge drops recent times of a profile, and keeps its key
  have hmem : ∀ q, q ∈ (s.refresh purgeWindow currentTime stores).profileData ↔
      ∃ q₀ ∈ s.profileData, (q₀.1, purge purgeWindow currentTime q₀.2) = q := by
    intro q
    exact List.mem_map
  exact {
    keyed := ⟨h.keyed.nonzero, h.keyed.ids, h.keyed.types⟩
    types := h.types
    texts := h.texts
    keys := by
      intro q hq
      obtain ⟨q₀, hq₀, rfl⟩ := (hmem q).mp hq
      exact h.keys q₀ hq₀
    unique := by
      intro q hq q' hq' heq
      obtain ⟨q₀, hq₀, rfl⟩ := (hmem q).mp hq
      obtain ⟨q₁, hq₁, rfl⟩ := (hmem q').mp hq'
      rw [h.unique q₀ hq₀ q₁ hq₁ heq]
    counts := by
      intro q hq
      obtain ⟨q₀, hq₀, rfl⟩ := (hmem q).mp hq
      exact h.counts q₀ hq₀
    seen := by
      intro q hq
      obtain ⟨q₀, hq₀, rfl⟩ := (hmem q).mp hq
      exact h.seen q₀ hq₀
    complete := by
      intro r hr
      obtain ⟨q, hq, hqr⟩ := h.complete r hr
      exact ⟨_, (hmem _).mpr ⟨q, hq, rfl⟩, hqr⟩
    activity := by
      intro t p hother
      refine (foldl_storeActivity_other hother _).trans (h.activity t p ?_)
      intro q hq
      exact hother (q.1, purge purgeWindow currentTime q.2) ((hmem _).mpr ⟨q, hq, rfl⟩)
    asserts := by
      unfold MessageProfiler.refresh
      dsimp only
      rw [h.asserts, Bool.false_or, List.any_eq_false]
      intro q hq
      obtain ⟨q₀, hq₀, rfl⟩ := (hmem q).mp hq
      obtain ⟨htype, hplugin⟩ := h.keys q₀ hq₀
      have hid := h.keyed.nonzero _ (h.types _ htype)
      simp [hid, hplugin] }

/-- What a refresh leaves in the database, for every row of a type and every plugin: nothing new if
no such message was received, and otherwise their number, if it is written or was there. -/
def StoredCounts (before : Nat → Nat → Option MessageActivity) (s s' : MessageProfiler)
    (stores : String → Bool) : Prop :=
  ∀ row ∈ s.database.messageType, ∀ p,
    (s.number ⟨p, row.type, row.subtype⟩ = 0 →
        s'.database.messageActivity row.id p = before row.id p) ∧
      (0 < s.number ⟨p, row.type, row.subtype⟩ →
        ((s'.database.messageActivity row.id p).map MessageActivity.count =
            some (s.number ⟨p, row.type, row.subtype⟩) ↔
          stores (PluginIdMessageTypeKey.text ⟨p, row⟩) = true ∨
            (s.database.messageActivity row.id p).map MessageActivity.count =
              some (s.number ⟨p, row.type, row.subtype⟩)))

theorem Counted.storedCounts (h : s.Counted collate before) (purgeWindow currentTime : Nat)
    (stores : String → Bool) :
    StoredCounts before s (s.refresh purgeWindow currentTime stores) stores := by
  intro row hrow p
  have hnext := h.refresh purgeWindow currentTime stores
  -- a key of the row's id is a key of the row
  have hkey : ∀ q ∈ (s.refresh purgeWindow currentTime stores).profileData,
      q.1.messageType.id = row.id → q.1.messageType = row := by
    intro q hq hid
    exact h.keyed.ids _ (hnext.types _ (hnext.keys q hq).1) row hrow hid
  constructor
  · intro hzero
    apply hnext.activity
    intro q hq hid hplugin
    have hseen : counted q.1 ∈ s.received := hnext.seen q hq
    unfold counted at hseen
    rw [hkey q hq hid, hplugin] at hseen
    exact absurd hzero (Nat.ne_of_gt (List.count_pos_iff.mpr hseen))
  · intro hpos
    obtain ⟨⟨k, d⟩, hq, hqr⟩ := hnext.complete _ (List.count_pos_iff.mp hpos)
    obtain ⟨pluginId, messageType⟩ := k
    unfold counted at hqr
    obtain ⟨rfl, htype, hsubtype⟩ := CountedMessage.mk.inj hqr
    obtain rfl : messageType = row :=
      h.keyed.types _ (hnext.types _ (hnext.keys _ hq).1) row hrow (congrArg collate htype)
        (congrArg collate hsubtype)
    have hcount : d.messageCounts = s.number ⟨pluginId, messageType.type, messageType.subtype⟩ :=
      hnext.counts _ hq
    have hstored : (s.refresh purgeWindow currentTime stores).database.messageActivity
        messageType.id pluginId =
          if stores (PluginIdMessageTypeKey.text ⟨pluginId, messageType⟩) then
            some (activityEntry purgeWindow d)
          else s.database.messageActivity messageType.id pluginId := by
      refine foldl_storeActivity hq ?_ _
      intro q' hq' hid hplugin
      apply hnext.unique q' hq' _ hq
      obtain ⟨k', d'⟩ := q'
      obtain ⟨pluginId', messageType'⟩ := k'
      obtain rfl : pluginId' = pluginId := hplugin
      obtain rfl : messageType' = messageType := hkey _ hq' hid
      rfl
    rw [hstored]
    split
    · next hstores =>
        have hentry : (activityEntry purgeWindow d).count = d.messageCounts := rfl
        simp [hstores, hentry, hcount]
    · next hstores => simp [hstores]

/-! ## Runs -/

theorem sourceId_ne_zero {m : ProfiledMessage} {r : CountedMessage} (h : m.counted? = some r) :
    r.sourceId ≠ 0 := by
  unfold ProfiledMessage.counted? at h
  split at h
  · cases h
  · split at h
    · cases h
    · next hsource =>
        cases h
        exact fun hzero => hsource (.inr (.inr hzero))

theorem counted_step {e : Event} {s' : MessageProfiler} (h : s.Counted collate before)
    (hstep : Guarded (Sound collate) (Steps (step collate)) s e s') :
    s'.Counted collate before := by
  obtain ⟨hsound, hstep⟩ := hstep
  unfold Steps step at hstep
  split at hstep
  · cases hstep
  · next henabled =>
      have hfresh : ∀ newId, e.newId = some newId → s.database.fresh newId = true := by
        intro newId hid
        by_contra hnot
        apply henabled
        right
        rw [hid, Option.any_some]
        simpa using hnot
      cases e with
      | message m rxTime reply =>
          cases hstep
          unfold onMessageReceived
          split
          · exact h
          · next r hr =>
              obtain ⟨hlimit, hfind⟩ := hsound r hr
              obtain ⟨t, e, hout, hcounted, hprofile, hreceived, he, htype, hsubtype⟩ :=
                lookupType_spec h hfind (fun newId hreply => hfresh newId (by rw [hreply]; rfl))
              rw [hout]
              apply hcounted.message he htype hsubtype (sourceId_ne_zero hr)
              unfold number
              rw [hreceived]
              exact hlimit
      | registerType newId type subtype =>
          cases hstep
          exact h.insertType type subtype (hfresh newId rfl)
      | refresh purgeWindow currentTime stores =>
          cases hstep
          exact h.refresh purgeWindow currentTime stores
      | refreshFails =>
          cases hstep
          exact { h with }

theorem counted_initial {db : MessageDatabase} (hdb : db.Keyed collate) (read : Bool) :
    (initial db read).Counted collate db.messageActivity := by
  have htypes : (∀ e ∈ (initial db read).messageTypes, e ∈ db.messageType) ∧
      ∀ e ∈ (initial db read).messageTypes, ∀ e' ∈ (initial db read).messageTypes,
        e.text = e'.text → e = e' := by
    unfold initial
    dsimp only
    split
    · -- on the rows that are read
      refine List.foldlRecOn db.messageType insertLocalType
        (motive := fun types => (∀ e ∈ types, e ∈ db.messageType) ∧
          ∀ e ∈ types, ∀ e' ∈ types, e.text = e'.text → e = e') ?_ ?_
      · simp
      · rintro types ⟨hrows, htexts⟩ e he
        unfold insertLocalType
        split
        · exact ⟨hrows, htexts⟩
        · grind
    · simp
  exact {
    keyed := hdb
    types := htypes.1
    texts := htypes.2
    keys := nofun
    unique := nofun
    counts := nofun
    seen := nofun
    complete := nofun
    activity := fun _ _ _ => rfl
    asserts := rfl }

/-- **The counts of the profiler**: as long as every message is taken for what it is, no assertion
fails, and at each refresh the count of a known type and a source is the number of their messages
exactly if it is written, or nothing has changed. -/
theorem storedCounts_of_run {db : MessageDatabase} (hdb : db.Keyed collate) {read : Bool}
    {es : List Event} {s : MessageProfiler}
    (h : Run (Guarded (Sound collate) (Steps (step collate))) (initial db read) es s) :
    s.assertFailed = false ∧
      ∀ purgeWindow currentTime stores s',
        s.step collate (.refresh purgeWindow currentTime stores) = some s' →
          s'.assertFailed = false ∧ StoredCounts db.messageActivity s s' stores := by
  have hcounted : s.Counted collate db.messageActivity := by
    apply h.invariant
    · intro s e t hs hstep
      exact counted_step hs hstep
    · exact counted_initial hdb read
  refine ⟨hcounted.asserts, ?_⟩
  intro purgeWindow currentTime stores s' hstep
  unfold step at hstep
  split at hstep
  · cases hstep
  · cases hstep
    exact ⟨(hcounted.refresh purgeWindow currentTime stores).asserts,
      hcounted.storedCounts purgeWindow currentTime stores⟩

/-- Two messages of a known type and one of a new type, and a refresh that writes everything. -/
theorem storedCounts_of_run_twoTypes :
    ∃ s s', Run (Guarded (Sound id) (Steps (step id)))
        (initial { messageType := [⟨1, "BSM", ""⟩] } true)
        [.message ⟨some "BSM", none, some "Radio", 7⟩ 1000 .refused,
          .message ⟨some "MAP", some "P", some "Map", 8⟩ 1500 (.done 2),
          .message ⟨some "BSM", none, some "Radio", 7⟩ 2000 .refused] s ∧
      s.step id (.refresh 20000 3000 fun _ => true) = some s' ∧
      s.number ⟨7, "BSM", ""⟩ = 2 ∧ s'.assertFailed = false ∧
      StoredCounts (fun _ _ => none) s s' fun _ => true := by
  have hkeyed : MessageDatabase.Keyed id { messageType := [⟨1, "BSM", ""⟩] } :=
    ⟨by decide, by decide, by decide⟩
  have hrun : ∃ s, Run (Guarded (Sound id) (Steps (step id)))
      (initial { messageType := [⟨1, "BSM", ""⟩] } true)
      [.message ⟨some "BSM", none, some "Radio", 7⟩ 1000 .refused,
        .message ⟨some "MAP", some "P", some "Map", 8⟩ 1500 (.done 2),
        .message ⟨some "BSM", none, some "Radio", 7⟩ 2000 .refused] s ∧
      (∃ s', s.step id (.refresh 20000 3000 fun _ => true) = some s') ∧
      s.number ⟨7, "BSM", ""⟩ = 2 := by
    refine ⟨_, .cons ⟨?_, rfl⟩ (.cons ⟨?_, rfl⟩ (.cons ⟨?_, rfl⟩ .nil)), ⟨_, rfl⟩, by decide⟩
    · rintro _ ⟨⟩
      exact ⟨by decide, rfl, rfl⟩
    · rintro _ ⟨⟩
      exact ⟨by decide, ⟨2, rfl⟩, nofun⟩
    · rintro _ ⟨⟩
      exact ⟨by decide, rfl, rfl⟩
  obtain ⟨s, h, ⟨s', hs'⟩, hnumber⟩ := hrun
  obtain ⟨hasserts, hstored⟩ := (storedCounts_of_run hkeyed h).2 _ _ _ s' hs'
  exact ⟨s, s', h, hs', hnumber, hasserts, hstored⟩

/-- A new type that cannot be inserted fails the assertion. Types with the same text are counted
together. -/
theorem refused_not_storedCounts :
    (¬ ∀ es s, Run (Steps (step id)) (initial {} true) es s → s.assertFailed = false) ∧
      ¬ ∀ es s, Run (Steps (step id)) (initial {} true) es s →
        ∀ purgeWindow currentTime stores s',
          s.step id (.refresh purgeWindow currentTime stores) = some s' →
            StoredCounts (fun _ _ => none) s s' stores := by
  constructor
  · intro hall
    have hasserts := hall [.message ⟨some "BSM", none, some "Radio", 7⟩ 1000 .refused] _
      (.of_foldlM rfl)
    exact absurd hasserts (by decide)
  · intro hall
    have hstored := hall
      [.message ⟨some "a||b", some "c", some "Radio", 7⟩ 1000 (.done 1),
        .message ⟨some "a", some "b||c", some "Radio", 7⟩ 2000 .refused] _ (.of_foldlM rfl)
      20000 3000 (fun _ => true) _ rfl
    have hcount := ((hstored ⟨1, "a||b", "c"⟩ (by decide) 7).2 (by decide)).mpr (.inl rfl)
    exact absurd hcount (by decide)

end MessageProfiler

end V2XHub.Tmx
