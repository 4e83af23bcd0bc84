import V2XHub.Dms.Sign
import Mathlib.Tactic.SplitIfs

/-!
# The flags of the plugin and the sign

`SignAgrees` is lost in four ways. A new address leaves the flags and the shown id of the old sign
in place, the result of storing a text is not looked at, an id counts as shown that was requested
while the sign was disabled, and an activation whose response is lost is taken for refused. `Proper`
rules these out step by step, and the other steps keep the agreement.
-/

namespace V2XHub.Dms

open V2XHub.Lib

theorem SignMessages.lookup_set (messageId : Int) (message : SignMessage) (l : SignMessages)
    (m : Int) :
    (l.set messageId message).lookup m = if m = messageId then some message else l.lookup m := by
  induction l with
  | nil =>
      rw [SignMessages.set, List.lookup_cons]
      split_ifs with hm
      · rw [hm, beq_self_eq_true]
      · rw [beq_false_of_ne hm]
  | cons entry rest ih =>
      by_cases hm : m = messageId
      · rw [if_pos hm, SignMessages.set]
        split_ifs with _ heq
        · rw [hm, List.lookup_cons_self]
        · rw [hm, List.lookup_cons_self]
        · -- the entry comes before the message, and is another one
          rw [List.lookup_cons, ih, if_pos hm, beq_false_of_ne (hm ▸ heq)]
      · rw [if_neg hm] at ih ⊢
        rw [SignMessages.set]
        split_ifs with _ heq
        · rw [List.lookup_cons, beq_false_of_ne hm]
        · rw [List.lookup_cons, beq_false_of_ne hm, List.lookup_cons, beq_false_of_ne (heq ▸ hm)]
        · rw [List.lookup_cons, List.lookup_cons, ih]

/-- A sign that goes through all the states has stored the text. -/
def Assignment.Faithful (o : Assignment) : Prop :=
  o.notUsed = 1 → o.modifying = 2 → o.validated = 4 → o.stored = true

namespace DmsPlugin

variable {s s' : DmsPlugin} {m : Int} {text : String} {sent : Bool}

/-! ## The condition on the steps -/

def Unwritten (s : DmsPlugin) (m : Int) : Prop :=
  ∀ message, s.signMessages.lookup m = some message → message.isDmsTextInitialized = false

/-- The request for a message gets as far as the sign. -/
def Shows (s : DmsPlugin) (msgId : Int) : Prop :=
  s.isSignMessagesInitialized = true ∧ (s.signMessages.lookup msgId).isSome = true ∧
    msgId ≠ s.msgIdShown

def Activates (s : DmsPlugin) (msgId : Int) (a : Activation) : Prop :=
  s.Shows msgId → s.enableDms = true ∧ (a = .lost → s.msgIdShown < 0)

/-- The address changes only while nothing is marked as written or shown, the sign stores what it
validates, and a message is shown only with the sign enabled and with no response lost that would
replace a shown one. -/
def Proper (s : DmsPlugin) : Event → Prop
  | .updateConfig config o =>
      (config.dmsIpAddress ≠ s.dmsIpAddress ∨ config.dmsPort ≠ s.dmsPort →
        (∀ m, s.Unwritten m) ∧ s.msgIdShown < 0) ∧
      ∀ i, (o i).Faithful
  | .request msgId a => s.Activates msgId a
  | .iterate o a => (∀ i, (o i).Faithful) ∧ s.Activates s.msgIdRequested a

/-! ## The invariant -/

/-- The agreement with the sign that the controller speaks to, which is the configured one. -/
structure Consistent (s : DmsPlugin) : Prop where
  peer : s.peer = peerOf s.dmsIpAddress s.dmsPort
  texts : ∀ m message, s.signMessages.lookup m = some message →
    message.isDmsTextInitialized = true → (s.signs s.peer).slots m = some message.dmsText
  shown : 0 ≤ s.msgIdShown → (s.signs s.peer).activated = some s.msgIdShown

theorem Consistent.signAgrees (h : s.Consistent) : s.SignAgrees where
  texts := by
    intro m message hm hw
    rw [sign, ← h.peer]
    exact h.texts m message hm hw
  shown := by
    intro _ hs
    rw [sign, ← h.peer]
    exact h.shown hs

theorem signs_setSign (s : DmsPlugin) (f : Sign → Sign) :
    (s.setSign f).signs s.peer = f (s.signs s.peer) :=
  if_pos rfl

/-- The slot of a message that is not marked as written may hold anything. -/
theorem Consistent.setSlot (h : s.Consistent) (hm : s.Unwritten m) (t : Option String) :
    (s.setSlot m t).Consistent where
  peer := h.peer
  texts := by
    intro k message hk hw
    have hne : k ≠ m := by
      intro heq
      rw [hm message (heq ▸ hk)] at hw
      cases hw
    show ((s.setSign _).signs s.peer).slots k = _
    rw [signs_setSign]
    show (if k = m then t else (s.signs s.peer).slots k) = _
    rw [if_neg hne]
    exact h.texts k message hk hw
  shown := by
    intro hs
    show ((s.setSign _).signs s.peer).activated = _
    rw [signs_setSign]
    exact h.shown hs

theorem Consistent.setMessage (h : s.Consistent) {initialized : Bool}
    (hw : initialized = true → (s.signs s.peer).slots m = some text) :
    (s.setMessage m text initialized).Consistent where
  peer := h.peer
  texts := by
    intro k message hk hflag
    change (s.signMessages.set m _).lookup k = some message at hk
    rw [SignMessages.lookup_set] at hk
    split_ifs at hk with hkm
    · cases hk
      rw [hkm]
      exact hw hflag
    · exact h.texts k message hk hflag
  shown := h.shown

/-! ## Writing the texts -/

/-- Before the calls, the id that is requested is no longer shown if it is the one written. -/
theorem Consistent.forgetShown (h : s.Consistent) (m : Int) :
    ∃ s₁, (if s.msgIdRequested = m then { s with msgIdShown := -1 } else s) = s₁ ∧
      s₁.Consistent ∧ s₁.signMessages = s.signMessages := by
  split_ifs
  · exact ⟨_, rfl, ⟨h.peer, h.texts, by intro hs; cases hs⟩, rfl⟩
  · exact ⟨s, rfl, h, rfl⟩

/-- Emptying the slot changes nothing that is marked. -/
theorem Consistent.clearSlot (h : s.Consistent) (hm : s.Unwritten m) (cleared : Bool) :
    ∃ s₁, (if cleared = true then s.setSlot m none else s) = s₁ ∧
      s₁.Consistent ∧ s₁.signMessages = s.signMessages := by
  split_ifs
  · exact ⟨_, rfl, h.setSlot hm none, rfl⟩
  · exact ⟨s, rfl, h, rfl⟩

theorem assignMessageOnSign_spec {o : Assignment} (h : s.Consistent) (hm : s.Unwritten m)
    (ho : o.Faithful) (hs : s.assignMessageOnSign m text o = (s', sent)) :
    s'.Consistent ∧ s'.signMessages = s.signMessages ∧
      (sent = true → (s'.signs s'.peer).slots m = some text) := by
  obtain ⟨s₁, hs₁, h₁, hm₁⟩ := h.forgetShown m
  have hun : s₁.Unwritten m := by
    rw [Unwritten, hm₁]
    exact hm
  obtain ⟨s₂, hs₂, h₂, hm₂⟩ := h₁.clearSlot hun o.cleared
  have hun₂ : s₂.Unwritten m := by
    rw [Unwritten, hm₂]
    exact hun
  rw [assignMessageOnSign] at hs
  dsimp only at hs
  rw [hs₁, hs₂] at hs
  rw [← hm₁]
  split_ifs at hs with hzero hnot hmod hst
  · cases hs
    exact ⟨h₁, rfl, by intro hf; cases hf⟩
  · cases hs
    exact ⟨h₂, hm₂, by intro hf; cases hf⟩
  · cases hs
    exact ⟨h₂, hm₂, by intro hf; cases hf⟩
  · cases hs
    refine ⟨h₂.setSlot hun₂ _, hm₂, ?_⟩
    intro _
    show ((s₂.setSign _).signs s₂.peer).slots m = _
    rw [signs_setSign]
    exact if_pos rfl
  · -- not stored, so not validated either
    cases hs
    refine ⟨h₂, hm₂, ?_⟩
    intro hv
    exact absurd (ho (not_not.mp hnot) (not_not.mp hmod) (of_decide_eq_true hv)) hst

theorem sendMessage_consistent {o : Assignment} (h : s.Consistent) (hm : s.Unwritten m)
    (ho : o.Faithful) : (s.sendMessage m text o).1.Consistent := by
  rw [sendMessage]
  rcases hs : s.assignMessageOnSign m text o with ⟨s₁, sent⟩
  obtain ⟨h₁, _, hw⟩ := assignMessageOnSign_spec h hm ho hs
  cases sent with
  | true => exact h₁.setMessage fun _ => hw rfl
  | false => exact h₁

/-- A new text is not marked as written. -/
theorem putMessage_consistent (h : s.Consistent) : (s.putMessage m text).Consistent := by
  have hnew : { (s.setMessage m text false) with
      isSignMessagesInitialized := false : DmsPlugin }.Consistent := by
    have hset : (s.setMessage m text false).Consistent := h.setMessage (by intro hf; cases hf)
    exact ⟨hset.peer, hset.texts, hset.shown⟩
  rw [putMessage]
  split
  · split_ifs
    · exact h
    · exact hnew
  · exact hnew

theorem addSignMessage_consistent {o : Assignment} (h : s.Consistent) (hm : m ≠ 0)
    (ho : o.Faithful) (sendToSign : Bool) :
    (s.addSignMessage m text sendToSign o).1.Consistent := by
  have hput : (s.putMessage m text).Consistent := putMessage_consistent h
  rw [addSignMessage]
  split_ifs with hskip
  · exact hput
  · apply sendMessage_consistent hput _ ho
    intro message hmessage
    rw [hmessage, Option.any_some] at hskip
    exact Bool.eq_false_iff.mpr fun hflag => hskip (.inr (.inr (.inl hflag)))

theorem addSignMessages_consistent (config : Config) {o : Int → Assignment}
    (ho : ∀ i, (o i).Faithful) (ids : List Int) (hids : ∀ i ∈ ids, i ≠ 0) (h : s.Consistent)
    (sendToSign : Bool) : (addSignMessages config o ids s sendToSign).Consistent := by
  induction ids generalizing s sendToSign with
  | nil => exact h
  | cons i rest ih =>
      obtain ⟨hi, hrest⟩ := List.forall_mem_cons.mp hids
      exact ih hrest (addSignMessage_consistent h hi (ho i) sendToSign) _

theorem setAddress_consistent {config : Config} (h : s.Consistent)
    (hnew : config.dmsIpAddress ≠ s.dmsIpAddress ∨ config.dmsPort ≠ s.dmsPort →
      (∀ m, s.Unwritten m) ∧ s.msgIdShown < 0) :
    (s.setAddress config).Consistent := by
  rw [setAddress]
  dsimp only
  split_ifs with hchanged
  · obtain ⟨htexts, hshown⟩ := hnew hchanged
    refine ⟨rfl, ?_, ?_⟩
    · intro m message hm hflag
      rw [htexts m message hm] at hflag
      cases hflag
    · intro hs
      exact absurd hs (Int.not_le.mpr hshown)
  · obtain ⟨hip, hport⟩ := not_or.mp hchanged
    refine ⟨?_, h.texts, h.shown⟩
    rw [not_not.mp hip, not_not.mp hport]
    exact h.peer

theorem initializeFrom_consistent {o : Int → Assignment} (ho : ∀ i, (o i).Faithful)
    (ids : List Int) (h : s.Consistent) : (s.initializeFrom o ids).1.Consistent := by
  induction ids generalizing s with
  | nil => exact h
  | cons messageId rest ih =>
      rw [initializeFrom]
      split_ifs with hzero
      · exact ih h
      · split
        · exact ih h
        · rename_i message hm
          split_ifs with hflag
          · exact ih h
          · have hun : s.Unwritten messageId := by
              intro message' hm'
              cases hm.symm.trans hm'
              exact Bool.eq_false_iff.mpr hflag
            have hsend : (s.sendMessage messageId message.dmsText (o messageId)).1.Consistent :=
              sendMessage_consistent h hun (ho messageId)
            rcases hs : s.sendMessage messageId message.dmsText (o messageId) with ⟨s₁, sent⟩
            rw [hs] at hsend
            cases sent with
            | true => exact ih hsend
            | false => exact hsend

theorem initializeSignMessages_consistent {o : Int → Assignment} (ho : ∀ i, (o i).Faithful)
    (h : s.Consistent) : (s.initializeSignMessages o).1.Consistent := by
  rw [initializeSignMessages]
  split_ifs
  · exact initializeFrom_consistent ho _ h
  · exact h

/-! ## Showing a message -/

/-- With the shown id set as after a success, or left as it is. -/
def markShown (s : DmsPlugin) (msgId : Int) (sent : Bool) : DmsPlugin :=
  if sent then { s with msgIdShown := msgId } else s

theorem activateMessage_consistent {a : Activation} (h : s.Consistent)
    (ha : a = .lost → s.msgIdShown < 0) (hs : s.activateMessage m a = (s', sent)) :
    (s'.markShown m sent).Consistent := by
  have htexts : ∀ k message, s.signMessages.lookup k = some message →
      message.isDmsTextInitialized = true →
      ((s.setSign fun sign => { sign with activated := some m }).signs s.peer).slots k =
        some message.dmsText := by
    rw [signs_setSign]
    exact h.texts
  cases a with
  | accepted =>
      cases hs
      refine ⟨h.peer, htexts, ?_⟩
      intro _
      exact congrArg Sign.activated (signs_setSign s fun sign => { sign with activated := some m })
  | refused =>
      cases hs
      exact h
  | lost =>
      cases hs
      refine ⟨h.peer, htexts, ?_⟩
      intro hs
      exact absurd hs (Int.not_le.mpr (ha rfl))

theorem showSignMessage_consistent {a : Activation} (h : s.Consistent)
    (ha : s.isSignMessagesInitialized = true → (s.signMessages.lookup m).isSome = true →
      s.enableDms = true ∧ (a = .lost → s.msgIdShown < 0))
    (hs : s.showSignMessage m a = (s', sent)) : (s'.markShown m sent).Consistent := by
  rw [showSignMessage] at hs
  split at hs
  · cases hs
    exact h
  · rename_i hinit
    split at hs
    · cases hs
      exact h
    · rename_i message hm
      obtain ⟨henable, hlost⟩ := ha (eq_true_of_ne_false hinit) (by rw [hm]; rfl)
      rw [if_pos henable] at hs
      exact activateMessage_consistent h hlost hs

theorem setRequestedMessage_consistent {msgId : Int} {a : Activation} (h : s.Consistent)
    (ha : s.Activates msgId a) : (s.setRequestedMessage msgId a).Consistent := by
  have hreq : { s with msgIdRequested := msgId }.Consistent := ⟨h.peer, h.texts, h.shown⟩
  rw [setRequestedMessage]
  dsimp only
  split
  · exact hreq
  · rename_i hshown
    rcases hs : showSignMessage { s with msgIdRequested := msgId } msgId a with ⟨s₁, sent⟩
    have hafter := showSignMessage_consistent hreq (fun hi hl => ha ⟨hi, hl, hshown⟩) hs
    cases sent with
    | true => exact hafter
    | false => exact hafter

/-! ## Runs -/

theorem iterate_consistent {o : Int → Assignment} {a : Activation} (h : s.Consistent)
    (ho : ∀ i, (o i).Faithful) (ha : s.Activates s.msgIdRequested a) :
    (s.iterate o a).Consistent := by
  rw [iterate]
  split_ifs with hinit hreq
  · exact setRequestedMessage_consistent h ha
  · exact h
  · have hi := initializeSignMessages_consistent ho h
    exact ⟨hi.peer, hi.texts, hi.shown⟩

theorem step_consistent {e : Event} (h : s.Consistent) (he : s.Proper e) :
    (s.step e).Consistent := by
  cases e with
  | updateConfig config o =>
      obtain ⟨haddress, ho⟩ := he
      apply addSignMessages_consistent config ho [1, 2, 3, 4] _ (setAddress_consistent h haddress)
      intro i hi hzero
      rw [hzero] at hi
      simp at hi
  | request msgId a => exact setRequestedMessage_consistent h he
  | iterate o a => exact iterate_consistent h he.1 he.2

theorem consistent_init : ({} : DmsPlugin).Consistent where
  peer := rfl
  texts := by
    intro m message hm hflag
    have hmem := mem_of_lookup hm
    cases List.mem_singleton.mp hmem
    cases hflag
  shown := by
    intro hs
    cases hs

/-- **The sign agrees.** After any run of proper steps, what is marked as written is on the sign at
the configured address, and what is marked as shown is what that sign accepted last. -/
theorem signAgrees_of_run {es : List Event} {s : DmsPlugin}
    (h : Run (Guarded Proper (Steps fun s e => some (step s e))) {} es s) : s.SignAgrees := by
  apply Consistent.signAgrees
  apply Run.invariant (I := Consistent) _ h consistent_init
  intro s e t hs ⟨he, hst⟩
  cases hst
  exact step_consistent hs he

/-- The four texts on a sign at an address. -/
def signAt (ip : String) : Config where
  enableDms := true
  dmsIpAddress := ip
  dmsPort := 161
  messages := fun i => if i = 1 then "[jl3]25[np]MPH" else "[jl3]SLOW"

/-- The texts are written, and message 2 is shown. -/
def showing : List Event :=
  [.updateConfig (signAt "10.0.0.1") fun _ => {}, .iterate (fun _ => {}) .refused,
    .request 2 .accepted]

theorem signAgrees_of_run_showing :
    ∃ es s, Run (Guarded Proper (Steps fun s e => some (step s e))) {} es s ∧
      s.msgIdShown = 2 ∧ s.sign.activated = some 2 ∧ s.sign.slots 1 = some "[jl3]25[np]MPH" := by
  have hrun : Run (Guarded Proper (Steps fun s e => some (step s e))) {} showing
      (showing.foldl step {}) := by
    refine .cons ⟨⟨?_, ?_⟩, rfl⟩ (.cons ⟨⟨?_, ?_⟩, rfl⟩ (.cons ⟨?_, rfl⟩ .nil))
    · intro _
      refine ⟨?_, by decide⟩
      intro m message hm
      cases List.mem_singleton.mp (mem_of_lookup hm)
      rfl
    · intro _ _ _ _
      rfl
    · intro _ _ _ _
      rfl
    · intro hshows
      exact absurd hshows.1 (by decide)
    · intro _
      exact ⟨by decide, by intro ha; cases ha⟩
  have hagrees := signAgrees_of_run hrun
  refine ⟨_, _, hrun, by decide, hagrees.shown (by decide) (by decide), ?_⟩
  exact hagrees.texts 1 ⟨"[jl3]25[np]MPH", true⟩ (by rfl) rfl

/-- Another address, and the new sign is taken to have the texts that the old one has. -/
theorem newAddress_not_signAgrees :
    ¬ ∀ es s, Run (Steps fun s e => some (step s e)) {} es s → s.SignAgrees := by
  intro h
  have hagrees := h
    [.updateConfig (signAt "10.0.0.1") fun _ => {}, .updateConfig (signAt "10.0.0.2") fun _ => {}]
    _ (.cons rfl (.cons rfl .nil))
  have htext := hagrees.texts 1 ⟨"[jl3]25[np]MPH", true⟩ (by rfl) rfl
  exact absurd htext (by decide)

end DmsPlugin

end V2XHub.Dms
