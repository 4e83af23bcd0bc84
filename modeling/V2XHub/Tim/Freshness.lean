import V2XHub.Tim.Plugin
import Mathlib.Tactic.Cases

/-!
# Which TIM is broadcast

The activity test is made outside the lock, so that a TIM that is posted right after it is broadcast
untested. The outer loop takes any new file, also one that is older than the last POST, and is not
reached while the inner loop finds its TIM active. With these three ruled out, what is broadcast is
fresh.
-/

namespace V2XHub.Tim.TimPlugin

open V2XHub.Lib

variable {readTimXml : String → Except String TimMessage} {s s' : TimPlugin}

def Accepts (readTimXml : String → Except String TimMessage) (body : String) : Prop :=
  body ≠ "" ∧ ∃ timMsg, readTimXml body = .ok timMsg

/-- No request is accepted between the test and the broadcast, a file is read only if there was no
POST since the update, and the inner loop does not go on past a file that waits for longer than an
iteration. -/
def Proper (readTimXml : String → Except String TimMessage) (s : TimPlugin) : Event → Prop
  | .post body => Accepts readTimXml body → s.pc ≠ .broadcasting
  | .read _ => s.waiting ≠ none
  | .test now => ∀ tim first, s.timMsgPtr = some tim → isTimActive tim.timMsg now = .ok true →
      s.waiting = some first → s.due ≤ first
  | _ => True

/-! ## The invariant -/

/-- The number of supplies up to the current TIM. -/
def current (s : TimPlugin) : Nat :=
  match s.timMsgPtr with
  | none => 0
  | some tim => tim.serial + 1

/-- The supplies after the current TIM are the files that wait, and nothing counts before it is
supplied. -/
structure Ordered (s : TimPlugin) : Prop where
  due_le : s.due ≤ s.supplied
  outer_le : s.outerStart ≤ s.supplied
  inner_le : s.innerStart ≤ s.supplied
  settled : s.waiting = none → s.current = s.supplied
  waits : ∀ first, s.waiting = some first → s.current = first ∧ s.fileSerial + 1 = s.supplied
  broadcasting : s.pc = .broadcasting → ∃ tim, s.timMsgPtr = some tim ∧
    s.due ≤ tim.serial + 1 ∧ s.tested.lookup tim.serial = some true

theorem ordered_init : ({} : TimPlugin).Ordered where
  due_le := Nat.le_refl 0
  outer_le := Nat.le_refl 0
  inner_le := Nat.le_refl 0
  settled := fun _ => rfl
  waits := by
    intro _ h
    cases h
  broadcasting := by
    intro h
    cases h

theorem updateConfigSettings_ordered (h : s.Ordered) (timFile : String) :
    (s.updateConfigSettings timFile true).Ordered where
  due_le := Nat.le_succ_of_le h.due_le
  outer_le := Nat.le_succ_of_le h.outer_le
  inner_le := Nat.le_succ_of_le h.inner_le
  settled := by
    intro hnone
    cases hnone
  waits := by
    intro first hfirst
    cases hfirst
    refine ⟨?_, rfl⟩
    show s.current = s.waiting.getD s.supplied
    cases hw : s.waiting with
    | none => exact h.settled hw
    | some first => exact (h.waits first hw).1
  broadcasting := h.broadcasting

theorem timRequestHandler_ordered (h : s.Ordered) {body : String}
    (hbody : Accepts readTimXml body → s.pc ≠ .broadcasting) :
    (s.timRequestHandler readTimXml body).Ordered := by
  rw [timRequestHandler]
  split
  · exact h
  · rename_i hne
    split
    · exact h
    · rename_i timMsg hread
      exact
        { due_le := Nat.le_refl _
          outer_le := Nat.le_succ_of_le h.outer_le
          inner_le := Nat.le_succ_of_le h.inner_le
          settled := fun _ => rfl
          waits := by
            intro _ hnone
            cases hnone
          broadcasting := fun hpc => absurd hpc (hbody ⟨hne, timMsg, hread⟩) }

/-- A step of the main loop that only moves on. -/
theorem Ordered.move (h : s.Ordered) {pc : Pc} (hpc : pc ≠ .broadcasting) :
    { s with pc := pc }.Ordered :=
  { h with broadcasting := fun heq => absurd heq hpc }

theorem endOuter_ordered (h : s.Ordered) : s.endOuter.Ordered :=
  { h with
    due_le := Nat.max_le.mpr ⟨h.due_le, h.outer_le⟩
    broadcasting := by
      intro hpc
      cases hpc }

theorem checkFile_ordered (h : s.Ordered) (state : PluginState) :
    (s.checkFile state).Ordered := by
  have hstart : { s with outerStart := s.supplied }.Ordered :=
    { h with outer_le := Nat.le_refl _ }
  cases state with
  | disconnected => exact endOuter_ordered hstart
  | connected => exact endOuter_ordered hstart
  | error =>
      apply hstart.move
      intro heq
      cases heq
  | registered =>
      apply hstart.move
      intro heq
      split at heq <;> cases heq

theorem readFile_ordered (h : s.Ordered) (hw : s.waiting ≠ none) (file : File) :
    (s.readFile readTimXml file).Ordered := by
  rw [readFile]
  dsimp only
  split
  · have hread : { s with isTimFileNew := false }.Ordered := { h with }
    apply hread.move
    intro heq
    cases heq
  · rename_i timMsg _
    obtain ⟨first, hfirst⟩ := Option.ne_none_iff_exists'.mp hw
    exact
      { due_le := h.due_le
        outer_le := h.outer_le
        inner_le := h.inner_le
        settled := fun _ => (h.waits first hfirst).2
        waits := by
          intro _ hnone
          cases hnone
        broadcasting := by
          intro heq
          cases heq }

/-- The TIM that is found active is the latest supply that counts. -/
theorem Ordered.due_le_current (h : s.Ordered)
    (hdue : ∀ first, s.waiting = some first → s.due ≤ first) : s.due ≤ s.current := by
  cases hw : s.waiting with
  | none =>
      rw [h.settled hw]
      exact h.due_le
  | some first =>
      rw [(h.waits first hw).1]
      exact hdue first hw

theorem testActive_ordered (h : s.Ordered) {now : Int}
    (hproper : s.Proper readTimXml (.test now)) : (s.testActive now).Ordered := by
  have hstart : { s with innerStart := s.supplied }.Ordered :=
    { h with inner_le := Nat.le_refl _ }
  rw [testActive]
  dsimp only
  split
  · exact endOuter_ordered hstart
  · rename_i tim htim
    split
    · apply hstart.move
      intro heq
      cases heq
    · rename_i active hactive
      split
      · rename_i htrue
        subst htrue
        have hcurrent := h.due_le_current fun first => hproper tim first htim hactive
        rw [current, htim] at hcurrent
        exact
          { hstart with
            broadcasting := fun _ => ⟨tim, htim, hcurrent, List.lookup_cons_self⟩ }
      · have htested : { s with
            innerStart := s.supplied
            tested := (tim.serial, active) :: s.tested
            pc := .outer }.Ordered :=
          { hstart with
            broadcasting := by
              intro heq
              cases heq }
        have hend := endOuter_ordered htested
        exact hend

theorem broadcastTim_ordered (h : s.Ordered) (encoded : Bool) :
    (s.broadcastTim encoded).Ordered := by
  rw [broadcastTim]
  dsimp only
  have hreset : { s with isTimUpdated := false }.Ordered := { h with }
  split
  · exact
      { h with
        due_le := Nat.max_le.mpr ⟨h.due_le, h.inner_le⟩
        broadcasting := by
          intro heq
          cases heq }
  · apply hreset.move
    intro heq
    cases heq

/-! ## Runs -/

theorem step_ordered {e : Event} (h : s.Ordered) (he : s.Proper readTimXml e)
    (hst : s.step readTimXml e = some s') : s'.Ordered := by
  cases e with
  | post body =>
      cases hst
      exact timRequestHandler_ordered h he
  | updateConfig timFile =>
      cases hst
      exact updateConfigSettings_ordered h timFile
  | check state =>
      obtain ⟨_, hs⟩ := Option.ite_none_right_eq_some.mp hst
      cases hs
      exact checkFile_ordered h state
  | read file =>
      obtain ⟨_, hs⟩ := Option.ite_none_right_eq_some.mp hst
      cases hs
      exact readFile_ordered h he file
  | test now =>
      obtain ⟨_, hs⟩ := Option.ite_none_right_eq_some.mp hst
      cases hs
      exact testActive_ordered h he
  | broadcast encoded =>
      obtain ⟨_, hs⟩ := Option.ite_none_right_eq_some.mp hst
      cases hs
      exact broadcastTim_ordered h encoded

theorem broadcasting_of_broadcastOf {e : Event} {tim : Supplied}
    (hst : s.step readTimXml e = some s') (htim : s.broadcastOf e = some tim) :
    s.pc = .broadcasting ∧ s.timMsgPtr = some tim := by
  cases e with
  | broadcast encoded =>
      obtain ⟨hpc, _⟩ := Option.ite_none_right_eq_some.mp hst
      cases encoded with
      | true => exact ⟨hpc, htim⟩
      | false => cases htim
  | _ => cases htim

/-- **Freshness.** In a run of proper steps, every TIM that is broadcast is the latest supply that
counts and was active at its last test. -/
theorem fresh_of_broadcast {es : List Event} {e : Event} {s s' : TimPlugin} {tim : Supplied}
    (h : Run (Guarded (Proper readTimXml) (Steps (step readTimXml))) {} es s)
    (hst : s.step readTimXml e = some s') (htim : s.broadcastOf e = some tim) : s.Fresh tim := by
  have hordered : s.Ordered := by
    apply Run.invariant _ h ordered_init
    intro s e t hs ⟨he, hst⟩
    exact step_ordered hs he hst
  obtain ⟨hpc, hptr⟩ := broadcasting_of_broadcastOf hst htim
  obtain ⟨tim', hptr', hdue, hactive⟩ := hordered.broadcasting hpc
  cases hptr.symm.trans hptr'
  exact ⟨hdue, hactive⟩

/-- A reader for two bodies: a TIM of the first two hours of 2025 and one of the year before. -/
def readSamples (body : String) : Except String TimMessage :=
  if body = "current" then .ok ⟨.ok [⟨0, some 2025, 120⟩]⟩
  else if body = "expired" then .ok ⟨.ok [⟨0, some 2024, 120⟩]⟩
  else .error body

/-- A minute after the start of 2025. -/
def newYear : Int := 1735689660

theorem fresh_of_broadcast_posted :
    ∃ es s s' tim,
      Run (Guarded (Proper readSamples) (Steps (step readSamples))) {} es s ∧
        s.step readSamples (.broadcast true) = some s' ∧
        s.broadcastOf (.broadcast true) = some tim ∧ tim.serial = 1 ∧ s.Fresh tim := by
  have hrun : Run (Guarded (Proper readSamples) (Steps (step readSamples))) {}
      [.updateConfig "tim.xml", .check .registered, .read (.text "expired"), .test newYear,
        .post "current", .check .registered, .test newYear]
      { timMsgPtr := some ⟨1, ⟨.ok [⟨0, some 2025, 120⟩]⟩⟩, timFile := "tim.xml",
        isTimUpdated := true, pc := .broadcasting, supplied := 2, outerStart := 2,
        innerStart := 2, due := 2, tested := [(1, true), (0, false)] } := by
    refine .cons ⟨trivial, rfl⟩ (.cons ⟨trivial, rfl⟩ (.cons ⟨?_, rfl⟩ (.cons ⟨?_, rfl⟩
      (.cons ⟨?_, rfl⟩ (.cons ⟨trivial, rfl⟩ (.cons ⟨?_, rfl⟩ .nil))))))
    · intro hnone
      cases hnone
    · intro tim first _ _ hfirst
      cases hfirst
    · intro _ hpc
      cases hpc
    · intro tim first _ _ hfirst
      cases hfirst
  exact ⟨_, _, _, _, hrun, rfl, rfl, rfl, fresh_of_broadcast (e := .broadcast true) hrun rfl rfl⟩

/-- A TIM that is posted after the activity test is broadcast, expired as it is. -/
theorem untested_broadcast :
    ¬ ∀ (readTimXml : String → Except String TimMessage) (es : List Event) (e : Event)
      (s s' : TimPlugin) (tim : Supplied), Run (Steps (step readTimXml)) {} es s →
      s.step readTimXml e = some s' → s.broadcastOf e = some tim → s.Fresh tim := by
  intro h
  have hfresh := h readSamples
    [.post "current", .check .registered, .test newYear, .post "expired"] (.broadcast true) _ _ _
    (.cons rfl (.cons rfl (.cons rfl (.cons rfl .nil)))) rfl rfl
  exact absurd hfresh.active (by decide)

end V2XHub.Tim.TimPlugin
