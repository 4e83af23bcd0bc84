import Mathlib.Data.List.Chain
import V2XHub.Command.Request

/-!
# Rounds of the static TIM

Every camera session keeps the time of its latest detection and a flag that a pedestrian is present.
`processStaticTimXML` goes in rounds: it collects and takes down the flags of all sessions, and if
any session is healthy it writes message count, start and duration into the configured TIM and
broadcasts it. When someone is present the start is that of the *last* session, whichever session it
was that saw someone.
-/

namespace V2XHub.Command.Ptree

/-! ## Values under a path -/

/-- The first child of a name, or a new one at the end. -/
def adjust (key : String) (f : Ptree → Ptree) : List (String × Ptree) → List (String × Ptree)
  | [] => [(key, f (.node "" []))]
  | (name, child) :: children =>
      if name = key then (name, f child) :: children else (name, child) :: adjust key f children

/-- `put`. What is missing on the way is made. -/
def put (value : String) : List String → Ptree → Ptree
  | [], .node _ children => .node value children
  | key :: path, .node data children => .node data (adjust key (put value path) children)

/-- `get_optional`. -/
def get : List String → Ptree → Option String
  | [], t => some t.data
  | key :: path, t => (t.getChild key).bind (get path)

/-- The paths part somewhere. -/
def Parts : List String → List String → Prop
  | key :: path, key' :: path' => key ≠ key' ∨ Parts path path'
  | _, _ => False

theorem find?_adjust_self (key : String) (f : Ptree → Ptree) (children : List (String × Ptree)) :
    ((adjust key f children).find? fun child => child.1 = key).map Prod.snd =
      some (f (((children.find? fun child => child.1 = key).map Prod.snd).getD (.node "" []))) := by
  induction children with
  | nil => simp [adjust]
  | cons child children ih =>
      obtain ⟨name, child⟩ := child
      rw [adjust]
      by_cases hname : name = key
      · simp [hname]
      · rw [if_neg hname, List.find?_cons_of_neg (by simpa using hname), ih,
          List.find?_cons_of_neg (by simpa using hname)]

theorem find?_adjust_ne {key key' : String} (hne : key ≠ key') (f : Ptree → Ptree)
    (children : List (String × Ptree)) :
    (adjust key f children).find? (fun child => child.1 = key') =
      children.find? fun child => child.1 = key' := by
  induction children with
  | nil => simp [adjust, hne]
  | cons child children ih =>
      obtain ⟨name, child⟩ := child
      rw [adjust]
      by_cases hname : name = key
      · have hname' : ¬ name = key' := fun h => hne (hname ▸ h)
        rw [if_pos hname, List.find?_cons_of_neg (by simpa using hname'),
          List.find?_cons_of_neg (by simpa using hname')]
      · rw [if_neg hname, List.find?_cons, List.find?_cons, ih]

theorem getChild_put_self (value key : String) (path : List String) (t : Ptree) :
    (t.put value (key :: path)).getChild key =
      some (((t.getChild key).getD (.node "" [])).put value path) := by
  cases t with
  | node data children => exact find?_adjust_self key (put value path) children

theorem getChild_put_ne (value : String) {key key' : String} (hne : key ≠ key')
    (path : List String) (t : Ptree) :
    (t.put value (key :: path)).getChild key' = t.getChild key' := by
  cases t with
  | node data children =>
      exact congrArg (Option.map Prod.snd) (find?_adjust_ne hne (put value path) children)

theorem get_put_self (value : String) (path : List String) (t : Ptree) :
    (t.put value path).get path = some value := by
  induction path generalizing t with
  | nil =>
      cases t
      rfl
  | cons key path ih => rw [get, getChild_put_self, Option.bind_some, ih]

/-- A value under another path that is there stays. -/
theorem get_put_of_parts (value : String) {path path' : List String} (h : Parts path path')
    {t : Ptree} {value' : String} (hget : t.get path' = some value') :
    (t.put value path).get path' = some value' := by
  induction path generalizing path' t with
  | nil => exact absurd h id
  | cons key path ih =>
      cases path' with
      | nil => exact absurd h id
      | cons key' path' =>
          by_cases hkey : key = key'
          · subst hkey
            have hparts : Parts path path' := h.resolve_left fun hne => hne rfl
            obtain ⟨child, hchild, hvalue⟩ := Option.bind_eq_some_iff.mp hget
            rw [get, getChild_put_self, hchild, Option.getD_some, Option.bind_some]
            exact ih hparts hvalue
          · rw [get, getChild_put_ne value hkey]
            exact hget

end V2XHub.Command.Ptree

namespace V2XHub.Pedestrian

open Command (Ptree)

/-! ## The TIM -/

structure TIMVariables where
  msgCnt : Int
  startYear : Int
  startTime : Int
  durationTime : Int
  deriving DecidableEq, Repr

/-- The path of the one data frame. -/
def dataFrame : List String := ["TravelerInformation", "dataFrames", "TravelerDataFrame"]

def updateTimTree (timTree : Ptree) (timVars : TIMVariables) : Ptree :=
  timTree.put (toString timVars.msgCnt) ["TravelerInformation", "msgCnt"]
    |>.put (toString timVars.startYear) (dataFrame ++ ["startYear"])
    |>.put (toString timVars.startTime) (dataFrame ++ ["startTime"])
    |>.put (toString timVars.durationTime) (dataFrame ++ ["durationTime"])

def increaseMsgCount (msgCount : Int) : Int :=
  if msgCount ≥ 127 then 0 else msgCount + 1

/-- What a TIM says of its variables. -/
structure Carries (tim : Ptree) (vars : TIMVariables) : Prop where
  msgCnt : tim.get ["TravelerInformation", "msgCnt"] = some (toString vars.msgCnt)
  startYear : tim.get (dataFrame ++ ["startYear"]) = some (toString vars.startYear)
  startTime : tim.get (dataFrame ++ ["startTime"]) = some (toString vars.startTime)
  durationTime : tim.get (dataFrame ++ ["durationTime"]) = some (toString vars.durationTime)

/-- Whatever TIM is configured, the variables are in it afterwards. -/
theorem carries_updateTimTree (timTree : Ptree) (vars : TIMVariables) :
    Carries (updateTimTree timTree vars) vars where
  msgCnt := by
    apply Ptree.get_put_of_parts _ (by simp [dataFrame, Ptree.Parts])
    apply Ptree.get_put_of_parts _ (by simp [dataFrame, Ptree.Parts])
    apply Ptree.get_put_of_parts _ (by simp [dataFrame, Ptree.Parts])
    exact Ptree.get_put_self ..
  startYear := by
    apply Ptree.get_put_of_parts _ (by simp [dataFrame, Ptree.Parts])
    apply Ptree.get_put_of_parts _ (by simp [dataFrame, Ptree.Parts])
    exact Ptree.get_put_self ..
  startTime := by
    apply Ptree.get_put_of_parts _ (by simp [dataFrame, Ptree.Parts])
    exact Ptree.get_put_self ..
  durationTime := Ptree.get_put_self ..

/-! ## Sessions and rounds -/

/-- What a `FLIRWebSockAsyncClnSession` shows the TIM thread. -/
structure FlirSession where
  isHealthy : Bool := false
  isPedestrainPresent : Bool := false
  startYear : Int
  moy : Int
  deriving DecidableEq, Repr

structure TimThread where
  flirSessions : List FlirSession := []
  previousTIMVars : TIMVariables
  msgCount : Int := 0
  deriving DecidableEq, Repr

/-- The variables of a broadcast, still with the old count. -/
def currentVars (currentYear currentMinute : Int) (isAnyPedestrainPresent : Bool)
    (lastFlirSession : FlirSession) (msgCount : Int) : TIMVariables :=
  let durationTime := if isAnyPedestrainPresent then 1 else 0
  let startYear := if isAnyPedestrainPresent then lastFlirSession.startYear else currentYear
  let moy := if isAnyPedestrainPresent then lastFlirSession.moy else currentMinute
  { msgCnt := msgCount, startYear, startTime := moy, durationTime }

/-- The comparison with the previous variables, and the count that is broadcast. -/
def countVars (currentTIMVars : TIMVariables) (s : TimThread) : TimThread × TIMVariables :=
  if currentTIMVars = s.previousTIMVars then
    ({ s with previousTIMVars := currentTIMVars }, currentTIMVars)
  else
    let msgCount := increaseMsgCount s.msgCount
    let currentTIMVars := { currentTIMVars with msgCnt := msgCount }
    ({ s with previousTIMVars := currentTIMVars, msgCount }, currentTIMVars)

/-- Every flag that is up is taken down. -/
def resetPresence (sessions : List FlirSession) : List FlirSession :=
  sessions.map ({ · with isPedestrainPresent := false })

/-- A round of `processStaticTimXML`, at a time of the clock: the variables of the broadcast, if
there is one. -/
def timRound (currentYear currentMinute : Int) (s : TimThread) : TimThread × Option TIMVariables :=
  match s.flirSessions.getLast? with
  | none => (s, none)
  | some lastFlirSession =>
      let isAnyFLIRSessionHealthy := s.flirSessions.any FlirSession.isHealthy
      let isAnyPedestrainPresent := s.flirSessions.any FlirSession.isPedestrainPresent
      let s := { s with flirSessions := resetPresence s.flirSessions }
      if isAnyFLIRSessionHealthy then
        let currentTIMVars := currentVars currentYear currentMinute isAnyPedestrainPresent
          lastFlirSession s.msgCount
        let (s, vars) := countVars currentTIMVars s
        (s, some vars)
      else
        (s, none)

/-- What happens to the plugin. -/
inductive TimEvent
  /-- a session is made, with the time of its making -/
  | connected (startYear moy : Int)
  /-- the connection of a session comes or goes -/
  | health (i : Nat) (isHealthy : Bool)
  /-- a session stores the time of a pedestrian -/
  | detection (i : Nat) (startYear moy : Int)
  | round (currentYear currentMinute : Int)
  deriving DecidableEq, Repr

/-- An event on the sessions. -/
def onSessions : TimEvent → List FlirSession → List FlirSession
  | .connected startYear moy, sessions => sessions ++ [{ startYear, moy }]
  | .health i isHealthy, sessions => sessions.modify i ({ · with isHealthy })
  | .detection i startYear moy, sessions =>
      sessions.modify i fun s => { s with startYear, moy, isPedestrainPresent := true }
  | .round .., sessions => sessions

def timStep (s : TimThread) : TimEvent → TimThread × Option TIMVariables
  | .round currentYear currentMinute => timRound currentYear currentMinute s
  | event => ({ s with flirSessions := onSessions event s.flirSessions }, none)

/-- The thread after some events. The first `previousTIMVars` is whatever was in its memory. -/
def timThread (previous : TIMVariables) (events : List TimEvent) : TimThread :=
  events.foldl (fun s event => (timStep s event).1) { previousTIMVars := previous }

/-- The variables of all broadcasts from a state on. -/
def broadcasts : TimThread → List TimEvent → List TIMVariables
  | _, [] => []
  | s, event :: events => (timStep s event).2.toList ++ broadcasts (timStep s event).1 events

/-! ## The message count -/

def SameTimes (b b' : TIMVariables) : Prop :=
  b'.startYear = b.startYear ∧ b'.startTime = b.startTime ∧ b'.durationTime = b.durationTime

/-- The count moves exactly when something else has changed, and then by one modulo 128. -/
def CountsOn (b b' : TIMVariables) : Prop :=
  (b'.msgCnt ≠ b.msgCnt ↔ ¬ SameTimes b b') ∧
    (b'.msgCnt ≠ b.msgCnt → b'.msgCnt = (b.msgCnt + 1) % 128)

/-- The thread has last broadcast `b`. -/
structure After (b : TIMVariables) (s : TimThread) : Prop where
  previous : s.previousTIMVars = b
  count : s.msgCount = b.msgCnt
  low : 0 ≤ b.msgCnt
  high : b.msgCnt ≤ 127

theorem increaseMsgCount_eq {n : Int} (hlow : 0 ≤ n) (hhigh : n ≤ 127) :
    increaseMsgCount n = (n + 1) % 128 := by
  rw [increaseMsgCount]
  split <;> omega

variable {vars b : TIMVariables} {s : TimThread}

theorem countVars_after (hvars : vars.msgCnt = s.msgCount) (hlow : 0 ≤ s.msgCount)
    (hhigh : s.msgCount ≤ 127) : After (countVars vars s).2 (countVars vars s).1 := by
  have hcount := increaseMsgCount_eq hlow hhigh
  rw [countVars]
  split
  · refine ⟨rfl, hvars.symm, ?_, ?_⟩
    · show 0 ≤ vars.msgCnt
      omega
    · show vars.msgCnt ≤ 127
      omega
  · refine ⟨rfl, rfl, ?_, ?_⟩
    · show 0 ≤ increaseMsgCount s.msgCount
      omega
    · show increaseMsgCount s.msgCount ≤ 127
      omega

/-- The comparison includes the count, which is the one of the previous broadcast. -/
theorem countVars_countsOn (hvars : vars.msgCnt = s.msgCount) (h : After b s) :
    CountsOn b (countVars vars s).2 := by
  have hcount := increaseMsgCount_eq h.low h.high
  have hlow := h.low
  have hhigh := h.high
  have hsame : vars = s.previousTIMVars ↔ SameTimes b vars := by
    rw [h.previous, SameTimes]
    constructor
    · rintro rfl
      exact ⟨rfl, rfl, rfl⟩
    · rintro ⟨hyear, htime, hduration⟩
      have hmsg : vars.msgCnt = b.msgCnt := hvars.trans h.count
      cases vars
      cases b
      simp_all
  rw [countVars]
  split
  · rename_i heq
    have htimes := hsame.mp heq
    have hmsg : vars.msgCnt = b.msgCnt := hvars.trans h.count
    exact ⟨⟨fun hne => absurd hmsg hne, fun hne => absurd htimes hne⟩, fun hne => absurd hmsg hne⟩
  · rename_i heq
    have htimes : ¬ SameTimes b vars := fun htimes => heq (hsame.mpr htimes)
    have hmsg : increaseMsgCount s.msgCount = (b.msgCnt + 1) % 128 := by rw [h.count, hcount]
    refine ⟨⟨fun _ => htimes, fun _ => ?_⟩, fun _ => hmsg⟩
    show increaseMsgCount s.msgCount ≠ b.msgCnt
    omega

/-- A step either leaves count and previous variables alone or broadcasts. -/
theorem timStep_cases (s : TimThread) (event : TimEvent) :
    (timStep s event).2 = none ∧
      (timStep s event).1.previousTIMVars = s.previousTIMVars ∧
      (timStep s event).1.msgCount = s.msgCount ∨
    ∃ vars s', vars.msgCnt = s'.msgCount ∧
      s'.previousTIMVars = s.previousTIMVars ∧ s'.msgCount = s.msgCount ∧
      (timStep s event).2 = some (countVars vars s').2 ∧
      (timStep s event).1 = (countVars vars s').1 := by
  cases event with
  | connected startYear moy => exact Or.inl ⟨rfl, rfl, rfl⟩
  | health i isHealthy => exact Or.inl ⟨rfl, rfl, rfl⟩
  | detection i startYear moy => exact Or.inl ⟨rfl, rfl, rfl⟩
  | round currentYear currentMinute =>
      simp only [timStep, timRound]
      split
      · exact Or.inl ⟨rfl, rfl, rfl⟩
      · split
        · exact Or.inr ⟨_, { s with flirSessions := resetPresence s.flirSessions },
            rfl, rfl, rfl, rfl, rfl⟩
        · exact Or.inl ⟨rfl, rfl, rfl⟩

theorem isChain_broadcasts_after (h : After b s) (events : List TimEvent) :
    (b :: broadcasts s events).IsChain CountsOn := by
  induction events generalizing b s with
  | nil => exact .singleton b
  | cons event events ih =>
      rw [broadcasts]
      rcases timStep_cases s event with
        ⟨hnone, hprevious, hcount⟩ | ⟨vars, s', hvars, hprevious, hcount, hb, hs⟩
      · rw [hnone]
        exact ih ⟨hprevious.trans h.previous, hcount.trans h.count, h.low, h.high⟩
      · have h' : After b s' := ⟨hprevious.trans h.previous, hcount.trans h.count, h.low, h.high⟩
        have hnext := countVars_after hvars (h'.count ▸ h.low) (h'.count ▸ h.high)
        rw [hb, hs]
        exact List.IsChain.cons_cons (countVars_countsOn hvars h') (ih hnext)

/-- Before the first broadcast the previous variables may be anything. -/
theorem isChain_broadcasts (hlow : 0 ≤ s.msgCount) (hhigh : s.msgCount ≤ 127)
    (events : List TimEvent) : (broadcasts s events).IsChain CountsOn := by
  induction events generalizing s with
  | nil => exact .nil
  | cons event events ih =>
      rw [broadcasts]
      rcases timStep_cases s event with
        ⟨hnone, -, hcount⟩ | ⟨vars, s', hvars, -, hcount, hb, hs⟩
      · rw [hnone]
        apply ih <;> rwa [hcount]
      · rw [hb, hs]
        apply isChain_broadcasts_after
        apply countVars_after hvars <;> rwa [hcount]

/-! ## Who reported -/

def TimEvent.isRound : TimEvent → Bool
  | .round .. => true
  | _ => false

/-- Session `i` has stored a pedestrian's time, and no round has come since. -/
def ReportedSince (previous : TIMVariables) (events : List TimEvent) (i : Nat) : Prop :=
  ∃ before startYear moy after, events = before ++ .detection i startYear moy :: after ∧
    i < (timThread previous before).flirSessions.length ∧ ∀ e ∈ after, e.isRound = false

theorem timThread_append (previous : TIMVariables) (events : List TimEvent) (event : TimEvent) :
    timThread previous (events ++ [event]) = (timStep (timThread previous events) event).1 := by
  rw [timThread, timThread, List.foldl_append]
  rfl

theorem reportedSince_append {previous : TIMVariables} {events : List TimEvent} {event : TimEvent}
    {i : Nat} : ReportedSince previous (events ++ [event]) i ↔
      (∃ startYear moy, event = .detection i startYear moy) ∧
          i < (timThread previous events).flirSessions.length ∨
        event.isRound = false ∧ ReportedSince previous events i := by
  constructor
  · rintro ⟨before, startYear, moy, after, heq, hlt, hafter⟩
    rcases List.eq_nil_or_concat after with rfl | ⟨after, last, rfl⟩
    · obtain ⟨rfl, hevent⟩ := List.append_inj' heq rfl
      exact Or.inl ⟨⟨startYear, moy, (List.cons.inj hevent).1⟩, hlt⟩
    · rw [List.concat_eq_append] at heq hafter
      rw [← List.cons_append, ← List.append_assoc] at heq
      obtain ⟨rfl, hevent⟩ := List.append_inj' heq rfl
      cases hevent
      refine Or.inr ⟨hafter _ (by simp), before, startYear, moy, after, rfl, hlt, ?_⟩
      intro e he
      exact hafter e (by simp [he])
  · rintro
      (⟨⟨startYear, moy, rfl⟩, hlt⟩ | ⟨hevent, before, startYear, moy, after, rfl, hlt, hafter⟩)
    · exact ⟨events, startYear, moy, [], rfl, hlt, by simp⟩
    · refine ⟨before, startYear, moy, after ++ [event], by simp, hlt, ?_⟩
      intro e he
      rcases List.mem_append.mp he with he | he
      · exact hafter e he
      · rw [List.mem_singleton.mp he]
        exact hevent

/-- Session `i` shows a pedestrian. -/
def Shows (sessions : List FlirSession) (i : Nat) : Prop :=
  ∃ session, sessions[i]? = some session ∧ session.isPedestrainPresent = true

theorem shows_health (sessions : List FlirSession) (j i : Nat) (isHealthy : Bool) :
    Shows (onSessions (.health j isHealthy) sessions) i ↔ Shows sessions i := by
  rw [onSessions, Shows, Shows, List.getElem?_modify]
  by_cases hij : j = i
  · subst hij
    cases sessions[j]? <;> simp
  · cases sessions[i]? <;> simp [hij]

theorem shows_detection (sessions : List FlirSession) (j i : Nat) (startYear moy : Int) :
    Shows (onSessions (.detection j startYear moy) sessions) i ↔
      j = i ∧ i < sessions.length ∨ Shows sessions i := by
  rw [onSessions, Shows, Shows, List.getElem?_modify]
  by_cases hij : j = i
  · subst hij
    by_cases hlt : j < sessions.length
    · simp [hlt]
    · simp [hlt]
  · cases sessions[i]? <;> simp [hij]

theorem shows_connected (sessions : List FlirSession) (startYear moy : Int) (i : Nat) :
    Shows (onSessions (.connected startYear moy) sessions) i ↔ Shows sessions i := by
  rw [onSessions, Shows, Shows]
  by_cases hlt : i < sessions.length
  · rw [List.getElem?_append_left hlt]
  · rw [List.getElem?_append_right (Nat.le_of_not_lt hlt),
      List.getElem?_eq_none (Nat.le_of_not_lt hlt)]
    cases i - sessions.length <;> simp

theorem not_shows_resetPresence (sessions : List FlirSession) (i : Nat) :
    ¬ Shows (resetPresence sessions) i := by
  rintro ⟨session, hsession, hpresent⟩
  rw [resetPresence, List.getElem?_map, Option.map_eq_some_iff] at hsession
  obtain ⟨s, -, rfl⟩ := hsession
  cases hpresent

theorem sessions_timRound (currentYear currentMinute : Int) (s : TimThread) :
    (timRound currentYear currentMinute s).1.flirSessions = resetPresence s.flirSessions := by
  simp only [timRound]
  split
  · rename_i hnone
    rw [List.getLast?_eq_none_iff] at hnone
    rw [hnone]
    rfl
  · split
    · simp only [countVars]
      split <;> rfl
    · rfl

/-- **The flag of a session** says whether it has reported since the previous round. -/
theorem shows_timThread (previous : TIMVariables) (events : List TimEvent) (i : Nat) :
    Shows (timThread previous events).flirSessions i ↔ ReportedSince previous events i := by
  induction events using List.reverseRecOn generalizing i with
  | nil =>
      constructor
      · rintro ⟨session, hsession, -⟩
        simp [timThread] at hsession
      · rintro ⟨before, startYear, moy, after, heq, -⟩
        exact absurd heq.symm (by simp)
  | append_singleton events event ih =>
      rw [timThread_append, reportedSince_append, ← ih]
      cases event with
      | connected startYear moy =>
          show Shows (onSessions (.connected startYear moy) _) i ↔ _
          simpa [TimEvent.isRound] using shows_connected _ startYear moy i
      | health j isHealthy =>
          show Shows (onSessions (.health j isHealthy) _) i ↔ _
          simpa [TimEvent.isRound] using shows_health _ j i isHealthy
      | detection j startYear moy =>
          show Shows (onSessions (.detection j startYear moy) _) i ↔ _
          simpa [TimEvent.isRound] using shows_detection _ j i startYear moy
      | round currentYear currentMinute =>
          rw [timStep, sessions_timRound]
          simpa [TimEvent.isRound] using not_shows_resetPresence _ i

theorem any_present_iff (sessions : List FlirSession) :
    sessions.any FlirSession.isPedestrainPresent = true ↔ ∃ i, Shows sessions i := by
  rw [List.any_eq_true]
  constructor
  · rintro ⟨session, hmem, hpresent⟩
    obtain ⟨i, hi⟩ := List.mem_iff_getElem?.mp hmem
    exact ⟨i, session, hi, hpresent⟩
  · rintro ⟨i, session, hi, hpresent⟩
    exact ⟨session, List.mem_of_getElem? hi, hpresent⟩

/-! ## What a broadcast says -/

/-- The variables of the broadcast in a round after some events. -/
def broadcastAt (previous : TIMVariables) (events : List TimEvent)
    (currentYear currentMinute : Int) : Option TIMVariables :=
  (timRound currentYear currentMinute (timThread previous events)).2

/-- A session that reported has these times. -/
def ReporterTimes (previous : TIMVariables) (events : List TimEvent) (b : TIMVariables) : Prop :=
  ∃ i session, ReportedSince previous events i ∧
    (timThread previous events).flirSessions[i]? = some session ∧
    b.startYear = session.startYear ∧ b.startTime = session.moy

/-- The last session has these times. -/
def LastTimes (previous : TIMVariables) (events : List TimEvent) (b : TIMVariables) : Prop :=
  ∃ session, (timThread previous events).flirSessions.getLast? = some session ∧
    b.startYear = session.startYear ∧ b.startTime = session.moy

theorem broadcastAt_eq {previous : TIMVariables} {events : List TimEvent}
    {currentYear currentMinute : Int} {b : TIMVariables}
    (h : broadcastAt previous events currentYear currentMinute = some b) :
    ∃ last, (timThread previous events).flirSessions.getLast? = some last ∧
      SameTimes (currentVars currentYear currentMinute
        ((timThread previous events).flirSessions.any FlirSession.isPedestrainPresent) last
        (timThread previous events).msgCount) b := by
  simp only [broadcastAt, timRound] at h
  split at h
  · cases h
  · rename_i last hlast
    refine ⟨last, hlast, ?_⟩
    split at h
    · simp only [countVars] at h
      split at h <;>
      · cases h
        exact ⟨rfl, rfl, rfl⟩
    · cases h

/-- **Duration 1** is broadcast exactly when some session has reported since the previous round; the
start is then the one the last session has stored. -/
theorem broadcastAt_spec {previous : TIMVariables} {events : List TimEvent}
    {currentYear currentMinute : Int} {b : TIMVariables}
    (h : broadcastAt previous events currentYear currentMinute = some b) :
    (b.durationTime = 1 ↔ ∃ i, ReportedSince previous events i) ∧
      (b.durationTime = 1 → LastTimes previous events b) := by
  obtain ⟨last, hlast, hyear, htime, hduration⟩ := broadcastAt_eq h
  have hreported : (∃ i, ReportedSince previous events i) ↔
      (timThread previous events).flirSessions.any FlirSession.isPedestrainPresent = true := by
    rw [any_present_iff]
    exact exists_congr fun i => (shows_timThread previous events i).symm
  cases hany : (timThread previous events).flirSessions.any FlirSession.isPedestrainPresent with
  | true =>
      rw [hany] at hyear htime hduration hreported
      rw [hreported, hduration]
      refine ⟨by simp [currentVars], fun _ => ⟨last, hlast, ?_, ?_⟩⟩
      · simpa [currentVars] using hyear
      · simpa [currentVars] using htime
  | false =>
      rw [hany] at hduration hreported
      rw [hreported, hduration]
      simp [currentVars]

theorem broadcasts_append (s : TimThread) (events : List TimEvent) (event : TimEvent) :
    broadcasts s (events ++ [event]) = broadcasts s events ++
      (timStep (events.foldl (fun s event => (timStep s event).1) s) event).2.toList := by
  induction events generalizing s with
  | nil => simp [broadcasts]
  | cons e events ih => simp [broadcasts, ih, List.append_assoc]

/-- A round adds its broadcast to those before. -/
theorem broadcasts_round (previous : TIMVariables) (events : List TimEvent)
    (currentYear currentMinute : Int) :
    broadcasts { previousTIMVars := previous } (events ++ [.round currentYear currentMinute]) =
      broadcasts { previousTIMVars := previous } events ++
        (broadcastAt previous events currentYear currentMinute).toList :=
  broadcasts_append ..

/-- **The rounds of the TIM**: what is broadcast has its variables in the TIM; its duration is 1
exactly when some session has reported since the previous round, and then its start is that of the
last session; and from one broadcast to the next the count moves by one exactly when the rest has
changed. -/
theorem tim_rounds (staticTim : Ptree) (previous : TIMVariables) (events : List TimEvent) :
    (∀ currentYear currentMinute b,
      broadcastAt previous events currentYear currentMinute = some b →
        Carries (updateTimTree staticTim b) b ∧
        (b.durationTime = 1 ↔ ∃ i, ReportedSince previous events i) ∧
        (b.durationTime = 1 → LastTimes previous events b)) ∧
    (broadcasts { previousTIMVars := previous } events).IsChain CountsOn := by
  refine ⟨fun currentYear currentMinute b hb => ?_, ?_⟩
  · obtain ⟨hduration, hlast⟩ := broadcastAt_spec hb
    exact ⟨carries_updateTimTree staticTim b, hduration, hlast⟩
  · apply isChain_broadcasts
    · show (0 : Int) ≤ 0
      omega
    · show (0 : Int) ≤ 127
      omega

/-- Two sessions; the first sees a pedestrian. -/
def firstSees : List TimEvent :=
  [.connected 2023 5, .connected 2023 6, .health 0 true, .detection 0 2024 1000]

/-- The TIM starts when the last session was made. -/
theorem firstSees_not_reporterTimes :
    broadcastAt ⟨0, 0, 0, 0⟩ firstSees 2024 1001 = some ⟨1, 2023, 6, 1⟩ ∧
      ¬ ReporterTimes ⟨0, 0, 0, 0⟩ firstSees ⟨1, 2023, 6, 1⟩ := by
  refine ⟨by decide, ?_⟩
  rintro ⟨i, session, hreported, hsession, hyear, htime⟩
  have hsessions : (timThread ⟨0, 0, 0, 0⟩ firstSees).flirSessions =
      [⟨true, true, 2024, 1000⟩, ⟨false, false, 2023, 6⟩] := by decide
  obtain ⟨session', hsession', hpresent⟩ := (shows_timThread ..).mpr hreported
  rw [hsessions] at hsession hsession'
  rw [hsession] at hsession'
  cases hsession'
  match i with
  | 0 =>
      cases hsession
      cases hyear
  | 1 =>
      cases hsession
      cases hpresent
  | i + 2 => cases hsession

end V2XHub.Pedestrian
