import Mathlib.Data.Finset.Basic
import Mathlib.Logic.Function.Basic
import V2XHub.Lib.Run

/-!
# Plugin names

"Only one plugin can be registered with the same name at a given time." `Plugin::registerPlugin`
sees to it with `clientNames`, a set shared by all connections: a name is inserted before the
database work of the registration, and `~Plugin` erases the name the connection has by then.

The set is locked for the reservation only, so a registration is two steps of the model: other
connections come and go while the database works.
-/

namespace V2XHub.Tmx

open V2XHub.Lib

/-- The outcome of a database call. -/
inductive DbResult
  | ok
  | throws (what : String)
  deriving DecidableEq, Repr

structure Plugin where
  /-- `mInfo.pluginInfo.name` -/
  name : String := ""
  mRegistered : Bool := false
  /-- The name reserved, while the connection is inside `registerPlugin`. -/
  registering : Option String := none
  deriving DecidableEq, Repr

namespace Plugin

/-- First part of `registerPlugin`, under `clientLock`. -/
def reserveName (clientNames : Finset String) (name : String) : Except String (Finset String) :=
  if name = "" then .error "Plugin's name field is empty"
  else if name ∈ clientNames then .error "Another plugin is registered with the same name."
  else .ok (insert name clientNames)

/-- The rest of `registerPlugin`, given what the database does: `db` for the registration itself,
`status` for the `setPluginStatus` after it. -/
def completeRegistration (p : Plugin) (name : String) (db status : DbResult) :
    Plugin × Except String Unit :=
  match db with
  | .throws what =>
      ({ p with registering := none },
        .error ("Unable to register plugin with database [" ++ what ++ "]"))
  | .ok =>
      ({ name := name, mRegistered := true, registering := none },
        match status with
        | .throws what => .error ("Error setting plugin status [" ++ what ++ "]")
        | .ok => .ok ())

def RegisteredAs (p : Plugin) (n : String) : Prop := p.mRegistered = true ∧ p.name = n

/-- The names a connection answers for. -/
def Holds (p : Plugin) (n : String) : Prop := p.RegisteredAs n ∨ p.registering = some n

theorem holds_iff_of_unregistered {p : Plugin} {n : String} (h : p.mRegistered = false) :
    p.Holds n ↔ p.registering = some n := by
  simp [Holds, RegisteredAs, h]

end Plugin

/-- The core: the shared set and the connections alive. -/
structure Core where
  clientNames : Finset String := ∅
  plugins : Nat → Option Plugin := fun _ => none

namespace Core

inductive Event
  | connect (i : Nat)
  | reserve (i : Nat) (name : String)
  | database (i : Nat) (db status : DbResult)
  | disconnect (i : Nat)
  deriving DecidableEq, Repr

def setPlugin (s : Core) (i : Nat) (p : Option Plugin) : Core :=
  { s with plugins := Function.update s.plugins i p }

/-- The exceptions of `registerPlugin` end in `processRegisterMessage`, which reports them to the
peer and keeps the connection. A connection is destroyed only after the threads that register have
been joined. -/
def step (s : Core) : Event → Option Core
  | .connect i =>
      match s.plugins i with
      | none => some (s.setPlugin i (some {}))
      | some _ => none
  | .reserve i name =>
      match s.plugins i with
      | some p =>
          if p.registering = none then
            match Plugin.reserveName s.clientNames name with
            | .error _ => some s
            | .ok clientNames =>
                some ({ s with clientNames := clientNames }.setPlugin i
                  (some { p with registering := some name }))
          else none
      | none => none
  | .database i db status =>
      match s.plugins i with
      | some p =>
          match p.registering with
          | some name => some (s.setPlugin i (some (p.completeRegistration name db status).1))
          | none => none
      | none => none
  | .disconnect i =>
      match s.plugins i with
      | some p =>
          if p.registering = none then
            some ({ s with clientNames := s.clientNames.erase p.name }.setPlugin i none)
          else none
      | none => none

/-- Everything a step can do. -/
inductive Moves (s : Core) : Event → Core → Prop
  | connect {i : Nat} : s.plugins i = none → Moves s (.connect i) (s.setPlugin i (some {}))
  | refused {i : Nat} {p : Plugin} {name : String} : s.plugins i = some p →
      name = "" ∨ name ∈ s.clientNames → Moves s (.reserve i name) s
  | reserved {i : Nat} {p : Plugin} {name : String} : s.plugins i = some p →
      p.registering = none → name ≠ "" → name ∉ s.clientNames →
      Moves s (.reserve i name) ({ s with clientNames := insert name s.clientNames }.setPlugin i
        (some { p with registering := some name }))
  | failed {i : Nat} {p : Plugin} {name what : String} {status : DbResult} :
      s.plugins i = some p → p.registering = some name →
      Moves s (.database i (.throws what) status)
        (s.setPlugin i (some { p with registering := none }))
  | registered {i : Nat} {p : Plugin} {name : String} {status : DbResult} :
      s.plugins i = some p → p.registering = some name →
      Moves s (.database i .ok status)
        (s.setPlugin i (some { name := name, mRegistered := true, registering := none }))
  | disconnected {i : Nat} {p : Plugin} : s.plugins i = some p → p.registering = none →
      Moves s (.disconnect i)
        ({ s with clientNames := s.clientNames.erase p.name }.setPlugin i none)

theorem moves_of_step {s t : Core} {e : Event} (h : s.step e = some t) : Moves s e t := by
  cases e with
  | connect i =>
      simp only [step] at h
      split at h
      · next hi =>
        cases h
        exact .connect hi
      · cases h
  | reserve i name =>
      simp only [step, Plugin.reserveName] at h
      split at h
      · next p hi =>
        split at h
        · next hp =>
          by_cases hempty : name = ""
          · simp only [hempty, if_true, Option.some.injEq] at h
            subst h
            exact .refused hi (.inl hempty)
          · by_cases hmem : name ∈ s.clientNames
            · simp only [hempty, hmem, if_true, if_false, Option.some.injEq] at h
              subst h
              exact .refused hi (.inr hmem)
            · simp only [hempty, hmem, if_false, Option.some.injEq] at h
              subst h
              exact .reserved hi hp hempty hmem
        · cases h
      · cases h
  | database i db status =>
      simp only [step] at h
      split at h
      · next p hi =>
        split at h
        · next name hp =>
          cases h
          cases db with
          | ok => exact .registered hi hp
          | throws what => exact .failed hi hp
        · cases h
      · cases h
  | disconnect i =>
      simp only [step] at h
      split at h
      · next p hi =>
        split at h
        · next hp =>
          cases h
          exact .disconnected hi hp
        · cases h
      · cases h

/-- Connection `i` is alive and answers for the name `n`. -/
def Owns (s : Core) (i : Nat) (n : String) : Prop := ∃ p, s.plugins i = some p ∧ p.Holds n

theorem owns_iff {s : Core} {i : Nat} {p : Plugin} (h : s.plugins i = some p) {n : String} :
    s.Owns i n ↔ p.Holds n := by
  simp [Owns, h]

theorem owns_setPlugin {s : Core} {i j : Nat} {p : Plugin} {n : String} :
    (s.setPlugin i (some p)).Owns j n ↔ (j = i ∧ p.Holds n) ∨ (j ≠ i ∧ s.Owns j n) := by
  by_cases h : j = i
  · simp [Owns, setPlugin, h]
  · simp [Owns, setPlugin, h]

theorem owns_setPlugin_none {s : Core} {i j : Nat} {n : String} :
    (s.setPlugin i none).Owns j n ↔ j ≠ i ∧ s.Owns j n := by
  by_cases h : j = i
  · simp [Owns, setPlugin, h]
  · simp [Owns, setPlugin, h]

/-! ## What always holds

A name that some connection answers for is in the set, and only that connection answers for it.
This much survives failures and repeated registrations. -/

structure Exclusive (s : Core) : Prop where
  held : ∀ i n, s.Owns i n → n ∈ s.clientNames
  unique : ∀ i j n, s.Owns i n → s.Owns j n → i = j
  unnamed : ∀ i p, s.plugins i = some p → p.mRegistered = false → p.name = ""
  nonempty : "" ∉ s.clientNames

/-- A connection that gives up names, or keeps them, changes nothing for the others. -/
theorem Exclusive.setPlugin {s : Core} (h : Exclusive s) {i : Nat} {p : Plugin}
    (hsub : ∀ n, p.Holds n → s.Owns i n) (hname : p.mRegistered = false → p.name = "") :
    Exclusive (s.setPlugin i (some p)) := by
  have howns : ∀ j n, (s.setPlugin i (some p)).Owns j n → s.Owns j n := by
    intro j n hj
    rcases owns_setPlugin.mp hj with ⟨rfl, hn⟩ | ⟨-, hn⟩
    · exact hsub n hn
    · exact hn
  refine ⟨fun j n hj => h.held j n (howns j n hj),
    fun j k n hj hk => h.unique j k n (howns j n hj) (howns k n hk), ?_, h.nonempty⟩
  intro j q hq
  by_cases hji : j = i
  · have : p = q := by simpa [Core.setPlugin, hji] using hq
    exact this ▸ hname
  · exact h.unnamed j q (by simpa [Core.setPlugin, hji] using hq)

theorem Exclusive.reserved {s : Core} (h : Exclusive s) {i : Nat} {p : Plugin} {name : String}
    (hi : s.plugins i = some p) (hempty : name ≠ "") (hfree : name ∉ s.clientNames) :
    Exclusive ({ s with clientNames := insert name s.clientNames }.setPlugin i
      (some { p with registering := some name })) := by
  -- the only new name is free, so nobody else answers for it
  have howns : ∀ j n, ({ s with clientNames := insert name s.clientNames }.setPlugin i
      (some { p with registering := some name })).Owns j n → s.Owns j n ∨ (j = i ∧ n = name) := by
    intro j n hj
    rcases owns_setPlugin.mp hj with ⟨rfl, hn | hn⟩ | ⟨-, hn⟩
    · exact .inl ((owns_iff hi).mpr (.inl hn))
    · exact .inr ⟨rfl, (Option.some.inj hn).symm⟩
    · exact .inl hn
  refine ⟨fun j n hj => ?_, fun j k n hj hk => ?_, fun j q hq => ?_, ?_⟩
  · show n ∈ insert name s.clientNames
    rcases howns j n hj with hn | ⟨-, rfl⟩
    · exact Finset.mem_insert_of_mem (h.held j n hn)
    · exact Finset.mem_insert_self n _
  · rcases howns j n hj with hj' | ⟨rfl, rfl⟩
    · rcases howns k n hk with hk' | ⟨rfl, rfl⟩
      · exact h.unique j k n hj' hk'
      · exact absurd (h.held j n hj') hfree
    · rcases howns k n hk with hk' | ⟨rfl, -⟩
      · exact absurd (h.held k n hk') hfree
      · rfl
  · by_cases hji : j = i
    · have hq' : { p with registering := some name } = q := by simpa [Core.setPlugin, hji] using hq
      subst hq'
      exact h.unnamed i p hi
    · exact h.unnamed j q (by simpa [Core.setPlugin, hji] using hq)
  · show "" ∉ insert name s.clientNames
    simp [h.nonempty, Ne.symm hempty]

/-- The name `~Plugin` erases is nobody else's. -/
theorem Exclusive.ne_name {s : Core} (h : Exclusive s) {i j : Nat} {p : Plugin} {n : String}
    (hi : s.plugins i = some p) (hji : j ≠ i) (hj : s.Owns j n) : n ≠ p.name := by
  rintro rfl
  cases hreg : p.mRegistered with
  | true => exact hji (h.unique j i p.name hj ((owns_iff hi).mpr (.inl ⟨hreg, rfl⟩)))
  | false => exact h.nonempty (h.unnamed i p hi hreg ▸ h.held j p.name hj)

theorem Exclusive.disconnected {s : Core} (h : Exclusive s) {i : Nat} {p : Plugin}
    (hi : s.plugins i = some p) :
    Exclusive ({ s with clientNames := s.clientNames.erase p.name }.setPlugin i none) := by
  refine ⟨fun j n hj => ?_, fun j k n hj hk => ?_, fun j q hq => ?_, ?_⟩
  · obtain ⟨hji, hn⟩ := owns_setPlugin_none.mp hj
    exact Finset.mem_erase.mpr ⟨h.ne_name hi hji hn, h.held j n hn⟩
  · exact h.unique j k n (owns_setPlugin_none.mp hj).2 (owns_setPlugin_none.mp hk).2
  · by_cases hji : j = i
    · simp [Core.setPlugin, hji] at hq
    · exact h.unnamed j q (by simpa [Core.setPlugin, hji] using hq)
  · intro hmem
    exact h.nonempty (Finset.mem_of_mem_erase hmem)

theorem Exclusive.moves {s t : Core} {e : Event} (h : Exclusive s) (hm : Moves s e t) :
    Exclusive t := by
  cases hm with
  | connect hi =>
      refine h.setPlugin (fun n hn => ?_) (fun _ => rfl)
      rcases hn with ⟨hn, -⟩ | hn
      · cases hn
      · cases hn
  | refused => exact h
  | @reserved i p name hi hp hempty hfree => exact h.reserved hi hempty hfree
  | @failed i p name what status hi hp =>
      refine h.setPlugin (fun n hn => (owns_iff hi).mpr ?_) (h.unnamed i p hi)
      rcases hn with hn | hn
      · exact .inl hn
      · cases hn
  | @registered i p name status hi hp =>
      refine h.setPlugin (fun n hn => (owns_iff hi).mpr ?_) (fun hreg => by cases hreg)
      rcases hn with ⟨-, rfl⟩ | hn
      · exact .inr hp
      · cases hn
  | @disconnected i p hi hp => exact h.disconnected hi

/-! ## Every name accounted for

A registration whose database work throws leaves its name in the set, and a registered connection
that registers again under a new name forgets the old one. Without these two nothing is left over.
-/

/-- The steps that leave no name behind. -/
def tidy (s : Core) : Event → Bool
  | .reserve i name =>
      match s.plugins i with
      | some p => !p.mRegistered || name = "" || name ∈ s.clientNames
      | none => true
  | .database _ (.throws _) _ => false
  | _ => true

structure Accounted (s : Core) : Prop extends Exclusive s where
  owned : ∀ n ∈ s.clientNames, ∃ i, s.Owns i n
  fresh : ∀ i p name, s.plugins i = some p → p.registering = some name → p.mRegistered = false

theorem accounted_init : Accounted {} where
  held i n h := by simp [Owns] at h
  unique i j n h := by simp [Owns] at h
  unnamed i p h := by cases h
  nonempty := by simp
  owned n h := by simp at h
  fresh i p name h := by cases h

/-- What a step of connection `i` has to leave for the names to be accounted for: the names stay
the others', or are now those of `i`. -/
theorem Accounted.of_update {s t : Core} {e : Event} {i : Nat} {p' : Option Plugin}
    (h : Accounted s) (hm : Moves s e t) (hp : t.plugins = Function.update s.plugins i p')
    (hsub : ∀ n ∈ t.clientNames,
      (∃ p, p' = some p ∧ p.Holds n) ∨ (n ∈ s.clientNames ∧ ¬ s.Owns i n))
    (hfresh : ∀ p name, p' = some p → p.registering = some name → p.mRegistered = false) :
    Accounted t := by
  refine ⟨h.toExclusive.moves hm, fun n hn => ?_, fun j q name hq => ?_⟩
  · rcases hsub n hn with ⟨p, rfl, hold⟩ | ⟨hmem, hnot⟩
    · exact ⟨i, p, by simp [hp], hold⟩
    · obtain ⟨j, q, hq, hold⟩ := h.owned n hmem
      have hji : j ≠ i := by
        rintro rfl
        exact hnot ⟨q, hq, hold⟩
      exact ⟨j, q, by simp [hp, hji, hq], hold⟩
  · by_cases hji : j = i
    · exact hfresh q name (by simpa [hp, hji] using hq)
    · exact h.fresh j q name (by simpa [hp, hji] using hq)

theorem Accounted.moves {s t : Core} {e : Event} (h : Accounted s) (htidy : s.tidy e = true)
    (hm : Moves s e t) : Accounted t := by
  have hm' := hm
  cases hm with
  | connect hi =>
      refine h.of_update hm' rfl (fun n hn => .inr ⟨hn, ?_⟩) (fun p name hp hreg => ?_)
      · simp [Owns, hi]
      · cases hp
        cases hreg
  | refused => exact h
  | @reserved i p name hi hp hempty hfree =>
      have hunreg : p.mRegistered = false := by simpa [tidy, hi, hempty, hfree] using htidy
      refine h.of_update hm' rfl (fun n hn => ?_) (fun q m hq _ => ?_)
      · rcases Finset.mem_insert.mp hn with rfl | hn
        · exact .inl ⟨_, rfl, .inr rfl⟩
        · refine .inr ⟨hn, fun hown => ?_⟩
          rw [owns_iff hi, Plugin.holds_iff_of_unregistered hunreg, hp] at hown
          cases hown
      · cases hq
        exact hunreg
  | failed => cases htidy
  | @registered i p name status hi hp =>
      have hunreg := h.fresh i p name hi hp
      refine h.of_update hm' rfl (fun n hn => ?_) (fun q m hq hreg => ?_)
      · by_cases hname : n = name
        · exact .inl ⟨_, rfl, .inl ⟨rfl, hname.symm⟩⟩
        · refine .inr ⟨hn, fun hown => ?_⟩
          rw [owns_iff hi, Plugin.holds_iff_of_unregistered hunreg, hp] at hown
          exact hname (Option.some.inj hown).symm
      · cases hq
        cases hreg
  | @disconnected i p hi hp =>
      refine h.of_update hm' rfl (fun n hn => ?_) (fun q m hq => by cases hq)
      obtain ⟨hne, hmem⟩ := Finset.mem_erase.mp hn
      refine .inr ⟨hmem, fun hown => ?_⟩
      rcases (owns_iff hi).mp hown with ⟨-, hname⟩ | hreg
      · exact hne hname.symm
      · rw [hp] at hreg
        cases hreg

/-- The names in use: those of the connections alive and registered, each of one connection, and
free again when that connection has gone. While registrations are under way their names are in use
too. -/
structure NamesLaw (s : Core) : Prop where
  exact : (∀ i p, s.plugins i = some p → p.registering = none) →
    ∀ n, n ∈ s.clientNames ↔ ∃ i p, s.plugins i = some p ∧ p.RegisteredAs n
  inUse : ∀ n, n ∈ s.clientNames ↔ ∃ i, s.Owns i n
  unique : ∀ i j n, s.Owns i n → s.Owns j n → i = j
  released : ∀ i n t, s.Owns i n → s.step (.disconnect i) = some t → n ∉ t.clientNames

theorem Accounted.namesLaw {s : Core} (h : Accounted s) : NamesLaw s where
  exact := by
    intro hquiet n
    constructor
    · intro hn
      obtain ⟨i, p, hi, hreg | hreg⟩ := h.owned n hn
      · exact ⟨i, p, hi, hreg⟩
      · rw [hquiet i p hi] at hreg
        cases hreg
    · rintro ⟨i, p, hi, hreg⟩
      exact h.held i n ⟨p, hi, .inl hreg⟩
  inUse n := ⟨h.owned n, fun ⟨i, hi⟩ => h.held i n hi⟩
  unique := h.unique
  released := by
    intro i n t hown hstep hmem
    cases moves_of_step hstep with
    | @disconnected i p hi hp =>
        obtain ⟨hne, -⟩ := Finset.mem_erase.mp hmem
        rcases (owns_iff hi).mp hown with ⟨-, hname⟩ | hreg
        · exact hne hname.symm
        · rw [hp] at hreg
          cases hreg

/-- **Names are reserved exactly while they are in use**, in every run in which no registration
fails in the database and no registered connection registers again under a free name. -/
theorem plugin_name_reservation {es : List Event} {s : Core}
    (hrun : Run (Guarded (fun s e => s.tidy e = true) (Steps step)) {} es s) : NamesLaw s :=
  (hrun.invariant (I := Accounted)
    (fun _ _ _ h hstep => h.moves hstep.1 (moves_of_step hstep.2)) accounted_init).namesLaw

theorem plugin_name_reservation_reconnect : ∃ s,
    Run (Guarded (fun s e => s.tidy e = true) (Steps step)) {}
      [.connect 0, .reserve 0 "A", .connect 1, .reserve 1 "A", .database 0 .ok .ok, .disconnect 0,
        .reserve 1 "A", .database 1 .ok .ok] s ∧ NamesLaw s ∧ "A" ∈ s.clientNames := by
  have hsome : ([Event.connect 0, .reserve 0 "A", .connect 1, .reserve 1 "A", .database 0 .ok .ok,
      .disconnect 0, .reserve 1 "A", .database 1 .ok .ok].foldlM
        (guardedStep tidy step) {}).map (fun s => decide ("A" ∈ s.clientNames)) = some true := by
    decide +kernel
  obtain ⟨s, hs, hmem⟩ := Option.map_eq_some_iff.mp hsome
  exact ⟨s, Run.guarded_of_foldlM hs, plugin_name_reservation (Run.guarded_of_foldlM hs),
    of_decide_eq_true hmem⟩

/-- The database throws while connection 0 registers, and the connection goes: the name stays
reserved, with nobody alive. -/
theorem plugin_name_leaks : ¬ ∀ es s, Run (Steps step) {} es s → NamesLaw s := by
  intro h
  let connected : Core := setPlugin {} 0 (some {})
  let reserved : Core := setPlugin ⟨{"A"}, connected.plugins⟩ 0 (some { registering := some "A" })
  let failed : Core := reserved.setPlugin 0 (some {})
  let gone : Core := setPlugin ⟨{"A"}, failed.plugins⟩ 0 none
  have hrun : Run (Steps step) {}
      [.connect 0, .reserve 0 "A", .database 0 (.throws "connection lost") .ok, .disconnect 0]
      gone := by
    refine .cons (t := connected) rfl (.cons (t := reserved) ?_
      (.cons (t := failed) rfl (.cons (t := gone) ?_ .nil)))
    · simp [Steps, step, reserved, connected, setPlugin, Plugin.reserveName]
    · simp [Steps, step, gone, failed, reserved, setPlugin]
  have hnone : ∀ i, gone.plugins i = none := by
    simp [gone, failed, reserved, connected, setPlugin]
  have hmem : "A" ∈ gone.clientNames := Finset.mem_singleton_self "A"
  obtain ⟨i, p, hi, -⟩ := ((h _ _ hrun).exact (by simp [hnone]) "A").mp hmem
  rw [hnone i] at hi
  cases hi

end Core

end V2XHub.Tmx
