import V2XHub.Validation.PluginRuns

/-!
# What is forwarded as validated

A message is forwarded with the `Validated` flag after both checks, unless it or the schema does not
parse: the default result of `validateMessage` then stands for a first message. And what the
validator remembers was forwarded, unless a broadcast throws between the one and the other.
-/

namespace V2XHub.Validation

open V2XHub.Lib Handling

/-! ## Validated means validated -/

namespace Received

variable {lib : Rapidjson} {m : Received} {h : Handling} {s : IntersectionValidationPlugin}

/-- The texts parse, both of them. -/
def Parses (lib : Rapidjson) (m : Received) : Prop :=
  (∃ doc, m.document lib = .root doc) ∧
    ∃ schemaStr schema, m.schemaFile = some schemaStr ∧ lib.parse schemaStr = .root schema

/-- What the flag stands for. -/
structure ForwardedChecked (lib : Rapidjson) (m : Received) (h : Handling) : Prop where
  checked : .forward ∈ h.actions → .revisionCheck ∈ h.actions ∧ .fieldCheck ∈ h.actions
  parsed : .forward ∈ h.actions → m.Parses lib
  unflagged : m.flagged = true → .forward ∉ h.actions

/-- A message without the flag gets as far as `validateMessage`, where it does not parse, or else
the schema, which can be opened, does not. -/
def Unparsed (lib : Rapidjson) (m : Received) : Prop :=
  m.flagged = false ∧ m.data ≠ none ∧
    (m.document lib = .parseError ∨
      ∃ schemaStr, m.schemaFile = some schemaStr ∧ lib.parse schemaStr = .parseError)

theorem schemaPath_ne (type : MessageType) : type.schemaPath ≠ "" := by
  cases type <;> decide

theorem examine_eq_unparsed_iff : m.examine lib = .unparsed ↔ m.Unparsed lib := by
  unfold examine Unparsed document
  rw [if_neg (schemaPath_ne m.type)]
  cases hflag : m.flagged with
  | true => simp
  | false =>
      cases hdata : m.data with
      | none => simp
      | some data =>
          obtain ⟨intersectionId, jsonStr⟩ := data
          cases hdoc : lib.parse jsonStr with
          | parseError => simp [hdoc]
          | root doc =>
              cases hschema : m.schemaFile with
              | none => simp [hdoc]
              | some schemaStr => cases hparse : lib.parse schemaStr <;> simp [hdoc, hparse]

theorem examine_eq_parsed {intersectionId : Int} {schema doc : Json}
    (hm : m.examine lib = .parsed intersectionId schema doc) :
    m.flagged = false ∧ m.Parses lib := by
  unfold examine at hm
  rw [if_neg (schemaPath_ne m.type)] at hm
  split at hm
  · cases hm
  · rename_i hflag
    refine ⟨eq_false_of_ne_true hflag, ?_⟩
    split at hm
    · cases hm
    · rename_i id jsonStr hdata
      split at hm
      · cases hm
      · rename_i doc₀ hdoc
        split at hm
        · cases hm
        · rename_i schemaStr hfile
          split at hm
          · cases hm
          · rename_i schema₀ hschema
            refine ⟨⟨doc₀, ?_⟩, schemaStr, schema₀, hfile, hschema⟩
            rw [document, hdata]
            exact hdoc

theorem Unparsed.not_parses (hm : m.Unparsed lib) : ¬ m.Parses lib := by
  rintro ⟨⟨doc, hdoc⟩, schemaStr, schema, hfile, hschema⟩
  rcases hm.2.2 with herror | ⟨schemaStr', hfile', herror⟩
  · cases hdoc.symm.trans herror
  · cases hfile.symm.trans hfile'
    cases hschema.symm.trans herror

/-- Where a text does not parse, the message is forwarded all the same. -/
theorem forward_default_mem (hthrow : m.throwsAt ≠ some 0) :
    .forward ∈ (m.forward {} ⟨s, [], m.throwsAt⟩).actions := by
  rw [forward, if_pos (.inl rfl), broadcast]
  cases hat : m.throwsAt with
  | none => simp [act]
  | some n =>
      cases n with
      | zero => exact absurd hat hthrow
      | succ n => simp [act]

theorem forward_default_not_mem (hthrow : m.throwsAt = some 0) :
    .forward ∉ (m.forward {} ⟨s, [], m.throwsAt⟩).actions := by
  rw [forward, if_pos (.inl rfl), broadcast, hthrow]
  simp

theorem forwardedChecked_of_not_mem (hnot : .forward ∉ h.actions) : ForwardedChecked lib m h :=
  ⟨fun hmem => absurd hmem hnot, fun hmem => absurd hmem hnot, fun _ => hnot⟩

/-- **Validated means validated**, exactly for the messages that parse together with their schema,
or do not get as far as that, or are not broadcast. -/
theorem forwardedChecked_iff (hh : m.handle lib s = some h) :
    m.ForwardedChecked lib h ↔ ¬ m.Unparsed lib ∨ m.throwsAt = some 0 := by
  rw [handle] at hh
  split at hh
  · rename_i hm
    cases hh
    have hparsed : ¬ m.Unparsed lib := by
      rw [← examine_eq_unparsed_iff, hm]
      intro heq
      cases heq
    exact ⟨fun _ => .inl hparsed, fun _ => forwardedChecked_of_not_mem (by simp)⟩
  · rename_i hm
    cases hh
    have hunparsed := examine_eq_unparsed_iff.mp hm
    constructor
    · intro hchecked
      refine .inr (Decidable.of_not_not fun hthrow => ?_)
      exact hunparsed.not_parses (hchecked.parsed (forward_default_mem hthrow))
    · rintro (hnot | hthrow)
      · exact absurd hunparsed hnot
      · exact forwardedChecked_of_not_mem (forward_default_not_mem hthrow)
  · rename_i intersectionId schema doc hm
    obtain ⟨hflag, hparses⟩ := examine_eq_parsed hm
    obtain ⟨result, validator, _, hspec⟩ := validate_spec hh
    refine ⟨fun _ => .inl fun hunparsed => hunparsed.not_parses hparses, fun _ => ?_⟩
    refine ⟨hspec.checked, fun _ => hparses, fun htrue => ?_⟩
    rw [hflag] at htrue
    cases htrue

/-- Intersection 1 with some revision and status. -/
def spatMembers (revision : Int) (status : String) : Json :=
  .obj [("value", .obj [("SPAT", .obj [("intersections", .arr [.obj
    [("id", .obj [("id", .int 1)]), ("revision", .int revision), ("status", .str status)]])])])]

/-- Two of its texts. -/
def closedText : String :=
  "\x7b\"value\":\x7b\"SPAT\":\x7b\"intersections\":[\x7b\"id\":\x7b\"id\":1\x7d," ++
    "\"revision\":3,\"status\":\"0000\"\x7d]\x7d\x7d\x7d"

def openText : String :=
  "\x7b\"value\":\x7b\"SPAT\":\x7b\"intersections\":[\x7b\"id\":\x7b\"id\":1\x7d," ++
    "\"revision\":3,\"status\":\"0008\"\x7d]\x7d\x7d\x7d"

/-- The library on these texts and on a schema that accepts everything. -/
def onTexts : Rapidjson where
  parse text :=
    if text = "\x7b\x7d" then .root (.obj [])
    else if text = closedText then .root (spatMembers 3 "0000")
    else if text = openText then .root (spatMembers 3 "0008")
    else .parseError
  write := Json.compact
  invalid _ _ := none
  pointerGet _ _ := none

/-- A SPaT message, one second after the last. -/
def spatMessage (text schema : String) (throwsAt : Option Nat) : Received where
  type := .spat
  flags := 0
  config := ⟨"rsu", 60000, 60000⟩
  data := some (1, text)
  schemaFile := some schema
  currentTimestamp := "t"
  handlerBeginMs := 1000
  revisionEndMs := 1000
  fieldEndMs := 1000
  throwsAt := throwsAt

theorem forwardedChecked_closedText :
    ∃ h, (spatMessage closedText "\x7b\x7d" none).handle onTexts {} = some h ∧
      .forward ∈ h.actions ∧
      (spatMessage closedText "\x7b\x7d" none).ForwardedChecked onTexts h := by
  refine ⟨_, rfl, ?_, (forwardedChecked_iff (s := {}) rfl).mpr (.inl ?_)⟩
  · decide
  · intro hunparsed
    exact hunparsed.not_parses ⟨⟨spatMembers 3 "0000", rfl⟩, "\x7b\x7d", .obj [], rfl, rfl⟩

/-- With an empty schema file, a message is forwarded as validated. -/
theorem emptySchema_forwarded :
    ¬ ∀ (lib : Rapidjson) (s : IntersectionValidationPlugin) (m : Received) (h : Handling),
      m.handle lib s = some h → m.ForwardedChecked lib h := by
  intro hall
  have hchecked := hall onTexts {} (spatMessage closedText "" none) _ rfl
  exact absurd (hchecked.checked (by decide)).1 (by decide)

end Received

/-! ## The forwarded view is current -/

namespace World

variable {lib : Rapidjson} {m : Received} {h : Handling} {w w' : World}

/-- What the validator remembers of an intersection was forwarded last. -/
def ForwardedCurrent (lib : Rapidjson) (w : World) : Prop :=
  ∀ type x, ((w.plugin.revisionValidator.states type).lookup x).map IntersectionState.contentHash =
    (latest Occurrence.id x (w.forwarded type)).map (Occurrence.contentHash lib.write)

/-- Some intersection of the message is new, or not as it was last. -/
def Changes (lib : Rapidjson) (w : World) (m : Received) : Prop :=
  (withEarlier Occurrence.id (w.shown m.type) (m.shown lib)).any (changed lib.write) = true

instance (lib : Rapidjson) (w : World) (m : Received) : Decidable (w.Changes lib m) :=
  inferInstanceAs (Decidable (_ = true))

/-- No broadcast throws if the content changes, and the schema parses if the message does. -/
def Undisturbed (lib : Rapidjson) (w : World) (m : Received) : Prop :=
  (m.Unparsed lib → m.document lib = .parseError) ∧ (w.Changes lib m → m.throwsAt = none)

/-- The validator as a function of what it was shown, and this compared with what was forwarded. -/
structure Current (lib : Rapidjson) (w : World) : Prop where
  remembers : ∀ type, Remembers lib.write (w.plugin.revisionValidator.states type) (w.shown type)
  same : ∀ type x, (latest Occurrence.id x (w.shown type)).map (Occurrence.contentHash lib.write) =
    (latest Occurrence.id x (w.forwarded type)).map (Occurrence.contentHash lib.write)

theorem Current.forwardedCurrent (hw : w.Current lib) : w.ForwardedCurrent lib := by
  intro type x
  rw [hw.remembers type x, Option.map_map, ← hw.same type x]
  rfl

/-- A message that is forwarded contains what was shown of it. -/
theorem content_eq_shown (hm : w.Undisturbed lib m) (hh : m.handle lib w.plugin = some h)
    (hmem : .forward ∈ h.actions) : m.content lib = m.shown lib := by
  rw [Received.handle] at hh
  rw [Received.content, Received.shown]
  split at hh
  · cases hh
    cases hmem
  · rename_i hex
    have hdoc := hm.1 (Received.examine_eq_unparsed_iff.mp hex)
    rw [hex]
    dsimp only
    rw [hdoc]
    cases m.type <;> rfl
  · rename_i hex
    rw [hex]

theorem Current.step (hw : w.Current lib) (hm : w.Undisturbed lib m)
    (hst : w.step lib m = some w') : w'.Current lib := by
  obtain ⟨h, hh, heq⟩ := Option.bind_eq_some_iff.mp hst
  cases heq
  refine ⟨remembers_of_handle hw.remembers hh, ?_⟩
  intro type x
  by_cases htype : type = m.type
  · subst htype
    dsimp only
    rw [setFor_self]
    by_cases hmem : Action.forward ∈ h.actions
    · rw [if_pos hmem, setFor_self, content_eq_shown hm hh hmem, latest_append, latest_append,
        Option.map_or, Option.map_or, hw.same m.type x]
    · have hsame : (withEarlier Occurrence.id (w.shown m.type) (m.shown lib)).any
          (changed lib.write) = false := by
        apply eq_false_of_ne_true
        intro hchanges
        exact hmem (forward_mem_of_changes hw.remembers hh hchanges (hm.2 hchanges))
      rw [if_neg hmem, latest_append_of_repeats (Occurrence.contentHash lib.write)
        (RevisionCounterValidator.same_of_not_changed hsame)]
      exact hw.same m.type x
  · dsimp only
    rw [setFor_of_ne htype]
    split
    · rw [setFor_of_ne htype]
      exact hw.same type x
    · exact hw.same type x

theorem current_init : ({} : World).Current lib where
  remembers type := by
    cases type
    · exact remembers_nil
    · exact remembers_nil
  same _ _ := rfl

/-- **The forwarded view is current.** After any run in which no broadcast throws for a message that
changes the content, and in which the schema parses, what the validator remembers of an intersection
is what the last forwarded message with it contains. -/
theorem forwardedCurrent_of_run {ms : List Received} {w : World}
    (h : Run (Guarded (Undisturbed lib) (Steps (step lib))) {} ms w) : w.ForwardedCurrent lib := by
  apply Current.forwardedCurrent
  apply Run.invariant (I := Current lib) _ h current_init
  intro w m w' hw ⟨hm, hst⟩
  exact hw.step hm hst

theorem forwardedCurrent_of_run_closedText :
    ∃ ms w, Run (Guarded (Undisturbed Received.onTexts) (Steps (step Received.onTexts))) {} ms w ∧
      ms.length = 2 ∧ w.ForwardedCurrent Received.onTexts ∧
      ((w.plugin.revisionValidator.states .spat).lookup 1).isSome = true := by
  have hparses : ∀ throwsAt, ¬ (Received.spatMessage Received.closedText "\x7b\x7d"
      throwsAt).Unparsed Received.onTexts := by
    intro throwsAt hunparsed
    exact hunparsed.not_parses
      ⟨⟨Received.spatMembers 3 "0000", rfl⟩, "\x7b\x7d", .obj [], rfl, rfl⟩
  have hrun := @Run.cons World Received
    (Guarded (Undisturbed Received.onTexts) (Steps (step Received.onTexts))) {} _ _
    (Received.spatMessage Received.closedText "\x7b\x7d" none) _
    ⟨⟨fun hun => absurd hun (hparses none), fun _ => rfl⟩, rfl⟩
    (.cons (e := Received.spatMessage Received.closedText "\x7b\x7d" (some 0))
      ⟨⟨fun hun => absurd hun (hparses (some 0)), fun hchanges => absurd hchanges (by decide)⟩, rfl⟩
      .nil)
  exact ⟨_, _, hrun, rfl, forwardedCurrent_of_run hrun, by decide⟩

/-- The status changes, the revision does not, and the event about this is not broadcast: the new
status is remembered, and not forwarded. -/
theorem thrown_not_forwardedCurrent :
    ¬ ∀ (lib : Rapidjson) (ms : List Received) (w : World),
      Run (Steps (step lib)) {} ms w → w.ForwardedCurrent lib := by
  intro hall
  have hcurrent := hall Received.onTexts
    [Received.spatMessage Received.closedText "\x7b\x7d" none,
      Received.spatMessage Received.openText "\x7b\x7d" (some 0)] _ (.cons rfl (.cons rfl .nil))
  exact absurd (hcurrent .spat 1) (by decide)

end World

end V2XHub.Validation
