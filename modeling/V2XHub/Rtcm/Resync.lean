import V2XHub.Rtcm.Rtcm3

/-!
# Resynchronisation of the RTCM 3 decoder

`set_contents` looks for a frame: it drops bytes up to a preamble, reads the frame the header
announces, and when the CRC is wrong goes on with the bytes behind the preamble. That is meant to
terminate because every rejected candidate leaves fewer bytes than it had. It does not: before the
preamble is dropped, the three bytes in the place of the CRC are inserted again (they had never been
taken out), so a rejected candidate leaves two bytes *more*. `returns_and_progresses_iff` says that
the decoder returns and progresses exactly on the inputs without a rejected candidate.
-/

namespace V2XHub.Rtcm.Rtcm3Message

open Lib

/-- The first preamble of the input is followed by the bytes its header announces, and their CRC is
wrong. -/
def Rejects (m : Rtcm3Message) (input : List UInt8) : Prop :=
  m.hasRoom (search input) ∧ ¬ m.crcMatches (search input)

/-- `set_contents` returns. -/
def SetContentsReturns (m : Rtcm3Message) (input : List UInt8) : Prop :=
  ∃ fuel m', setContents fuel m input = some m'

/-- Every round of the search loop that goes round again leaves fewer bytes than there were from the
preamble of the candidate on. -/
def MakesProgress (m : Rtcm3Message) (input : List UInt8) : Prop :=
  ∀ s s', Heads attempt { m with bytes := input } s → attempt s = .again s' →
    s'.bytes.length < (search s.bytes).length

/-! ## One round -/

variable {m : Rtcm3Message} {input : List UInt8}

theorem hasRoom_iff {candidate : List UInt8} :
    m.hasRoom candidate ↔ headerBytes ≤ candidate.length ∧
      (m.header candidate).messageLength + headerBytes + crcBytes ≤ candidate.length := by
  rw [hasRoom, Bool.and_eq_true, decide_eq_true_eq, decide_eq_true_eq]

theorem attempt_of_rejects (h : m.Rejects input) :
    attempt { m with bytes := input } =
      .again { m.readCandidate (search input) with bytes := m.resetBytes (search input) } := by
  obtain ⟨hroom, hcrc⟩ := h
  have hlength : ¬ headerBytes > (search input).length := Nat.not_lt.mpr (hasRoom_iff.mp hroom).1
  have hroom' : ({ m with bytes := input } : Rtcm3Message).hasRoom (search input) = true := hroom
  have hcrc' : ¬ ({ m with bytes := input } : Rtcm3Message).crcMatches (search input) = true := hcrc
  simp only [attempt]
  rw [if_neg hlength, if_neg (not_not.mpr hroom'), if_neg hcrc']
  rfl

/-- Without a rejected candidate the first round is the last. -/
theorem attempt_of_not_rejects (h : ¬ m.Rejects input) :
    ∃ r, attempt { m with bytes := input } = .done r := by
  simp only [attempt]
  split
  · exact ⟨_, rfl⟩
  · split
    · exact ⟨_, rfl⟩
    · rename_i hroom
      split
      · exact ⟨_, rfl⟩
      · rename_i hcrc
        exact absurd ⟨not_not.mp hroom, hcrc⟩ h

/-- **Two bytes more**: three are inserted and one is dropped. -/
theorem length_resetBytes {candidate : List UInt8} (h : m.hasRoom candidate) :
    (m.resetBytes candidate).length = candidate.length + 2 := by
  obtain ⟨-, hroom⟩ := hasRoom_iff.mp h
  simp only [headerBytes, crcBytes] at hroom
  simp only [resetBytes, crcOf, crcStart, crcBytes, headerBytes, List.length_drop,
    List.length_append, List.length_take]
  omega

/-! ## The whole search -/

theorem setContentsReturns_of_not_rejects (h : ¬ m.Rejects input) :
    m.SetContentsReturns input := by
  obtain ⟨r, hr⟩ := attempt_of_not_rejects h
  refine ⟨1, if r.2 then r.1.finish else r.1, ?_⟩
  rw [setContents, loop_done hr]
  rfl

theorem makesProgress_of_not_rejects (h : ¬ m.Rejects input) : m.MakesProgress input := by
  intro s s' hs hagain
  obtain ⟨r, hr⟩ := attempt_of_not_rejects h
  -- the only head is the start, and its round is done
  rw [hs.eq_of_done hr, hr] at hagain
  cases hagain

theorem not_makesProgress_of_rejects (h : m.Rejects input) : ¬ m.MakesProgress input := by
  intro hprogress
  have hlt := hprogress _ _ Heads.start (attempt_of_rejects h)
  simp only [length_resetBytes h.1] at hlt
  omega

/-- **Termination and progress**: for every state of the message and every input, `set_contents`
returns with progress in every round exactly when its first candidate is not rejected. -/
theorem returns_and_progresses_iff (m : Rtcm3Message) (input : List UInt8) :
    (m.SetContentsReturns input ∧ m.MakesProgress input) ↔ ¬ m.Rejects input := by
  constructor
  · rintro ⟨-, hprogress⟩ hrejects
    exact not_makesProgress_of_rejects hrejects hprogress
  · intro h
    exact ⟨setContentsReturns_of_not_rejects h, makesProgress_of_not_rejects h⟩

/-! ## A stream that is never left -/

/-- Two empty frames with a wrong CRC: the second is the CRC of the first. -/
def twoPreambles : List UInt8 := [0xD3, 0x00, 0x00, 0xD3, 0x00, 0x00]

/-- The message at the head of every round but the first. -/
def stuck : Rtcm3Message :=
  { bytes := [0x00, 0x00, 0xD3, 0x00, 0x00, 0xD3, 0x00, 0x00], crc := 0xD30000 }

theorem attempt_twoPreambles : attempt { bytes := twoPreambles } = .again stuck := by
  decide +kernel

theorem attempt_stuck : attempt stuck = .again stuck := by decide +kernel

theorem loop_twoPreambles (fuel : Nat) : loop attempt fuel { bytes := twoPreambles } = none :=
  loop_eq_none (I := fun s => s = { bytes := twoPreambles } ∨ s = stuck)
    (by
      rintro s (rfl | rfl)
      · exact ⟨stuck, attempt_twoPreambles, Or.inr rfl⟩
      · exact ⟨stuck, attempt_stuck, Or.inr rfl⟩)
    fuel (Or.inl rfl)

/-- A new message given these six bytes searches for ever. -/
theorem setContents_twoPreambles_runs_forever :
    ¬ ({} : Rtcm3Message).SetContentsReturns twoPreambles := by
  rintro ⟨fuel, m', hm'⟩
  simp only [setContents, loop_twoPreambles, Option.map_none] at hm'
  cases hm'

end V2XHub.Rtcm.Rtcm3Message
