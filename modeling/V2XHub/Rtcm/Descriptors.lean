import V2XHub.Rtcm.Resync
import V2XHub.Rtcm.Splitting

/-!
# Antenna descriptors in any bytes

`RTCM3AntennaDescriptorMessage::set_contents` first decodes a frame as all messages do, and there an
exception invalidates the message. Then it takes the descriptor out of the words that are left in
the data buffer: a counter, as many bytes as it says, and a setup id. Nothing checks the counter
against the buffer, nor whether a frame was found at all, and nothing catches what `assignData`
throws.

**Main result**

* `decoding_total_iff`: exactly which bytes are decoded without an erasure beyond the buffer and
  without an exception.
-/

namespace V2XHub.Rtcm

open Lib

namespace AntennaDescriptorMessage

/-- `set_contents` behind the call of the base class. -/
def readDescriptor (base : Rtcm3Message) : Except Failure AntennaDescriptorMessage := do
  let (descriptorCounter, base) ← assignByte base
  let descriptor := readWords base.data descriptorCounter
  let base ← eraseData base descriptorCounter
  let (setupID, base) ← assignByte base
  return { base, descriptorCounter, descriptor, setupID }

/-- `set_contents` on a message that was used before. -/
def setContentsOn (fuel : Nat) (m : Rtcm3Message) (input : List UInt8) :
    Except Failure AntennaDescriptorMessage :=
  match Rtcm3Message.setContents fuel m input with
  | none => .error .outOfRounds
  | some base => readDescriptor base

theorem setContentsOn_new (fuel : Nat) (input : List UInt8) :
    setContentsOn fuel {} input = setContents fuel input := by
  rw [setContentsOn, setContents, decode]
  cases Rtcm3Message.setContents fuel {} input <;> rfl

/-! ## What is left in the buffer -/

/-- The words start with a counter, and there are more behind it than it says: the descriptor and a
setup id. -/
def Describes : List UInt8 → Prop
  | [] => False
  | count :: rest => count.toNat < rest.length

/-- The counter exceeds the words behind it. -/
def Overruns : List UInt8 → Prop
  | [] => False
  | count :: rest => rest.length < count.toNat

instance : DecidablePred Describes
  | [] => inferInstanceAs (Decidable False)
  | count :: rest => inferInstanceAs (Decidable (count.toNat < rest.length))

theorem Describes.not_overruns {words : List UInt8} (h : Describes words) : ¬ Overruns words := by
  cases words with
  | nil => exact h.elim
  | cons count rest => exact Nat.lt_asymm h

/-- How the words are taken out: all of them are there, or the erasure goes beyond the buffer, or
the counter or the setup id is missing. -/
theorem readDescriptor_cases (base : Rtcm3Message) :
    (Describes base.data ∧ ∃ r, readDescriptor base = .ok r) ∨
      (Overruns base.data ∧ readDescriptor base = .error .undefined) ∨
      (¬ Describes base.data ∧ ¬ Overruns base.data ∧ readDescriptor base = .error .thrown) := by
  cases hdata : base.data with
  | nil =>
      have hassign : assignByte base = .error .thrown := by
        rw [assignByte, hdata]
      refine .inr (.inr ⟨id, id, ?_⟩)
      rw [readDescriptor, hassign]
      rfl
  | cons count rest =>
      have hassign : assignByte base = .ok (count.toNat, { base with data := rest }) := by
        rw [assignByte, hdata]
      have hread : readDescriptor base = do
          let erased ← eraseData { base with data := rest } count.toNat
          let (setupID, erased) ← assignByte erased
          return ⟨erased, count.toNat, readWords rest count.toNat, setupID⟩ := by
        rw [readDescriptor, hassign]
        rfl
      by_cases hle : count.toNat ≤ rest.length
      · have herase : eraseData { base with data := rest } count.toNat =
            .ok { base with data := rest.drop count.toNat } := if_pos hle
        rw [hread, herase]
        cases hrest : rest.drop count.toNat with
        | nil =>
            have hnone : rest.length ≤ count.toNat := List.drop_eq_nil_iff.mp hrest
            exact .inr (.inr ⟨Nat.not_lt.mpr hnone, Nat.not_lt.mpr hle, rfl⟩)
        | cons setupID words =>
            have hlt : count.toNat < rest.length := by
              have hlength := congrArg List.length hrest
              rw [List.length_drop, List.length_cons] at hlength
              omega
            exact .inl ⟨hlt, _, rfl⟩
      · have herase : eraseData { base with data := rest } count.toNat = .error .undefined :=
          if_neg hle
        refine .inr (.inl ⟨Nat.lt_of_not_le hle, ?_⟩)
        rw [hread, herase]
        rfl

/-! ## Safe and total decoding -/

/-- Whatever the bytes are, not more words are erased than there are, no exception escapes, and a
counter that exceeds the words behind it makes the message invalid. -/
structure Safe (m : Rtcm3Message) (input : List UInt8) : Prop where
  erases : ∀ fuel, setContentsOn fuel m input ≠ .error .undefined
  catches : ∀ fuel, setContentsOn fuel m input ≠ .error .thrown
  invalidates : ∀ fuel base, Rtcm3Message.setContents fuel m input = some base →
    Overruns base.data → ∃ r, setContentsOn fuel m input = .ok r ∧ r.isValid.1 = false

/-- Safe decoding that returns. -/
structure Total (m : Rtcm3Message) (input : List UInt8) : Prop extends Safe m input where
  returns : ∃ fuel r, setContentsOn fuel m input = .ok r

/-- The search for a frame in `input` ends at the head of a round with `s`. -/
structure EndsAt (m : Rtcm3Message) (input : List UInt8) (s : Rtcm3Message) : Prop where
  heads : Heads Rtcm3Message.attempt { m with bytes := input } s
  last : ¬ s.Rejects s.bytes

/-- What the buffer holds when the search ends at `s`, behind the leading attributes if there are
enough words for them. A candidate without room for the frame it announces leaves what was there. -/
def leftover (s : Rtcm3Message) : List UInt8 :=
  let candidate := Rtcm3Message.search s.bytes
  if headerBytes > candidate.length then s.data
  else if ¬ s.hasRoom candidate then (s.header candidate).data
  else
    let words := (s.readCandidate candidate).data ++
      readWords (candidate.drop headerBytes) (s.header candidate).messageLength
    if words.length < attrBytes then words else words.drop attrBytes

variable {m s base : Rtcm3Message} {input : List UInt8} {fuel : Nat}

/-- The message after the search. -/
def found (r : Rtcm3Message × Bool) : Rtcm3Message := if r.2 then r.1.finish else r.1

theorem data_finish (m : Rtcm3Message) :
    m.finish.data =
      if (m.data ++ readWords (m.bytes.drop headerBytes) m.messageLength).length < attrBytes then
        m.data ++ readWords (m.bytes.drop headerBytes) m.messageLength
      else (m.data ++ readWords (m.bytes.drop headerBytes) m.messageLength).drop attrBytes := by
  simp only [Rtcm3Message.finish]
  split <;> rfl

theorem data_found {r : Rtcm3Message × Bool} (h : s.attempt = .done r) :
    (found r).data = leftover s := by
  simp only [Rtcm3Message.attempt] at h
  simp only [leftover]
  split at h
  · rename_i hshort
    cases h
    rw [if_pos hshort]
    rfl
  · rename_i hlong
    rw [if_neg hlong]
    split at h
    · rename_i hroom
      cases h
      rw [if_pos hroom]
      rfl
    · rename_i hroom
      rw [if_neg hroom]
      split at h
      · cases h
        exact data_finish _
      · cases h

theorem endsAt_iff : EndsAt m input s ↔
    Heads Rtcm3Message.attempt { m with bytes := input } s ∧ ∃ r, s.attempt = .done r := by
  constructor
  · rintro ⟨hheads, hlast⟩
    exact ⟨hheads, Rtcm3Message.attempt_of_not_rejects hlast⟩
  · rintro ⟨hheads, r, hr⟩
    refine ⟨hheads, fun hrejects => ?_⟩
    have hagain := Rtcm3Message.attempt_of_rejects hrejects
    cases hr.symm.trans hagain

theorem EndsAt.unique {s' : Rtcm3Message} (h : EndsAt m input s) (h' : EndsAt m input s') :
    s = s' := by
  obtain ⟨hheads, r, hr⟩ := endsAt_iff.mp h
  obtain ⟨hheads', r', hr'⟩ := endsAt_iff.mp h'
  exact hheads.unique hheads' hr hr'

/-- When the base class returns, the search has ended, and the buffer holds what is left over. -/
theorem exists_endsAt (h : Rtcm3Message.setContents fuel m input = some base) :
    ∃ s, EndsAt m input s ∧ base.data = leftover s := by
  obtain ⟨r, hloop, rfl⟩ := Option.map_eq_some_iff.mp h
  obtain ⟨s, hheads, hs⟩ := loop_eq_some_iff.mp ⟨fuel, hloop⟩
  exact ⟨s, endsAt_iff.mpr ⟨hheads, r, hs⟩, data_found hs⟩

theorem EndsAt.exists_base (h : EndsAt m input s) :
    ∃ fuel base, Rtcm3Message.setContents fuel m input = some base ∧ base.data = leftover s := by
  obtain ⟨hheads, r, hs⟩ := endsAt_iff.mp h
  obtain ⟨fuel, hloop⟩ := loop_eq_some_iff.mpr ⟨s, hheads, hs⟩
  exact ⟨fuel, found r, Option.map_eq_some_iff.mpr ⟨r, hloop, rfl⟩, data_found hs⟩

theorem setContentsOn_of_base (h : Rtcm3Message.setContents fuel m input = some base) :
    setContentsOn fuel m input = readDescriptor base := by
  rw [setContentsOn, h]

theorem exists_ok_of_describes (h : Describes base.data) : ∃ r, readDescriptor base = .ok r := by
  obtain ⟨-, hok⟩ | ⟨hoverruns, -⟩ | ⟨hnot, -, -⟩ := readDescriptor_cases base
  · exact hok
  · exact absurd hoverruns h.not_overruns
  · exact absurd h hnot

theorem safe_iff : Safe m input ↔ ∀ s, EndsAt m input s → Describes (leftover s) := by
  constructor
  · intro hsafe s hends
    obtain ⟨fuel, base, hbase, hdata⟩ := hends.exists_base
    have hread := setContentsOn_of_base hbase
    rw [← hdata]
    obtain ⟨hdescribes, -⟩ | ⟨-, herror⟩ | ⟨-, -, herror⟩ := readDescriptor_cases base
    · exact hdescribes
    · exact absurd (hread.trans herror) (hsafe.erases fuel)
    · exact absurd (hread.trans herror) (hsafe.catches fuel)
  · intro hdescribes
    have hok : ∀ fuel base, Rtcm3Message.setContents fuel m input = some base →
        ∃ r, setContentsOn fuel m input = .ok r := by
      intro fuel base hbase
      obtain ⟨s, hends, hdata⟩ := exists_endsAt hbase
      rw [setContentsOn_of_base hbase]
      apply exists_ok_of_describes
      rw [hdata]
      exact hdescribes s hends
    have hfailure : ∀ fuel failure, setContentsOn fuel m input = .error failure →
        failure = .outOfRounds := by
      intro fuel failure herror
      cases hbase : Rtcm3Message.setContents fuel m input with
      | none =>
          rw [setContentsOn, hbase] at herror
          cases herror
          rfl
      | some base =>
          obtain ⟨r, hr⟩ := hok fuel base hbase
          cases herror.symm.trans hr
    refine ⟨fun fuel h => absurd (hfailure fuel _ h) nofun,
      fun fuel h => absurd (hfailure fuel _ h) nofun, ?_⟩
    intro fuel base hbase hoverruns
    obtain ⟨s, hends, hdata⟩ := exists_endsAt hbase
    rw [hdata] at hoverruns
    exact absurd hoverruns (hdescribes s hends).not_overruns

theorem total_iff : Total m input ↔ ∃ s, EndsAt m input s ∧ Describes (leftover s) := by
  constructor
  · intro htotal
    obtain ⟨fuel, r, hr⟩ := htotal.returns
    cases hbase : Rtcm3Message.setContents fuel m input with
    | none =>
        rw [setContentsOn, hbase] at hr
        cases hr
    | some base =>
        obtain ⟨s, hends, -⟩ := exists_endsAt hbase
        exact ⟨s, hends, safe_iff.mp htotal.toSafe s hends⟩
  · rintro ⟨s, hends, hdescribes⟩
    refine ⟨safe_iff.mpr fun s' hends' => hends.unique hends' ▸ hdescribes, ?_⟩
    obtain ⟨fuel, base, hbase, hdata⟩ := hends.exists_base
    rw [← hdata] at hdescribes
    obtain ⟨r, hr⟩ := exists_ok_of_describes hdescribes
    exact ⟨fuel, r, (setContentsOn_of_base hbase).trans hr⟩

/-- Once the base class has returned, only the buffer matters. -/
theorem total_iff_of_base (h : Rtcm3Message.setContents fuel m input = some base) :
    Total m input ↔ Describes base.data := by
  obtain ⟨s, hends, hdata⟩ := exists_endsAt h
  rw [total_iff, hdata]
  exact ⟨fun ⟨s', hends', hdescribes⟩ => hends'.unique hends ▸ hdescribes,
    fun hdescribes => ⟨s, hends, hdescribes⟩⟩

/-! ## New messages -/

/-- A round takes as many words from the front of the buffer as it loads behind them. -/
theorem length_data_header (s : Rtcm3Message) (candidate : List UInt8) :
    (s.header candidate).data.length = s.data.length := by
  show ((s.data ++ readWords candidate headerBytes).drop headerBytes).length = _
  rw [List.length_drop, List.length_append, readWords, List.length_map, List.length_range]
  exact Nat.add_sub_cancel _ _

theorem length_data_readCandidate (s : Rtcm3Message) (candidate : List UInt8) :
    (s.readCandidate candidate).data.length = s.data.length := by
  show (((s.header candidate).data ++
    readWords (s.crcOf candidate) crcBytes).drop crcBytes).length = _
  rw [List.length_drop, List.length_append, readWords, List.length_map, List.length_range,
    length_data_header]
  exact Nat.add_sub_cancel _ _

theorem length_data_heads (h : Heads Rtcm3Message.attempt m s) : s.data.length = m.data.length := by
  induction h with
  | start => rfl
  | @again m m' s hagain _ ih =>
      rw [ih]
      simp only [Rtcm3Message.attempt] at hagain
      split at hagain
      · cases hagain
      · split at hagain
        · cases hagain
        · split at hagain
          · cases hagain
          · cases hagain
            exact length_data_readCandidate _ _

/-- A new message decodes no descriptor where it finds no frame: it throws. -/
theorem hasRoom_of_total (h : Total {} input) :
    ∃ s, EndsAt {} input s ∧ s.hasRoom (Rtcm3Message.search s.bytes) := by
  obtain ⟨s, hends, hdescribes⟩ := total_iff.mp h
  refine ⟨s, hends, ?_⟩
  by_contra hroom
  have hlength : (leftover s).length = 0 := by
    simp only [leftover]
    split
    · exact length_data_heads hends.heads
    · rw [length_data_header]
      exact length_data_heads hends.heads
  rw [List.length_eq_zero_iff.mp hlength] at hdescribes
  exact hdescribes

/-! ## Frames -/

section

variable {f : RawFrame}

theorem describes_body_iff : Describes f.body ↔ f.descriptorLength ≤ f.body.length := by
  rw [RawFrame.descriptorLength]
  cases f.body with
  | nil => exact iff_of_false id (by simp)
  | cons count rest =>
      rw [List.getD_cons_zero, List.length_cons]
      show count.toNat < rest.length ↔ _
      omega

/-- A new message decodes a frame exactly when the body has room for what its counter announces. -/
theorem total_frame_iff (h : f.HasAttrs) (rest : List UInt8) :
    Total {} (f.bytes ++ rest) ↔ f.descriptorLength ≤ f.body.length := by
  have hbase : Rtcm3Message.setContents 1 {} ([] ++ (f.bytes ++ rest)) = some (f.message rest) :=
    Rtcm3Message.setContents_raw f rest h List.not_mem_nil 0
  have hdata : (f.message rest).data = f.body := List.append_nil _
  rw [List.nil_append] at hbase
  rw [total_iff_of_base hbase, hdata, describes_body_iff]

/-- So does `get_container`, for every frame of that number with a correct CRC. -/
theorem retype_returns_iff {α : Type} (rtcm2 : Rtcm2Decoder α) (h : f.HasAttrs)
    (hnumber : numberOf f.payload = antennaDescriptor) (rest : List UInt8) (fuel : Nat) :
    (∃ ptr, (TmxRtcmMessage.rtcm3 (f.message rest)).retype rtcm2 (fuel + 1) = .ok ptr) ↔
      f.descriptorLength ≤ f.body.length := by
  constructor
  · rintro ⟨ptr, hptr⟩
    by_contra hroom
    obtain ⟨failure, hfailure⟩ := retype_truncated rtcm2 rest h hnumber hroom fuel
    cases hptr.symm.trans hfailure
  · intro hroom
    obtain ⟨ptr, hptr, -⟩ := retype_antenna rtcm2 rest h hnumber hroom fuel
    exact ⟨ptr, hptr⟩

end

/-- **Antenna descriptors in any bytes**: decoding is safe exactly when the search does not end, or
leaves in the buffer a counter with more bytes behind it than it says, and total exactly when it
ends so. A new message is left so by a frame only: in front of any bytes that is one whose body has
room for what its counter announces, and for such frames only `get_container` returns. -/
theorem decoding_total_iff (m : Rtcm3Message) (input : List UInt8) :
    (Safe m input ↔ ∀ s, EndsAt m input s → Describes (leftover s)) ∧
      (Total m input ↔ ∃ s, EndsAt m input s ∧ Describes (leftover s)) ∧
      (Total {} input → ∃ s, EndsAt {} input s ∧ s.hasRoom (Rtcm3Message.search s.bytes)) ∧
      ∀ f : RawFrame, f.HasAttrs → ∀ rest,
        (Total {} (f.bytes ++ rest) ↔ f.descriptorLength ≤ f.body.length) ∧
          (numberOf f.payload = antennaDescriptor → ∀ {α : Type} (rtcm2 : Rtcm2Decoder α) fuel,
            ((∃ ptr, (TmxRtcmMessage.rtcm3 (f.message rest)).retype rtcm2 (fuel + 1) = .ok ptr) ↔
              f.descriptorLength ≤ f.body.length)) :=
  ⟨safe_iff, total_iff, hasRoom_of_total, fun _ h rest => ⟨total_frame_iff h rest,
    fun hnumber _ rtcm2 fuel => retype_returns_iff rtcm2 h hnumber rest fuel⟩⟩

/-! ### A counter that exceeds the frame -/

/-- An antenna descriptor of five characters, of which one is there. -/
def overrunFrame : RawFrame where
  reserved := 0
  payload := [0x3E, 0xF0, 0x00, 0x05, 0x41]
  reserved_lt := Nat.le_of_ble_eq_true rfl
  length_lt := Nat.le_of_ble_eq_true rfl

/-- Four characters are erased that are not there; an empty stream throws; and two frames, each the
wrong CRC of the one before, are searched for ever. -/
theorem not_total_overrunFrame :
    numberOf overrunFrame.payload = antennaDescriptor ∧
      setContents 1 overrunFrame.bytes = .error .undefined ∧ setContents 1 [] = .error .thrown ∧
      ¬ Safe {} overrunFrame.bytes ∧ ¬ Safe {} [] ∧ ¬ Total {} Rtcm3Message.twoPreambles := by
  have hoverrun : setContentsOn 1 {} overrunFrame.bytes = .error .undefined := by
    have hattrs : overrunFrame.HasAttrs := Nat.le_of_ble_eq_true rfl
    have hbase := Rtcm3Message.setContents_raw overrunFrame [] hattrs List.not_mem_nil 0
    rw [List.nil_append, List.append_nil] at hbase
    rw [setContentsOn_of_base hbase]
    rfl
  have hempty : setContentsOn 1 {} [] = .error .thrown := rfl
  rw [← setContentsOn_new, ← setContentsOn_new]
  refine ⟨rfl, hoverrun, hempty, fun hsafe => hsafe.erases 1 hoverrun,
    fun hsafe => hsafe.catches 1 hempty, fun htotal => ?_⟩
  obtain ⟨fuel, r, hr⟩ := htotal.returns
  have hnone : Rtcm3Message.setContents fuel {} Rtcm3Message.twoPreambles = none := by
    rw [Rtcm3Message.setContents, Rtcm3Message.loop_twoPreambles, Option.map_none]
  rw [setContentsOn, hnone] at hr
  cases hr

end AntennaDescriptorMessage

end V2XHub.Rtcm
