import V2XHub.Rtcm.Ntrip
import V2XHub.Rtcm.Rtcm2Decoder
import V2XHub.Rtcm.Resync
import Mathlib.Data.List.Infix
import Mathlib.Data.List.TakeWhile

/-!
# Blocks and frames

A stream of frames arrives in blocks, and `Main` decodes every block on its own: what a block leaves
over at its end is dropped, not kept for the next one. `broadcastsFrames_split` says what that
means. Cut between its frames, a stream is broadcast frame by frame. Cut in any other way it is not,
whatever the bytes are, as long as the decoder does not reject a candidate in a block: the messages
of a block are disjoint parts of it, so all bytes of the stream can only be accounted for if every
block consists of frames. (A rejected candidate leaves more bytes than it had, and they may make up
for those in another block.)
-/

namespace V2XHub.Rtcm

open Lib

/-! ## What is decoded is a frame -/

namespace Rtcm3Message

variable {input candidate : List UInt8}

theorem readWords_eq_take {n : Nat} (h : n ≤ candidate.length) :
    readWords candidate n = candidate.take n := by
  have happend := readWords_append (candidate.take n) (candidate.drop n)
  rwa [List.take_append_drop, List.length_take_of_le h] at happend

/-- The three bytes of a header, as a number. -/
def headerValue (candidate : List UInt8) : Nat := combineWords (candidate.take headerBytes)

theorem headerValue_lt (h : headerBytes ≤ candidate.length) : headerValue candidate < 2 ^ 24 := by
  have hlt := combineWords_lt (candidate.take headerBytes)
  rwa [List.length_take_of_le h] at hlt

theorem header_of_le (h : headerBytes ≤ candidate.length) :
    ({ bytes := input } : Rtcm3Message).header candidate =
      { bytes := candidate
        preamble := headerValue candidate / 2 ^ 16 % 2 ^ 8
        reserved := headerValue candidate / 2 ^ 10 % 2 ^ 6
        messageLength := headerValue candidate % 2 ^ 10 } := by
  have htake : (candidate.take headerBytes).take headerBytes = candidate.take headerBytes := by
    rw [List.take_take, Nat.min_self]
  have hdrop : (candidate.take headerBytes).drop headerBytes = [] :=
    List.drop_eq_nil_of_le (List.length_take_le _ _)
  simp only [header, assignHeader, List.nil_append, readWords_eq_take h, htake, hdrop, headerValue]

/-- The length a header announces. -/
def headerLength (candidate : List UInt8) : Nat := headerValue candidate % 2 ^ 10

/-- The bytes in the place of the CRC. -/
def crcWords (candidate : List UInt8) : List UInt8 :=
  (candidate.drop (headerBytes + headerLength candidate)).take crcBytes

/-- There are the bytes of a whole frame. -/
def HoldsFrame (candidate : List UInt8) : Prop :=
  headerBytes + headerLength candidate + crcBytes ≤ candidate.length

theorem HoldsFrame.le_length (h : HoldsFrame candidate) : headerBytes ≤ candidate.length := by
  rw [HoldsFrame] at h
  omega

theorem holdsFrame_of_hasRoom (h : ({ bytes := input } : Rtcm3Message).hasRoom candidate) :
    HoldsFrame candidate := by
  obtain ⟨hle, hroom⟩ := hasRoom_iff.mp h
  rw [header_of_le hle] at hroom
  change headerLength candidate + headerBytes + crcBytes ≤ candidate.length at hroom
  rw [HoldsFrame]
  omega

theorem HoldsFrame.length_crcWords (h : HoldsFrame candidate) :
    (crcWords candidate).length = crcBytes := by
  rw [HoldsFrame] at h
  apply List.length_take_of_le
  rw [List.length_drop]
  omega

theorem HoldsFrame.readCandidate_eq (h : HoldsFrame candidate) :
    ({ bytes := input } : Rtcm3Message).readCandidate candidate =
      { bytes := candidate
        preamble := headerValue candidate / 2 ^ 16 % 2 ^ 8
        reserved := headerValue candidate / 2 ^ 10 % 2 ^ 6
        messageLength := headerLength candidate
        crc := combineWords (crcWords candidate) } := by
  have hcrcOf : ({ bytes := input } : Rtcm3Message).crcOf candidate = crcWords candidate := by
    rw [crcOf, crcStart, header_of_le h.le_length]
    rfl
  rw [readCandidate, hcrcOf, assignCRC, header_of_le h.le_length,
    readWords_eq_take h.length_crcWords.ge, List.nil_append,
    List.take_of_length_le h.length_crcWords.le, List.take_of_length_le h.length_crcWords.le,
    List.drop_eq_nil_of_le h.length_crcWords.le]
  rfl

/-- What it means that the CRC is right. -/
theorem HoldsFrame.spec_of_crcMatches (h : HoldsFrame candidate)
    (hcrc : ({ bytes := input } : Rtcm3Message).crcMatches candidate) :
    headerValue candidate / 2 ^ 16 % 2 ^ 8 = 0xD3 ∧
      combineWords (crcWords candidate) =
        (crc24qHash (candidate.take (headerBytes + headerLength candidate))).toNat := by
  have hle : headerBytes + crcBytes + headerLength candidate ≤ candidate.length := by
    rw [HoldsFrame] at h
    omega
  have hfront : headerBytes + crcBytes + headerLength candidate - crcBytes =
      headerBytes + headerLength candidate := by omega
  rw [crcMatches, h.readCandidate_eq, Bool.and_eq_true, decide_eq_true_eq] at hcrc
  obtain ⟨hpreamble, hparity⟩ := hcrc
  have hcrc : combineWords (crcWords candidate) = (crc24qHash (candidate.take
      (headerBytes + crcBytes + headerLength candidate - crcBytes))).toNat :=
    (checkParity_iff (by exact hle)).mp hparity
  rw [hfront] at hcrc
  exact ⟨hpreamble, hcrc⟩

/-- A candidate with the right CRC is a frame, with what follows it. -/
theorem exists_frame_of_crcMatches (hroom : ({ bytes := input } : Rtcm3Message).hasRoom candidate)
    (hcrc : ({ bytes := input } : Rtcm3Message).crcMatches candidate) :
    ∃ (f : RawFrame) (rest : List UInt8), candidate = f.bytes ++ rest := by
  have hholds := holdsFrame_of_hasRoom hroom
  obtain ⟨hpreamble, hparity⟩ := hholds.spec_of_crcMatches hcrc
  have hpayload : ((candidate.drop headerBytes).take (headerLength candidate)).length =
      headerLength candidate := by
    rw [HoldsFrame] at hholds
    apply List.length_take_of_le
    rw [List.length_drop]
    omega
  obtain ⟨f, hreserved, hbytes⟩ : ∃ f : RawFrame,
      f.reserved = headerValue candidate / 2 ^ 10 % 2 ^ 6 ∧
        f.payload = (candidate.drop headerBytes).take (headerLength candidate) :=
    ⟨⟨_, _, Nat.mod_lt _ (by decide), by
      rw [hpayload]
      exact Nat.mod_lt _ (by decide)⟩, rfl, rfl⟩
  have hheader : f.header = candidate.take headerBytes := by
    have hlt := headerValue_lt hholds.le_length
    have hsum : 0xD3 * 2 ^ 16 + f.reserved * 2 ^ 10 + f.payload.length = headerValue candidate := by
      rw [hreserved, hbytes, hpayload, headerLength]
      omega
    have hsplit := splitWords_combineWords (candidate.take headerBytes)
    rw [List.length_take_of_le hholds.le_length] at hsplit
    rw [RawFrame.header, hsum, headerValue, hsplit]
  have hfront : f.header ++ f.payload = candidate.take (headerBytes + headerLength candidate) := by
    rw [hheader, hbytes, List.take_add]
  have hcrcWords : splitWords f.crc crcBytes = crcWords candidate := by
    have hsplit := splitWords_combineWords (crcWords candidate)
    rwa [hholds.length_crcWords, hparity, ← hfront] at hsplit
  refine ⟨f, candidate.drop (headerBytes + headerLength candidate + crcBytes), ?_⟩
  rw [RawFrame.bytes, hfront, hcrcWords, crcWords, ← List.take_add, List.take_append_drop]

/-- A search that is done in its first round has found a frame, or the message is invalidated. -/
theorem attempt_done {m : Rtcm3Message} {found : Bool}
    (h : attempt { bytes := input } = .done (m, found)) :
    (∃ (f : RawFrame) (rest : List UInt8), search input = f.bytes ++ rest) ∨
      found = false ∧ m.notInvalidated = false := by
  simp only [attempt] at h
  split at h
  · cases h
    exact Or.inr ⟨rfl, rfl⟩
  · split at h
    · cases h
      exact Or.inr ⟨rfl, rfl⟩
    · rename_i hroom
      split at h
      · rename_i hcrc
        exact Or.inl (exists_frame_of_crcMatches (not_not.mp hroom) hcrc)
      · cases h

/-- **What is decoded is a frame**: a valid message found without rejecting a candidate is the
message of a frame in the input. -/
theorem exists_frame_of_setContents {fuel : Nat} {m : Rtcm3Message}
    (h : setContents fuel {} input = some m) (hvalid : m.isValid)
    (hrejects : ¬ ({} : Rtcm3Message).Rejects input) :
    ∃ (garbage : List UInt8) (f : RawFrame) (rest : List UInt8),
      input = garbage ++ (f.bytes ++ rest) ∧ preambleByte ∉ garbage ∧ f.HasAttrs ∧
        m = f.message rest := by
  obtain ⟨fuel, rfl⟩ : ∃ fuel', fuel = fuel' + 1 := by
    cases fuel with
    | zero => cases h
    | succ fuel => exact ⟨fuel, rfl⟩
  have hgarbage : preambleByte ∉ input.takeWhile (· ≠ preambleByte) := by
    intro hmem
    simpa using List.mem_takeWhile_imp hmem
  have hinput : input = input.takeWhile (· ≠ preambleByte) ++ search input :=
    List.takeWhile_append_dropWhile.symm
  obtain ⟨⟨m', found⟩, hr⟩ := attempt_of_not_rejects hrejects
  rcases attempt_done hr with ⟨f, rest, hsearch⟩ | ⟨rfl, hinvalidated⟩
  · rw [hsearch] at hinput
    refine ⟨_, f, rest, hinput, hgarbage, ?_⟩
    by_cases hattrs : f.HasAttrs
    · have hframe := setContents_raw f rest hattrs hgarbage fuel
      rw [← hinput, h, Option.some.injEq] at hframe
      exact ⟨hattrs, hframe⟩
    · obtain ⟨m', hm', hinvalid⟩ := setContents_short f rest hattrs hgarbage fuel
      rw [← hinput, h, Option.some.injEq] at hm'
      exact absurd (hm' ▸ hvalid) hinvalid
  · have hm : m = m' := by
      rw [setContents, loop_done hr] at h
      exact (Option.some.inj h).symm
    rw [hm, isValid, hinvalidated, Bool.false_and] at hvalid
    cases hvalid

end Rtcm3Message

/-! ## The messages of a block -/

theorem Rtcm3Message.length_of_getContents {m : Rtcm3Message} {contents : List UInt8}
    (h : m.getContents = some contents) : contents.length = m.size := by
  rw [getContents] at h
  split at h
  · cases h
  · rename_i hlength
    cases h
    simp only [List.length_append, length_splitWords, List.length_take, size, headerBytes, crcBytes,
      attrBytes] at hlength ⊢
    omega

/-- Nowhere in the bytes is a preamble followed by what its header announces and a wrong CRC. -/
def NeverRejects (bytes : List UInt8) : Prop :=
  ∀ suffix, suffix <:+ bytes → ¬ ({} : Rtcm3Message).Rejects suffix

instance (m : Rtcm3Message) (input : List UInt8) : Decidable (m.Rejects input) :=
  inferInstanceAs (Decidable (_ ∧ _))

instance (bytes : List UInt8) : Decidable (NeverRejects bytes) :=
  decidable_of_iff (∀ suffix ∈ bytes.tails, ¬ ({} : Rtcm3Message).Rejects suffix) (by
    simp only [List.mem_tails]
    rfl)

/-- The bytes in the RTCM 3 messages among some corrections. -/
def rev3Bytes (corrections : List RTCMcorrections) : Nat :=
  (corrections.map fun rtcm => if rtcm.rev = .rtcmRev3 then rtcm.message.length else 0).sum

@[simp] theorem rev3Bytes_append (corrections corrections' : List RTCMcorrections) :
    rev3Bytes (corrections ++ corrections') = rev3Bytes corrections + rev3Bytes corrections' := by
  simp [rev3Bytes]

section
variable {α : Type} {rtcm2 : Rtcm2Decoder α}

theorem Delivers.length_contents {m : TmxRtcmMessage α} {f : RawFrame} {contents : List UInt8}
    (h : Delivers rtcm2 m f contents) : contents.length = f.bytes.length := by
  obtain ⟨hversion, hsize, hcontents⟩ := h
  rw [← hsize]
  cases m with
  | rtcm2 m => cases hversion
  | rtcm3 m => exact Rtcm3Message.length_of_getContents hcontents
  | antenna m => exact Rtcm3Message.length_of_getContents (m := m.rebuild.base) hcontents

/-- However a frame is made specific to its type, a message of its length comes out. -/
theorem delivers_of_retype {f : RawFrame} {rest : List UInt8} (h : f.HasAttrs) {fuel : Nat}
    {ptr : TmxRtcmMessage α}
    (hretype : (TmxRtcmMessage.rtcm3 (f.message rest)).retype rtcm2 (fuel + 1) = .ok ptr) :
    ∃ contents, Delivers rtcm2 ptr f contents := by
  by_cases hintact : f.Intact
  · obtain ⟨m, hm, hdelivers⟩ := retype_frame rtcm2 rest h hintact fuel
    obtain rfl : m = ptr := Except.ok.inj (hm.symm.trans hretype)
    exact ⟨_, hdelivers⟩
  · rcases retype_of_not_intact rtcm2 rest h hintact fuel with
      ⟨failure, hfailure⟩ | ⟨m, contents, hm, hdelivers, -⟩
    · rw [hretype] at hfailure
      cases hfailure
    · obtain rfl : m = ptr := Except.ok.inj (hm.symm.trans hretype)
      exact ⟨_, hdelivers⟩

theorem find2_some {copy : List UInt8} {m : TmxRtcmMessage α} (h : find2 rtcm2 copy = some m) :
    ∃ m', m = .rtcm2 m' := by
  simp only [find2] at h
  split at h
  · exact ⟨_, (Option.some.inj h).symm⟩
  · cases h

/-- What is found is an RTCM 2 message, or a valid RTCM 3 message. -/
theorem find_some {fuel : Nat} {copy : List UInt8} {version : RtcmVersion} {m : TmxRtcmMessage α}
    (h : find rtcm2 fuel copy version = .ok (some m)) :
    (∃ m', m = .rtcm2 m') ∨ ∃ m', m = .rtcm3 m' ∧ decode fuel copy = .ok m' ∧ m'.isValid := by
  have hfind3 : find3 fuel copy = .ok (some m) →
      ∃ m', m = .rtcm3 m' ∧ decode fuel copy = .ok m' ∧ m'.isValid := by
    intro h
    rw [find3] at h
    cases hdecode : decode fuel copy with
    | error failure =>
        rw [hdecode] at h
        cases h
    | ok m' =>
        rw [hdecode] at h
        simp only [bind, Except.bind] at h
        split at h
        · rename_i hvalid
          cases h
          exact ⟨m', rfl, rfl, hvalid⟩
        · cases h
  cases version with
  | sc10402_3 =>
      simp only [find, pure, Except.pure, Except.ok.injEq] at h
      exact Or.inl (find2_some h)
  | sc10403_3 => exact Or.inr (hfind3 h)
  | unknown =>
      rw [find] at h
      cases hthree : find3 (α := α) fuel copy with
      | error failure =>
          rw [hthree] at h
          cases h
      | ok found =>
          rw [hthree] at h
          cases found with
          | none =>
              simp only [bind, Except.bind, pure, Except.pure, Except.ok.injEq] at h
              exact Or.inl (find2_some h)
          | some m' =>
              cases h
              exact Or.inr (hfind3 hthree)

end

/-! ## What is broadcast of a block -/

def Broadcast.corrections? : Broadcast → Option RTCMcorrections
  | .corrections rtcm => some rtcm
  | .routed _ _ => none

/-- The corrections among some broadcasts. -/
def corrections (broadcasts : List Broadcast) : List RTCMcorrections :=
  broadcasts.filterMap Broadcast.corrections?

@[simp] theorem corrections_append (broadcasts broadcasts' : List Broadcast) :
    corrections (broadcasts ++ broadcasts') = corrections broadcasts ++ corrections broadcasts' :=
  List.filterMap_append

section
variable {α : Type} {c : Codecs α}

variable (c) in
/-- The corrections some messages are broadcast as. -/
def sent (messages : List (TmxRtcmMessage α)) : List RTCMcorrections :=
  corrections (messages.filterMap (broadcastRTCMMessage c))

@[simp] theorem sent_append (messages messages' : List (TmxRtcmMessage α)) :
    sent c (messages ++ messages') = sent c messages ++ sent c messages' := by
  simp [sent]

/-- A message is broadcast if it has contents the encoder takes. -/
theorem broadcastRTCMMessage_eq (m : TmxRtcmMessage α) :
    broadcastRTCMMessage c m = ((getRtcmMessage c m).filter c.encodes).map .corrections := by
  rw [broadcastRTCMMessage]
  cases getRtcmMessage c m with
  | none => rfl
  | some rtcm => by_cases hencodes : c.encodes rtcm <;> simp [hencodes]

theorem sent_singleton (m : TmxRtcmMessage α) :
    sent c [m] = ((getRtcmMessage c m).filter c.encodes).toList := by
  rw [sent, corrections, List.filterMap_cons, broadcastRTCMMessage_eq]
  cases (getRtcmMessage c m).filter c.encodes with
  | none => rfl
  | some rtcm => rfl

theorem Delivers.getRtcmMessage_eq {m : TmxRtcmMessage α} {f : RawFrame} {contents : List UInt8}
    (h : Delivers c.toRtcm2Decoder m f contents) :
    getRtcmMessage c m = some ⟨.rtcmRev3, 0, contents⟩ := by
  obtain ⟨hversion, -, hcontents⟩ := h
  cases m with
  | rtcm2 m => cases hversion
  | rtcm3 m =>
      have hcontents : m.getContents = some contents := hcontents
      rw [getRtcmMessage, hcontents]
      rfl
  | antenna m =>
      have hcontents : m.getContents = some contents := hcontents
      rw [getRtcmMessage, hcontents]
      rfl

theorem Delivers.rev3Bytes_sent_le {m : TmxRtcmMessage α} {f : RawFrame} {contents : List UInt8}
    (h : Delivers c.toRtcm2Decoder m f contents) : rev3Bytes (sent c [m]) ≤ f.bytes.length := by
  rw [sent_singleton, h.getRtcmMessage_eq, ← h.length_contents, Option.filter]
  split <;> simp [rev3Bytes]

theorem rev3Bytes_sent_rtcm2 (m : α) : rev3Bytes (sent c [.rtcm2 m]) = 0 := by
  rw [sent_singleton, getRtcmMessage]
  cases c.getContents m with
  | none => rfl
  | some contents =>
      rw [Option.map_some, Option.filter]
      split <;> rfl

/-- The messages filled in from a block, with what is left of it, have no more bytes than it. -/
def FitsIn (c : Codecs α) (block : List UInt8) (s : Filling α) : Prop :=
  s.copy <:+ block ∧ rev3Bytes (sent c s.messages) + s.copy.length ≤ block.length

theorem fillRound_fitsIn {block : List UInt8} (hclear : NeverRejects block) {fuel : Nat}
    {s s' : Filling α} (hs : FitsIn c block s)
    (h : fillRound c.toRtcm2Decoder fuel s = .again s') : FitsIn c block s' := by
  obtain ⟨hsuffix, hle⟩ := hs
  rcases fillRound_again c.toRtcm2Decoder h with rfl | ⟨m, ptr, hfind, hretype, rfl⟩
  · exact ⟨List.nil_suffix, (Nat.le_add_right _ _).trans hle⟩
  · refine ⟨(List.drop_suffix _ _).trans hsuffix, ?_⟩
    rw [sent_append, rev3Bytes_append, List.length_drop]
    rcases find_some hfind with ⟨m', rfl⟩ | ⟨m', rfl, hdecode, hvalid⟩
    · -- an RTCM 2 message is not counted
      have hptr : ptr = .rtcm2 (c.retype m') := (Except.ok.inj hretype).symm
      rw [hptr, rev3Bytes_sent_rtcm2]
      omega
    · obtain ⟨fuel, rfl⟩ : ∃ fuel', fuel = fuel' + 1 := by
        cases fuel with
        | zero => cases hdecode
        | succ fuel => exact ⟨fuel, rfl⟩
      have hcontents : Rtcm3Message.setContents (fuel + 1) {} s.copy = some m' := by
        rw [decode] at hdecode
        split at hdecode
        · cases hdecode
        · rename_i hcontents
          cases hdecode
          exact hcontents
      obtain ⟨garbage, f, rest, hcopy, -, hattrs, rfl⟩ :=
        Rtcm3Message.exists_frame_of_setContents hcontents hvalid (hclear _ hsuffix)
      obtain ⟨contents, hdelivers⟩ := delivers_of_retype hattrs hretype
      have hbytes := hdelivers.rev3Bytes_sent_le
      have hlength : f.bytes.length ≤ s.copy.length := by
        rw [hcopy, List.length_append, List.length_append]
        omega
      rw [hdelivers.size, if_pos hlength]
      omega

theorem rev3Bytes_sent_block {block : List UInt8} (hclear : NeverRejects block) {fuel : Nat}
    {subtype : String} {e : TmxRtcmEncodedMessage α}
    (h : getContainer c.toRtcm2Decoder fuel { subtype := subtype, payload := block } = .ok e) :
    rev3Bytes (sent c e.myMessages) ≤ block.length := by
  obtain ⟨s, hloop, hmine⟩ := exists_loop_of_getContainer c.toRtcm2Decoder rfl h
  have hfits := loop_invariant (I := FitsIn c block)
    (Q := fun r => ∀ t, r = .ok t → FitsIn c block t)
    (fun t t' ht hround => fillRound_fitsIn hclear ht hround)
    (fun t r ht hround t' hr => by
      subst hr
      rwa [fillRound_done c.toRtcm2Decoder hround])
    ⟨List.suffix_refl _, by simp [start, sent, corrections, rev3Bytes]⟩ hloop s rfl
  rw [hmine]
  exact (Nat.le_add_right _ _).trans hfits.2

/-- A block of a version that is known to be RTCM 2 has no RTCM 3 messages. -/
theorem rev3Bytes_sent_of_rtcm2 {fuel : Nat} {e e' : TmxRtcmEncodedMessage α}
    (hfirst : e.myMessages = []) (hversion : RtcmVersion.ofName e.subtype = .sc10402_3)
    (h : getContainer c.toRtcm2Decoder fuel e = .ok e') : rev3Bytes (sent c e'.myMessages) = 0 := by
  obtain ⟨s, hloop, hmine⟩ := exists_loop_of_getContainer c.toRtcm2Decoder hfirst h
  have hnone := loop_invariant
    (I := fun t => t.version = .sc10402_3 ∧ rev3Bytes (sent c t.messages) = 0)
    (Q := fun r => ∀ t, r = .ok t → rev3Bytes (sent c t.messages) = 0)
    (fun t t' ht hround => by
      rcases fillRound_again c.toRtcm2Decoder hround with rfl | ⟨m, ptr, hfind, hretype, rfl⟩
      · exact ht
      · rw [ht.1] at hfind
        obtain ⟨m', rfl⟩ := find2_some (Except.ok.inj hfind)
        have hptr : ptr = .rtcm2 (c.retype m') := (Except.ok.inj hretype).symm
        refine ⟨rfl, ?_⟩
        rw [sent_append, rev3Bytes_append, ht.2, hptr, rev3Bytes_sent_rtcm2])
    (fun t r ht hround t' hr => by
      subst hr
      rw [fillRound_done c.toRtcm2Decoder hround]
      exact ht.2)
    ⟨hversion, rfl⟩ hloop s rfl
  rw [hmine, hnone]

/-- Only what the encoder takes is broadcast. -/
theorem encodes_of_mem_sent {messages : List (TmxRtcmMessage α)} {rtcm : RTCMcorrections}
    (h : rtcm ∈ sent c messages) : c.encodes rtcm := by
  induction messages with
  | nil => cases h
  | cons m messages ih =>
      rw [← List.singleton_append, sent_append, List.mem_append, sent_singleton,
        Option.mem_toList] at h
      rcases h with h | h
      · exact (Option.filter_eq_some_iff.mp h).2
      · exact ih h

/-! ## From the blocks to `Main` -/

namespace RtcmPlugin

variable {p : RtcmPlugin} {fuel : Nat} {block : List UInt8} {blocks : List (List UInt8)}

theorem receive_eq_ok {broadcasts : List Broadcast} (h : p.receive c fuel block = .ok broadcasts) :
    ∃ e, getContainer c.toRtcm2Decoder fuel { subtype := p.version, payload := block } = .ok e ∧
      corrections broadcasts = sent c e.myMessages := by
  rw [receive] at h
  cases he : getContainer c.toRtcm2Decoder fuel { subtype := p.version, payload := block } with
  | error failure =>
      rw [he] at h
      cases h
  | ok e =>
      rw [he] at h
      cases h
      refine ⟨e, rfl, ?_⟩
      rw [corrections_append]
      split <;> simp [sent, corrections, Broadcast.corrections?]

/-- **Over all blocks**: what holds of the corrections of every block holds of those of `Main`. -/
theorem main_induction {motive : List (List UInt8) → List RTCMcorrections → Prop}
    (nil : motive [] []) (ended : ∀ block blocks, motive (block :: blocks) [])
    (cons : ∀ block blocks broadcasts later, p.receive c fuel block = .ok broadcasts →
      motive blocks later → motive (block :: blocks) (corrections broadcasts ++ later))
    (blocks : List (List UInt8)) : motive blocks (corrections (p.main c fuel blocks).1) := by
  induction blocks with
  | nil => exact nil
  | cons block blocks ih =>
      rw [main]
      cases hreceive : p.receive c fuel block with
      | error failure => exact ended block blocks
      | ok broadcasts =>
          simp only [corrections_append]
          exact cons block blocks broadcasts _ hreceive ih

theorem rev3Bytes_main_le (hclear : ∀ block ∈ blocks, NeverRejects block) :
    rev3Bytes (corrections (p.main c fuel blocks).1) ≤ blocks.flatten.length := by
  revert hclear
  refine main_induction (motive := fun blocks sent => (∀ block ∈ blocks, NeverRejects block) →
    rev3Bytes sent ≤ blocks.flatten.length) ?_ ?_ ?_ blocks
  · exact fun _ => Nat.le_refl _
  · exact fun _ _ _ => Nat.zero_le _
  · intro block blocks broadcasts later hreceive ih hclear
    obtain ⟨hblock, hclear⟩ := List.forall_mem_cons.mp hclear
    obtain ⟨e, he, hsent⟩ := receive_eq_ok hreceive
    have hle := rev3Bytes_sent_block hblock he
    rw [rev3Bytes_append, hsent, List.flatten_cons, List.length_append]
    exact Nat.add_le_add hle (ih hclear)

theorem rev3Bytes_main_of_rtcm2 (hversion : RtcmVersion.ofName p.version = .sc10402_3) :
    rev3Bytes (corrections (p.main c fuel blocks).1) = 0 := by
  refine main_induction (motive := fun _ sent => rev3Bytes sent = 0) rfl (fun _ _ => rfl) ?_ blocks
  intro block blocks broadcasts later hreceive ih
  obtain ⟨e, he, hsent⟩ := receive_eq_ok hreceive
  rw [rev3Bytes_append, hsent, ih, rev3Bytes_sent_of_rtcm2 rfl hversion he]

theorem encodes_of_mem_main {rtcm : RTCMcorrections}
    (h : rtcm ∈ corrections (p.main c fuel blocks).1) : c.encodes rtcm := by
  revert h
  refine main_induction (motive := fun _ sent => rtcm ∈ sent → c.encodes rtcm) (fun h => nomatch h)
    (fun _ _ h => nomatch h) ?_ blocks
  intro block blocks broadcasts later hreceive ih h
  obtain ⟨e, he, hsent⟩ := receive_eq_ok hreceive
  rw [hsent, List.mem_append] at h
  exact h.elim encodes_of_mem_sent ih

end RtcmPlugin

/-! ## Streams in blocks -/

def frameStream (frames : List Frame) : List UInt8 := streamOf (frames.map Frame.raw)

/-- Blocks as they are received: a stream, cut into pieces of 1 to 4000 bytes. -/
structure IsSplit (blocks : List (List UInt8)) (bytes : List UInt8) : Prop where
  flatten_eq : blocks.flatten = bytes
  length_bounds : ∀ block ∈ blocks, 1 ≤ block.length ∧ block.length ≤ 4000

/-- A stream cut between its frames: every block consists of some of them. -/
def Aligned (blocks : List (List UInt8)) (frames : List Frame) : Prop :=
  ∃ groups : List (List Frame), groups.flatten = frames ∧ blocks = groups.map frameStream

def Frame.corrections (f : Frame) : RTCMcorrections := ⟨.rtcmRev3, 0, f.bytes⟩

/-- `Main` broadcasts one RTCM message for each frame, in order. -/
def BroadcastsFrames (c : Codecs α) (p : RtcmPlugin) (blocks : List (List UInt8))
    (frames : List Frame) : Prop :=
  ∃ rounds, ∀ fuel, rounds ≤ fuel →
    corrections (p.main c fuel blocks).1 = frames.map Frame.corrections

/-- What the plugin relies on. -/
structure Receivable (c : Codecs α) (p : RtcmPlugin) (blocks : List (List UInt8))
    (frames : List Frame) : Prop where
  aligned : Aligned blocks frames
  version_ne : frames ≠ [] → RtcmVersion.ofName p.version ≠ .sc10402_3
  encodes : ∀ f ∈ frames, c.encodes f.corrections

theorem rev3Bytes_corrections (frames : List Frame) :
    rev3Bytes (frames.map Frame.corrections) = (frameStream frames).length := by
  induction frames with
  | nil => rfl
  | cons f frames ih =>
      rw [List.map_cons, ← List.singleton_append, rev3Bytes_append, ih, frameStream, frameStream,
        List.map_cons, streamOf_cons, List.length_append]
      simp [rev3Bytes, Frame.corrections]

theorem frameStream_ne_nil {frames : List Frame} (h : frames ≠ []) : frameStream frames ≠ [] := by
  cases frames with
  | nil => exact absurd rfl h
  | cons f frames =>
      intro hnil
      have hlength := congrArg List.length hnil
      rw [frameStream, List.map_cons, streamOf_cons, List.length_append, f.raw_bytes,
        f.length_bytes, headerBytes, List.length_nil] at hlength
      omega

variable {p : RtcmPlugin} {blocks : List (List UInt8)} {frames : List Frame}

/-- **Cut elsewhere, something is missing**: all bytes of the stream are accounted for only if those
of every block are. -/
theorem aligned_of_corrections {fuel : Nat} (hclear : ∀ block ∈ blocks, NeverRejects block)
    (hsplit : IsSplit blocks (frameStream frames))
    (h : corrections (p.main c fuel blocks).1 = frames.map Frame.corrections) :
    Aligned blocks frames := by
  induction blocks generalizing frames with
  | nil =>
      obtain rfl : frames = [] := List.map_eq_nil_iff.mp h.symm
      exact ⟨[], rfl, rfl⟩
  | cons block blocks ih =>
      obtain ⟨hblock, hblocks⟩ := List.forall_mem_cons.mp hclear
      obtain ⟨hbounds, hlengths⟩ := List.forall_mem_cons.mp hsplit.length_bounds
      have hflat := hsplit.flatten_eq
      rw [List.flatten_cons] at hflat
      rw [RtcmPlugin.main] at h
      cases hreceive : p.receive c fuel block with
      | error failure =>
          rw [hreceive] at h
          obtain rfl : frames = [] := List.map_eq_nil_iff.mp h.symm
          have hlength := congrArg List.length hflat
          rw [List.length_append] at hlength
          change _ = 0 at hlength
          omega
      | ok broadcasts =>
          rw [hreceive] at h
          simp only [corrections_append] at h
          obtain ⟨now, later, rfl, hnow, hlater⟩ := List.append_eq_map_iff.mp h
          obtain ⟨e, he, hsent⟩ := RtcmPlugin.receive_eq_ok hreceive
          -- neither the first block nor the others can give more bytes of messages than they have
          have hle := rev3Bytes_sent_block hblock he
          have hle' : rev3Bytes (corrections (p.main c fuel blocks).1) ≤ blocks.flatten.length :=
            RtcmPlugin.rev3Bytes_main_le hblocks
          rw [← hsent, ← hnow, rev3Bytes_corrections] at hle
          rw [← hlater, rev3Bytes_corrections] at hle'
          have hstream : frameStream (now ++ later) = frameStream now ++ frameStream later := by
            simp [frameStream]
          rw [hstream] at hflat
          have hlength := congrArg List.length hflat
          rw [List.length_append, List.length_append] at hlength
          obtain ⟨rfl, hflat'⟩ := List.append_inj hflat (by omega)
          obtain ⟨groups, rfl, rfl⟩ := ih hblocks ⟨hflat', hlengths⟩ hlater.symm
          exact ⟨now :: groups, rfl, rfl⟩

theorem sent_of_deliversAll {messages : List (TmxRtcmMessage α)}
    (h : DeliversAll c.toRtcm2Decoder messages (frames.map Frame.raw))
    (hencodes : ∀ f ∈ frames, c.encodes f.corrections) :
    sent c messages = frames.map Frame.corrections := by
  induction frames generalizing messages with
  | nil =>
      cases h
      rfl
  | cons f frames ih =>
      obtain ⟨hf, hframes⟩ := List.forall_mem_cons.mp hencodes
      obtain _ | ⟨hdelivers, hall⟩ := h
      rename_i m messages
      have hsingle : sent c [m] = [f.corrections] := by
        rw [sent_singleton, hdelivers.getRtcmMessage_eq]
        exact congrArg Option.toList (Option.filter_some_pos hf)
      rw [← List.singleton_append, sent_append, hsingle, ih hall hframes]
      rfl

/-- **A block of frames** is broadcast frame by frame. -/
theorem receive_frames (hversion : RtcmVersion.ofName p.version ≠ .sc10402_3)
    (hencodes : ∀ f ∈ frames, c.encodes f.corrections) {fuel : Nat}
    (hfuel : frames.length + 2 ≤ fuel) :
    ∃ broadcasts, p.receive c fuel (frameStream frames) = .ok broadcasts ∧
      corrections broadcasts = frames.map Frame.corrections := by
  obtain ⟨rounds, rfl⟩ : ∃ rounds, fuel = rounds + 1 + frames.length + 1 :=
    ⟨fuel - frames.length - 2, by omega⟩
  have hintact : ∀ f ∈ frames.map Frame.raw, f.HasAttrs ∧ f.Intact := by
    intro f hf
    obtain ⟨g, -, rfl⟩ := List.mem_map.mp hf
    exact ⟨g.raw_hasAttrs, g.raw_intact⟩
  obtain ⟨s, messages, hloop, hrest, -, hmessages, hall⟩ :=
    loop_intact c.toRtcm2Decoder hintact
      (s := start { subtype := p.version, payload := frameStream frames })
      (List.append_nil _).symm hversion (rounds + 1 + frames.length)
  have hdone : fillRound c.toRtcm2Decoder (rounds + 1 + frames.length + 1) s = .done (.ok s) := by
    rw [fillRound, if_pos (by simp [hrest])]
  have hrun := hloop (rounds + 1 + 1)
  rw [loop_done hdone, List.length_map] at hrun
  have hfuel' : rounds + 1 + 1 + frames.length = rounds + 1 + frames.length + 1 := by omega
  rw [hfuel'] at hrun
  obtain ⟨e, he, hmine⟩ := getContainer_eq_ok c.toRtcm2Decoder rfl hrun
  obtain ⟨broadcasts, hreceive⟩ : ∃ broadcasts, p.receive c (rounds + 1 + frames.length + 1)
      (frameStream frames) = .ok broadcasts := by
    rw [RtcmPlugin.receive, he]
    exact ⟨_, rfl⟩
  refine ⟨broadcasts, hreceive, ?_⟩
  obtain ⟨e', he', hsent⟩ := RtcmPlugin.receive_eq_ok hreceive
  obtain rfl : e = e' := Except.ok.inj (he.symm.trans he')
  rw [hsent, hmine, hmessages, ← sent_of_deliversAll hall hencodes]
  rfl

theorem main_frames (hversion : RtcmVersion.ofName p.version ≠ .sc10402_3)
    {groups : List (List Frame)} (hencodes : ∀ f ∈ groups.flatten, c.encodes f.corrections)
    {fuel : Nat} (hfuel : groups.flatten.length + 2 ≤ fuel) :
    corrections (p.main c fuel (groups.map frameStream)).1 =
      groups.flatten.map Frame.corrections := by
  induction groups with
  | nil => rfl
  | cons group groups ih =>
      rw [List.flatten_cons, List.length_append] at hfuel
      rw [List.flatten_cons, List.forall_mem_append] at hencodes
      obtain ⟨broadcasts, hreceive, hnow⟩ : ∃ broadcasts,
          p.receive c fuel (frameStream group) = .ok broadcasts ∧
            corrections broadcasts = group.map Frame.corrections :=
        receive_frames hversion hencodes.1 (by omega)
      have hlater := ih hencodes.2 (by omega)
      rw [List.map_cons, RtcmPlugin.main, hreceive]
      simp only [corrections_append]
      rw [hnow, hlater, List.flatten_cons, List.map_append]

/-- **Cut between its frames**, a stream is broadcast frame by frame. -/
theorem broadcastsFrames_of_receivable (hsplit : IsSplit blocks (frameStream frames))
    (h : Receivable c p blocks frames) : BroadcastsFrames c p blocks frames := by
  obtain ⟨⟨groups, rfl, rfl⟩, hversion, hencodes⟩ := h
  refine ⟨groups.flatten.length + 2, ?_⟩
  intro fuel hfuel
  by_cases hnil : groups.flatten = []
  · -- no block is without a frame, so there is no block
    have hgroups : groups = [] := by
      cases groups with
      | nil => rfl
      | cons group groups =>
          have hblock := (hsplit.length_bounds (frameStream group) List.mem_cons_self).1
          have hgroup : group = [] := (List.append_eq_nil_iff.mp hnil).1
          rw [hgroup] at hblock
          exact absurd hblock (by decide)
    rw [hgroups]
    rfl
  · exact main_frames (hversion hnil) hencodes hfuel

/-- Where no candidate is rejected, it is broadcast frame by frame only then. -/
theorem receivable_of_broadcastsFrames (hsplit : IsSplit blocks (frameStream frames))
    (hclear : ∀ block ∈ blocks, NeverRejects block) (h : BroadcastsFrames c p blocks frames) :
    Receivable c p blocks frames := by
  obtain ⟨rounds, hmain⟩ := h
  have hmain := hmain rounds (Nat.le_refl _)
  refine ⟨aligned_of_corrections hclear hsplit hmain, ?_, ?_⟩
  · intro hne hversion
    have hzero : rev3Bytes (corrections (p.main c rounds blocks).1) = 0 :=
      RtcmPlugin.rev3Bytes_main_of_rtcm2 hversion
    rw [hmain, rev3Bytes_corrections] at hzero
    exact frameStream_ne_nil hne (List.length_eq_zero_iff.mp hzero)
  · intro f hf
    have hmem : f.corrections ∈ corrections (p.main c rounds blocks).1 := by
      rw [hmain]
      exact List.mem_map_of_mem hf
    exact RtcmPlugin.encodes_of_mem_main hmem

/-- **Blocking**: for every stream of frames and every split of it, `Main` broadcasts one message
for each frame if the stream is cut between its frames, the configured version is not RTCM 2, and
the encoder takes the frames; and only then, unless the decoder rejects a candidate in a block. -/
theorem broadcastsFrames_split (c : Codecs α) (p : RtcmPlugin) (blocks : List (List UInt8))
    (frames : List Frame) (hsplit : IsSplit blocks (frameStream frames)) :
    (Receivable c p blocks frames → BroadcastsFrames c p blocks frames) ∧
      ((∀ block ∈ blocks, NeverRejects block) → BroadcastsFrames c p blocks frames →
        Receivable c p blocks frames) :=
  ⟨broadcastsFrames_of_receivable hsplit, receivable_of_broadcastsFrames hsplit⟩

end

/-! ## One frame in two blocks -/

/-- The RTCM 2 messages, and an encoder of messages of up to 1023 bytes. -/
def plainCodecs : Codecs Rtcm2Message where
  toRtcm2Decoder := rtcm2Decoder
  sequenceNumber m := m.sequenceNumber
  encodes rtcm := rtcm.message.length ≤ 1023

theorem isSplit_two_blocks :
    IsSplit [frameStream [stationFrame], frameStream [antennaFrame]]
      (frameStream [stationFrame, antennaFrame]) :=
  ⟨by decide +kernel, by decide +kernel⟩

theorem broadcastsFrames_split_two_blocks :
    BroadcastsFrames plainCodecs { version := "Unknown" }
      [frameStream [stationFrame], frameStream [antennaFrame]] [stationFrame, antennaFrame] :=
  (broadcastsFrames_split plainCodecs { version := "Unknown" } _ _ isSplit_two_blocks).1
    ⟨⟨[[stationFrame], [antennaFrame]], rfl, rfl⟩, fun _ => by decide, by decide +kernel⟩

/-- The station message, cut behind its fourth byte. -/
def cutFrame : List (List UInt8) := [stationFrame.bytes.take 4, stationFrame.bytes.drop 4]

theorem not_aligned_cutFrame : ¬ Aligned cutFrame [stationFrame] := by
  rintro ⟨groups, hflatten, hblocks⟩
  -- the first block has neither no byte nor all of them
  cases groups with
  | nil => cases hblocks
  | cons group groups =>
      have hblock : stationFrame.bytes.take 4 = frameStream group := (List.cons.inj hblocks).1
      rw [List.flatten_cons] at hflatten
      rcases List.append_eq_singleton_iff.mp hflatten with ⟨rfl, -⟩ | ⟨rfl, -⟩
      · exact absurd hblock (by decide +kernel)
      · exact absurd hblock (by decide +kernel)

theorem isSplit_cutFrame : IsSplit cutFrame (frameStream [stationFrame]) :=
  ⟨by decide +kernel, by decide +kernel⟩

theorem cut_frame_not_broadcast :
    IsSplit cutFrame (frameStream [stationFrame]) ∧
      ¬ BroadcastsFrames plainCodecs { version := "3.3" } cutFrame [stationFrame] := by
  refine ⟨isSplit_cutFrame, fun h => not_aligned_cutFrame ?_⟩
  exact (receivable_of_broadcastsFrames isSplit_cutFrame (by decide +kernel) h).aligned

end V2XHub.Rtcm
