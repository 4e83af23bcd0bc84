import V2XHub.Rtcm.Splitting
import V2XHub.Rtcm.Rtcm2Decoder

/-!
# Frames too short for a message

A frame with a payload of fewer than three bytes has a correct CRC and no message number. The
decoder finds it, cannot assign the leading attributes, and invalidates the message; `get_container`
takes that for the end of the stream and erases its whole copy. `returnsFrames_iff` says that the
frames of a stream come out exactly when no short frame stands in front of another one that is not
short, and every antenna descriptor among them is intact.

A version that is not known is tried as RTCM 2 after a short frame. Whatever that decoder finds, the
version is settled then, and no RTCM 3 message follows.
-/

namespace V2XHub.Rtcm

open Lib

section
variable {α : Type} (rtcm2 : Rtcm2Decoder α)

/-- The contents of the RTCM 3 messages among some messages. -/
def rtcm3Contents (messages : List (TmxRtcmMessage α)) : List (Option (List UInt8)) :=
  (messages.filter (·.version = .sc10403_3)).map (TmxRtcmMessage.getContents rtcm2)

@[simp] theorem rtcm3Contents_append (messages messages' : List (TmxRtcmMessage α)) :
    rtcm3Contents rtcm2 (messages ++ messages') =
      rtcm3Contents rtcm2 messages ++ rtcm3Contents rtcm2 messages' := by
  simp [rtcm3Contents]

@[simp] theorem rtcm3Contents_rtcm2 (m : α) : rtcm3Contents rtcm2 [.rtcm2 m] = [] := by
  simp [rtcm3Contents, TmxRtcmMessage.version]

theorem Delivers.rtcm3Contents_eq {m : TmxRtcmMessage α} {f : RawFrame} {contents : List UInt8}
    (h : Delivers rtcm2 m f contents) : rtcm3Contents rtcm2 [m] = [some contents] := by
  simp [rtcm3Contents, h.version, h.contents]

theorem DeliversAll.rtcm3Contents_eq {messages : List (TmxRtcmMessage α)} {frames : List RawFrame}
    (h : DeliversAll rtcm2 messages frames) :
    rtcm3Contents rtcm2 messages = frames.map (some ·.bytes) := by
  induction h with
  | nil => rfl
  | @cons m f messages frames hdelivers _ ih =>
      rw [← List.singleton_append, rtcm3Contents_append, hdelivers.rtcm3Contents_eq, ih]
      rfl

/-- `get_container` returns, and the contents of its RTCM 3 messages are the frames with the leading
attributes, each once and in order. -/
def ReturnsFrames (e : TmxRtcmEncodedMessage α) (frames : List RawFrame) : Prop :=
  ∃ rounds, ∀ fuel, rounds ≤ fuel → ∃ e', getContainer rtcm2 fuel e = .ok e' ∧
    rtcm3Contents rtcm2 e'.myMessages =
      (frames.filter (·.HasAttrs)).map (some ·.bytes)

/-- The short frames are the last ones, and those in front of them are intact. -/
def ShortLast (frames : List RawFrame) : Prop :=
  ∃ long short, frames = long ++ short ∧ (∀ f ∈ long, f.HasAttrs ∧ f.Intact) ∧
    ∀ f ∈ short, ¬ f.HasAttrs

/-- The first frame that is lost, or changed, or makes others disappear. -/
structure LosesAt (frames good : List RawFrame) (bad : RawFrame) (rest : List RawFrame) : Prop where
  split : frames = good ++ bad :: rest
  good_intact : ∀ f ∈ good, f.HasAttrs ∧ f.Intact
  bad_loses : (bad.HasAttrs ∧ ¬ bad.Intact) ∨ (¬ bad.HasAttrs ∧ ∃ f ∈ rest, f.HasAttrs)

theorem shortLast_or_losesAt (frames : List RawFrame) :
    ShortLast frames ∨ ∃ good bad rest, LosesAt frames good bad rest := by
  induction frames with
  | nil => exact Or.inl ⟨[], [], rfl, by simp, by simp⟩
  | cons f frames ih =>
      by_cases hattrs : f.HasAttrs
      · by_cases hintact : f.Intact
        · have hcons : ∀ frames' : List RawFrame, (∀ g ∈ frames', g.HasAttrs ∧ g.Intact) →
              ∀ g ∈ f :: frames', g.HasAttrs ∧ g.Intact :=
            fun _ h => List.forall_mem_cons.mpr ⟨⟨hattrs, hintact⟩, h⟩
          rcases ih with ⟨long, short, rfl, hlong, hshort⟩ | ⟨good, bad, rest, rfl, hgood, hbad⟩
          · exact Or.inl ⟨f :: long, short, rfl, hcons long hlong, hshort⟩
          · exact Or.inr ⟨f :: good, bad, rest, rfl, hcons good hgood, hbad⟩
        · exact Or.inr ⟨[], f, frames, rfl, by simp, Or.inl ⟨hattrs, hintact⟩⟩
      · by_cases hlater : ∃ g ∈ frames, g.HasAttrs
        · exact Or.inr ⟨[], f, frames, rfl, by simp, Or.inr ⟨hattrs, hlater⟩⟩
        · push Not at hlater
          exact Or.inl ⟨[], f :: frames, rfl, by simp, List.forall_mem_cons.mpr ⟨hattrs, hlater⟩⟩

/-! ## Runs of the filling loop -/

variable {rtcm2}

/-- A round that finds what the RTCM 2 decoder finds. -/
theorem fillRound_rtcm2 (hsize : ∀ m, 0 < rtcm2.size m) {s : Filling α} {fuel : Nat}
    (hnonempty : ¬ s.copy.isEmpty)
    (hfind : find rtcm2 fuel s.copy s.version = .ok (find2 rtcm2 s.copy)) :
    ∃ s', fillRound rtcm2 fuel s = .again s' ∧ (s'.copy = [] ∨ s'.version = .sc10402_3) ∧
      s'.copy.length < s.copy.length ∧
      rtcm3Contents rtcm2 s'.messages = rtcm3Contents rtcm2 s.messages := by
  have hpos : 0 < s.copy.length := by
    rw [List.isEmpty_iff] at hnonempty
    exact List.length_pos_iff.mpr hnonempty
  by_cases hvalid : rtcm2.isValid (rtcm2.setContents s.copy)
  · have hfind2 : find2 rtcm2 s.copy = some (.rtcm2 (rtcm2.setContents s.copy)) := by
      simp only [find2]
      rw [if_pos hvalid]
    rw [hfind2] at hfind
    refine ⟨_, by rw [fillRound, if_neg hnonempty, fillOnce, hfind]; rfl, Or.inr rfl, ?_, ?_⟩
    · have hpos' := hsize (rtcm2.retype (rtcm2.setContents s.copy))
      simp only [TmxRtcmMessage.size, List.length_drop]
      grind
    · rw [rtcm3Contents_append, rtcm3Contents_rtcm2, List.append_nil]
  · have hfind2 : find2 rtcm2 s.copy = none := by
      simp only [find2]
      rw [if_neg hvalid]
    rw [hfind2] at hfind
    exact ⟨_, fillRound_of_find rtcm2 hnonempty hfind, Or.inl rfl, hpos, rfl⟩

variable (rtcm2) in
/-- The states from which no RTCM 3 message is found any more. -/
def Settled (contents : List (Option (List UInt8))) (s : Filling α) : Prop :=
  (s.copy = [] ∨ s.version = .sc10402_3) ∧ rtcm3Contents rtcm2 s.messages = contents

theorem fillRound_settled (hsize : ∀ m, 0 < rtcm2.size m)
    {contents : List (Option (List UInt8))} {s : Filling α}
    (hs : Settled rtcm2 contents s) (fuel : Nat) :
    fillRound rtcm2 fuel s = .done (.ok s) ∨
      ∃ s', fillRound rtcm2 fuel s = .again s' ∧ Settled rtcm2 contents s' ∧
        s'.copy.length < s.copy.length := by
  obtain ⟨hcopy, hcontents⟩ := hs
  by_cases hempty : s.copy.isEmpty
  · exact Or.inl (by rw [fillRound, if_pos hempty])
  · have hversion : s.version = .sc10402_3 := by
      rcases hcopy with hcopy | hversion
      · exact absurd (List.isEmpty_iff.mpr hcopy) hempty
      · exact hversion
    have hfind : find rtcm2 fuel s.copy s.version = .ok (find2 rtcm2 s.copy) := by
      rw [hversion]
      rfl
    obtain ⟨s', hround, hcopy', hlt, hcontents'⟩ := fillRound_rtcm2 hsize hempty hfind
    exact Or.inr ⟨s', hround, ⟨hcopy', hcontents'.trans hcontents⟩, hlt⟩

/-- **Once settled**, the loop returns and finds no RTCM 3 message. -/
theorem loop_settled (hsize : ∀ m, 0 < rtcm2.size m) {contents : List (Option (List UInt8))}
    {s : Filling α} (hs : Settled rtcm2 contents s) (fuel : Nat) {rounds : Nat}
    (hrounds : s.copy.length < rounds) :
    ∃ s', loop (fillRound rtcm2 fuel) rounds s = some (.ok s') ∧
      rtcm3Contents rtcm2 s'.messages = contents := by
  have hagain : ∀ s s', Settled rtcm2 contents s → fillRound rtcm2 fuel s = .again s' →
      Settled rtcm2 contents s' ∧ s'.copy.length < s.copy.length := by
    intro s s' hs hround
    rcases fillRound_settled hsize hs fuel with hdone | ⟨t, ht, hsettled, hlt⟩
    · rw [hdone] at hround
      cases hround
    · obtain rfl : t = s' := by simpa [ht] using hround
      exact ⟨hsettled, hlt⟩
  have hdone : ∀ s r, Settled rtcm2 contents s → fillRound rtcm2 fuel s = .done r →
      ∃ s', r = .ok s' ∧ rtcm3Contents rtcm2 s'.messages = contents := by
    intro s r hs hround
    rcases fillRound_settled hsize hs fuel with hdone | ⟨t, ht, -⟩
    · obtain rfl : Except.ok s = r := by simpa [hdone] using hround
      exact ⟨s, rfl, hs.2⟩
    · rw [ht] at hround
      cases hround
  obtain ⟨r, hr⟩ := loop_returns (fun s : Filling α => s.copy.length) hagain hs hrounds
  obtain ⟨s', rfl, hcontents⟩ := loop_invariant (fun s s' h h' => (hagain s s' h h').1) hdone hs hr
  exact ⟨s', hr, hcontents⟩

/-- **A short frame** in front settles the loop: what is behind it is not looked at as RTCM 3. -/
theorem loop_short (hsize : ∀ m, 0 < rtcm2.size m) {f : RawFrame} (hattrs : ¬ f.HasAttrs)
    {rest : List UInt8} {s : Filling α} (hcopy : s.copy = f.bytes ++ rest)
    (hversion : s.version ≠ .sc10402_3) (fuel : Nat) {rounds : Nat}
    (hrounds : s.copy.length < rounds) :
    ∃ s', loop (fillRound rtcm2 (fuel + 1)) rounds s = some (.ok s') ∧
      rtcm3Contents rtcm2 s'.messages = rtcm3Contents rtcm2 s.messages := by
  have hgarbage : s.copy = [] ++ (f.bytes ++ rest) := hcopy
  have hnonempty : ¬ s.copy.isEmpty := copy_nonempty rest hgarbage
  have hfind := find_of_not_find3 rtcm2 (find3_of_decode (decode_short f rest hattrs fuel)) hversion
  rw [← hcopy] at hfind
  have hround : ∃ s', fillRound rtcm2 (fuel + 1) s = .again s' ∧
      (s'.copy = [] ∨ s'.version = .sc10402_3) ∧ s'.copy.length < s.copy.length ∧
      rtcm3Contents rtcm2 s'.messages = rtcm3Contents rtcm2 s.messages := by
    split at hfind
    · exact fillRound_rtcm2 hsize hnonempty hfind
    · have hpos : 0 < s.copy.length := by
        rw [List.isEmpty_iff] at hnonempty
        exact List.length_pos_iff.mpr hnonempty
      exact ⟨_, fillRound_of_find rtcm2 hnonempty hfind, Or.inl rfl, hpos, rfl⟩
  obtain ⟨s', hagain, hsettled, hlt, hcontents⟩ := hround
  obtain ⟨rounds, rfl⟩ : ∃ rounds', rounds = rounds' + 1 := ⟨rounds - 1, by omega⟩
  rw [loop_again hagain]
  exact loop_settled hsize ⟨hsettled, hcontents⟩ _ (by omega)

/-! ## From the loop to the container -/

theorem filter_hasAttrs_of_forall {frames : List RawFrame} (h : ∀ f ∈ frames, f.HasAttrs) :
    frames.filter (·.HasAttrs) = frames :=
  List.filter_eq_self.mpr fun f hf => decide_eq_true (h f hf)

theorem filter_hasAttrs_of_forall_not {frames : List RawFrame} (h : ∀ f ∈ frames, ¬ f.HasAttrs) :
    frames.filter (·.HasAttrs) = [] :=
  List.filter_eq_nil_iff.mpr fun f hf => by simpa using h f hf

variable {e : TmxRtcmEncodedMessage α} {frames : List RawFrame}

/-- Messages stay in the container. -/
theorem fillRound_messages {fuel : Nat} {s s' : Filling α}
    (h : fillRound rtcm2 fuel s = .again s') : s.messages <+: s'.messages := by
  rcases fillRound_again rtcm2 h with rfl | ⟨m, ptr, -, -, rfl⟩
  · exact List.prefix_refl _
  · exact List.prefix_append _ _

theorem messages_prefix_of_loop {fuel rounds : Nat} {s s' : Filling α}
    (h : loop (fillRound rtcm2 fuel) rounds s = some (.ok s')) : s.messages <+: s'.messages := by
  have hprefix := loop_invariant (I := fun t => s.messages <+: t.messages)
    (Q := fun r => ∀ t, r = .ok t → s.messages <+: t.messages)
    (fun t t' ht hround => ht.trans (fillRound_messages hround))
    (fun t r ht hround t' hr => by
      subst hr
      rwa [fillRound_done rtcm2 hround])
    (List.prefix_refl _) h
  exact hprefix s' rfl

/-- **Short frames last**: all frames in front of them come out. -/
theorem returnsFrames_of_shortLast (hsize : ∀ m, 0 < rtcm2.size m) (hfirst : e.myMessages = [])
    (hpayload : e.payload = streamOf frames)
    (hversion : RtcmVersion.ofName e.subtype ≠ .sc10402_3) (h : ShortLast frames) :
    ReturnsFrames rtcm2 e frames := by
  obtain ⟨long, short, rfl, hlong, hshort⟩ := h
  refine ⟨long.length + e.payload.length + 1, ?_⟩
  intro fuel hfuel
  obtain ⟨fuel, rfl⟩ : ∃ fuel', fuel = fuel' + 1 := ⟨fuel - 1, by omega⟩
  have hcopy : (start e).copy = streamOf long ++ streamOf short := by
    simpa [start, streamOf] using hpayload
  obtain ⟨s, messages, hloop, hrest, hversion', hmessages, hall⟩ :=
    loop_intact rtcm2 hlong hcopy hversion fuel
  have hcontents : rtcm3Contents rtcm2 s.messages = long.map (some ·.bytes) := by
    rw [hmessages, ← hall.rtcm3Contents_eq]
    rfl
  -- the rounds left after the long frames add nothing
  have hend : ∃ s', loop (fillRound rtcm2 (fuel + 1)) (fuel + 1 - long.length) s = some (.ok s') ∧
      rtcm3Contents rtcm2 s'.messages = rtcm3Contents rtcm2 s.messages := by
    cases short with
    | nil => exact loop_settled hsize ⟨Or.inl hrest, rfl⟩ _ (by simp [hrest, streamOf]; omega)
    | cons f short =>
        have hlt : s.copy.length < fuel + 1 - long.length := by
          have := congrArg List.length hcopy
          rw [List.length_append] at this
          have hstart : (start e).copy.length = e.payload.length := rfl
          rw [hrest]
          omega
        exact loop_short hsize (hshort f List.mem_cons_self) hrest hversion' fuel hlt
  obtain ⟨s', hs', hsame⟩ := hend
  have hrun : loop (fillRound rtcm2 (fuel + 1)) (fuel + 1) (start e) = some (.ok s') := by
    rw [← hs', ← hloop]
    congr 1
    omega
  obtain ⟨e', he', hmine⟩ := getContainer_eq_ok rtcm2 hfirst hrun
  refine ⟨e', he', ?_⟩
  rw [hmine, hsame, hcontents, List.filter_append,
    filter_hasAttrs_of_forall fun f hf => (hlong f hf).1, filter_hasAttrs_of_forall_not hshort,
    List.append_nil]

/-! ## What is lost -/

section
variable {bad : RawFrame} {rest : List UInt8} {s s' : Filling α} {fuel rounds : Nat}

/-- After a frame that is not intact, the loop does not return, or has another message in its
place. -/
theorem changed_of_not_intact (hattrs : bad.HasAttrs) (hintact : ¬ bad.Intact)
    (hcopy : s.copy = bad.bytes ++ rest) (hversion : s.version ≠ .sc10402_3)
    (hloop : loop (fillRound rtcm2 (fuel + 1)) (rounds + 1) s = some (.ok s')) :
    ∃ contents later, contents ≠ bad.bytes ∧
      rtcm3Contents rtcm2 s'.messages =
        rtcm3Contents rtcm2 s.messages ++ some contents :: later := by
  have hgarbage : s.copy = [] ++ (bad.bytes ++ rest) := hcopy
  rcases retype_of_not_intact rtcm2 rest hattrs hintact fuel with
    ⟨failure, hretype⟩ | ⟨m, contents, hretype, hdelivers, hne⟩
  · have hround : fillRound rtcm2 (fuel + 1) s = .done (.error failure) := by
      have hfind : find rtcm2 (fuel + 1) s.copy s.version =
          .ok (some (.rtcm3 (bad.message rest))) := by
        rw [hcopy, ← List.nil_append (_ ++ _)]
        exact find_of_find3 rtcm2 (find3_frame rest hattrs List.not_mem_nil fuel) hversion
      rw [fillRound, if_neg (copy_nonempty rest hgarbage), fillOnce, hfind]
      simp only [bind, Except.bind, hretype]
    rw [loop_done hround] at hloop
    cases hloop
  · have hround := fillRound_of_retype rtcm2 rest hattrs hgarbage List.not_mem_nil
      hversion hretype hdelivers
    rw [loop_again hround] at hloop
    obtain ⟨later, hlater⟩ := messages_prefix_of_loop hloop
    refine ⟨contents, rtcm3Contents rtcm2 later, hne, ?_⟩
    rw [← hlater, rtcm3Contents_append, rtcm3Contents_append, hdelivers.rtcm3Contents_eq,
      List.append_assoc]
    rfl

end

/-- **Losing a frame**: a short frame in front of another, or an antenna descriptor that is not
intact. -/
theorem not_returnsFrames_of_losesAt (hsize : ∀ m, 0 < rtcm2.size m) (hfirst : e.myMessages = [])
    (hpayload : e.payload = streamOf frames)
    (hversion : RtcmVersion.ofName e.subtype ≠ .sc10402_3) {good rest : List RawFrame}
    {bad : RawFrame} (h : LosesAt frames good bad rest) : ¬ ReturnsFrames rtcm2 e frames := by
  obtain ⟨rfl, hgood, hbad⟩ := h
  rintro ⟨rounds, hreturns⟩
  obtain ⟨fuel, hfuel⟩ : ∃ fuel, fuel = rounds + good.length + e.payload.length := ⟨_, rfl⟩
  obtain ⟨e', he', hcontents⟩ := hreturns (fuel + 1) (by omega)
  obtain ⟨s', hrun, hmine⟩ := exists_loop_of_getContainer rtcm2 hfirst he'
  have hcopy : (start e).copy = streamOf good ++ (bad.bytes ++ streamOf rest) := by
    simpa [start, streamOf] using hpayload
  obtain ⟨s, messages, hloop, hrest, hversion', hmessages, hall⟩ :=
    loop_intact rtcm2 hgood hcopy hversion fuel
  have hgoods : rtcm3Contents rtcm2 s.messages = good.map (some ·.bytes) := by
    rw [hmessages, ← hall.rtcm3Contents_eq]
    rfl
  have hsplit : fuel + 1 = (rounds + e.payload.length + 1) + good.length := by omega
  have hrest_run : loop (fillRound rtcm2 (fuel + 1)) (rounds + e.payload.length + 1) s =
      some (.ok s') := by
    rw [← hloop, ← hsplit]
    exact hrun
  rw [hmine, List.filter_append, filter_hasAttrs_of_forall fun f hf => (hgood f hf).1,
    List.map_append] at hcontents
  -- a changed frame comes out in place of this one, or the loop stays at it and drops `f`
  rcases hbad with ⟨hattrs, hintact⟩ | ⟨hattrs, f, hf, hlong⟩
  · obtain ⟨contents, later, hne, hchanged⟩ :=
      changed_of_not_intact hattrs hintact hrest hversion' hrest_run
    rw [hchanged, hgoods, List.filter_cons_of_pos (by simpa using hattrs),
      List.map_cons] at hcontents
    have hcons := List.append_cancel_left hcontents
    rw [List.cons.injEq, Option.some.injEq] at hcons
    exact hne hcons.1
  · have hlt : s.copy.length < rounds + e.payload.length + 1 := by
      have hlength := congrArg List.length hcopy
      have hstart : (start e).copy.length = e.payload.length := rfl
      rw [List.length_append] at hlength
      rw [hrest]
      omega
    obtain ⟨t, ht, hsame⟩ := loop_short hsize hattrs hrest hversion' fuel hlt
    obtain rfl : t = s' := by simpa [ht] using hrest_run
    rw [hsame, hgoods] at hcontents
    have hnil := List.append_cancel_left ((List.append_nil _).trans hcontents)
    have hmem : f ∈ (bad :: rest).filter (·.HasAttrs) :=
      List.mem_filter.mpr ⟨List.mem_cons_of_mem _ hf, decide_eq_true hlong⟩
    rw [List.map_eq_nil_iff.mp hnil.symm] at hmem
    cases hmem

variable (rtcm2)

/-- **Resilience**: the frames of a stream with the leading attributes are returned exactly when the
frames without them come last, and every antenna descriptor is intact. -/
theorem returnsFrames_iff (hsize : ∀ m, 0 < rtcm2.size m) (hfirst : e.myMessages = [])
    (hpayload : e.payload = streamOf frames)
    (hversion : RtcmVersion.ofName e.subtype ≠ .sc10402_3) :
    ReturnsFrames rtcm2 e frames ↔ ShortLast frames := by
  constructor
  · intro hreturns
    rcases shortLast_or_losesAt frames with hlast | ⟨good, bad, rest, hloses⟩
    · exact hlast
    · exact absurd hreturns (not_returnsFrames_of_losesAt hsize hfirst hpayload hversion hloses)
  · exact returnsFrames_of_shortLast hsize hfirst hpayload hversion

end

/-! ## An empty frame in front of another -/

def emptyFrame : RawFrame where
  reserved := stationFrame.reserved
  payload := []
  reserved_lt := stationFrame.reserved_lt
  length_lt := Nat.two_pow_pos 10

theorem returnsFrames_iff_empty_last :
    ReturnsFrames rtcm2Decoder
      { subtype := "3.3", payload := streamOf [stationFrame.raw, emptyFrame] }
      [stationFrame.raw, emptyFrame] :=
  (returnsFrames_iff rtcm2Decoder Rtcm2Message.size_pos rfl rfl (by decide)).mpr
    ⟨[stationFrame.raw], [emptyFrame], rfl,
      by simpa using ⟨stationFrame.raw_hasAttrs, stationFrame.raw_intact⟩, by decide⟩

theorem empty_frame_hides_station :
    ¬ ReturnsFrames rtcm2Decoder
      { subtype := "3.3", payload := streamOf [emptyFrame, stationFrame.raw] }
      [emptyFrame, stationFrame.raw] := by
  have hloses : LosesAt [emptyFrame, stationFrame.raw] [] emptyFrame [stationFrame.raw] :=
    ⟨rfl, by simp, Or.inr ⟨by decide, stationFrame.raw, by simp, stationFrame.raw_hasAttrs⟩⟩
  exact not_returnsFrames_of_losesAt Rtcm2Message.size_pos rfl rfl (by decide) hloses

end V2XHub.Rtcm
