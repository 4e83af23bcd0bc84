import Mathlib.Data.List.Basic
import V2XHub.Lib.Loop

/-!
# Decompression

What the cloud sends is compressed. `UncompressBytes` calls `inflate` of zlib until it answers that
the stream has come to its end, and looks at no other answer: an error is taken for a call that is
to be made once more. zlib is a parameter here, with what its manual says of it (`Contract`).
-/

namespace V2XHub.CarmaCloud

open V2XHub.Lib

/-- The return codes of zlib. -/
inductive Code
  | ok
  | streamEnd
  | needDict
  | streamError
  | dataError
  | memError
  | bufError
  | versionError
  deriving DecidableEq, Repr

/-- What one call of `inflate` leaves behind. -/
structure Inflated (σ : Type) where
  code : Code
  /-- the bytes written to `next_out` -/
  output : List UInt8
  strm : σ

/-- The functions of zlib that are called. `σ` is the `z_stream` with the input that is left. -/
structure Zlib (σ : Type) where
  /-- with `MAX_WBITS + 32`: zlib and gzip headers are told apart -/
  inflateInit2 : List UInt8 → Except Code σ
  /-- with room for that many bytes, and `Z_NO_FLUSH` -/
  inflate : σ → Nat → Inflated σ
  availIn : σ → Nat

/-- `BUFFER_SIZE`. -/
def bufferSize : Nat := 4092

variable {σ : Type} {z : Zlib σ} {bytes : List UInt8}

structure UncompressState (σ : Type) where
  strm : σ
  outBuf : List UInt8 := []

/-- A round of the loop. -/
def inflateRound (z : Zlib σ) (s : UncompressState σ) :
    LoopStep (UncompressState σ) (List UInt8) :=
  let r := z.inflate s.strm bufferSize
  let outBuf := s.outBuf ++ r.output
  if r.code ≠ .streamEnd then .again { strm := r.strm, outBuf } else .done outBuf

/-- `UncompressBytes` returns `out`. Without a stream there is no loop. -/
def UncompressBytes (z : Zlib σ) (bytes out : List UInt8) : Prop :=
  match z.inflateInit2 bytes with
  | .error _ => out = []
  | .ok strm => ∃ fuel, loop (inflateRound z) fuel { strm } = some out

/-! ## What zlib promises -/

/-- A stream that calls of `inflate` have come to, none of which was the last, with what they have
written. -/
inductive Reached (z : Zlib σ) (bytes : List UInt8) : σ → List UInt8 → Prop
  | init {s : σ} : z.inflateInit2 bytes = .ok s → Reached z bytes s []
  | inflate {s : σ} {out : List UInt8} {availOut : Nat} : Reached z bytes s out → 0 < availOut →
      (z.inflate s availOut).code ≠ .streamEnd →
        Reached z bytes (z.inflate s availOut).strm (out ++ (z.inflate s availOut).output)

/-- The manual of zlib for a call of `inflate` that has room to write. `decompressed` is the format:
the data of the stream that the bytes begin with, if they begin with a whole one. -/
structure Contract (z : Zlib σ) (decompressed : List UInt8 → Option (List UInt8))
    (bytes : List UInt8) : Prop where
  /-- `Z_OK`: some progress has been made, more input processed or more output produced -/
  progress : ∀ s out availOut, Reached z bytes s out → 0 < availOut →
    (z.inflate s availOut).code = .ok →
      z.availIn (z.inflate s availOut).strm < z.availIn s ∨
        z.availIn (z.inflate s availOut).strm = z.availIn s ∧ (z.inflate s availOut).output ≠ []
  /-- `Z_STREAM_END`: the end of the compressed data has been reached and all output produced -/
  streamEnd : ∀ s out availOut, Reached z bytes s out → 0 < availOut →
    (z.inflate s availOut).code = .streamEnd →
      decompressed bytes = some (out ++ (z.inflate s availOut).output)
  /-- the other codes: the data is corrupt, not all there or in need of a dictionary (memory is not
  short, the stream is not tampered with) -/
  error : ∀ s out availOut, Reached z bytes s out → 0 < availOut →
    (z.inflate s availOut).code ≠ .ok → (z.inflate s availOut).code ≠ .streamEnd →
      decompressed bytes = none
  /-- what is written is the data from its beginning -/
  output : ∀ s out plain, Reached z bytes s out → decompressed bytes = some plain → out <+: plain

/-! ## When the loop ends -/

theorem bufferSize_pos : 0 < bufferSize := by decide

theorem inflateRound_eq_done {s : UncompressState σ} {out : List UInt8}
    (h : inflateRound z s = .done out) :
    (z.inflate s.strm bufferSize).code = .streamEnd ∧
      out = s.outBuf ++ (z.inflate s.strm bufferSize).output := by
  simp only [inflateRound] at h
  split_ifs at h with hcode
  · cases h
    exact ⟨not_not.mp hcode, rfl⟩

theorem inflateRound_eq_again {s s' : UncompressState σ} (h : inflateRound z s = .again s') :
    (z.inflate s.strm bufferSize).code ≠ .streamEnd ∧
      s' = ⟨(z.inflate s.strm bufferSize).strm,
        s.outBuf ++ (z.inflate s.strm bufferSize).output⟩ := by
  simp only [inflateRound] at h
  split_ifs at h with hcode
  · cases h
    exact ⟨hcode, rfl⟩

/-- The streams at the heads of the loop are among those that calls come to. -/
theorem Reached.again {s s' : UncompressState σ} (h : Reached z bytes s.strm s.outBuf)
    (hagain : inflateRound z s = .again s') : Reached z bytes s'.strm s'.outBuf := by
  obtain ⟨hcode, rfl⟩ := inflateRound_eq_again hagain
  exact h.inflate bufferSize_pos hcode

variable {decompressed : List UInt8 → Option (List UInt8)}

/-- **What is returned** is the data. -/
theorem loop_inflateRound_eq {s : UncompressState σ} {fuel : Nat} {out : List UInt8}
    (hz : Contract z decompressed bytes) (hs : Reached z bytes s.strm s.outBuf)
    (h : loop (inflateRound z) fuel s = some out) : decompressed bytes = some out := by
  refine loop_invariant (I := fun s => Reached z bytes s.strm s.outBuf)
    (Q := fun out => decompressed bytes = some out) ?_ ?_ hs h
  · intro s s' hs hagain
    exact hs.again hagain
  · intro s out hs hdone
    obtain ⟨hcode, rfl⟩ := inflateRound_eq_done hdone
    exact hz.streamEnd s.strm s.outBuf bufferSize hs bufferSize_pos hcode

/-- Input and output that are still to come. A round that does not end the stream lowers one of them
and raises none. -/
def toCome (z : Zlib σ) (plain : List UInt8) (s : UncompressState σ) : Nat :=
  z.availIn s.strm + (plain.length - s.outBuf.length)

theorem toCome_again {plain : List UInt8} {s s' : UncompressState σ}
    (hz : Contract z decompressed bytes) (hplain : decompressed bytes = some plain)
    (hs : Reached z bytes s.strm s.outBuf) (hagain : inflateRound z s = .again s') :
    toCome z plain s' < toCome z plain s := by
  have hs' := hs.again hagain
  obtain ⟨hend, rfl⟩ := inflateRound_eq_again hagain
  have hok : (z.inflate s.strm bufferSize).code = .ok := by
    by_contra hcode
    have hnone := hz.error s.strm s.outBuf bufferSize hs bufferSize_pos hcode hend
    rw [hplain] at hnone
    cases hnone
  have hroom : (s.outBuf ++ (z.inflate s.strm bufferSize).output).length ≤ plain.length :=
    (hz.output _ _ plain hs' hplain).length_le
  rw [List.length_append] at hroom
  simp only [toCome, List.length_append]
  rcases hz.progress s.strm s.outBuf bufferSize hs bufferSize_pos hok with hlt | ⟨heq, hne⟩
  · omega
  · have hpos := List.length_pos_iff.mpr hne
    omega

/-- **Whole streams are decompressed.** -/
theorem loop_inflateRound_returns {plain : List UInt8} {s : UncompressState σ}
    (hz : Contract z decompressed bytes) (hplain : decompressed bytes = some plain)
    (hs : Reached z bytes s.strm s.outBuf) :
    ∃ fuel out, loop (inflateRound z) fuel s = some out := by
  refine ⟨toCome z plain s + 1, ?_⟩
  refine loop_returns (I := fun s => Reached z bytes s.strm s.outBuf) (toCome z plain) ?_ hs
    (Nat.lt_succ_self _)
  intro s s' hs hagain
  exact ⟨hs.again hagain, toCome_again hz hplain hs hagain⟩

/-- **Decompression ends** exactly if the bytes begin with a whole stream, unless zlib refuses to
begin at all; and it then returns the data of the stream. -/
theorem uncompressBytes_ends_iff (z : Zlib σ) (decompressed : List UInt8 → Option (List UInt8))
    (bytes : List UInt8) (hz : Contract z decompressed bytes) :
    (∃ out, UncompressBytes z bytes out) ↔
      (∃ e, z.inflateInit2 bytes = .error e) ∨ ∃ plain, decompressed bytes = some plain := by
  unfold UncompressBytes
  cases hinit : z.inflateInit2 bytes with
  | error e => exact iff_of_true ⟨[], rfl⟩ (.inl ⟨e, rfl⟩)
  | ok strm =>
      have hstart : Reached z bytes strm [] := .init hinit
      constructor
      · rintro ⟨out, fuel, hloop⟩
        exact .inr ⟨out, loop_inflateRound_eq (s := { strm }) hz hstart hloop⟩
      · rintro (⟨e, he⟩ | ⟨plain, hplain⟩)
        · cases he
        · obtain ⟨fuel, out, hloop⟩ :=
            loop_inflateRound_returns (s := { strm }) hz hplain hstart
          exact ⟨out, fuel, hloop⟩

/-! ## A stream that is known -/

/-- A stream, byte by byte, each with the byte of data that it stands for, if any. -/
abbrev Stored := List (UInt8 × Option UInt8)

namespace Stored

def compressed (stream : Stored) : List UInt8 := stream.map Prod.fst

def data (stream : Stored) : List UInt8 := stream.filterMap Prod.snd

theorem compressed_append (stream stream' : Stored) :
    compressed (stream ++ stream') = stream.compressed ++ stream'.compressed := List.map_append

theorem data_append (stream stream' : Stored) :
    data (stream ++ stream') = stream.data ++ stream'.data := List.filterMap_append

/-- Data as it is, behind headers and before a checksum. -/
def around (headers plain checksum : List UInt8) : Stored :=
  headers.map (·, none) ++ plain.map (fun b => (b, some b)) ++ checksum.map (·, none)

theorem data_around (headers plain checksum : List UInt8) :
    (around headers plain checksum).data = plain := by
  have hnone (bs : List UInt8) : data (bs.map (·, none)) = [] := by
    simp [data]
  have hplain : data (plain.map fun b => (b, some b)) = plain := by
    simp [data]
  rw [around, data_append, data_append, hnone, hnone, hplain, List.nil_append, List.append_nil]

/-- What reading on leaves. -/
structure ReadOn where
  expected : Stored
  input : List UInt8
  output : List UInt8

/-- Read on as long as the input is what is expected and there is room for the data. -/
def readOn : Stored → List UInt8 → Nat → ReadOn
  | (e, d) :: es, b :: bs, room =>
      if e = b ∧ d.toList.length ≤ room then
        let r := readOn es bs (room - d.toList.length)
        { r with output := d.toList ++ r.output }
      else ⟨(e, d) :: es, b :: bs, []⟩
  | es, bs, _ => ⟨es, bs, []⟩

/-- As much of zlib as can read the stream. The state has what is still expected, and the input. -/
def zlib (stream : Stored) : Zlib (Stored × List UInt8) where
  inflateInit2 bytes := .ok (stream, bytes)
  inflate s availOut :=
    let r := readOn s.1 s.2 availOut
    { code :=
        if r.expected = [] then .streamEnd
        else if r.input.length < s.2.length then .ok
        else if r.input = [] then .bufError
        else .dataError
      output := r.output
      strm := (r.expected, r.input) }
  availIn s := s.2.length

def decompress (stream : Stored) (bytes : List UInt8) : Option (List UInt8) :=
  if stream.compressed <+: bytes then some stream.data else none

/-- Bytes are read that are expected, and their data written. With room, reading begins unless the
input is something else. -/
theorem readOn_spec (es : Stored) (bs : List UInt8) (room : Nat) :
    ∃ read : Stored, es = read ++ (readOn es bs room).expected ∧
      bs = read.compressed ++ (readOn es bs room).input ∧ (readOn es bs room).output = read.data ∧
      (read = [] → 0 < room → es ≠ [] → ¬ es.compressed <+: bs) := by
  fun_induction readOn es bs room with
  | case1 e d es b bs room hread r ih =>
      obtain ⟨rfl, hroom⟩ := hread
      obtain ⟨read, hes, hbs, houtput, -⟩ := ih
      refine ⟨(e, d) :: read, ?_, ?_, ?_, nofun⟩
      · rw [List.cons_append, ← hes]
      · show e :: bs = e :: (read.compressed ++ r.input)
        rw [← hbs]
      · show d.toList ++ r.output = _
        rw [houtput]
        cases d <;> rfl
  | case2 e d es b bs room hstop =>
      refine ⟨[], rfl, rfl, rfl, ?_⟩
      intro _ hroom _ hbehind
      have hlength : d.toList.length ≤ room := by
        cases d with
        | none => exact Nat.zero_le _
        | some d => exact hroom
      exact hstop ⟨(List.cons_prefix_cons.mp hbehind).1, hlength⟩
  | case3 es bs room hcons =>
      refine ⟨[], rfl, rfl, rfl, ?_⟩
      intro _ _ hne hbehind
      cases es with
      | nil => exact hne rfl
      | cons e es =>
          cases bs with
          | nil => exact absurd hbehind (by simp [compressed])
          | cons b bs => exact hcons e.1 e.2 es b bs rfl rfl

variable {stream : Stored} {s : Stored × List UInt8} {out : List UInt8}

/-- Where calls have come to: what is gone from the input is gone from what is expected, and its
data is written. -/
theorem reached_zlib (h : Reached stream.zlib bytes s out) :
    ∃ gone : Stored, stream = gone ++ s.1 ∧ bytes = gone.compressed ++ s.2 ∧ out = gone.data := by
  induction h with
  | init hinit =>
      cases hinit
      exact ⟨[], rfl, rfl, rfl⟩
  | @inflate s out availOut _ _ _ ih =>
      obtain ⟨gone, hexpected, hbytes, rfl⟩ := ih
      obtain ⟨read, hread, hinput, houtput, -⟩ := readOn_spec s.1 s.2 availOut
      refine ⟨gone ++ read, ?_, ?_, ?_⟩
      · rw [List.append_assoc]
        exact hexpected.trans (congrArg (gone ++ ·) hread)
      · rw [compressed_append, List.append_assoc]
        exact hbytes.trans (congrArg (gone.compressed ++ ·) hinput)
      · rw [data_append]
        exact congrArg (gone.data ++ ·) houtput

/-- Whether the input begins with the stream is decided by what is left of both. -/
theorem compressed_prefix_iff (h : Reached stream.zlib bytes s out) :
    stream.compressed <+: bytes ↔ s.1.compressed <+: s.2 := by
  obtain ⟨gone, hexpected, hbytes, -⟩ := reached_zlib h
  rw [hexpected, hbytes, compressed_append]
  exact List.prefix_append_right_inj gone.compressed

theorem contract_zlib (stream : Stored) (bytes : List UInt8) :
    Contract stream.zlib stream.decompress bytes := by
  constructor
  · intro s out availOut hs hpos hok
    left
    show (readOn s.1 s.2 availOut).input.length < s.2.length
    by_contra hge
    simp only [zlib, if_neg hge] at hok
    split_ifs at hok
  · intro s out availOut hs hpos hend
    have hdone : (readOn s.1 s.2 availOut).expected = [] := by
      by_contra hne
      simp only [zlib, if_neg hne] at hend
      split_ifs at hend
    obtain ⟨gone, hexpected, -, rfl⟩ := reached_zlib hs
    obtain ⟨read, hread, hinput, houtput, -⟩ := readOn_spec s.1 s.2 availOut
    rw [hdone, List.append_nil] at hread
    have hbehind : s.1.compressed <+: s.2 := by
      rw [hread, hinput]
      exact List.prefix_append _ _
    rw [decompress, if_pos ((compressed_prefix_iff hs).mpr hbehind), hexpected, hread, data_append]
    exact congrArg (fun output => some (gone.data ++ output)) houtput.symm
  · intro s out availOut hs hpos hok hend
    have hnot : (readOn s.1 s.2 availOut).expected ≠ [] := by
      intro hdone
      simp only [zlib, if_pos hdone] at hend
      exact hend rfl
    have hstopped : ¬ (readOn s.1 s.2 availOut).input.length < s.2.length := by
      intro hlt
      simp only [zlib, if_neg hnot, if_pos hlt] at hok
      exact hok rfl
    obtain ⟨read, hread, hinput, -, hblocked⟩ := readOn_spec s.1 s.2 availOut
    have hnothing : read = [] := by
      have hlength := congrArg List.length hinput
      rw [List.length_append, Stored.compressed, List.length_map] at hlength
      exact List.length_eq_zero_iff.mp (by omega)
    have hne : s.1 ≠ [] := by
      rw [hread, hnothing]
      exact hnot
    exact if_neg fun hbegins =>
      hblocked hnothing hpos hne ((compressed_prefix_iff hs).mp hbegins)
  · intro s out plain hs hplain
    obtain ⟨gone, hexpected, -, rfl⟩ := reached_zlib hs
    unfold decompress at hplain
    split_ifs at hplain
    cases hplain
    rw [hexpected, data_append]
    exact List.prefix_append _ _

end Stored

/-- 5000 bytes of data, which take two calls, in one block: the headers of the stream and of the
block, with the length and its complement, and the checksum. -/
def storedStream : Stored :=
  .around [0x78, 0x01, 0x01, 0x88, 0x13, 0x77, 0xec] (List.replicate 5000 0x61)
    [0x4b, 0x6f, 0x66, 0xf2]

/-- The whole stream, and its data. -/
theorem uncompressBytes_ends_storedStream :
    ∃ out, UncompressBytes storedStream.zlib storedStream.compressed out ∧
      out = List.replicate 5000 0x61 := by
  have hdata : storedStream.decompress storedStream.compressed =
      some (List.replicate 5000 0x61) := by
    rw [Stored.decompress, if_pos (List.prefix_refl _), storedStream, Stored.data_around]
  have hz := storedStream.contract_zlib storedStream.compressed
  obtain ⟨out, hout⟩ := (uncompressBytes_ends_iff _ _ _ hz).mpr (.inr ⟨_, hdata⟩)
  obtain ⟨fuel, hloop⟩ := hout
  have hreturned := loop_inflateRound_eq hz (.init rfl) hloop
  rw [hdata] at hreturned
  exact ⟨out, ⟨fuel, hloop⟩, (Option.some.inj hreturned).symm⟩

/-! ## A stream that is cut off -/

/-- The zlib stream of no data: its header, one block and the checksum. -/
def emptyStream : Stored :=
  .around [0x78, 0x9c, 0x03, 0x00] [] [0x00, 0x00, 0x00, 0x01]

/-- The first three bytes of it: the loop runs for ever. -/
theorem uncompressBytes_cut_off :
    Contract emptyStream.zlib emptyStream.decompress [0x78, 0x9c, 0x03] ∧
      ¬ ∃ out, UncompressBytes emptyStream.zlib [0x78, 0x9c, 0x03] out := by
  refine ⟨emptyStream.contract_zlib _, ?_⟩
  rintro ⟨out, fuel, hloop⟩
  -- what is returned would be the data of the stream, of which there is none
  have hout := loop_inflateRound_eq (emptyStream.contract_zlib _) (.init rfl) hloop
  have hnone : emptyStream.decompress [0x78, 0x9c, 0x03] = none := by decide
  rw [hnone] at hout
  cases hout

end V2XHub.CarmaCloud
