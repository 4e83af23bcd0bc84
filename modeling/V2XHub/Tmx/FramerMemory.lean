import V2XHub.Lib.Run
import V2XHub.Tmx.MsgFramer

/-!
# The framer's memory accesses

`MsgFramer` models what the framer computes; its positions are natural numbers and its array
operations are total, so an index out of range or a negative position could not even be seen there.
This module is the level below. `FramerMemory` is the C struct with its `int` positions, every
access goes through `load` and `store`, which fault outside the array, and a search faults when the
positions are out of order or `buf[bufpos]` is not NUL.

The two levels are connected by `Searchable`: from a searchable framer the C code does not fault
and does what the model says (`getNextMsg_memory`). Peers choose the bytes freely, NULs included, so
nothing is assumed about the content of the buffer but the NUL behind it.
-/

namespace V2XHub.Tmx

inductive Fault
  | outOfRange
  | unterminated
  | disordered
  deriving DecidableEq, Repr

/-- The C struct. -/
structure FramerMemory where
  buf : List UInt8
  bufpos : Int
  readpos : Int
  deriving DecidableEq, Repr

namespace FramerMemory

def load (m : FramerMemory) (i : Int) : Except Fault UInt8 :=
  if 0 ≤ i then
    match m.buf[i.toNat]? with
    | some b => .ok b
    | none => .error .outOfRange
  else .error .outOfRange

def store (m : FramerMemory) (i : Int) (b : UInt8) : Except Fault FramerMemory :=
  if 0 ≤ i ∧ i < m.buf.length then .ok { m with buf := m.buf.set i.toNat b }
  else .error .outOfRange

/-- What `recv` writes at `buf + i`. -/
def storeAll (m : FramerMemory) (i : Int) : List UInt8 → Except Fault FramerMemory
  | [] => .ok m
  | b :: bs => do
      let m ← m.store i b
      m.storeAll (i + 1) bs

/-- `strstr` reads byte after byte; without a NUL it runs off the array. -/
def strstr (c : UInt8) : List UInt8 → Except Fault (Option Nat)
  | [] => .error .outOfRange
  | b :: bs =>
      if b = 0 then .ok none
      else if b = c then .ok (some 0)
      else (strstr c bs).map (Option.map (· + 1))

/-- What a reader of the returned `char *` sees, up to the NUL. -/
def text : List UInt8 → Except Fault (List UInt8)
  | [] => .error .outOfRange
  | b :: bs => if b = 0 then .ok [] else (text bs).map (b :: ·)

/-- A search of the buffer, which relies on the positions and on the NUL at `buf[bufpos]`. -/
def search (m : FramerMemory) (c : UInt8) : Except Fault (Option Nat) :=
  if 0 ≤ m.readpos ∧ m.readpos ≤ m.bufpos ∧ m.bufpos ≤ msgFramerMaxBufSize then do
    let last ← m.load m.bufpos
    if last = 0 then strstr c m.buf else .error .unterminated
  else .error .disordered

/-- `for (i = 0; i < n; i++) buf[i] = buf[i + shift];` -/
def copyDown (m : FramerMemory) (shift : Int) : Nat → Except Fault FramerMemory
  | 0 => .ok m
  | n + 1 => do
      let m ← m.copyDown shift n
      let b ← m.load (n + shift)
      m.store n b

/-- The two shifts of `getNextMsg`. A loop bound that is not positive is no iteration. -/
def shiftBuf (m : FramerMemory) (shift : Int) : Except Fault FramerMemory := do
  let m ← m.copyDown shift (m.bufpos + 1 - shift).toNat
  return { m with bufpos := m.bufpos - shift }

def getBufLength (m : FramerMemory) : Int := msgFramerMaxBufSize - m.bufpos

def incrementBufPos (m : FramerMemory) (incLength : Nat) : Except Fault FramerMemory :=
  let m := { m with bufpos := m.bufpos + incLength }
  if (msgFramerMaxBufSize : Int) < m.bufpos then .ok { m with bufpos := 0, readpos := 0 }
  else m.store m.bufpos 0

def dropRead (m : FramerMemory) : Except Fault FramerMemory :=
  if m.readpos ≠ 0 then do
    let m ← m.shiftBuf m.readpos
    return { m with readpos := 0 }
  else .ok m

def resetIfFull (m : FramerMemory) : FramerMemory :=
  if m.bufpos = msgFramerMaxBufSize then { m with bufpos := 0, readpos := 0 } else m

/-- The rest of `getNextMsg` once the buffer starts with `0x02`. -/
def takeMsg (m : FramerMemory) : Except Fault (Option (List UInt8) × FramerMemory) := do
  match ← m.search 0x03 with
  | none => return (none, m.resetIfFull)
  | some msgEnd =>
      let m ← m.store msgEnd 0
      let results ← text (m.buf.drop 1)
      return (some results, { m with readpos := msgEnd + 1 })

def getNextMsg (m : FramerMemory) : Except Fault (Option (List UInt8) × FramerMemory) := do
  let m ← m.dropRead
  match ← m.search 0x02 with
  | none => return (none, resetIfFull { m with bufpos := 0 })
  | some msgStart =>
      let m ← if msgStart ≠ 0 then m.shiftBuf msgStart else .ok m
      m.takeMsg

end FramerMemory

namespace MsgFramer

/-- The struct a framer of the model stands for. -/
def memory (f : MsgFramer) : FramerMemory where
  buf := f.buf
  bufpos := f.bufpos
  readpos := f.readpos

/-- The positions are in order and inside the array. -/
structure Bounded (f : MsgFramer) : Prop where
  size : f.buf.length = msgFramerMaxBufSize + 1
  readpos_le : f.readpos ≤ f.bufpos
  bufpos_le : f.bufpos ≤ msgFramerMaxBufSize

/-- A framer that may be searched: bounded, and with the NUL in its place. -/
structure Searchable (f : MsgFramer) : Prop extends Bounded f where
  nul : f.buf[f.bufpos]? = some 0

/-! ## Searching in front of a NUL -/

/-- A byte found lies in front of every NUL of the array. -/
theorem strstr_lt {c : UInt8} {buf : List UInt8} {i n : Nat} (hn : buf[n]? = some 0)
    (h : strstr c buf = some i) : i < n := by
  induction buf generalizing i n with
  | nil => simp [strstr] at h
  | cons b bs ih =>
      simp only [strstr] at h
      split at h
      · cases h
      · next hb =>
        obtain _ | n := n
        · simp [hb] at hn
        · split at h
          · cases h
            omega
          · obtain ⟨j, hj, rfl⟩ := Option.map_eq_some_iff.mp h
            have := ih (by simpa using hn) hj
            omega

theorem memory_strstr {c : UInt8} {buf : List UInt8} (h : (0 : UInt8) ∈ buf) :
    FramerMemory.strstr c buf = .ok (strstr c buf) := by
  induction buf with
  | nil => simp at h
  | cons b bs ih =>
      simp only [FramerMemory.strstr, strstr]
      split
      · rfl
      · next hb =>
        have hbs : (0 : UInt8) ∈ bs := by
          rcases List.mem_cons.mp h with h | h
          · exact absurd h.symm hb
          · exact h
        split
        · rfl
        · rw [ih hbs]
          rfl

theorem memory_text {bs : List UInt8} (h : (0 : UInt8) ∈ bs) :
    FramerMemory.text bs = .ok (cString bs) := by
  induction bs with
  | nil => simp at h
  | cons b bs ih =>
      unfold cString at ih ⊢
      by_cases hb : b = 0
      · simp [FramerMemory.text, hb]
      · have hbs : (0 : UInt8) ∈ bs := by
          rcases List.mem_cons.mp h with h | h
          · exact absurd h.symm hb
          · exact h
        simp [FramerMemory.text, hb, ih hbs, Except.map]

theorem Searchable.mem {f : MsgFramer} (h : Searchable f) : (0 : UInt8) ∈ f.buf :=
  List.mem_of_getElem? h.nul

theorem Searchable.memory_search {f : MsgFramer} (h : Searchable f) (c : UInt8) :
    f.memory.search c = .ok (strstr c f.buf) := by
  have hload : f.memory.load f.memory.bufpos = .ok 0 := by
    simp [FramerMemory.load, memory, h.nul]
  have hle := h.readpos_le
  have hmax := h.bufpos_le
  have horder : 0 ≤ f.memory.readpos ∧ f.memory.readpos ≤ f.memory.bufpos ∧
      f.memory.bufpos ≤ msgFramerMaxBufSize := by
    simp only [memory]
    omega
  unfold FramerMemory.search
  rw [if_pos horder, hload]
  simpa [bind, Except.bind, memory] using memory_strstr h.mem

/-! ## Writing inside the array -/

theorem memory_store {f : MsgFramer} {i : Nat} (hi : i < f.buf.length) (b : UInt8) :
    f.memory.store i b = .ok { f with buf := f.buf.set i b }.memory := by
  simp [FramerMemory.store, memory, hi]

theorem memory_storeAll {f : MsgFramer} {i : Nat} (bs : List UInt8)
    (hi : i + bs.length ≤ f.buf.length) :
    f.memory.storeAll i bs =
      .ok { f with buf := f.buf.take i ++ bs ++ f.buf.drop (i + bs.length) }.memory := by
  induction bs generalizing f i with
  | nil => simp [FramerMemory.storeAll]
  | cons b bs ih =>
      simp only [List.length_cons] at hi
      have hlt : i < f.buf.length := by omega
      have hrest := ih (f := { f with buf := f.buf.set i b }) (i := i + 1) (by simp; omega)
      have hbuf : (f.buf.set i b).take (i + 1) ++ bs ++ (f.buf.set i b).drop (i + 1 + bs.length)
          = f.buf.take i ++ b :: bs ++ f.buf.drop (i + (bs.length + 1)) := by
        rw [List.take_add_one, List.getElem?_set_self hlt, List.take_set_of_le (Nat.le_refl i),
          List.drop_set_of_lt (by omega)]
        simp [Nat.add_assoc, Nat.add_comm 1]
      rw [FramerMemory.storeAll, memory_store hlt]
      simp only [hbuf] at hrest
      exact_mod_cast hrest

theorem memory_copyDown (f : MsgFramer) (shift n : Nat)
    (hn : n + shift ≤ f.buf.length) :
    f.memory.copyDown shift n = .ok { f with buf := shiftDown shift n f.buf }.memory := by
  induction n with
  | zero => rfl
  | succ n ih =>
      rw [FramerMemory.copyDown, ih (by omega)]
      have hsrc : n + shift < (shiftDown shift n f.buf).length := by
        rw [length_shiftDown]
        omega
      have hload : { f with buf := shiftDown shift n f.buf }.memory.load ((n : Int) + shift)
          = .ok ((shiftDown shift n f.buf).getD (n + shift) 0) := by
        have hnat : ((n : Int) + shift).toNat = n + shift := by omega
        have hpos : (0 : Int) ≤ (n : Int) + shift := by omega
        simp [FramerMemory.load, memory, hnat, hpos, List.getElem?_eq_getElem hsrc,
          List.getD_eq_getElem?_getD]
      have hstore := memory_store (f := { f with buf := shiftDown shift n f.buf }) (i := n)
        (by rw [length_shiftDown]; omega) ((shiftDown shift n f.buf).getD (n + shift) 0)
      simp only [bind, Except.bind, hload]
      exact hstore

/-! ## The operations keep the positions in order, and do not fault -/

theorem Searchable.shiftBuf {f : MsgFramer} {shift : Nat} (h : Searchable f)
    (hs : shift ≤ f.bufpos) (hr : f.readpos = 0) : Searchable (f.shiftBuf shift) where
  size := by simpa [MsgFramer.shiftBuf] using h.size
  readpos_le := by simp [MsgFramer.shiftBuf, hr]
  bufpos_le := by
    have := h.bufpos_le
    simp only [MsgFramer.shiftBuf]
    omega
  nul := by
    have hle := h.bufpos_le
    have hsize := h.size
    have hnul := h.nul
    simp only [MsgFramer.shiftBuf]
    rw [getElem?_shiftDown _ (by omega), if_pos (by omega), Nat.sub_add_cancel hs]
    exact hnul

theorem Bounded.memory_shiftBuf {f : MsgFramer} {shift : Nat} (h : Bounded f)
    (hs : shift ≤ f.bufpos) : f.memory.shiftBuf shift = .ok (f.shiftBuf shift).memory := by
  have hle := h.bufpos_le
  have hsize := h.size
  have hcount : ((f.bufpos : Int) + 1 - shift).toNat = f.bufpos + 1 - shift := by omega
  have hcopy := memory_copyDown f shift (f.bufpos + 1 - shift) (by omega)
  have hpos : ((f.bufpos - shift : Nat) : Int) = (f.bufpos : Int) - shift := by omega
  unfold FramerMemory.shiftBuf
  rw [show f.memory.bufpos + 1 - (shift : Int) = (f.bufpos : Int) + 1 - shift from rfl, hcount,
    hcopy]
  simp [bind, Except.bind, pure, Except.pure, memory, MsgFramer.shiftBuf, hpos]

theorem Searchable.dropRead {f : MsgFramer} (h : Searchable f) :
    Searchable f.dropRead ∧ f.dropRead.readpos = 0 ∧
      f.dropRead.bufpos = f.bufpos - f.readpos := by
  unfold MsgFramer.dropRead
  by_cases hr : f.readpos = 0
  · simp [hr, h]
  · have hfront : Searchable { f with readpos := 0 } := ⟨⟨h.size, by simp, h.bufpos_le⟩, h.nul⟩
    have hshift := hfront.shiftBuf h.readpos_le rfl
    rw [if_pos hr]
    exact ⟨⟨⟨hshift.size, by simp, hshift.bufpos_le⟩, hshift.nul⟩, rfl, rfl⟩

theorem Bounded.memory_dropRead {f : MsgFramer} (h : Bounded f) :
    f.memory.dropRead = .ok f.dropRead.memory := by
  unfold FramerMemory.dropRead MsgFramer.dropRead
  by_cases hr : f.readpos = 0
  · simp [memory, hr]
  · have hr' : f.memory.readpos ≠ 0 := by simpa [memory] using hr
    rw [if_pos hr', if_pos hr, show f.memory.readpos = (f.readpos : Int) from rfl,
      h.memory_shiftBuf h.readpos_le]
    rfl

@[simp] theorem memory_resetIfFull (f : MsgFramer) :
    f.memory.resetIfFull = f.resetIfFull.memory := by
  unfold FramerMemory.resetIfFull MsgFramer.resetIfFull
  have hfull : f.memory.bufpos = (msgFramerMaxBufSize : Int) ↔ f.bufpos = msgFramerMaxBufSize := by
    simp only [memory]
    omega
  by_cases h : f.bufpos = msgFramerMaxBufSize
  · rw [if_pos (hfull.mpr h), if_pos h]
    rfl
  · rw [if_neg (mt hfull.mp h), if_neg h]

/-- What `getNextMsg` leaves behind when it returns `NULL`: a framer with room for more. -/
structure Drained (f : MsgFramer) : Prop extends Bounded f where
  readpos : f.readpos = 0
  room : f.bufpos < msgFramerMaxBufSize

theorem Bounded.resetIfFull {f : MsgFramer} (h : Bounded f) (hr : f.readpos = 0) :
    Drained f.resetIfFull := by
  have hle := h.bufpos_le
  unfold MsgFramer.resetIfFull
  split
  · exact ⟨⟨h.size, by simp, by simp⟩, rfl, by simp [msgFramerMaxBufSize]⟩
  · exact ⟨h, hr, by omega⟩

/-- The buffer with the `0x03` at `msgEnd` overwritten, as `getNextMsg` leaves it. -/
theorem Searchable.cut {f : MsgFramer} {msgEnd : Nat} (h : Searchable f)
    (hlt : msgEnd < f.bufpos) :
    Searchable { f with buf := f.buf.set msgEnd 0, readpos := msgEnd + 1 } where
  size := by simpa using h.size
  readpos_le := hlt
  bufpos_le := h.bufpos_le
  nul := by
    show (f.buf.set msgEnd 0)[f.bufpos]? = some 0
    rw [List.getElem?_set_ne (by omega)]
    exact h.nul

/-! ## `getNextMsg`

The model's function, cut in two at the point where the buffer starts with `0x02`. -/

/-- The framer `getNextMsg` looks for the closing byte in. -/
def atStart (f : MsgFramer) (msgStart : Nat) : MsgFramer :=
  if msgStart ≠ 0 then f.shiftBuf msgStart else f

def takeMsg (f : MsgFramer) : Option (List UInt8) × MsgFramer :=
  match strstr 0x03 f.buf with
  | none => (none, f.resetIfFull)
  | some msgEnd => (some (cString ((f.buf.set msgEnd 0).drop 1)),
      { f with buf := f.buf.set msgEnd 0, readpos := msgEnd + 1 })

theorem getNextMsg_of_none {f : MsgFramer} (h : strstr 0x02 f.dropRead.buf = none) :
    f.getNextMsg = (none, resetIfFull { f.dropRead with bufpos := 0 }) := by
  simp [getNextMsg, h]

theorem getNextMsg_of_some {f : MsgFramer} {msgStart : Nat}
    (h : strstr 0x02 f.dropRead.buf = some msgStart) :
    f.getNextMsg = (f.dropRead.atStart msgStart).takeMsg := by
  unfold getNextMsg
  simp only [h]
  rfl

theorem Searchable.atStart {f : MsgFramer} {msgStart : Nat} (h : Searchable f)
    (hs : msgStart ≤ f.bufpos) (hr : f.readpos = 0) :
    Searchable (f.atStart msgStart) ∧ (f.atStart msgStart).readpos = 0 ∧
      (f.atStart msgStart).bufpos ≤ f.bufpos := by
  unfold MsgFramer.atStart
  split
  · exact ⟨h.shiftBuf hs hr, hr, by simp [MsgFramer.shiftBuf]⟩
  · exact ⟨h, hr, Nat.le_refl _⟩

theorem Searchable.memory_takeMsg {f : MsgFramer} (h : Searchable f) :
    f.memory.takeMsg = .ok (f.takeMsg.1, f.takeMsg.2.memory) := by
  unfold FramerMemory.takeMsg MsgFramer.takeMsg
  rw [h.memory_search]
  cases hend : strstr 0x03 f.buf with
  | none => simp [bind, Except.bind, pure, Except.pure]
  | some msgEnd =>
      have hlt : msgEnd < f.bufpos := strstr_lt h.nul hend
      have hle := h.bufpos_le
      have hsize := h.size
      -- the NUL behind the buffer is still behind `buf + 1`
      have hnul : (0 : UInt8) ∈ (f.buf.set msgEnd 0).drop 1 := by
        refine List.mem_of_getElem? (i := f.bufpos - 1) ?_
        rw [List.getElem?_drop, show 1 + (f.bufpos - 1) = f.bufpos by omega]
        exact (h.cut hlt).nul
      have hstore := memory_store (f := f) (i := msgEnd) (by omega) 0
      have htext : FramerMemory.text ({ f with buf := f.buf.set msgEnd 0 }.memory.buf.drop 1) =
          .ok (cString ((f.buf.set msgEnd 0).drop 1)) := memory_text hnul
      simp only [bind, Except.bind, hstore, htext]
      rfl

/-- **The C code does what the model says**, without leaving the array and without searching a
buffer that is not terminated. -/
theorem Searchable.memory_getNextMsg {f : MsgFramer} (h : Searchable f) :
    f.memory.getNextMsg = .ok (f.getNextMsg.1, f.getNextMsg.2.memory) := by
  obtain ⟨hd, hr, -⟩ := h.dropRead
  unfold FramerMemory.getNextMsg
  rw [h.memory_dropRead]
  simp only [bind, Except.bind, hd.memory_search]
  cases hstart : strstr 0x02 f.dropRead.buf with
  | none =>
      rw [getNextMsg_of_none hstart]
      exact congrArg (fun m => Except.ok (none, m))
        (memory_resetIfFull { f.dropRead with bufpos := 0 })
  | some msgStart =>
      have hlt : msgStart < f.dropRead.bufpos := strstr_lt hd.nul hstart
      have hsearch := (hd.atStart (Nat.le_of_lt hlt) hr).1.memory_takeMsg
      rw [getNextMsg_of_some hstart, ← hsearch]
      by_cases h0 : msgStart = 0
      · simp [h0, MsgFramer.atStart]
      · simp [h0, MsgFramer.atStart, hd.memory_shiftBuf (Nat.le_of_lt hlt)]

/-- After `NULL` there is room to receive; after a message the framer may be searched again and
has less to look at. -/
theorem Searchable.getNextMsg {f : MsgFramer} (h : Searchable f) :
    (f.getNextMsg.1 = none ∧ Drained f.getNextMsg.2) ∨
      (f.getNextMsg.1.isSome = true ∧ Searchable f.getNextMsg.2 ∧
        f.getNextMsg.2.bufpos - f.getNextMsg.2.readpos < f.bufpos - f.readpos) := by
  obtain ⟨hd, hr, hpos⟩ := h.dropRead
  cases hstart : strstr 0x02 f.dropRead.buf with
  | none =>
      rw [getNextMsg_of_none hstart]
      have hempty : Bounded { f.dropRead with bufpos := 0 } := ⟨hd.size, by simp [hr], by simp⟩
      exact .inl ⟨rfl, hempty.resetIfFull hr⟩
  | some msgStart =>
      have hlt : msgStart < f.dropRead.bufpos := strstr_lt hd.nul hstart
      obtain ⟨hs, hsr, hle⟩ := hd.atStart (Nat.le_of_lt hlt) hr
      rw [getNextMsg_of_some hstart]
      unfold MsgFramer.takeMsg
      cases hend : strstr 0x03 (f.dropRead.atStart msgStart).buf with
      | none => exact .inl ⟨rfl, hs.resetIfFull hsr⟩
      | some msgEnd =>
          have hmsg : msgEnd < (f.dropRead.atStart msgStart).bufpos := strstr_lt hs.nul hend
          refine .inr ⟨rfl, hs.cut hmsg, ?_⟩
          show (f.dropRead.atStart msgStart).bufpos - (msgEnd + 1) < f.bufpos - f.readpos
          omega

/-- `recv` and `incrementBufPos` on a framer with room for the chunk. -/
theorem Drained.received {f : MsgFramer} (h : Drained f) {chunk : List UInt8}
    (hroom : chunk.length ≤ f.getBufLength) :
    Searchable ((f.recv chunk).incrementBufPos chunk.length) ∧
      (f.memory.storeAll f.memory.bufpos chunk >>= fun m => m.incrementBufPos chunk.length) =
        .ok ((f.recv chunk).incrementBufPos chunk.length).memory := by
  have hle := h.bufpos_le
  have hsize := h.size
  have hfit : f.bufpos + chunk.length ≤ msgFramerMaxBufSize := by
    simp only [MsgFramer.getBufLength] at hroom
    omega
  have hlen : (f.recv chunk).buf.length = msgFramerMaxBufSize + 1 := by
    simp only [MsgFramer.recv, List.length_append, List.length_take, List.length_drop]
    omega
  have hnat : (f.recv chunk).incrementBufPos chunk.length =
      ⟨(f.recv chunk).buf.set (f.bufpos + chunk.length) 0, f.bufpos + chunk.length, f.readpos⟩ := by
    unfold MsgFramer.incrementBufPos
    rw [if_neg (show ¬ (f.recv chunk).bufpos + chunk.length > msgFramerMaxBufSize by
      simp only [MsgFramer.recv]; omega)]
    rfl
  rw [hnat]
  constructor
  · refine ⟨⟨by simpa using hlen, ?_, hfit⟩, ?_⟩
    · show f.readpos ≤ f.bufpos + chunk.length
      simp [h.readpos]
    · exact List.getElem?_set_self (by omega)
  · have hrecv := memory_storeAll (f := f) (i := f.bufpos) chunk (by omega)
    have hstore := memory_store (f := ⟨(f.recv chunk).buf, f.bufpos + chunk.length, f.readpos⟩)
      (i := f.bufpos + chunk.length) (by show _ < (f.recv chunk).buf.length; omega) 0
    rw [show f.memory.bufpos = (f.bufpos : Int) from rfl, hrecv]
    show FramerMemory.incrementBufPos (f.recv chunk).memory chunk.length = _
    unfold FramerMemory.incrementBufPos
    rw [if_neg (show ¬ (msgFramerMaxBufSize : Int) <
      (f.recv chunk).memory.bufpos + chunk.length by
        show ¬ (msgFramerMaxBufSize : Int) < (f.bufpos : Int) + chunk.length
        omega)]
    exact hstore

end MsgFramer

/-! ## The receive loop -/

inductive ReceiverPhase
  /-- in `recv` -/
  | receiving
  /-- in `while ((rawmsg = msgFramer_getNextMsg(&framer)) != NULL)` -/
  | draining
  /-- `recv` returned zero -/
  | closed
  deriving DecidableEq, Repr

/-- The receive loop of `ivp_receive` and of `PluginConnection::receiverThread`. -/
structure Receiver where
  framer : FramerMemory
  phase : ReceiverPhase
  deriving DecidableEq, Repr

namespace Receiver

open V2XHub.Lib

def start : Receiver where
  framer := MsgFramer.initializer.memory
  phase := .receiving

inductive Event
  | recv (chunk : List UInt8)
  | getNextMsg
  deriving DecidableEq, Repr

/-- One turn of the loop; `none` where the event cannot happen: `recv` returns at most as many
bytes as it was asked for. -/
def step (r : Receiver) : Event → Option (Except Fault Receiver)
  | .recv chunk =>
      if r.phase = .receiving ∧ (chunk.length : Int) ≤ r.framer.getBufLength then
        if chunk = [] then some (.ok { r with phase := .closed })
        else some do
          let m ← r.framer.storeAll r.framer.bufpos chunk
          let m ← m.incrementBufPos chunk.length
          return ⟨m, .draining⟩
      else none
  | .getNextMsg =>
      if r.phase = .draining then some do
        let (rawmsg, m) ← r.framer.getNextMsg
        return ⟨m, if rawmsg.isSome then .draining else .receiving⟩
      else none

/-- The turns that do not fault. -/
def Takes (r : Receiver) (e : Event) (r' : Receiver) : Prop := r.step e = some (.ok r')

/-- What the loop keeps: the struct is that of a framer of the model, searchable while it is
drained and with room for more otherwise. -/
inductive Safe : Receiver → Prop
  | draining {f : MsgFramer} : f.Searchable → Safe ⟨f.memory, .draining⟩
  | waiting {f : MsgFramer} {phase : ReceiverPhase} :
      phase ≠ .draining → f.Drained → Safe ⟨f.memory, phase⟩

theorem drained_initializer : MsgFramer.initializer.Drained where
  size := List.length_replicate
  readpos_le := Nat.le_refl 0
  bufpos_le := Nat.zero_le _
  readpos := rfl
  room := by
    show 0 < msgFramerMaxBufSize
    decide

theorem safe_start : Safe start := .waiting (by simp) drained_initializer

theorem takes_recv {f : MsgFramer} (h : f.Drained) {chunk : List UInt8} (hne : chunk ≠ [])
    (hfit : chunk.length ≤ f.getBufLength) :
    Takes ⟨f.memory, .receiving⟩ (.recv chunk)
      ⟨((f.recv chunk).incrementBufPos chunk.length).memory, .draining⟩ := by
  have hroom : (chunk.length : Int) ≤ f.memory.getBufLength := by
    have := h.bufpos_le
    simp only [MsgFramer.getBufLength] at hfit
    simp only [FramerMemory.getBufLength, MsgFramer.memory]
    omega
  simp only [Takes, Receiver.step, true_and, hroom, if_true, hne, if_false]
  rw [← bind_assoc, (h.received hfit).2]
  rfl

theorem takes_getNextMsg {f : MsgFramer} (h : f.Searchable) :
    Takes ⟨f.memory, .draining⟩ .getNextMsg
      ⟨f.getNextMsg.2.memory, if f.getNextMsg.1.isSome then .draining else .receiving⟩ := by
  simp only [Takes, Receiver.step, if_true, h.memory_getNextMsg]
  rfl

/-- A turn that can happen does not fault, and keeps the loop safe. -/
theorem Safe.step {r : Receiver} (h : Safe r) {e : Event} {res : Except Fault Receiver}
    (hstep : r.step e = some res) : ∃ r', res = .ok r' ∧ Safe r' := by
  rcases h with @⟨f, hf⟩ | @⟨f, phase, hphase, hf⟩
  · cases e with
    | recv chunk => simp [Receiver.step] at hstep
    | getNextMsg =>
        rw [takes_getNextMsg hf] at hstep
        refine ⟨_, (Option.some.inj hstep).symm, ?_⟩
        rcases hf.getNextMsg with ⟨hnone, hd⟩ | ⟨hsome, hs, -⟩
        · simp only [hnone]
          exact .waiting (by simp) hd
        · simp only [hsome]
          exact .draining hs
  · cases e with
    | getNextMsg => simp [Receiver.step, hphase] at hstep
    | recv chunk =>
        by_cases hcan : phase = .receiving ∧ (chunk.length : Int) ≤ f.memory.getBufLength
        · obtain ⟨rfl, hroom⟩ := hcan
          by_cases hne : chunk = []
          · subst hne
            simp only [Receiver.step, true_and, hroom, if_true] at hstep
            exact ⟨_, (Option.some.inj hstep).symm, .waiting (by simp) hf⟩
          · have hfit : chunk.length ≤ f.getBufLength := by
              simp only [FramerMemory.getBufLength, MsgFramer.memory] at hroom
              simp only [MsgFramer.getBufLength]
              omega
            rw [takes_recv hf hne hfit] at hstep
            exact ⟨_, (Option.some.inj hstep).symm, .draining (hf.received hfit).1⟩
        · simp [Receiver.step, hcan] at hstep

/-- The drain of a chunk ends. -/
theorem drains {f : MsgFramer} (h : f.Searchable) :
    ∃ n r, Run Takes ⟨f.memory, .draining⟩ (List.replicate n .getNextMsg) r ∧
      r.phase = .receiving := by
  -- on what is still to be looked at, which every message shortens
  induction hk : f.bufpos - f.readpos using Nat.strong_induction_on generalizing f with
  | _ k ih =>
      have hturn := takes_getNextMsg h
      rcases h.getNextMsg with ⟨hnone, -⟩ | ⟨hsome, hs, hlt⟩
      · exact ⟨1, _, .cons hturn .nil, by simp [hnone]⟩
      · rw [hsome] at hturn
        obtain ⟨n, r, hrun, hr⟩ := ih _ (hk ▸ hlt) hs rfl
        exact ⟨n + 1, r, .cons hturn hrun, hr⟩

/-- **The framer's buffer is safe**, whatever the peer sends and however it is cut: the positions
stay in order, no access leaves the array and no search starts without the NUL behind the buffer
(a turn never faults), every drain ends, and when it has ended `recv` is asked for at least one
byte. -/
theorem framer_buffer_invariant {es : List Event} {r : Receiver} (h : Run Takes start es r) :
    (0 ≤ r.framer.readpos ∧ r.framer.readpos ≤ r.framer.bufpos ∧
      r.framer.bufpos ≤ msgFramerMaxBufSize) ∧
    (∀ e res, r.step e = some res → ∃ r', res = .ok r') ∧
    (r.phase = .draining → r.framer.buf[r.framer.bufpos.toNat]? = some 0 ∧
      ∃ n r', Run Takes r (List.replicate n .getNextMsg) r' ∧ r'.phase = .receiving) ∧
    (r.phase = .receiving →
      r.framer.bufpos < msgFramerMaxBufSize ∧ 0 < r.framer.getBufLength) := by
  have hsafe : Safe r := by
    refine h.invariant (I := Safe) (fun r e r' hr hstep => ?_) safe_start
    obtain ⟨r'', hok, hr''⟩ := hr.step hstep
    cases hok
    exact hr''
  refine ⟨?_, fun e res hstep => ?_, ?_, ?_⟩
  · rcases hsafe with @⟨f, hf⟩ | @⟨f, phase, hphase, hf⟩
    · have := hf.readpos_le
      have := hf.bufpos_le
      simp only [MsgFramer.memory]
      omega
    · have := hf.readpos_le
      have := hf.bufpos_le
      simp only [MsgFramer.memory]
      omega
  · obtain ⟨r', hok, -⟩ := hsafe.step hstep
    exact ⟨r', hok⟩
  · intro hdraining
    rcases hsafe with @⟨f, hf⟩ | @⟨f, phase, hphase, hf⟩
    · exact ⟨by simpa [MsgFramer.memory] using hf.nul, drains hf⟩
    · exact absurd hdraining hphase
  · intro hreceiving
    rcases hsafe with @⟨f, hf⟩ | @⟨f, phase, hphase, hf⟩
    · cases hreceiving
    · have := hf.room
      simp only [FramerMemory.getBufLength, MsgFramer.memory]
      omega

/-- A chunk with NULs in and around its frame. -/
theorem framer_buffer_invariant_noise :
    ∃ r, Run Takes start [.recv [0, 0x02, 0, 0x03]] r ∧ r.phase = .draining ∧
      r.framer.readpos ≤ r.framer.bufpos := by
  have hfit : ([0, 0x02, 0, 0x03] : List UInt8).length ≤ MsgFramer.initializer.getBufLength := by
    show 4 ≤ msgFramerMaxBufSize - 0
    decide
  have hrun := Run.cons (takes_recv drained_initializer (List.cons_ne_nil 0 _) hfit) .nil
  exact ⟨_, hrun, rfl, (framer_buffer_invariant hrun).1.2.1⟩

end Receiver

end V2XHub.Tmx
