import Mathlib.Data.List.Basic
import Mathlib.Data.List.Infix

/-!
# The TMX message framer

The core and its plugins talk over stream sockets. A message travels as `0x02`, its text, `0x03`;
`MsgFramer` is the receiver's side: one buffer that `recv` appends to and from which
`getNextMsg` takes one complete message at a time.

The buffer is C memory searched with `strstr`, so everything hinges on the NUL that
`incrementBufPos` keeps at `buf[bufpos]`. A delivered message stays in the buffer — the caller
holds a pointer into it — and is shifted out only by the *next* call, which is what `readpos`
remembers.

The model keeps the memory: `buf` is the array, byte for byte, stale bytes included. What the
framer still has to look at is a notion of the proofs only, `Unread`.
-/

namespace V2XHub.Tmx

/-- `MSG_FRAMER_MAX_BUF_SIZE`. The array has one byte more, for the NUL. -/
def msgFramerMaxBufSize : Nat := 20000

structure MsgFramer where
  buf : List UInt8
  bufpos : Nat
  readpos : Nat
  deriving DecidableEq, Repr

namespace MsgFramer

/-- `MSG_FRAMER_INITIALIZER`; the members it does not name are zeroed. -/
def initializer : MsgFramer where
  buf := List.replicate (msgFramerMaxBufSize + 1) 0
  bufpos := 0
  readpos := 0

/-! ## C string functions on the buffer -/

/-- `strstr(s, "\x..")` for a needle of one byte: the offset of its first occurrence before the
terminating NUL. -/
def strstr (c : UInt8) : List UInt8 → Option Nat
  | [] => none
  | b :: bs => if b = 0 then none else if b = c then some 0 else (strstr c bs).map (· + 1)

/-- The text a `char *` points to: the bytes before the NUL. -/
def cString (bs : List UInt8) : List UInt8 := bs.takeWhile (· != 0)

/-- The copy loop `for (i = 0; i < n; i++) buf[i] = buf[i + shift];`. -/
def shiftDown (shift : Nat) : Nat → List UInt8 → List UInt8
  | 0, buf => buf
  | n + 1, buf =>
      let copied := shiftDown shift n buf
      copied.set n (copied.getD (n + shift) 0)

/-! ## The framer -/

def getBufLength (f : MsgFramer) : Nat := msgFramerMaxBufSize - f.bufpos

/-- `recv(fd, msgFramer_getBuf(&framer), ..)`: the received bytes land at `buf + bufpos`. -/
def recv (f : MsgFramer) (chunk : List UInt8) : MsgFramer :=
  { f with buf := f.buf.take f.bufpos ++ chunk ++ f.buf.drop (f.bufpos + chunk.length) }

def incrementBufPos (f : MsgFramer) (incLength : Nat) : MsgFramer :=
  if f.bufpos + incLength > msgFramerMaxBufSize then
    { f with bufpos := 0, readpos := 0 }
  else
    { f with bufpos := f.bufpos + incLength, buf := f.buf.set (f.bufpos + incLength) 0 }

/-- Drop the first `shift` bytes: the rest and its NUL move to the front. -/
def shiftBuf (f : MsgFramer) (shift : Nat) : MsgFramer :=
  { f with buf := shiftDown shift (f.bufpos + 1 - shift) f.buf, bufpos := f.bufpos - shift }

/-- First part of `getNextMsg`: forget the message the previous call returned. -/
def dropRead (f : MsgFramer) : MsgFramer :=
  if f.readpos ≠ 0 then { f.shiftBuf f.readpos with readpos := 0 } else f

/-- Last part of `getNextMsg`: a full buffer without a message is thrown away. -/
def resetIfFull (f : MsgFramer) : MsgFramer :=
  if f.bufpos = msgFramerMaxBufSize then { f with bufpos := 0, readpos := 0 } else f

/-- `getNextMsg`: the message found, if any, and the framer afterwards. -/
def getNextMsg (f : MsgFramer) : Option (List UInt8) × MsgFramer :=
  let f := f.dropRead
  match strstr 0x02 f.buf with
  | none => (none, resetIfFull { f with bufpos := 0 })
  | some msgStart =>
      let f := if msgStart ≠ 0 then f.shiftBuf msgStart else f
      match strstr 0x03 f.buf with
      | none => (none, f.resetIfFull)
      | some msgEnd =>
          let buf := f.buf.set msgEnd 0
          (some (cString (buf.drop 1)), { f with buf := buf, readpos := msgEnd + 1 })

/-- The receive loop's `while ((rawmsg = getNextMsg(&framer)) != NULL)`. Each message moves the
read position past at least two bytes, so `bufpos + 1` calls reach the `NULL`
(`drain_eq_scan`). -/
def drain : Nat → MsgFramer → Option (List (List UInt8) × MsgFramer)
  | 0, _ => none
  | n + 1, f =>
      match f.getNextMsg with
      | (none, f') => some ([], f')
      | (some msg, f') => (drain n f').map fun (msgs, f'') => (msg :: msgs, f'')

/-- One turn of the receive loop of `ivp_receive` and `PluginConnection::receiverThread`. -/
def receive (f : MsgFramer) (chunk : List UInt8) : Option (List (List UInt8) × MsgFramer) :=
  let f := (f.recv chunk).incrementBufPos chunk.length
  f.drain (f.bufpos + 1)

/-- `msgFramer_createFramedMsg`. -/
def createFramedMsg (msg : List UInt8) : List UInt8 := 0x02 :: msg ++ [0x03]

/-! ## The C string functions, specified -/

theorem strstr_eq_none {c : UInt8} {u buf : List UInt8} (hc : c ∉ u)
    (h : u ++ [0] <+: buf) : strstr c buf = none := by
  induction u generalizing buf with
  | nil =>
      obtain ⟨t, rfl⟩ := h
      simp [strstr]
  | cons b u ih =>
      obtain ⟨t, rfl⟩ := h
      have hrest : strstr c (u ++ [0] ++ t) = none :=
        ih (fun hm => hc (List.mem_cons_of_mem _ hm)) (List.prefix_append _ _)
      have hbc : b ≠ c := fun he => hc (he ▸ List.mem_cons_self)
      simp only [List.cons_append, strstr, hbc, if_false]
      rw [hrest]
      simp

theorem strstr_eq_some {c : UInt8} {g : List UInt8} (hc0 : c ≠ 0) (hc : c ∉ g)
    (h0 : (0 : UInt8) ∉ g) (rest : List UInt8) : strstr c (g ++ c :: rest) = some g.length := by
  induction g with
  | nil => simp [strstr, hc0]
  | cons b g ih =>
      have hb0 : b ≠ 0 := fun he => h0 (he ▸ List.mem_cons_self)
      have hbc : b ≠ c := fun he => hc (he ▸ List.mem_cons_self)
      have hrest := ih (fun hm => hc (List.mem_cons_of_mem _ hm))
        (fun hm => h0 (List.mem_cons_of_mem _ hm))
      simp [strstr, hb0, hbc, hrest]

theorem cString_append {m rest : List UInt8} (h0 : (0 : UInt8) ∉ m) :
    cString (m ++ 0 :: rest) = m := by
  induction m with
  | nil => simp [cString]
  | cons b m ih =>
      have hb : b ≠ 0 := fun he => h0 (he ▸ List.mem_cons_self)
      have hm := ih (fun hm => h0 (List.mem_cons_of_mem _ hm))
      unfold cString at hm ⊢
      rw [List.cons_append, List.takeWhile_cons, if_pos (by simpa using hb), hm]

@[simp] theorem length_shiftDown (shift n : Nat) (buf : List UInt8) :
    (shiftDown shift n buf).length = buf.length := by
  induction n with
  | zero => rfl
  | succ n ih => simp [shiftDown, ih]

/-- The overlapping copy reads every byte before it is overwritten, because it goes upwards. -/
theorem getElem?_shiftDown {shift : Nat} {buf : List UInt8} (n : Nat)
    (hn : n + shift ≤ buf.length) (i : Nat) :
    (shiftDown shift n buf)[i]? = if i < n then buf[i + shift]? else buf[i]? := by
  induction n generalizing i with
  | zero => simp [shiftDown]
  | succ n ih =>
      have ih' := ih (by omega)
      have hsrc : (shiftDown shift n buf).getD (n + shift) 0 = buf.getD (n + shift) 0 := by
        rw [List.getD_eq_getElem?_getD, List.getD_eq_getElem?_getD, ih' (n + shift)]
        split
        · omega
        · rfl
      have hlt : n + shift < buf.length := by omega
      simp only [shiftDown, hsrc, List.getElem?_set, length_shiftDown]
      by_cases hi : n = i
      · subst hi
        have hn' : n < buf.length := by omega
        simp [hn', hlt, List.getD_eq_getElem?_getD]
      · rw [if_neg hi, ih' i]
        by_cases hlt' : i < n
        · rw [if_pos hlt', if_pos (by omega)]
        · rw [if_neg hlt', if_neg (by omega)]

/-- Shifting `w` out in front of a NUL-terminated text leaves the text at the front. -/
theorem prefix_shiftDown {w u buf : List UInt8} (h : w ++ (u ++ [0]) <+: buf) :
    u ++ [0] <+: shiftDown w.length (u.length + 1) buf := by
  obtain ⟨t, rfl⟩ := h
  rw [List.prefix_iff_getElem?]
  intro i hi
  have hlen : u.length + 1 + w.length ≤ (w ++ (u ++ [0]) ++ t).length := by simp; omega
  have hi' : i < u.length + 1 := by simpa using hi
  rw [getElem?_shiftDown _ hlen i, if_pos hi', List.append_assoc,
    List.getElem?_append_right (by omega), Nat.add_sub_cancel,
    List.getElem?_append_left (by simpa using hi), List.getElem?_eq_getElem hi]

end MsgFramer

end V2XHub.Tmx
