import Mathlib.Data.List.TakeWhile
import V2XHub.Lib.Occurrence
import V2XHub.Tmx.ByteStream
import V2XHub.Tmx.ExtendedBytes

/-!
# What a worker makes of raw bytes

`RxThread::doWork` looks at the encoding that came with the bytes. An encoding with `hexstring` at
its end says that they are an encoded message; all others that they are text, or JSON. The end is
found by comparing the *first* place of the word with the length minus nine, both unsigned: where
the word is missing, the place is `npos`.
-/

namespace V2XHub.Tmx

open Lib ExtendedBytes

namespace RawPayload

/-- A C string, as it lies in memory. -/
structure CString where
  bytes : List UInt8
  noNul : 0 ∉ bytes
  length_lt : bytes.length < 2 ^ 64

/-- `"hexstring"` -/
def hexstring : List UInt8 := [104, 101, 120, 115, 116, 114, 105, 110, 103]

/-- `"json"` -/
def json : List UInt8 := [106, 115, 111, 110]

/-- What is outside: the decoder of J2735 messages, `read_json` into a tree, and what `cJSON_Parse`
makes of the text that `write_json` has for a tree. Both JSON functions may throw. -/
structure Libraries (M T J : Type) where
  decode : List UInt8 → Option M
  readJson : List UInt8 → Option T
  reparse : T → Option J

/-- The payload of an `IvpMessage`. -/
inductive Payload (J : Type)
  | string (s : List UInt8)
  | json (j : J)
  deriving DecidableEq, Repr

/-- The payload attribute of the container. -/
inductive Stored (T : Type)
  | text (s : List UInt8)
  | tree (t : T)
  deriving DecidableEq, Repr

structure RouteableMessage (T J : Type) where
  encoding : List UInt8 := []
  stored : Option (Stored T) := none
  payload : Option (Payload J) := none
  deriving DecidableEq, Repr

inductive Failure
  | access (fault : ExtendedBytes.Fault)
  | jsonParserError
  deriving DecidableEq, Repr

variable {M T J : Type}

namespace RouteableMessage

end RouteableMessage

/-- What is handed to the plugin: a message of the factory, or one put together here. -/
inductive Delivered (M T J : Type)
  | j2735 (m : M)
  | generic (m : RouteableMessage T J)
  deriving DecidableEq, Repr

/-- The delivery of bytes with an encoding: encoded bytes are a J2735 message, else bytes; text is
delivered as it is, or as JSON, under its encoding. -/
def Delivers (lib : Libraries M T J) (encoding : CString) (bytes : List UInt8)
    (outcome : Except Failure (Delivered M T J)) : Prop :=
  if hexstring <:+ encoding.bytes then
    ∃ index rest, tmxJ2735ExtendedBytes bytes = .ok (index, rest) ∧
      match lib.decode rest with
      | some m => outcome = .ok (.j2735 m)
      | none => ∃ m, outcome = .ok (.generic m) ∧ m.encoding = encoding.bytes ∧
          m.payload = some (.string (byteStreamEncode rest))
  else if json <+: encoding.bytes then
    ∃ t j m, lib.readJson bytes = some t ∧ lib.reparse t = some j ∧
      outcome = .ok (.generic m) ∧ m.encoding = encoding.bytes ∧ m.payload = some (.json j)
  else
    ∃ m, outcome = .ok (.generic m) ∧ m.encoding = encoding.bytes ∧
      m.payload = some (.string bytes)

variable {lib : Libraries M T J} {encoding : CString} {bytes : List UInt8}

/-- No bytes are a message, and no text is JSON. -/
def nothing : Libraries Empty Empty Empty where
  decode _ := none
  readJson _ := none
  reparse _ := none

end RawPayload

end V2XHub.Tmx
