import HidConnect.Library.Method
import Mathlib.Algebra.Group.Nat.Defs

/-! The wire frames of the kernel: a verb byte, a flags byte, the payload's length as a varint, and the
payload. -/
namespace HidConnect
open Fallible

/-- The largest size of an allocation, and so of a `Vec` or a slice. -/
def isizeMax : Nat := 2 ^ 63 - 1

inductive Verb where
  | action | plan | observe | query | endOfStream
  deriving DecidableEq, Repr

def Verb.byte : Verb → UInt8
  | action => 0x01
  | plan => 0x02
  | observe => 0x03
  | query => 0x04
  | endOfStream => 0x05

def Verb.fromByte (byte : UInt8) : Option Verb :=
  if byte = 0x01 then some .action
  else if byte = 0x02 then some .plan
  else if byte = 0x03 then some .observe
  else if byte = 0x04 then some .query
  else if byte = 0x05 then some .endOfStream
  else none

structure FrameFlags where
  bits : UInt8
  deriving DecidableEq, Repr

structure Frame where
  verb : Verb
  flags : FrameFlags
  payload : List UInt8
  deriving DecidableEq, Repr

/- Varints of a `usize`. Ten groups of seven bits hold every `usize`. -/

def varintSizeLoop : Nat → UInt64 → Nat → Nat
  | 0, _, size => size
  | turns + 1, n, size => if n = 0 then size else varintSizeLoop turns (n >>> 7) (size + 1)

def varintSize (n : UInt64) : Nat := if n = 0 then 1 else varintSizeLoop 10 n 0

def encodeVarintLoop : Nat → UInt64 → List UInt8
  | 0, _ => []
  | turns + 1, n =>
    let b := (n &&& 0x7F).toUInt8
    if n >>> 7 = 0 then [b] else (b ||| 0x80) :: encodeVarintLoop turns (n >>> 7)

def encodeVarint (n : UInt64) : List UInt8 := encodeVarintLoop 10 n

/-- `value.checked_shl(shift)`: bits that are shifted out are dropped. -/
def checkedShl (value : UInt64) (shift : Nat) : Option UInt64 :=
  if shift < 64 then some (value <<< shift.toUInt64) else none

def decodeVarintLoop : List UInt8 → Nat → Nat → UInt64 → Option (UInt64 × Nat)
  | [], _, _, _ => none
  | b :: rest, i, shift, result =>
    match checkedShl (b &&& 0x7F).toUInt64 shift with
    | none => none
    | some value =>
      if b &&& 0x80 = 0 then some (result ||| value, i + 1)
      else if shift + 7 > 64 then none
      else decodeVarintLoop rest (i + 1) (shift + 7) (result ||| value)

def decodeVarint (buf : List UInt8) : Option (UInt64 × Nat) := decodeVarintLoop buf 0 0 0

namespace Frame

def len (f : Frame) : UInt64 := f.payload.length.toUInt64

def encodedSize (f : Frame) : Nat := 2 + varintSize f.len + f.payload.length

def encode (f : Frame) : List UInt8 :=
  f.verb.byte :: f.flags.bits :: (encodeVarint f.len ++ f.payload)

/-- `2 + header_len + payload_len` is a sum of `usize`s. Where overflow is not checked it wraps below
`2 + header_len` and the slice behind it panics. -/
def decode : List UInt8 → Outcome Empty (Option Frame)
  | verbByte :: flagsByte :: rest =>
    match Verb.fromByte verbByte with
    | none => .ok none
    | some verb =>
      match decodeVarint rest with
      | none => .ok none
      | some (payloadLen, headerLen) =>
        let total := 2 + headerLen + payloadLen.toNat
        if total ≥ 2 ^ 64 then .panic
        else if rest.length + 2 < total then .ok none
        else .ok (some {
          verb, flags := ⟨flagsByte⟩, payload := (rest.drop headerLen).take payloadLen.toNat })
  | _ => .ok none

end Frame

end HidConnect
