import HidConnect.Transport

/-! Constants and small enumerations shared by the drivers and the session. -/
namespace HidConnect

/-- Maximum size of a single HID input report. -/
abbrev hidMaxSize : Nat := 15
abbrev maxGamepads : Nat := 8
def gamepadIdInvalid : UInt32 := 0
def hidIdKeyboard : UInt16 := 1
def hidIdMouse : UInt16 := 2
def hidIdGamepadFirst : UInt16 := 3
def maxPointers : UInt64 := 10

/-- A value of the scancode enumeration, by its discriminant: the AT-101 range with the two
reserved usages, or a modifier. -/
structure Scancode where
  code : UInt16
  legal : (0x04 ≤ code.toNat ∧ code.toNat ≤ 0x65) ∨ (0xE0 ≤ code.toNat ∧ code.toNat ≤ 0xE7)
  deriving DecidableEq

structure Modifiers where
  bits : UInt8
  deriving DecidableEq, Repr

namespace Modifiers

def empty : Modifiers := ⟨0⟩
def lshift : Modifiers := ⟨2⟩

end Modifiers

namespace Scancode

def toU8 (s : Scancode) : UInt8 := s.code.toUInt8

/-- The table of known scancodes; the reserved usages 0x64 and 0x65 are not in it. -/
def fromU8 (b : UInt8) : Option Scancode :=
  if h : (0x04 ≤ b.toNat ∧ b.toNat ≤ 0x63) ∨ (0xE0 ≤ b.toNat ∧ b.toNat ≤ 0xE7) then
    some ⟨b.toUInt16, by rw [UInt8.toNat_toUInt16]; omega⟩
  else none

def offset (c base : Char) (first : UInt8) : Option Scancode :=
  fromU8 (c.toNat.toUInt8 - base.toNat.toUInt8 + first)

/-- The scancode of a character with the modifiers it needs; the modifiers are reset on
every call. -/
def tryFromChar (c : Char) : Option Scancode × Modifiers :=
  let plain (b : UInt8) := (fromU8 b, Modifiers.empty)
  let shifted (b : UInt8) := (fromU8 b, Modifiers.lshift)
  if 'a' ≤ c ∧ c ≤ 'z' then (offset c 'a' 0x04, .empty)
  else if 'A' ≤ c ∧ c ≤ 'Z' then (offset c 'A' 0x04, .lshift)
  else if '1' ≤ c ∧ c ≤ '9' then (offset c '1' 0x1E, .empty)
  else match c with
  | '0' => plain 0x27
  | ' ' => plain 0x2C
  | '\n' => plain 0x28
  | '\t' => plain 0x2B
  | '\x08' => plain 0x2A
  | '\x1b' => plain 0x29
  | '!' => shifted 0x1E
  | '@' => shifted 0x1F
  | '#' => shifted 0x20
  | '$' => shifted 0x21
  | '%' => shifted 0x22
  | '^' => shifted 0x23
  | '&' => shifted 0x24
  | '*' => shifted 0x25
  | '(' => shifted 0x26
  | ')' => shifted 0x27
  | '-' => plain 0x2D
  | '_' => shifted 0x2D
  | '=' => plain 0x2E
  | '+' => shifted 0x2E
  | '[' => plain 0x2F
  | '\x7b' => shifted 0x2F
  | ']' => plain 0x30
  | '\x7d' => shifted 0x30
  | '\x5c' => plain 0x31
  | '|' => shifted 0x31
  | ';' => plain 0x33
  | ':' => shifted 0x33
  | '\x27' => plain 0x34
  | '\x22' => shifted 0x34
  | '\x60' => plain 0x35
  | '~' => shifted 0x35
  | ',' => plain 0x36
  | '<' => shifted 0x36
  | '.' => plain 0x37
  | '>' => shifted 0x37
  | '/' => plain 0x38
  | '?' => shifted 0x38
  | _ => (none, .empty)

end Scancode

inductive GamepadAxis where
  | leftX | leftY | rightX | rightY | leftTrigger | rightTrigger
  deriving DecidableEq, Repr

inductive GamepadButton where
  | south | east | west | north | back | start | guide | leftStick | rightStick
  | leftShoulder | rightShoulder | dpadUp | dpadDown | dpadLeft | dpadRight
  deriving DecidableEq, Repr

def GamepadButton.bit : GamepadButton → UInt32
  | south => 0x0001
  | east => 0x0002
  | west => 0x0008
  | north => 0x0010
  | back => 0x0400
  | start => 0x0800
  | guide => 0x1000
  | leftStick => 0x2000
  | rightStick => 0x4000
  | leftShoulder => 0x0040
  | rightShoulder => 0x0080
  | dpadUp => 0x00010000
  | dpadDown => 0x00020000
  | dpadLeft => 0x00040000
  | dpadRight => 0x00080000

def dpadMask : UInt32 := 0x000F0000

def dpadHatLookup : List UInt8 := [0, 1, 5, 0, 7, 8, 6, 0, 3, 2, 4, 0, 0, 0, 0, 0]

/-- The hat-switch value of a button bitmap; the mask keeps the index inside the table. -/
def dpadHatValue (buttons : UInt32) : UInt8 :=
  dpadHatLookup.getD ((buttons &&& dpadMask) >>> 16).toNat 0

/- Android constants. -/

namespace AndroidKeyAction
def down : UInt8 := 0
def up : UInt8 := 1
end AndroidKeyAction

namespace TouchAction
def down : UInt8 := 0
def up : UInt8 := 1
def move : UInt8 := 2
def cancel : UInt8 := 3
end TouchAction

end HidConnect
