import HidConnect.Library.Bytes
import Mathlib.Algebra.Ring.Int.Defs
import Mathlib.Algebra.Ring.Nat

/-! Report descriptors: the items of one, the fields that they lay out, and what a host reads of a
report with them. Reports carry no report id. -/
namespace ReportDescriptor

/-- `width` bits of a number, from a position on. -/
def bits (start width n : Nat) : Nat := n / 2 ^ start % 2 ^ width

/-- A number of `width` bits in two's complement. -/
def signed (width n : Nat) : Int := if n < 2 ^ (width - 1) then n else n - 2 ^ width

@[simp] theorem testBit_bits (start width n i : Nat) :
    (bits start width n).testBit i = (decide (i < width) && n.testBit (start + i)) := by
  simp [bits, Nat.testBit_div_two_pow, Nat.add_comm]

theorem bits_lt (start width n : Nat) : bits start width n < 2 ^ width :=
  Nat.mod_lt _ (Nat.pow_pos (by decide))

theorem bits_bits (start n : Nat) {i k width : Nat} (inside : i + k ≤ width) :
    bits i k (bits start width n) = bits (start + i) k n := by
  apply Nat.eq_of_testBit_eq
  intro j
  simp only [testBit_bits, Nat.add_assoc]
  by_cases near : j < k
  · have within : i + j < width := by omega
    simp [within]
  · simp [near]

theorem bits_one (start n : Nat) : bits start 1 n = (n.testBit start).toNat := by
  rw [Nat.toNat_testBit, bits, Nat.pow_one]

/-- Bytes are little-endian bits. -/
theorem bits_bytes (bytes : List UInt8) (i k : Nat) :
    bits (8 * i) (8 * k) (Bytes.ofLe bytes) = Bytes.ofLe ((bytes.drop i).take k) := by
  have byte (n : Nat) : 2 ^ (8 * n) = 256 ^ n := by rw [Nat.pow_mul]
  have above (bs : List UInt8) (n : Nat) : Bytes.ofLe bs / 256 ^ n = Bytes.ofLe (bs.drop n) := by
    induction n generalizing bs with
    | zero => simp
    | succ n ih =>
      cases bs with
      | nil => simp [Bytes.ofLe]
      | cons b bs =>
        have first : (b.toNat + 256 * Bytes.ofLe bs) / 256 = Bytes.ofLe bs := by
          have small := b.toNat_lt
          omega
        rw [List.drop_succ_cons, ← ih, Bytes.ofLe, Nat.pow_succ', ← Nat.div_div_eq_div_mul, first]
  have below (bs : List UInt8) (n : Nat) : Bytes.ofLe bs % 256 ^ n = Bytes.ofLe (bs.take n) := by
    induction n generalizing bs with
    | zero => simp [Bytes.ofLe, Nat.mod_one]
    | succ n ih =>
      cases bs with
      | nil => simp [Bytes.ofLe]
      | cons b bs =>
        have small := b.toNat_lt
        rw [List.take_succ_cons, Bytes.ofLe, Bytes.ofLe, ← ih, Nat.pow_succ', Nat.mod_mul]
        have low : (b.toNat + 256 * Bytes.ofLe bs) % 256 = b.toNat := by omega
        have high : (b.toNat + 256 * Bytes.ofLe bs) / 256 = Bytes.ofLe bs := by omega
        rw [low, high]
  rw [bits, byte, byte, above, below]

theorem bits_byte (bytes : List UInt8) {i : Nat} (inside : i < bytes.length) :
    bits (8 * i) 8 (Bytes.ofLe bytes) = bytes[i].toNat := by
  have one : (bytes.drop i).take 1 = [bytes[i]] := by
    rw [List.drop_eq_getElem_cons inside, List.take_succ_cons, List.take_zero]
  have read := bits_bytes bytes i 1
  rw [one] at read
  simpa [Bytes.ofLe] using read

theorem testBit_byte (bytes : List UInt8) {i j : Nat} (inside : i < bytes.length) (bit : j < 8) :
    (Bytes.ofLe bytes).testBit (8 * i + j) = bytes[i].toNat.testBit j := by
  rw [← bits_byte bytes inside, testBit_bits]
  simp [bit]

/- Items. -/

inductive ItemType where
  | main | global | local | reserved
  deriving DecidableEq, Repr

structure Item where
  type : ItemType
  tag : Nat
  data : List UInt8
  deriving DecidableEq, Repr

namespace Item

def typeOf (head : UInt8) : ItemType :=
  match bits 2 2 head.toNat with
  | 0 => .main
  | 1 => .global
  | 2 => .local
  | _ => .reserved

/-- The size bits stand for 0, 1, 2 and 4 bytes. -/
def dataLength (head : UInt8) : Nat := if bits 0 2 head.toNat = 3 then 4 else bits 0 2 head.toNat

def unsigned (item : Item) : Nat := Bytes.ofLe item.data
def signed (item : Item) : Int := ReportDescriptor.signed (8 * item.data.length) item.unsigned

end Item

/-- A long item and one that is cut off are refused. -/
def itemsFuel : Nat → List UInt8 → Option (List Item)
  | _, [] => some []
  | 0, _ :: _ => none
  | fuel + 1, head :: rest =>
    if head = 0xFE ∨ rest.length < Item.dataLength head then none
    else (itemsFuel fuel (rest.drop (Item.dataLength head))).map fun items =>
      { type := Item.typeOf head, tag := bits 4 4 head.toNat,
        data := rest.take (Item.dataLength head) } :: items

def items (desc : List UInt8) : Option (List Item) := itemsFuel desc.length desc

/- Fields. -/

structure Field where
  page : Nat
  usages : List Nat
  logicalMin : Int
  logicalMax : Int
  size : Nat
  count : Nat
  start : Nat
  flags : Nat
  deriving DecidableEq, Repr

/-- A control and what it reads; `none` where the report says nothing of it. -/
structure Control where
  page : Nat
  usage : Nat
  value : Option Int
  deriving DecidableEq, Repr

def Control.switch (page usage : Nat) (on : Bool) : Control := { page, usage, value := some on.toNat }

namespace Field

def width (f : Field) : Nat := f.size * f.count
def isConstant (f : Field) : Bool := f.flags.testBit 0
def isVariable (f : Field) : Bool := f.flags.testBit 1

def raw (f : Field) (report i : Nat) : Nat := bits (f.start + f.size * i) f.size report

/-- A value outside of the logical range is none. -/
def value (f : Field) (report i : Nat) : Option Int :=
  let v : Int := if f.logicalMin < 0 then signed f.size (f.raw report i) else f.raw report i
  if f.logicalMin ≤ v ∧ v ≤ f.logicalMax then some v else none

theorem value_within {f : Field} (lowest : f.logicalMin = 0) {report i : Nat}
    (highest : (f.raw report i : Int) ≤ f.logicalMax) :
    f.value report i = some (f.raw report i : Int) := by
  simp [value, lowest, highest]

theorem value_whole {f : Field} (lowest : f.logicalMin = 0)
    (highest : (2 : Int) ^ f.size ≤ f.logicalMax + 1) (report i : Nat) :
    f.value report i = some (f.raw report i : Int) := by
  have small : ((f.raw report i : Nat) : Int) < 2 ^ f.size := by
    exact_mod_cast bits_lt (f.start + f.size * i) f.size report
  exact value_within lowest (by omega)

/-- The last usage is that of all further controls. -/
def usageAt (f : Field) (i : Nat) : Nat := f.usages.getD i (f.usages.getLastD 0)

/-- The controls of a variable field have one value each; an entry of an array names the control
that is on. -/
def controls (f : Field) (report : Nat) : List Control :=
  if f.isConstant then []
  else if f.isVariable then
    (List.range f.count).map fun i =>
      { page := f.page, usage := f.usageAt i, value := f.value report i }
  else
    (List.range f.count).filterMap fun i => do
      let v ← f.value report i
      let usage ← f.usages[(v - f.logicalMin).toNat]?
      pure (.switch f.page usage true)

variable {f : Field}

theorem controls_constant (padding : f.isConstant = true) (report : Nat) :
    f.controls report = [] := by
  simp [controls, padding]

theorem controls_variable (kind : f.isConstant = false ∧ f.isVariable = true) (report : Nat) :
    f.controls report = (List.range f.count).map fun i =>
      { page := f.page, usage := f.usageAt i, value := f.value report i } := by
  simp [controls, kind]

/-- A variable field of single bits is a field of switches. -/
theorem controls_switches (kind : f.isConstant = false ∧ f.isVariable = true)
    (range : f.logicalMin = 0 ∧ f.logicalMax = 1) (one : f.size = 1) (report : Nat) :
    f.controls report = (List.range f.count).map fun i =>
      .switch f.page (f.usageAt i) (report.testBit (f.start + i)) := by
  have value (i : Nat) : f.value report i = some (f.raw report i : Int) :=
    value_whole range.1 (by rw [one, range.2]; decide) report i
  simp [controls_variable kind, value, Control.switch, raw, one, bits_one]

theorem controls_array (last : Nat) (kind : f.isConstant = false ∧ f.isVariable = false)
    (range : f.logicalMin = 0 ∧ f.logicalMax = last) (all : f.usages = List.range' 0 (last + 1))
    {report : Nat} (known : ∀ i < f.count, f.raw report i ≤ last) :
    f.controls report = (List.range f.count).map fun i =>
      .switch f.page (f.raw report i) true := by
  have entry (i : Nat) (inside : i ∈ List.range f.count) :
      (do let v ← f.value report i
          let usage ← f.usages[(v - f.logicalMin).toNat]?
          pure (Control.switch f.page usage true)) = some (.switch f.page (f.raw report i) true) := by
    have bound := known i (List.mem_range.mp inside)
    have value : f.value report i = some (f.raw report i : Int) := by
      simp [Field.value, range, bound]
    have usage : f.usages[f.raw report i]? = some (f.raw report i) := by
      rw [all, List.getElem?_range' (by omega)]
      simp
    simp [value, range, usage]
  simp only [controls, kind, Bool.false_eq_true, if_false]
  rw [List.filterMap_congr entry, List.filterMap_eq_map']

end Field

/- The state of a parser: global items stay, local items last until the next main item. -/

structure Globals where
  usagePage : Nat
  logicalMin : Int
  logicalMax : Int
  reportSize : Nat
  reportCount : Nat
  deriving DecidableEq, Repr

structure Locals where
  usages : List Nat
  usageMin : Option Nat
  deriving DecidableEq, Repr

structure Layout where
  inputs : List Field
  outputs : List Field
  deriving DecidableEq, Repr

structure Parser where
  globals : Globals
  locals : Locals
  depth : Nat
  layout : Layout
  deriving DecidableEq, Repr

def width (fields : List Field) : Nat := (fields.map Field.width).sum

namespace Parser

def initial : Parser :=
  { globals := { usagePage := 0, logicalMin := 0, logicalMax := 0, reportSize := 0,
                 reportCount := 0 }
    locals := { usages := [], usageMin := none }, depth := 0
    layout := { inputs := [], outputs := [] } }

def setGlobal (p : Parser) (edit : Globals → Globals) : Parser :=
  { p with globals := edit p.globals }

/-- A main item ends the life of the local items. -/
def clearLocals (p : Parser) : Parser := { p with locals := { usages := [], usageMin := none } }

/-- The field of a main item, behind those that are there. -/
def field (p : Parser) (before : List Field) (flags : Nat) : Field :=
  { page := p.globals.usagePage, usages := p.locals.usages, logicalMin := p.globals.logicalMin,
    logicalMax := p.globals.logicalMax, size := p.globals.reportSize,
    count := p.globals.reportCount, start := width before, flags }

def main (p : Parser) (item : Item) : Option Parser :=
  match item.tag with
  | 8 => some { p.clearLocals with
      layout := { p.layout with
        inputs := p.layout.inputs ++ [p.field p.layout.inputs item.unsigned] } }
  | 9 => some { p.clearLocals with
      layout := { p.layout with
        outputs := p.layout.outputs ++ [p.field p.layout.outputs item.unsigned] } }
  | 10 => some { p.clearLocals with depth := p.depth + 1 }
  | 12 => if p.depth = 0 then none else some { p.clearLocals with depth := p.depth - 1 }
  | _ => none

def global (p : Parser) (item : Item) : Option Parser :=
  match item.tag with
  | 0 => some (p.setGlobal fun g => { g with usagePage := item.unsigned })
  | 1 => some (p.setGlobal fun g => { g with logicalMin := item.signed })
  | 2 => some (p.setGlobal fun g => { g with logicalMax := item.signed })
  | 7 => some (p.setGlobal fun g => { g with reportSize := item.unsigned })
  | 9 => some (p.setGlobal fun g => { g with reportCount := item.unsigned })
  | _ => none

/-- A usage maximum closes the range that the minimum opened. -/
def «local» (p : Parser) (item : Item) : Option Parser :=
  match item.tag with
  | 0 => some { p with locals := { p.locals with usages := p.locals.usages ++ [item.unsigned] } }
  | 1 => some { p with locals := { p.locals with usageMin := some item.unsigned } }
  | 2 => do
    let first ← p.locals.usageMin
    pure { p with locals :=
      { usages := p.locals.usages ++ List.range' first (item.unsigned + 1 - first),
        usageMin := none } }
  | _ => none

def step (p : Parser) (item : Item) : Option Parser :=
  match item.type with
  | .main => p.main item
  | .global => p.global item
  | .local => p.local item
  | .reserved => none

end Parser

/-- The layout of a descriptor whose collections are all closed. -/
def layout (desc : List UInt8) : Option Layout := do
  let items ← items desc
  let p ← items.foldlM Parser.step .initial
  if p.depth = 0 then pure p.layout else none

namespace Layout

def reportSize (l : Layout) : Nat := (width l.inputs + 7) / 8

/-- What a host reads of an input report of the size it expects. -/
def read (l : Layout) (report : List UInt8) : Option (List Control) :=
  if report.length = l.reportSize then
    some (l.inputs.flatMap fun f => f.controls (Bytes.ofLe report))
  else none

end Layout

end ReportDescriptor
