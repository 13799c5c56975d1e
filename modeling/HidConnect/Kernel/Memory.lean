import Mathlib.Data.List.AList
import HidConnect.Kernel.Observation
import HidConnect.Library.Lru
import HidConnect.Library.Run

/-! What worked on a screen before: the memory of the kernel. -/
namespace HidConnect.Kernel

structure ActionSequence where
  successes : List Action
  failures : List (Action × String)
  deriving DecidableEq

/-- `ActionSequence::default()` -/
def ActionSequence.blank : ActionSequence := { successes := [], failures := [] }

/-- The LRU list has the oldest screen at its front. -/
structure Memory where
  entries : AList fun _ : ScreenId => ActionSequence
  lru : List ScreenId
  hitCount : Nat
  missCount : Nat

namespace Memory

def maxEntries : Nat := 1024

def new : Memory := { entries := ∅, lru := [], hitCount := 0, missCount := 0 }

def len (m : Memory) : Nat := m.entries.keys.length

def touchLru (m : Memory) (screenId : ScreenId) : Memory :=
  let rest :=
    match m.lru.idxOf? screenId with
    | some pos => m.lru.eraseIdx pos
    | none => m.lru
  { m with lru := rest ++ [screenId] }

def lookup (m : Memory) (screenId : ScreenId) : Option ActionSequence × Memory :=
  if screenId ∈ m.entries then
    (m.entries.lookup screenId, { m with hitCount := m.hitCount + 1 }.touchLru screenId)
  else (none, { m with missCount := m.missCount + 1 })

/-- The inner loop: pop the front of the list up to a screen that still has an entry. -/
def popVictim : List ScreenId → (AList fun _ : ScreenId => ActionSequence) →
    List ScreenId × AList fun _ : ScreenId => ActionSequence
  | [], entries => ([], entries)
  | victim :: lru, entries =>
    if victim ∈ entries then (lru, entries.erase victim) else popVictim lru entries

/-- The outer loop. There is no result where the turns are too few. -/
def evictLoop : Nat → Memory → Option Memory
  | 0, _ => none
  | turns + 1, m =>
    if maxEntries < m.len then
      let m' := { m with lru := (popVictim m.lru m.entries).1, entries := (popVictim m.lru m.entries).2 }
      if maxEntries < m'.len ∧ m'.lru.isEmpty then some m' else evictLoop turns m'
    else some m

def maybeEvict (m : Memory) : Option Memory := evictLoop (m.lru.length + 1) m

/-- `entry(screen_id).or_default()`, changed in place. -/
def changeEntry (m : Memory) (screenId : ScreenId) (f : ActionSequence → ActionSequence) : Memory :=
  { m with entries := m.entries.insert screenId (f ((m.entries.lookup screenId).getD .blank)) }

def succeeded (action : Action) (entry : ActionSequence) : ActionSequence :=
  { entry with successes := entry.successes ++ [action] }

def failed (action : Action) (reason : String) (entry : ActionSequence) : ActionSequence :=
  { entry with failures := entry.failures ++ [(action, reason)] }

def recordSuccess (m : Memory) (screenId : ScreenId) (action : Action) : Option Memory :=
  ((m.changeEntry screenId (succeeded action)).touchLru screenId).maybeEvict

def recordFailure (m : Memory) (screenId : ScreenId) (action : Action) (reason : String) :
    Option Memory :=
  ((m.changeEntry screenId (failed action reason)).touchLru screenId).maybeEvict

end Memory

inductive MemoryOp where
  | lookup (screenId : ScreenId)
  | recordSuccess (screenId : ScreenId) (action : Action)
  | recordFailure (screenId : ScreenId) (action : Action) (reason : String)

namespace MemoryOp

def asLru : MemoryOp → Lru.Op ScreenId ActionSequence
  | lookup screenId => .use screenId
  | recordSuccess screenId action =>
    .change screenId fun entry => Memory.succeeded action (entry.getD .blank)
  | recordFailure screenId action reason =>
    .change screenId fun entry => Memory.failed action reason (entry.getD .blank)

def isLookup : MemoryOp → Bool
  | lookup _ => true
  | _ => false

end MemoryOp

/-- The answers to the lookups of a run, and the memory after it. -/
def Memory.run : Memory → List MemoryOp → Option (List (Option ActionSequence) × Memory)
  | m, [] => some ([], m)
  | m, .lookup screenId :: rest =>
    ((m.lookup screenId).2.run rest).map fun r => ((m.lookup screenId).1 :: r.1, r.2)
  | m, .recordSuccess screenId action :: rest =>
    (m.recordSuccess screenId action).bind fun m' => m'.run rest
  | m, .recordFailure screenId action reason :: rest =>
    (m.recordFailure screenId action reason).bind fun m' => m'.run rest

end HidConnect.Kernel
