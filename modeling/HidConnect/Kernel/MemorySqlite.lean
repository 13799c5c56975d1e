import HidConnect.Kernel.Recency

/-! The memory of the kernel, kept in a table from which it is read back after a restart. -/
namespace HidConnect.Kernel

namespace Memory

theorem recordSuccess_isSome (m : Memory) (screenId : ScreenId) (action : Action) :
    (m.recordSuccess screenId action).isSome = true := evictLoop_ends (Nat.lt_succ_self _)

theorem recordFailure_isSome (m : Memory) (screenId : ScreenId) (action : Action) (reason : String) :
    (m.recordFailure screenId action reason).isSome = true := evictLoop_ends (Nat.lt_succ_self _)

def withSuccess (m : Memory) (screenId : ScreenId) (action : Action) : Memory :=
  (m.recordSuccess screenId action).get (recordSuccess_isSome m screenId action)

def withFailure (m : Memory) (screenId : ScreenId) (action : Action) (reason : String) : Memory :=
  (m.recordFailure screenId action reason).get (recordFailure_isSome m screenId action reason)

def peek (m : Memory) (screenId : ScreenId) : Option ActionSequence := m.entries.lookup screenId

end Memory

/-- The rows of the table `screens`, by their primary key. -/
abbrev Screens := AList fun _ : ScreenId => ActionSequence

/-- A row as a query gives it. -/
abbrev Row := Sigma fun _ : ScreenId => ActionSequence

def hydrateRow (m : Memory) (row : Row) : Memory :=
  row.2.failures.foldl (fun m f => m.withFailure row.1 f.1 f.2)
    (row.2.successes.foldl (fun m action => m.withSuccess row.1 action) m)

/-- The memory that `open` returns, for rows in the order in which the query gives them. -/
def hydrate (rows : List Row) : Memory := rows.foldl hydrateRow .new

/-- `INSERT OR REPLACE` -/
def persistScreen (table : Screens) (screenId : ScreenId) (entry : ActionSequence) : Screens :=
  table.insert screenId entry

/-- What the daemon remembers; there is no table where it has no connection. -/
structure Persistent where
  memory : Memory
  sqlite : Option Screens

namespace Persistent

/-- `persists` says whether the statement succeeds. -/
def recordSuccess (s : Persistent) (screenId : ScreenId) (action : Action) (persists : Bool) :
    Persistent :=
  let memory := s.memory.withSuccess screenId action
  { memory
    sqlite := s.sqlite.map fun table =>
      match memory.peek screenId with
      | some entry => if persists then persistScreen table screenId entry else table
      | none => table }

end Persistent

/-- Rows in some order: the query asks for none. -/
structure RowOrder where
  order : List Row → List Row
  perm : ∀ rows, (order rows).Perm rows

/-- A daemon, and all that was ever recorded in its table. -/
structure StoreRun where
  shared : Persistent
  recorded : List (ScreenId × Action)

inductive StoreOp where
  | recordSuccess (screenId : ScreenId) (action : Action)
  | restart (rows : RowOrder)

namespace StoreRun

/-- The first start, which creates the table. -/
def new : StoreRun := { shared := { memory := hydrate [], sqlite := some ∅ }, recorded := [] }

def table (s : StoreRun) : Screens := s.shared.sqlite.getD ∅

def step (s : StoreRun) : StoreOp → StoreRun
  | .recordSuccess screenId action =>
    { shared := s.shared.recordSuccess screenId action true
      recorded := s.recorded ++ [(screenId, action)] }
  | .restart rows =>
    { s with shared := { memory := hydrate (rows.order s.table.entries), sqlite := some s.table } }

/-- All successes ever recorded for the screen. -/
def history (s : StoreRun) (screenId : ScreenId) : List Action :=
  (s.recorded.filter fun r => decide (r.1 = screenId)).map Prod.snd

/-- Were the daemon started again now, every screen it retains would have all its successes. -/
def Faithful (s : StoreRun) : Prop :=
  ∀ rows : RowOrder, ∀ screenId entry,
    (hydrate (rows.order s.table.entries)).peek screenId = some entry →
      entry.successes = s.history screenId

/-- A screen that has a row is not recorded again after it was evicted. -/
def Remembered (s : StoreRun) : StoreOp → Prop
  | .recordSuccess screenId _ => screenId ∈ s.table → screenId ∈ s.shared.memory.entries
  | .restart _ => True

end StoreRun

end HidConnect.Kernel
