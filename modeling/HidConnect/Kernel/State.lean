import HidConnect.Kernel.Observation
import HidConnect.Library.DropOldest

/-! The state model of the kernel: the last observation, and queues of what happened lately. -/
namespace HidConnect.Kernel

def eventQueueCap : Nat := 1024
def actionResultCap : Nat := 256

structure StateModel where
  lastObservation : Option Observation
  eventQueue : List Observation
  recentActionResults : List (ActionId × ActionResult)

namespace StateModel

def new : StateModel := { lastObservation := none, eventQueue := [], recentActionResults := [] }

def recordObservation (m : StateModel) (obs : Observation) : StateModel :=
  { m with eventQueue := DropOldest.push eventQueueCap m.eventQueue obs, lastObservation := some obs }

def recordActionResult (m : StateModel) (id : ActionId) (result : ActionResult) : StateModel :=
  { m with recentActionResults := DropOldest.push actionResultCap m.recentActionResults (id, result) }

/-- The newest result of this id. -/
def actionResult (m : StateModel) (id : ActionId) : Option ActionResult :=
  (m.recentActionResults.reverse.find? fun r => r.1 == id).map Prod.snd

end StateModel

end HidConnect.Kernel
