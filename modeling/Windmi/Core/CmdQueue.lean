import Windmi.Core.ControlLoop
import Windmi.Library.Ring

/-!
# The command queue

`CmdQueue` of `src/core/ControlLoop.cpp`: the ring buffer between the web
server, its only producer, and the control loop, its only consumer.  A push
takes effect when it stores the tail and a pop when it stores the head.
-/

namespace Windmi.Core

open Windmi.Library

def cmdQueueCapacity : Nat := 16

abbrev CmdQueue := Ring Command cmdQueueCapacity

namespace CmdQueue

/-- A new queue; what its slots hold is never looked at. -/
def create : CmdQueue :=
  Ring.empty (fun _ => { type := .setDhwTemp }) (by decide)

def push (cmd : Command) (queue : CmdQueue) : Bool × CmdQueue :=
  Ring.push cmd queue

def pop (queue : CmdQueue) : Option Command × CmdQueue :=
  Ring.pop queue

/-- Fifteen commands fit. -/
def HasRoom (queue : CmdQueue) : Prop :=
  queue.contents.length < 15

instance (queue : CmdQueue) : Decidable queue.HasRoom :=
  inferInstanceAs (Decidable (_ < 15))

theorem push_of_room {queue : CmdQueue} (room : queue.HasRoom)
    (cmd : Command) :
    (queue.push cmd).1 = true ∧
      (queue.push cmd).2.contents = queue.contents ++ [cmd] :=
  Ring.push_of_room cmd (Nat.succ_lt_succ room)

theorem push_of_full {queue : CmdQueue} (full : ¬ queue.HasRoom)
    (cmd : Command) : queue.push cmd = (false, queue) :=
  Ring.push_of_full cmd fun room => full (Nat.lt_of_succ_lt_succ room)

theorem pop_contents (queue : CmdQueue) :
    queue.pop.1.toList ++ queue.pop.2.contents = queue.contents :=
  Ring.pop_contents

end CmdQueue

end Windmi.Core
