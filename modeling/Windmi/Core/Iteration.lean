import Windmi.Core.ReadStatus

/-!
# Commands, control logic and the main loop

`processCommands`, `applyControlLogic` and the loop body of `threadFunc`.  A
batch is the list of commands which one call of `processCommands` pops from
the queue.
-/

namespace Windmi.Core

open Windmi.Modbus

variable {Device : Type}

/-! ## Processing commands -/

/-- The switch of `processCommands` from a working mode to a device mode. -/
def targetDeviceMode (workingMode : Int) : Int :=
  match workingMode with
  | 0 => modeSetOff
  | 1 => modeSetHeatDhw
  | 2 => modeSetHeatDhw
  | 3 => modeSetHeatDhw
  | _ => modeSetHeatDhw

/-- Targets and priority which a mode command sets once the mode is written. -/
def overrideTargets (client : IModbusClient Device) (workingMode : Int)
    (world : World Device) : World Device :=
  match workingMode with
  | 1 =>
      let world := (setHeatingTarget client heatingTargetMin world).2
      (writePriority client 1 .dhw world).2
  | 2 =>
      let world := (setDhwTarget client dhwTargetMin world).2
      (writePriority client 0 .heating world).2
  | 3 =>
      let world := (setDhwTarget client world.loop.savedDhwTarget world).2
      let world :=
        (setHeatingTarget client world.loop.savedHeatingTarget world).2
      (writePriority client 1 .dhw world).2
  | _ => world

def processSetDhwTemp (client : IModbusClient Device) (temp : ℚ)
    (world : World Device) : World Device :=
  (setDhwTarget client temp world).2.updateLoop
    fun loop => { loop with savedDhwTarget := temp }

def processSetHeatingTemp (client : IModbusClient Device) (temp : ℚ)
    (world : World Device) : World Device :=
  (setHeatingTarget client temp world).2.updateLoop
    fun loop =>
      { loop with lastHeatingTarget := temp, savedHeatingTarget := temp }

def processSetPriority (client : IModbusClient Device) (value : Int)
    (world : World Device) : World Device :=
  let attempt :=
    writePriority client (BitVec.ofInt 16 value)
      (if value = 1 then .dhw else .heating) world
  if attempt.1 then attempt.2.fireSettingsCallback else attempt.2

def processSetOccupancyMode (client : IModbusClient Device) (value : Int)
    (world : World Device) : World Device :=
  (world.writeRegister client regOccupancyMode (BitVec.ofInt 16 value)).2

/-- A failed mode write leaves the targets and the priority alone. -/
def processSetRunningMode (client : IModbusClient Device)
    (workingMode : Int) (world : World Device) : World Device :=
  let world :=
    (world.updateLoop fun loop =>
      { loop with desiredWorkingMode := workingMode }).fireSettingsCallback
  let attempt := setRunningMode client (targetDeviceMode workingMode) world
  if attempt.1 = 0 then
    overrideTargets client workingMode
      (attempt.2.updateLoop fun loop =>
        { loop with currentMode := targetDeviceMode workingMode })
  else
    attempt.2

/-- The body of the loop of `processCommands`. -/
def processCommand (client : IModbusClient Device) (cmd : Command)
    (world : World Device) : World Device :=
  let world := world.emit (.command cmd)
  match cmd.type with
  | .setDhwTemp => processSetDhwTemp client cmd.floatVal world
  | .setHeatingTemp => processSetHeatingTemp client cmd.floatVal world
  | .setPriority => processSetPriority client cmd.intVal world
  | .setOccupancyMode => processSetOccupancyMode client cmd.intVal world
  | .setRunningMode => processSetRunningMode client cmd.intVal world

def processCommands (client : IModbusClient Device) (batch : List Command)
    (world : World Device) : World Device :=
  batch.foldl (fun world cmd => processCommand client cmd world) world

/-- A batch around one of its commands. -/
theorem processCommands_append_cons (client : IModbusClient Device)
    (earlier later : List Command) (cmd : Command) (world : World Device) :
    processCommands client (earlier ++ cmd :: later) world =
      processCommands client later
        (processCommand client cmd
          (processCommands client earlier world)) := by
  simp only [processCommands, List.foldl_append, List.foldl_cons]

/-! ## Control logic -/

/-- The switch of `applyControlLogic` from a working mode to a device mode. -/
def desiredDeviceMode (workingMode : Int) : Int :=
  match workingMode with
  | 0 => modeSetOff
  | 1 => modeSetHeatDhw
  | 2 => modeSetHeatDhw
  | 3 => modeSetHeatDhw
  | _ => modeSetHeatDhw

/-- The device mode is written only if the shadow mode differs from it. -/
def correctDeviceMode (client : IModbusClient Device)
    (world : World Device) : World Device :=
  let mode := desiredDeviceMode world.loop.desiredWorkingMode
  if world.loop.currentMode ≠ mode then
    let attempt := setRunningMode client mode world
    if attempt.1 = 0 then
      attempt.2.updateLoop fun loop => { loop with currentMode := mode }
    else
      attempt.2
  else
    world

/-- Restore a saved target that differs from the polled one by over 0.5 °C. -/
def restoreDhwTarget (client : IModbusClient Device)
    (status : StatusSnapshot) (world : World Device) : World Device :=
  if Apart status.dhwTarget world.loop.savedDhwTarget then
    (setDhwTarget client world.loop.savedDhwTarget world).2
  else
    world

def restoreHeatingTarget (client : IModbusClient Device)
    (status : StatusSnapshot) (world : World Device) : World Device :=
  if Apart status.heatingTarget world.loop.savedHeatingTarget then
    (setHeatingTarget client world.loop.savedHeatingTarget world).2
  else
    world

def enforceTargets (client : IModbusClient Device)
    (status : StatusSnapshot) (world : World Device) : World Device :=
  match world.loop.desiredWorkingMode with
  | 1 =>
      if status.heatingTarget > heatingTargetMin + 1 / 2 then
        (setHeatingTarget client heatingTargetMin world).2
      else
        world
  | 2 =>
      if status.dhwTarget > dhwTargetMin + 1 / 2 then
        (setDhwTarget client dhwTargetMin world).2
      else
        world
  | 3 =>
      restoreHeatingTarget client status
        (restoreDhwTarget client status world)
  | _ => world

/-- The priority is compared with its copy in memory, not with the device. -/
def enforcePriority (client : IModbusClient Device)
    (world : World Device) : World Device :=
  match world.loop.desiredWorkingMode with
  | 1 | 3 =>
      if world.loop.currentPriority ≠ .dhw then
        (writePriority client 1 .dhw world).2
      else
        world
  | 2 =>
      if world.loop.currentPriority ≠ .heating then
        (writePriority client 0 .heating world).2
      else
        world
  | _ => world

def applyControlLogic (client : IModbusClient Device)
    (status : StatusSnapshot) (world : World Device) : World Device :=
  let world := world.emit .control
  let world := correctDeviceMode client world
  let world := enforceTargets client status world
  enforcePriority client world

/-! ## The thread function -/

/-- The snapshot which the loop publishes before its first iteration. -/
def publishInitialStatus (client : IModbusClient Device)
    (world : World Device) : World Device :=
  let poll := readStatus client {} world
  if poll.ok then
    poll.world.emit
      (.publish
        { poll.status with
          deviceOnline := true
          workingMode := poll.world.loop.desiredWorkingMode })
  else
    poll.world

/-- Control and publish after a poll; only a failed poll skips the control. -/
def concludeIteration (client : IModbusClient Device)
    (poll : Poll Device) : World Device :=
  if poll.ok then
    let world := applyControlLogic client poll.status poll.world
    world.emit
      (.publish
        { poll.status with workingMode := world.loop.desiredWorkingMode })
  else
    poll.world.emit
      (.publish
        { poll.status with
          deviceOnline := false
          workingMode := poll.world.loop.desiredWorkingMode })

/-- The rest of a pass of the main loop, once connected. -/
def iteration (client : IModbusClient Device) (batch : List Command)
    (world : World Device) : World Device :=
  concludeIteration client
    (readStatus client {} (processCommands client batch world))

/-- Any number of iterations in a row. -/
def iterations (client : IModbusClient Device)
    (batches : List (List Command)) (world : World Device) : World Device :=
  batches.foldl (fun world batch => iteration client batch world) world

/-- Attempts to connect, up to the first that succeeds. -/
def reconnect (client : IModbusClient Device) :
    Nat → Device → Bool × Device
  | 0, device => (false, device)
  | retries + 1, device =>
      let attempt := client.connect device
      if attempt.1 then (true, attempt.2)
      else reconnect client retries attempt.2

/-- One pass of the main loop, which skips the rest without a connection. -/
def pass (client : IModbusClient Device) (batch : List Command)
    (world : World Device) : World Device :=
  if client.isConnected world.bus.device then
    iteration client batch world
  else
    let attempt := reconnect client modbusMaxRetries world.bus.device
    let world := world.setDevice attempt.2
    if attempt.1 then iteration client batch world else world

/-- Whether a pass gets a connection, and the world after that. -/
def connection (client : IModbusClient Device) (world : World Device) :
    Bool × World Device :=
  if client.isConnected world.bus.device then
    (true, world)
  else
    let attempt := reconnect client modbusMaxRetries world.bus.device
    (attempt.1, world.setDevice attempt.2)

theorem pass_eq (client : IModbusClient Device) (batch : List Command)
    (world : World Device) :
    pass client batch world =
      if (connection client world).1 then
        iteration client batch (connection client world).2
      else
        (connection client world).2 := by
  unfold pass connection
  split <;> rfl

/-- Any number of passes, each with the commands it finds. -/
def runLoop (client : IModbusClient Device)
    (batches : List (List Command)) (world : World Device) : World Device :=
  batches.foldl (fun world batch => pass client batch world) world

/-- `threadFunc` from its start on. -/
def threadRun (client : IModbusClient Device) (loop : ControlLoop)
    (device : Device) (batches : List (List Command)) : World Device :=
  runLoop client batches
    (publishInitialStatus client
      { loop := loop, bus := { device := device, history := [] } })

/-- While the connection holds, the loop just iterates. -/
theorem runLoop_of_connected {client : IModbusClient Device}
    (connected : ∀ device, client.isConnected device = true)
    (batches : List (List Command)) (world : World Device) :
    runLoop client batches world = iterations client batches world := by
  unfold runLoop iterations
  congr 1
  funext world batch
  rw [pass, if_pos (connected _)]

/-! ## Induction over runs -/

theorem pass_induction {motive : World Device → Prop}
    {client : IModbusClient Device} {batch : List Command}
    (reconnected : ∀ device world, motive world →
      motive (world.setDevice device))
    (iterated : ∀ world, motive world → motive (iteration client batch world))
    {world : World Device} (start : motive world) :
    motive (pass client batch world) := by
  simp only [pass]
  split_ifs
  · exact iterated world start
  · exact iterated _ (reconnected _ world start)
  · exact reconnected _ world start

/-- What reconnecting and iterations preserve holds after any run. -/
theorem runLoop_induction {motive : World Device → Prop}
    {client : IModbusClient Device} {batches : List (List Command)}
    (reconnected : ∀ device world, motive world →
      motive (world.setDevice device))
    (iterated : ∀ world, motive world → ∀ batch ∈ batches,
      motive (iteration client batch world))
    {world : World Device} (start : motive world) :
    motive (runLoop client batches world) :=
  List.foldlRecOn batches _ start fun _ previous batch member =>
    pass_induction reconnected
      (fun world reached => iterated world reached batch member) previous

end Windmi.Core
