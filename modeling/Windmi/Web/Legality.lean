import Windmi.Core.Provenance
import Windmi.Web.System

/-!
# Which setpoints a request can cause

The handlers check the range of a setpoint before its command is queued.  The
control loop checks nothing: in mode 3 it writes back whatever it found in a
target register.  A value outside of the range is written exactly where such a
target is restored.
-/

namespace Windmi.Web

open Windmi.Core
open Windmi.Library
open Windmi.Modbus

variable {Device : Type}

/-! ## Legal values -/

/-- The lowest raw value of the range in the register specification. -/
def lowestRaw (circuit : Circuit) : Int :=
  if circuit.setKind = .setDhwTemp then 400 else 250

/-- The raw value lies in the range of the register specification. -/
structure Legal (circuit : Circuit) (value : Word) : Prop where
  lower : lowestRaw circuit ≤ value.toInt
  upper : value.toInt ≤ 630

instance (circuit : Circuit) (value : Word) :
    Decidable (Legal circuit value) :=
  decidable_of_iff
    (lowestRaw circuit ≤ value.toInt ∧ value.toInt ≤ 630)
    ⟨fun both => ⟨both.1, both.2⟩, fun legal => ⟨legal.lower, legal.upper⟩⟩

/-- Only legal values were written to the target register. -/
def WritesLegal (circuit : Circuit) (history : List Event) : Prop :=
  ∀ value accepted desired,
    .write circuit.register value accepted desired ∈ history →
      Legal circuit value

/-- The target which the loop has learned is legal, if there is one. -/
def LearnedLegal (circuit : Circuit) (world : World Device) : Prop :=
  ∀ temp, circuit.learned world.bus.history = some temp →
    Legal circuit (tempToRaw temp)

/-- The raw values of a range of temperatures. -/
theorem toInt_tempToRaw_mem_Icc {temp : ℚ} {lower upper : ℤ}
    (above : (lower : ℚ) ≤ temp * 10) (below : temp * 10 ≤ upper)
    (low : -32768 ≤ lower) (high : upper ≤ 32767) :
    lower ≤ (tempToRaw temp).toInt ∧ (tempToRaw temp).toInt ≤ upper := by
  have fits : Representable temp :=
    ⟨le_trans (by exact_mod_cast low) above,
      below.trans (by exact_mod_cast high)⟩
  exact toInt_tempToRaw_between above below low (by omega) fits

/-- The setpoints which the API admits are legal. -/
theorem legal_of_inRange {circuit : Circuit} {cmd : Command}
    (member : circuit ∈ [dhwCircuit, heatingCircuit])
    (inRange : cmd.SetpointInRange) (kind : cmd.type = circuit.setKind) :
    Legal circuit (tempToRaw cmd.floatVal) := by
  rcases Circuit.dhw_or_heating member with rfl | rfl
  · rcases inRange.dhw kind with ⟨above, below⟩
    unfold dhwTempMin at above
    unfold dhwTempMax at below
    have range := @toInt_tempToRaw_mem_Icc cmd.floatVal 400 630
      (by push_cast; linarith) (by push_cast; linarith) (by decide)
      (by decide)
    exact ⟨range.1, range.2⟩
  · rcases inRange.heating kind with ⟨above, below⟩
    unfold heatingTempMin at above
    unfold heatingTempMax at below
    have range := @toInt_tempToRaw_mem_Icc cmd.floatVal 250 630
      (by push_cast; linarith) (by push_cast; linarith) (by decide)
      (by decide)
    exact ⟨range.1, range.2⟩

/-- The constant of the constructor is legal. -/
theorem legal_default {circuit : Circuit}
    (member : circuit ∈ [dhwCircuit, heatingCircuit]) :
    Legal circuit (tempToRaw circuit.default) := by
  rcases Circuit.dhw_or_heating member with rfl | rfl <;> decide +kernel

/-! ## Requests -/

/-- Rounding to a float does not leave a range with integer bounds. -/
theorem toFloat_mem_Icc {value : ℚ} {lower upper : ℤ}
    (above : (lower : ℚ) ≤ value) (below : value ≤ upper)
    (small : |value| < 2 ^ 24) :
    (lower : ℚ) ≤ toFloat value ∧ toFloat value ≤ upper :=
  ⟨le_roundTo small above, roundTo_le small below⟩

/-- A request passes its checks only with a setpoint in range. -/
theorem setpointInRange_of_command {json : MgJson} {request : Request}
    {cmd : Command} (asks : request.command json = some cmd) :
    cmd.SetpointInRange := by
  have parsed := (Request.command_eq_some.mp asks).2
  rcases request with ⟨api, body⟩
  cases api with
  | setDhw =>
      rcases parseTemperature_ok parsed with
        ⟨temperature, -, above, below, rfl⟩
      unfold dhwTempMin at above
      unfold dhwTempMax at below
      have small : |temperature| < 2 ^ 24 := by
        rw [abs_lt]
        constructor <;> linarith
      have range := @toFloat_mem_Icc temperature 40 63 above below small
      exact ⟨fun _ => range, fun other => CommandType.noConfusion other⟩
  | setHeating =>
      rcases parseTemperature_ok parsed with
        ⟨temperature, -, above, below, rfl⟩
      unfold heatingTempMin at above
      unfold heatingTempMax at below
      have small : |temperature| < 2 ^ 24 := by
        rw [abs_lt]
        constructor <;> linarith
      have range := @toFloat_mem_Icc temperature 25 63 above below small
      exact ⟨fun other => CommandType.noConfusion other, fun _ => range⟩
  | setPriority =>
      rcases parsePriority_ok parsed with ⟨priority, -, dhw | heating⟩
      · rw [dhw.2]
        exact ⟨CommandType.noConfusion, CommandType.noConfusion⟩
      · rw [heating.2.2]
        exact ⟨CommandType.noConfusion, CommandType.noConfusion⟩
  | setMode =>
      rw [(parseMode_ok parsed).2]
      exact ⟨CommandType.noConfusion, CommandType.noConfusion⟩
  | setOccupancy =>
      rw [(parseOccupancy_ok parsed).2.2]
      exact ⟨CommandType.noConfusion, CommandType.noConfusion⟩

/-! ## Runs -/

/-- The step ends a drain, and an iteration processes its commands. -/
structure System.Concludes (system : System Device) (step : Step) :
    Prop where
  loop : step = .loop
  draining : system.phase = .draining
  empty : system.server.popCommand.1 = none

/-- A write must be legal. -/
def legality {circuit : Circuit}
    (member : circuit ∈ [dhwCircuit, heatingCircuit]) :
    WritePolicy circuit where
  allows _ value := Legal circuit value
  steady _ _ _ _ := Iff.rfl
  minimum _ := by
    rcases Circuit.dhw_or_heating member with rfl | rfl <;> decide +kernel

section

variable {circuit : Circuit}
  (member : circuit ∈ [dhwCircuit, heatingCircuit])

theorem writesLegal_iff {world : World Device} :
    WritesLegal circuit world.bus.history ↔
      (legality member).Obeyed world := by
  rw [WritePolicy.Obeyed, lawful_iff]
  constructor
  · intro legal newer event earlier split
    cases event with
    | write address value accepted desired =>
        rintro rfl
        refine legal value accepted desired ?_
        rw [split]
        exact List.mem_append_right _ (List.mem_cons_self ..)
    | _ => trivial
  · intro obeyed value accepted desired happened
    rcases List.append_of_mem happened with ⟨newer, earlier, split⟩
    exact obeyed newer _ earlier split rfl

/-- Restoring the saved target is allowed if the learned one is legal. -/
theorem allowsSaved_iff_learnedLegal {world : World Device}
    (saved : circuit.saved world.loop =
      (circuit.learned world.bus.history).getD circuit.default) :
    (legality member).AllowsSaved world ↔ LearnedLegal circuit world := by
  unfold WritePolicy.AllowsSaved LearnedLegal
  rw [saved]
  cases circuit.learned world.bus.history with
  | none =>
      refine iff_of_true ?_ fun temp impossible => ?_
      · exact legal_default member
      · cases impossible
  | some temp =>
      constructor
      · rintro legal _ ⟨⟩
        exact legal
      · exact fun legal => legal temp rfl

/-- Each step is harmless unless it concludes a drain. -/
theorem keptIf_step (json : MgJson) (client : IModbusClient Device)
    {system : System Device}
    (carries : system.Carries Command.SetpointInRange)
    (accounted : circuit.Accounted system.world) (step : Step) :
    (legality member).KeptIf
      (system.Concludes step →
        circuit.RestoresOnly client (LearnedLegal circuit) system.batch
          system.world)
      system.world (system.step json client step).world := by
  have harmless : ¬ system.Concludes step →
      (True ↔ (system.Concludes step →
        circuit.RestoresOnly client (LearnedLegal circuit) system.batch
          system.world)) :=
    fun unconcluded => iff_of_true trivial
      fun concludes => absurd concludes unconcluded
  have unchanged : (legality member).KeptIf True system.world system.world :=
    WritePolicy.KeptIf.refl _
  cases step with
  | request request =>
      exact unchanged.congr
        (harmless fun concludes => Step.noConfusion concludes.loop)
  | loop =>
      simp only [System.step]
      split
      case h_1 waiting =>
        have unconcluded : ¬ system.Concludes .loop := by
          intro concludes
          rw [concludes.draining] at waiting
          cases waiting
        unfold System.connect
        split
        · exact unchanged.congr (harmless unconcluded)
        · exact unchanged.congr (harmless unconcluded)
      case h_2 draining =>
        unfold System.drain
        split
        case h_1 cmd server popping =>
          refine unchanged.congr (harmless fun concludes => ?_)
          have empty := concludes.empty
          rw [popping] at empty
          cases empty
        case h_2 server popping =>
          have concludes : system.Concludes .loop :=
            ⟨rfl, draining, by rw [popping]⟩
          refine ((legality member).keptIf_iteration client system.world
            member fun cmd inside kind earlier =>
              legal_of_inRange member (carries.batch cmd inside) kind).congr
                ?_
          rw [accounted.restoresOnly_congr member client
            (fun world saved => allowsSaved_iff_learnedLegal member saved)]
          exact (imp_iff_right concludes).symm

/-- The commands are in range and the saved target is the learned one. -/
structure Supplied (circuit : Circuit) (system : System Device) :
    Prop where
  carries : system.Carries Command.SetpointInRange
  accounted : circuit.Accounted system.world

include member

theorem supplied_start (client : IModbusClient Device)
    (settings : Settings) (device : Device) :
    Supplied circuit (System.start client settings.loop device) where
  carries := System.start_carries _ client settings.loop device
  accounted := Circuit.accounted_start member client settings device

theorem Supplied.step {system : System Device}
    (supplied : Supplied circuit system) (json : MgJson)
    (client : IModbusClient Device) (step : Step) :
    Supplied circuit (system.step json client step) where
  carries := supplied.carries.step json client
    fun _ _ _ asks => setpointInRange_of_command asks
  accounted := System.step_world circuit.Accounted
    (fun _ _ known => ⟨known.saved, known.settled⟩)
    (fun known => known.iteration member client system.batch) step
    supplied.accounted

end

/--
All setpoints that a run writes are legal if and only if wherever an iteration
restores a target, the one which the loop has learned is legal.
-/
theorem setpoints_legal_iff (json : MgJson) (client : IModbusClient Device)
    (settings : Settings) (device : Device) (steps : List Step) :
    (∀ circuit ∈ [dhwCircuit, heatingCircuit],
      WritesLegal circuit
        ((System.start client settings.loop device).run json client
          steps).world.bus.history) ↔
      ∀ circuit ∈ [dhwCircuit, heatingCircuit],
        ∀ earlier step later, steps = earlier ++ step :: later →
          let system :=
            (System.start client settings.loop device).run json client
              earlier
          system.Concludes step →
            circuit.RestoresOnly client (LearnedLegal circuit) system.batch
              system.world := by
  refine forall₂_congr fun circuit member => ?_
  let start := System.start client settings.loop device
  have obeyed : (legality member).Obeyed start.world :=
    ((legality member).keptIf_publishInitialStatus client
      (initialWorld settings device)).mpr ⟨lawful_nil _, trivial⟩
  have run := @conserved_iff_of_invariant _ _ (System.step json client)
    (fun system step => system.Concludes step →
      circuit.RestoresOnly client (LearnedLegal circuit) system.batch
        system.world)
    (Supplied circuit) (fun system => (legality member).Obeyed system.world)
    start steps (supplied_start member client settings device)
    (fun _ step _ supplied => supplied.step member json client step)
    (fun _ step _ supplied => keptIf_step member json client supplied.carries
      supplied.accounted step)
  rw [writesLegal_iff member]
  exact run.trans (and_iff_right obeyed)

/-! ## A tank that is too hot -/

/-- Somebody has set the tank to 70 °C at the device itself. -/
def scalding : RegisterFile := fun address =>
  if address = regDhwTarget then 700 else 450

/-- The loop polls it, and restores it when the mode is selected. -/
def selectedScalding : System RegisterFile :=
  (System.start registerFile defaultSettings.loop scalding).run
    (modeJson "\x7b\"mode\":3\x7d" 3) registerFile
    (selectMode "\x7b\"mode\":3\x7d")

theorem illegal_setpoint_written :
    ¬ ∀ circuit ∈ [dhwCircuit, heatingCircuit],
      WritesLegal circuit selectedScalding.world.bus.history := by
  intro legal
  have happened : .write dhwCircuit.register 700 true 3 ∈
      selectedScalding.world.bus.history := by
    decide +kernel
  exact absurd
    (legal dhwCircuit (List.mem_cons_self ..) 700 true 3 happened)
    (by decide +kernel)

end Windmi.Web
