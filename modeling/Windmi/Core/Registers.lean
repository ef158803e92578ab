import Mathlib.Data.Rat.Defs
import Mathlib.Algebra.Order.Ring.Rat

/-!
# Register map and limits

The constants of `include/config.h` which the control loop uses.  A register
is a 16-bit word, read back as a signed number; temperatures are exact
rationals.
-/

namespace Windmi.Core

/-- A 16-bit register address. -/
abbrev Address := BitVec 16

/-- The content of a register. -/
abbrev Word := BitVec 16

instance : LawfulBEq Address :=
  inferInstance

/-! ## Register addresses -/

def regOutdoorTemp : Address := 0x0001
def regIndoorTemp : Address := 0x0002
def regEnteringWaterTemp : Address := 0x0003
def regLeavingWaterTemp : Address := 0x0004
def regRunningStatus : Address := 0x002D
def regDhwModeStatus : Address := 0x00C9
def regDhwPriority : Address := 0x02BF
def regRunningMode : Address := 0x002C
def regHeatingTarget : Address := 0x0191
def regDhwTarget : Address := 0x0194
def regDhwValveStatus : Address := 0x00D2
def regOccupancyMode : Address := 0x0029
def regAcCurrent : Address := 0x1014
def regDcCurrent : Address := 0x1015
def regAcVoltage : Address := 0x1016
def regDcVoltage : Address := 0x1017
def regUnitCapacity : Address := 0x1006
def regCompressorFreq : Address := 0x0017
def regWaterFlow : Address := 0x102A
def regActualCapacityOutput : Address := 0x1004
def regOduInputStatus : Address := 0x101F
def regCompressorRuntime : Address := 0x0174
def regPumpRuntime : Address := 0x0176
def regDhwTankTemp : Address := 0x00CE

/-! ## Modes, ranges and minimum targets -/

/-- Values for the writable register `regRunningMode`. -/
def modeSetOff : Int := 0
def modeSetHeatDhw : Int := 2

/-- Value of the read-only register `regRunningStatus` of an idle unit. -/
def modeStatusOff : Int := 0

def dhwTempMin : ℚ := 40
def dhwTempMax : ℚ := 63
def heatingTempMin : ℚ := 25
def heatingTempMax : ℚ := 63

/-- Targets that suppress one circuit in the single-purpose modes. -/
def dhwTargetMin : ℚ := 40
def heatingTargetMin : ℚ := 25

def estimatedPowerFactor : ℚ := 9 / 10

def modbusMaxRetries : Nat := 3

end Windmi.Core
