import Windmi.Core.Registers
import Mathlib.Logic.Function.Basic

/-!
# The Modbus client interface

`IModbusClient` of `include/modbus/IModbusClient.hpp`.  The control loop
depends on this interface only, so its model is written over an arbitrary
client: a device state together with the operations which may change it.  A
thrown `ModbusException` is `none` for a read and `false` for a write.

A client is free to answer every call in its own way, whatever the calls
before it: one arbitrary client covers every register content, every change
made by another master and every pattern of failures.
-/

namespace Windmi.Modbus

open Windmi.Core

/-- `IModbusClient`, over the state of the device behind it. -/
structure IModbusClient (Device : Type) where
  connect : Device → Bool × Device
  disconnect : Device → Device
  isConnected : Device → Bool
  readRegister : Address → Device → Option Word × Device
  writeRegister : Address → Word → Device → Bool × Device
  flushBuffer : Device → Device

/-- The contents of all registers. -/
abbrev RegisterFile := Address → Word

/-- A device that never fails and whose registers nobody else writes. -/
def registerFile : IModbusClient RegisterFile where
  connect registers := (true, registers)
  disconnect registers := registers
  isConnected _ := true
  readRegister address registers := (some (registers address), registers)
  writeRegister address value registers :=
    (true, Function.update registers address value)
  flushBuffer registers := registers

@[simp]
theorem registerFile_readRegister (address : Address)
    (registers : RegisterFile) :
    registerFile.readRegister address registers =
      (some (registers address), registers) :=
  rfl

@[simp]
theorem registerFile_writeRegister (address : Address) (value : Word)
    (registers : RegisterFile) :
    registerFile.writeRegister address value registers =
      (true, Function.update registers address value) :=
  rfl

end Windmi.Modbus
