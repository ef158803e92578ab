import Windmi.Core.Temperature
import Windmi.Modbus.Interface

/-!
# The self-test

`selftest_run` of `src/selftest.cpp`: five registers are read, then the heating
target is written, read back and written again with its old value.  On a device
whose accesses may fail in any way it is found as it was before, except when the
test write throws after it has reached the device: then nothing is restored.
-/

namespace Windmi.Core

open Windmi.Modbus

/-- `SELFTEST_DHW_TARGET_TEMP` -/
def selftestDhwTargetTemp : ℚ := 45

/-- `REG_DEVICE_TYPE`, which is also the unit capacity. -/
def regDeviceType : Address := regUnitCapacity

/-! ## The report -/

structure SelftestResult where
  name : String := ""
  address : Address := 0
  readOk : Bool := false
  writeOk : Bool := false
  verifyOk : Bool := false
  readValue : Word := 0
  deriving DecidableEq

def SelftestResult.passed (result : SelftestResult) : Bool :=
  result.readOk && result.writeOk && result.verifyOk

structure SelftestReport where
  total : Nat := 0
  passed : Nat := 0
  failed : Nat := 0
  allCriticalPassed : Bool := false
  results : List SelftestResult := List.replicate 6 {}
  deriving DecidableEq

/-- One round of the loop which counts the passed tests. -/
def SelftestReport.count (report : SelftestReport)
    (result : SelftestResult) : SelftestReport :=
  if result.passed then { report with passed := report.passed + 1 }
  else { report with failed := report.failed + 1 }

/-! ## The tests -/

variable {Device : Type}

/-- How far the self-test has come. -/
structure Progress (Device : Type) where
  device : Device
  allCriticalPassed : Bool := true
  results : List SelftestResult := []

/-- A test that reads one register. -/
structure ReadTest where
  name : String
  address : Address
  expected : Word → Bool := fun _ => true

def ReadTest.run (client : IModbusClient Device)
    (progress : Progress Device) (test : ReadTest) : Progress Device :=
  let answer := client.readRegister test.address progress.device
  let result : SelftestResult :=
    { name := test.name
      address := test.address
      writeOk := true
      verifyOk := true }
  match answer.1 with
  | some value =>
      { device := answer.2
        allCriticalPassed :=
          progress.allCriticalPassed && test.expected value
        results :=
          progress.results ++
            [{ result with readOk := true, readValue := value }] }
  | none =>
      { device := answer.2
        allCriticalPassed := false
        results := progress.results ++ [result] }

def deviceTypeTest : ReadTest where
  name := "Device Type"
  address := regDeviceType
  expected value := value == 8

def heatingSetpointTest : ReadTest where
  name := "Heating Setpoint"
  address := regHeatingTarget

def dhwSetpointTest : ReadTest where
  name := "DHW Setpoint"
  address := regDhwTarget

def outdoorTempTest : ReadTest where
  name := "Outdoor Temp"
  address := regOutdoorTemp

def dhwTankTempTest : ReadTest where
  name := "DHW Tank Temp"
  address := regDhwTankTemp

def readTests : List ReadTest :=
  [deviceTypeTest, heatingSetpointTest, dhwSetpointTest, outdoorTempTest,
    dhwTankTempTest]

def testValue : Word :=
  tempToRaw selftestDhwTargetTemp

def writeVerifyTest (client : IModbusClient Device)
    (progress : Progress Device) : Progress Device :=
  let result : SelftestResult :=
    { name := "Write Verify Test"
      address := regHeatingTarget
      readOk := true
      readValue := -1 }
  let read := client.readRegister regHeatingTarget progress.device
  match read.1 with
  | none =>
      { device := read.2
        allCriticalPassed := false
        results := progress.results ++ [result] }
  | some originalHeating =>
      let result := { result with readValue := originalHeating }
      let written := client.writeRegister regHeatingTarget testValue read.2
      match written.1 with
      | false =>
          -- the handler of this throw does not restore anything
          { device := written.2
            allCriticalPassed := false
            results := progress.results ++ [result] }
      | true =>
          let verified := client.readRegister regHeatingTarget written.2
          let verifyOk := verified.1 == some testValue
          let restored :=
            client.writeRegister regHeatingTarget originalHeating verified.2
          { device := restored.2
            allCriticalPassed :=
              progress.allCriticalPassed && verifyOk && restored.1
            results :=
              progress.results ++
                [{ result with writeOk := true, verifyOk := verifyOk }] }

/-- `selftest_run`, which guards against a null client. -/
def selftestRun (client : Option (IModbusClient Device)) (device : Device) :
    SelftestReport × Device :=
  match client with
  | none => ({ total := 6, failed := 6 }, device)
  | some client =>
      let tested :=
        writeVerifyTest client
          (readTests.foldl (ReadTest.run client) { device := device })
      let report : SelftestReport :=
        { total := 6
          allCriticalPassed := tested.allCriticalPassed
          results := tested.results }
      (report.results.foldl SelftestReport.count report, tested.device)

/-! ## Counting -/

theorem count_passed_add_failed (report : SelftestReport)
    (result : SelftestResult) :
    (report.count result).passed + (report.count result).failed =
      report.passed + report.failed + 1 := by
  cases passed : result.passed with
  | false => simp [SelftestReport.count, passed, Nat.add_assoc]
  | true => simp [SelftestReport.count, passed, Nat.add_right_comm]

@[simp]
theorem count_total (report : SelftestReport) (result : SelftestResult) :
    (report.count result).total = report.total := by
  unfold SelftestReport.count
  split <;> rfl

@[simp]
theorem count_allCriticalPassed (report : SelftestReport)
    (result : SelftestResult) :
    (report.count result).allCriticalPassed = report.allCriticalPassed := by
  unfold SelftestReport.count
  split <;> rfl

theorem foldl_count (results : List SelftestResult)
    (report : SelftestReport) :
    let counted := results.foldl SelftestReport.count report
    counted.total = report.total ∧
      counted.allCriticalPassed = report.allCriticalPassed ∧
      counted.passed + counted.failed =
        report.passed + report.failed + results.length := by
  induction results generalizing report with
  | nil => exact ⟨rfl, rfl, rfl⟩
  | cons result results ih =>
      rcases ih (report.count result) with ⟨total, critical, sum⟩
      refine ⟨total.trans (by simp), critical.trans (by simp), ?_⟩
      rw [List.length_cons, List.foldl_cons, sum, count_passed_add_failed]
      omega

theorem foldl_count_failed {results : List SelftestResult}
    (passed : ∀ result ∈ results, result.passed = true)
    (report : SelftestReport) :
    (results.foldl SelftestReport.count report).failed = report.failed := by
  induction results generalizing report with
  | nil => rfl
  | cons result results ih =>
      rw [List.forall_mem_cons] at passed
      rw [List.foldl_cons, ih passed.2]
      simp [SelftestReport.count, passed.1]

/-! ## Progress -/

/-- No test has failed as long as none is reported. -/
def Progress.Honest (progress : Progress Device) : Prop :=
  progress.allCriticalPassed = true →
    ∀ result ∈ progress.results, result.passed = true

section

variable (client : IModbusClient Device)

theorem ReadTest.run_honest (test : ReadTest) {progress : Progress Device}
    (honest : progress.Honest) : (test.run client progress).Honest := by
  simp only [ReadTest.run]
  split
  · intro passed
    rw [Bool.and_eq_true] at passed
    exact List.forall_mem_append.mpr
      ⟨honest passed.1, List.forall_mem_singleton.mpr rfl⟩
  · exact fun passed => Bool.noConfusion passed

theorem ReadTest.length_run (test : ReadTest)
    (progress : Progress Device) :
    (test.run client progress).results.length =
      progress.results.length + 1 := by
  simp only [ReadTest.run]
  split <;> exact List.length_append

theorem foldl_run_honest (tests : List ReadTest)
    {progress : Progress Device} (honest : progress.Honest) :
    (tests.foldl (ReadTest.run client) progress).Honest := by
  induction tests generalizing progress with
  | nil => exact honest
  | cons test tests ih => exact ih (test.run_honest client honest)

theorem length_foldl_run (tests : List ReadTest)
    (progress : Progress Device) :
    (tests.foldl (ReadTest.run client) progress).results.length =
      progress.results.length + tests.length := by
  induction tests generalizing progress with
  | nil => rfl
  | cons test tests ih =>
      rw [List.foldl_cons, ih, test.length_run client, List.length_cons]
      omega

theorem writeVerifyTest_honest {progress : Progress Device}
    (honest : progress.Honest) :
    (writeVerifyTest client progress).Honest := by
  simp only [writeVerifyTest]
  split
  · exact fun passed => Bool.noConfusion passed
  · split
    · exact fun passed => Bool.noConfusion passed
    · intro passed
      simp only [Bool.and_eq_true] at passed
      refine List.forall_mem_append.mpr
        ⟨honest passed.1.1, List.forall_mem_singleton.mpr ?_⟩
      simp [SelftestResult.passed, passed.1.2]

theorem length_writeVerifyTest (progress : Progress Device) :
    (writeVerifyTest client progress).results.length =
      progress.results.length + 1 := by
  simp only [writeVerifyTest]
  split
  · exact List.length_append
  · split <;> exact List.length_append

/-- Every report counts each of its tests once, and is honest. -/
theorem selftestRun_counts (device : Device) :
    let report := (selftestRun (some client) device).1
    report.passed + report.failed = report.total ∧
      (report.allCriticalPassed = true → report.failed = 0) := by
  intro report
  let read := readTests.foldl (ReadTest.run client) { device := device }
  let tested := writeVerifyTest client read
  have honest : tested.Honest := by
    refine writeVerifyTest_honest client (foldl_run_honest client readTests ?_)
    exact fun _ => List.forall_mem_nil _
  have length : tested.results.length = 6 := by
    rw [length_writeVerifyTest client read, length_foldl_run client readTests]
    rfl
  rcases foldl_count tested.results
    { total := 6
      allCriticalPassed := tested.allCriticalPassed
      results := tested.results } with ⟨total, critical, sum⟩
  refine ⟨?_, fun passed => ?_⟩
  · rw [length] at sum
    exact sum.trans total.symm
  · exact foldl_count_failed (honest (critical.symm.trans passed)) _

end

/-! ## A device whose accesses may fail -/

/-- How an access for writing ends: it may throw on either side. -/
inductive WriteFault where
  | none
  | beforeStore
  | afterStore
  deriving DecidableEq

def WriteFault.stores (fault : WriteFault) : Bool :=
  fault ≠ .beforeStore

structure WriteAttempt where
  address : Address
  value : Word
  fault : WriteFault
  deriving DecidableEq

/-- Registers with a schedule of failures, and the writes so far. -/
structure FaultyDevice where
  registers : RegisterFile
  readFails : Nat → Bool
  writeFault : Nat → WriteFault
  reads : Nat := 0
  /-- The attempts to write, newest first. -/
  attempts : List WriteAttempt := []

def faultyDevice : IModbusClient FaultyDevice where
  connect device := (true, device)
  disconnect device := device
  isConnected _ := true
  readRegister address device :=
    (if device.readFails device.reads then none
      else some (device.registers address),
      { device with reads := device.reads + 1 })
  writeRegister address value device :=
    let fault := device.writeFault device.attempts.length
    (fault == .none,
      { device with
        registers :=
          if fault.stores then
            Function.update device.registers address value
          else device.registers
        attempts := ⟨address, value, fault⟩ :: device.attempts })
  flushBuffer device := device

/--
An attempt to write the value back failed, and no test write reached the device
after it.
-/
def RestoreFailed (value : Word) (attempts : List WriteAttempt) : Prop :=
  ∃ newer attempt older, attempts = newer ++ attempt :: older ∧
    (attempt.address = regHeatingTarget ∧ attempt.value = value ∧
      attempt.fault ≠ .none) ∧
    ∀ later ∈ newer, ¬ (later.value = testValue ∧ later.fault.stores = true)

/-- The device is as it was before the test, and the report says so. -/
structure LeavesAsFound (before after : FaultyDevice)
    (report : SelftestReport) : Prop where
  heating : after.registers regHeatingTarget =
      before.registers regHeatingTarget ∨
    RestoreFailed (before.registers regHeatingTarget) after.attempts
  foreign : ∀ attempt ∈ after.attempts, attempt.address = regHeatingTarget
  others : ∀ address, address ≠ regHeatingTarget →
    after.registers address = before.registers address
  counted : report.passed + report.failed = report.total
  critical : report.allCriticalPassed = true →
    report.failed = 0 ∧
      after.registers regHeatingTarget = before.registers regHeatingTarget

/-- The read of the value that is to be restored, counted from 0. -/
def originalRead : Nat :=
  readTests.length

/-- The test write takes effect and throws. -/
structure TestWriteThrows (device : FaultyDevice) : Prop where
  original : device.readFails originalRead = false
  stored : device.writeFault 0 = .afterStore
  other : device.registers regHeatingTarget ≠ testValue

/-! ## How the test ends -/

theorem ReadTest.run_device (client : IModbusClient Device)
    (test : ReadTest) (progress : Progress Device) :
    (test.run client progress).device =
      (client.readRegister test.address progress.device).2 := by
  simp only [ReadTest.run]
  split <;> rfl

theorem foldl_run_device (tests : List ReadTest)
    (progress : Progress FaultyDevice) :
    (tests.foldl (ReadTest.run faultyDevice) progress).device =
      { progress.device with
        reads := progress.device.reads + tests.length } := by
  induction tests generalizing progress with
  | nil => rfl
  | cons test tests ih =>
      rw [List.foldl_cons, ih, test.run_device, List.length_cons]
      simp only [faultyDevice, Nat.add_comm tests.length, Nat.add_assoc]

section

variable {client : IModbusClient Device} {progress : Progress Device}
  {device read written : Device} {original : Word}
  (reached : progress.device = device)

include reached

theorem writeVerifyTest_unread
    (unread : client.readRegister regHeatingTarget device = (none, read)) :
    (writeVerifyTest client progress).device = read ∧
      (writeVerifyTest client progress).allCriticalPassed = false := by
  simp only [writeVerifyTest, reached, unread, and_self]

/-- A test write that throws ends the test. -/
theorem writeVerifyTest_refused
    (answered : client.readRegister regHeatingTarget device =
      (some original, read))
    (refused : client.writeRegister regHeatingTarget testValue read =
      (false, written)) :
    (writeVerifyTest client progress).device = written ∧
      (writeVerifyTest client progress).allCriticalPassed = false := by
  simp only [writeVerifyTest, reached, answered, refused, and_self]

/-- One that is accepted is verified, and then taken back in any case. -/
theorem writeVerifyTest_accepted
    (answered : client.readRegister regHeatingTarget device =
      (some original, read))
    (accepted : client.writeRegister regHeatingTarget testValue read =
      (true, written)) :
    let verified := client.readRegister regHeatingTarget written
    let restored := client.writeRegister regHeatingTarget original verified.2
    (writeVerifyTest client progress).device = restored.2 ∧
      ((writeVerifyTest client progress).allCriticalPassed = true →
        restored.1 = true) := by
  simp only [writeVerifyTest, reached, answered, accepted, Bool.and_eq_true]
  exact ⟨trivial, fun passed => passed.2⟩

end

namespace FaultyDevice

variable (device : FaultyDevice)

/-- The fault of the next write. -/
def nextFault : WriteFault :=
  device.writeFault device.attempts.length

/-- The end of all tests. -/
def tested : Progress FaultyDevice :=
  writeVerifyTest faultyDevice
    (readTests.foldl (ReadTest.run faultyDevice) { device := device })

/-- The device after some reads. -/
def skip (count : Nat) : FaultyDevice :=
  { device with reads := device.reads + count }

/-- The device after an attempt to write the heating target. -/
def attempt (value : Word) : FaultyDevice :=
  { device with
    registers :=
      if device.nextFault.stores then
        Function.update device.registers regHeatingTarget value
      else device.registers
    attempts :=
      ⟨regHeatingTarget, value, device.nextFault⟩ :: device.attempts }

variable {device} {value : Word}

theorem write_accepted (accepted : device.nextFault = .none) :
    faultyDevice.writeRegister regHeatingTarget value device =
      (true, device.attempt value) :=
  Prod.ext (beq_iff_eq.mpr accepted) rfl

theorem write_refused (refused : device.nextFault ≠ .none) :
    faultyDevice.writeRegister regHeatingTarget value device =
      (false, device.attempt value) :=
  Prod.ext (beq_false_of_ne refused) rfl

theorem read_answered (answered : device.readFails device.reads = false) :
    faultyDevice.readRegister regHeatingTarget device =
      (some (device.registers regHeatingTarget), device.skip 1) := by
  refine Prod.ext ?_ rfl
  show (if device.readFails device.reads then none else some _) = some _
  rw [answered]
  rfl

theorem read_unanswered (failing : device.readFails device.reads = true) :
    faultyDevice.readRegister regHeatingTarget device =
      (none, device.skip 1) :=
  Prod.ext (if_pos failing) rfl

theorem tested_unread
    (failing : device.readFails (device.reads + originalRead) = true) :
    device.tested.device = (device.skip originalRead).skip 1 ∧
      device.tested.allCriticalPassed = false := by
  apply writeVerifyTest_unread (foldl_run_device readTests _)
  exact @read_unanswered (device.skip originalRead) failing

theorem tested_refused
    (answered : device.readFails (device.reads + originalRead) = false)
    (refused : device.nextFault ≠ .none) :
    device.tested.device =
        ((device.skip originalRead).skip 1).attempt testValue ∧
      device.tested.allCriticalPassed = false := by
  apply writeVerifyTest_refused (foldl_run_device readTests _)
  · exact @read_answered (device.skip originalRead) answered
  · exact write_refused refused

theorem tested_accepted
    (answered : device.readFails (device.reads + originalRead) = false)
    (accepted : device.nextFault = .none) :
    let written := (((device.skip originalRead).skip 1).attempt testValue)
    let verified := written.skip 1
    device.tested.device =
        verified.attempt (device.registers regHeatingTarget) ∧
      (device.tested.allCriticalPassed = true →
        verified.nextFault = .none) := by
  have ended := writeVerifyTest_accepted
    (foldl_run_device readTests { device := device })
    (@read_answered (device.skip originalRead) answered)
    (@write_accepted _ testValue accepted)
  refine ⟨ended.1, fun passed => ?_⟩
  exact beq_iff_eq.mp (ended.2 passed)

/-- Only the heating target is ever written. -/
theorem attempt_others {address : Address}
    (foreign : address ≠ regHeatingTarget) :
    (device.attempt value).registers address = device.registers address := by
  show (if device.nextFault.stores then
    Function.update device.registers regHeatingTarget value
    else device.registers) address = _
  rw [ite_apply, Function.update_of_ne foreign, ite_self]

theorem attempt_heating :
    (device.attempt value).registers regHeatingTarget =
      if device.nextFault.stores then value
      else device.registers regHeatingTarget := by
  show (if device.nextFault.stores then
    Function.update device.registers regHeatingTarget value
    else device.registers) regHeatingTarget = _
  rw [ite_apply, Function.update_self]

end FaultyDevice

theorem RestoreFailed.of_newest {value : Word} {fault : WriteFault}
    (failed : fault ≠ .none) (older : List WriteAttempt) :
    RestoreFailed value (⟨regHeatingTarget, value, fault⟩ :: older) :=
  ⟨[], ⟨regHeatingTarget, value, fault⟩, older, rfl, ⟨rfl, rfl, failed⟩,
    fun _ => False.elim ∘ List.not_mem_nil⟩

/-! ## What the self-test leaves -/

section

variable {device : FaultyDevice}

/-- The counts of a report are right whatever the device does. -/
theorem leavesAsFound_of
    (heating : device.tested.device.registers regHeatingTarget =
        device.registers regHeatingTarget ∨
      RestoreFailed (device.registers regHeatingTarget)
        device.tested.device.attempts)
    (foreign : ∀ attempt ∈ device.tested.device.attempts,
      attempt.address = regHeatingTarget)
    (others : ∀ address, address ≠ regHeatingTarget →
      device.tested.device.registers address = device.registers address)
    (restored : device.tested.allCriticalPassed = true →
      device.tested.device.registers regHeatingTarget =
        device.registers regHeatingTarget) :
    LeavesAsFound device (selftestRun (some faultyDevice) device).2
      (selftestRun (some faultyDevice) device).1 where
  heating := heating
  foreign := foreign
  others := others
  counted := (selftestRun_counts faultyDevice device).1
  critical passed := by
    refine ⟨(selftestRun_counts faultyDevice device).2 passed, restored ?_⟩
    exact (foldl_count device.tested.results _).2.1.symm.trans passed

/-- A device that was not written to before. -/
structure Untouched (device : FaultyDevice) : Prop where
  unread : device.reads = 0
  unwritten : device.attempts = []

variable (untouched : Untouched device)

include untouched

theorem Untouched.original :
    device.reads + originalRead = originalRead := by
  rw [untouched.unread, Nat.zero_add]

theorem Untouched.nextFault : device.nextFault = device.writeFault 0 := by
  rw [FaultyDevice.nextFault, untouched.unwritten, List.length_nil]

theorem Untouched.leavesAsFound_of_unread
    (failing : device.readFails originalRead = true) :
    LeavesAsFound device (selftestRun (some faultyDevice) device).2
      (selftestRun (some faultyDevice) device).1 := by
  rw [← untouched.original] at failing
  rcases FaultyDevice.tested_unread failing with ⟨ended, critical⟩
  apply leavesAsFound_of
  · exact Or.inl (congrArg (·.registers regHeatingTarget) ended)
  · rw [ended]
    show ∀ attempt ∈ device.attempts, _
    rw [untouched.unwritten]
    exact List.forall_mem_nil _
  · intro address _
    rw [ended]
    rfl
  · rw [critical]
    exact fun passed => Bool.noConfusion passed

/-- A refused test write is harmless only if it did not change the value. -/
theorem Untouched.leavesAsFound_iff_of_refused
    (answered : device.readFails originalRead = false)
    (refused : device.writeFault 0 ≠ .none) :
    LeavesAsFound device (selftestRun (some faultyDevice) device).2
        (selftestRun (some faultyDevice) device).1 ↔
      (device.writeFault 0 = .afterStore →
        device.registers regHeatingTarget = testValue) := by
  have fault := untouched.nextFault
  rw [← untouched.original] at answered
  rw [← fault] at refused
  rcases FaultyDevice.tested_refused answered refused with ⟨ended, critical⟩
  let tested := (device.skip originalRead).skip 1
  have attempts : device.tested.device.attempts =
      [⟨regHeatingTarget, testValue, device.nextFault⟩] := by
    rw [ended]
    show _ :: device.attempts = _
    rw [untouched.unwritten]
    rfl
  have heating : device.tested.device.registers regHeatingTarget =
      if device.nextFault.stores then testValue
      else device.registers regHeatingTarget := by
    rw [ended]
    exact FaultyDevice.attempt_heating
  constructor
  · intro found throws
    rcases found.heating with kept | ⟨newer, attempt, older, split, failed, -⟩
    · have stored : device.tested.device.registers regHeatingTarget =
          testValue := by
        rw [heating, fault, throws]
        rfl
      exact kept.symm.trans stored
    · have member : attempt ∈ device.tested.device.attempts := by
        rw [show device.tested.device.attempts = _ from split]
        exact List.mem_append_right newer List.mem_cons_self
      rw [attempts, List.mem_singleton] at member
      rw [member] at failed
      exact failed.2.1.symm
  · intro safe
    apply leavesAsFound_of
    · refine Or.inl ?_
      rw [heating, fault]
      cases faulty : device.writeFault 0 with
      | none => exact absurd (fault.trans faulty) refused
      | beforeStore => rfl
      | afterStore => exact (safe faulty).symm
    · rw [attempts]
      simp
    · intro address foreign
      rw [ended]
      exact FaultyDevice.attempt_others foreign
    · rw [critical]
      exact fun passed => Bool.noConfusion passed

theorem Untouched.leavesAsFound_of_accepted
    (answered : device.readFails originalRead = false)
    (accepted : device.writeFault 0 = .none) :
    LeavesAsFound device (selftestRun (some faultyDevice) device).2
      (selftestRun (some faultyDevice) device).1 := by
  rw [← untouched.original] at answered
  rw [← untouched.nextFault] at accepted
  rcases FaultyDevice.tested_accepted answered accepted with
    ⟨ended, critical⟩
  let verified :=
    (((device.skip originalRead).skip 1).attempt testValue).skip 1
  have heating : device.tested.device.registers regHeatingTarget =
      if verified.nextFault.stores then device.registers regHeatingTarget
      else verified.registers regHeatingTarget := by
    rw [ended]
    exact FaultyDevice.attempt_heating
  have attempts : device.tested.device.attempts =
      [⟨regHeatingTarget, device.registers regHeatingTarget,
          verified.nextFault⟩,
        ⟨regHeatingTarget, testValue, device.nextFault⟩] := by
    rw [ended]
    show _ :: _ :: device.attempts = _
    rw [untouched.unwritten]
    rfl
  apply leavesAsFound_of
  · by_cases restored : verified.nextFault = .none
    · left
      rw [heating, restored]
      rfl
    · right
      rw [attempts]
      exact RestoreFailed.of_newest restored _
  · rw [attempts]
    simp
  · intro address foreign
    rw [ended, FaultyDevice.attempt_others foreign]
    exact FaultyDevice.attempt_others foreign
  · intro passed
    rw [heating, critical passed]
    rfl

end

/--
The heating target survives the self-test, or an attempt to restore it failed,
unless the test write takes effect and throws.
-/
theorem selftest_restores_iff (registers : RegisterFile)
    (readFails : Nat → Bool) (writeFault : Nat → WriteFault) :
    let device : FaultyDevice :=
      { registers := registers
        readFails := readFails
        writeFault := writeFault }
    let run := selftestRun (some faultyDevice) device
    LeavesAsFound device run.2 run.1 ↔ ¬ TestWriteThrows device := by
  intro device run
  have untouched : Untouched device := { unread := rfl, unwritten := rfl }
  cases answered : device.readFails originalRead with
  | true =>
      refine iff_of_true (untouched.leavesAsFound_of_unread answered) ?_
      intro throws
      exact Bool.noConfusion (answered.symm.trans throws.original)
  | false =>
      by_cases accepted : device.writeFault 0 = .none
      · refine iff_of_true
          (untouched.leavesAsFound_of_accepted answered accepted) ?_
        intro throws
        exact WriteFault.noConfusion (accepted.symm.trans throws.stored)
      · rw [untouched.leavesAsFound_iff_of_refused answered accepted]
        constructor
        · exact fun safe throws => throws.other (safe throws.stored)
        · intro safe stored
          by_contra other
          exact safe
            { original := answered, stored := stored, other := other }

/-- Registers at 40 degrees, behind a line that loses the echo of a write. -/
def lostEcho : FaultyDevice where
  registers _ := 400
  readFails _ := false
  writeFault _ := .afterStore

/-- The test value stays, and no attempt is made to write the old one. -/
theorem lostEcho_keeps_test_value :
    let run := selftestRun (some faultyDevice) lostEcho
    ¬ LeavesAsFound lostEcho run.2 run.1 := by
  intro run found
  have value : run.2.registers regHeatingTarget = 450 := by
    decide +kernel
  have attempts : run.2.attempts =
      [⟨regHeatingTarget, 450, .afterStore⟩] := by
    decide +kernel
  rcases found.heating with kept | ⟨newer, attempt, older, split, failed, -⟩
  · rw [value] at kept
    exact absurd kept (by decide)
  · have member : attempt ∈ run.2.attempts := by
      rw [split]
      exact List.mem_append_right newer List.mem_cons_self
    rw [attempts, List.mem_singleton] at member
    rw [member] at failed
    exact absurd failed.2.1 (by decide)

end Windmi.Core
