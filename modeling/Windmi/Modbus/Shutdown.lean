import Windmi.Library.Trials
import Windmi.Modbus.Interchange
import Windmi.Modbus.Wrappers

/-!
# Connecting again, and the shutdown write

A `ModbusClient` which has been disconnected has lost its C client, and no
`connect` succeeds on it any more; the other two implementations can always be
connected again.  So of the three attempts with which `main` switches the unit
off, only the first that connects over TCP counts.
-/

namespace Windmi.Modbus

open Windmi.Core
open Windmi.Library

variable {σ : Type}

/-! ## Connecting again -/

def Opening.Succeeds (opening : Opening σ) : Prop :=
  ∃ state, opening = .established state

/-- A `connect` whose opening succeeds returns true, unless connected. -/
def Connectable {Device Surroundings : Type}
    (client : Surroundings → IModbusClient Device)
    (opens : Surroundings → Prop) (device : Device) : Prop :=
  ∀ surroundings, opens surroundings →
    (client surroundings).isConnected device = false →
      ((client surroundings).connect device).1 = true

section

variable (line : Line σ)

theorem modbusSerialClient_connectable (connection : Connection σ) :
    Connectable (modbusSerialClient line) Opening.Succeeds connection := by
  rintro _ ⟨state, rfl⟩ disconnected
  have free : ¬ connection.client.connected = true := by
    simpa [modbusSerialClient] using disconnected
  simp only [modbusSerialClient, modbusSerialClientConnect, if_neg free]

theorem simulatedModbusClient_connectable (device : SimulatedDevice) :
    Connectable simulatedModbusClient (fun _ => True) device :=
  fun _ _ _ => rfl

/-- A `ModbusClient` can be connected as long as it has its C client. -/
theorem modbusClient_connectable_iff (state : σ)
    (client : Option (Connection σ)) :
    Connectable (modbusClient line) Opening.Succeeds client ↔
      client.isSome := by
  constructor
  · intro connectable
    cases client with
    | some connection => rfl
    | none => exact connectable (.established state) ⟨state, rfl⟩ rfl
  · intro alive
    rcases Option.isSome_iff_exists.mp alive with ⟨connection, rfl⟩
    rintro _ ⟨state, rfl⟩ disconnected
    have free : ¬ connection.client.connected = true := by
      simpa [modbusClient] using disconnected
    simp only [modbusClient, modbusClientConnect, if_neg free]

/-- Only a disconnect takes the C client away, and nothing brings it back. -/
theorem modbusClient_step_isSome (client : Option (Connection σ))
    (call : Opening σ × ClientCall) :
    (ClientCall.step (modbusClient line) client call).isSome ↔
      client.isSome ∧ call.2 ≠ .disconnect := by
  rcases call with ⟨opening, call⟩
  cases client with
  | none =>
      cases call <;>
        simp [ClientCall.step, ClientCall.run, modbusClient]
  | some connection =>
      cases call <;>
        simp [ClientCall.step, ClientCall.run, modbusClient]

theorem modbusClient_run_isSome (calls : List (Opening σ × ClientCall))
    (client : Option (Connection σ)) :
    (calls.foldl (ClientCall.step (modbusClient line)) client).isSome ↔
      client.isSome ∧ ∀ call ∈ calls, call.2 ≠ .disconnect := by
  induction calls generalizing client with
  | nil => simp
  | cons call calls ih =>
      rw [List.foldl_cons, ih, modbusClient_step_isSome, and_assoc,
        List.forall_mem_cons]

end

/-! ## The shutdown attempts -/

/-- One attempt of `main`; it disconnects also where the write fails. -/
def shutdownAttempt {Device : Type} (client : IModbusClient Device)
    (device : Device) : Bool × Device :=
  let connected := client.connect device
  if connected.1 then
    let written := client.writeRegister regRunningMode 0
      (client.flushBuffer connected.2)
    (written.1, client.disconnect written.2)
  else
    (false, connected.2)

/-- The loop at the end of `main`; each attempt has its own link. -/
def shutdownAttempts {Device : Type}
    (client : Opening σ → IModbusClient Device) :
    Nat → (Nat → Opening σ) → Device → Bool × Device
  | 0, _, device => (false, device)
  | attempts + 1, script, device =>
      match shutdownAttempt (client (script 0)) device with
      | (true, device) => (true, device)
      | (false, device) =>
          shutdownAttempts client attempts
            (fun attempt => script (attempt + 1)) device

def shutdownMaxAttempts : Nat := 3

/-- `off_written` at the end of `main`. -/
def offWritten {Device : Type} (client : Opening σ → IModbusClient Device)
    (script : Nat → Opening σ) (device : Device) : Bool :=
  (shutdownAttempts client shutdownMaxAttempts script device).1

/--
What attempts do to a device that is ready for them.  After a fatal one that
is not accepted the device is spent, and no attempt succeeds on it.
-/
structure AttemptLaw {Device : Type}
    (client : Opening σ → IModbusClient Device)
    (accepts fatal : Opening σ → Prop) (ready spent : Device → Prop) :
    Prop where
  writes : ∀ opening device, ready device →
    ((shutdownAttempt (client opening) device).1 = true ↔ accepts opening)
  spends : ∀ opening device, ready device → fatal opening →
    spent (shutdownAttempt (client opening) device).2
  keeps : ∀ opening device, ready device → ¬ fatal opening →
    ready (shutdownAttempt (client opening) device).2
  remains : ∀ opening device, spent device →
    (shutdownAttempt (client opening) device).1 = false ∧
      spent (shutdownAttempt (client opening) device).2

section

variable {Device : Type} {client : Opening σ → IModbusClient Device}
  {accepts fatal : Opening σ → Prop} {ready spent : Device → Prop}
  (law : AttemptLaw client accepts fatal ready spent)

include law

theorem AttemptLaw.spent_attempts (attempts : Nat)
    (script : Nat → Opening σ) {device : Device} (done : spent device) :
    (shutdownAttempts client attempts script device).1 = false := by
  induction attempts generalizing script device with
  | zero => rfl
  | succ attempts ih =>
      have attempt := law.remains (script 0) device done
      unfold shutdownAttempts
      generalize shutdownAttempt (client (script 0)) device = outcome
        at attempt ⊢
      rcases outcome with ⟨_ | _, after⟩
      · exact ih _ attempt.2
      · cases attempt.1

theorem AttemptLaw.attempts (attempts : Nat) (script : Nat → Opening σ)
    {device : Device} (able : ready device) :
    (shutdownAttempts client attempts script device).1 = true ↔
      Reached (fun attempt => accepts (script attempt))
        (fun attempt => fatal (script attempt)) attempts := by
  induction attempts generalizing script device with
  | zero => exact iff_of_false Bool.false_ne_true not_reached_zero
  | succ attempts ih =>
      have accepted := law.writes (script 0) device able
      have lost := law.spends (script 0) device able
      have kept := law.keeps (script 0) device able
      rw [reached_succ]
      unfold shutdownAttempts
      generalize shutdownAttempt (client (script 0)) device = outcome
        at accepted lost kept ⊢
      rcases outcome with ⟨_ | _, after⟩
      · rw [or_iff_right (fun success =>
          Bool.false_ne_true (accepted.mpr success))]
        by_cases final : fatal (script 0)
        · refine iff_of_false ?_ fun both => both.1 final
          exact Bool.eq_false_iff.mp
            (law.spent_attempts attempts _ (lost final))
        · rw [and_iff_right final]
          exact ih (fun attempt => script (attempt + 1)) (kept final)
      · exact iff_of_true rfl (Or.inl (accepted.mp rfl))

end

/-! ### Links -/

/-- A client which has just connected. -/
def openedClient (slaveId : Byte) (handle : Nat) (line : σ) : Client σ where
  slaveId := slaveId
  handle := some handle
  connected := true
  line := line

/-- A link is established, and a verified write goes through on it. -/
def AcceptsOff (transport : Transport σ) (prepare : σ → σ) (slaveId : Byte)
    (opening : Opening σ) : Prop :=
  ∃ state, opening = .established state ∧
    (Modbus.writeRegister transport regRunningMode 0
      (openedClient slaveId 0 (prepare state))).1 = 0

/-- The number of the socket or the port does not matter. -/
theorem acceptsOff_established {transport : Transport σ} {prepare : σ → σ}
    {slaveId : Byte} {handle : Nat}
    (ignores : transport.Ignores (Client.renumber handle)) (state : σ) :
    AcceptsOff transport prepare slaveId (.established state) ↔
      (Modbus.writeRegister transport regRunningMode 0
        (openedClient slaveId handle (prepare state))).1 = 0 := by
  have result := congrArg Prod.fst (ignores.write regRunningMode 0
    (openedClient slaveId 0 (prepare state)))
  have same : (Modbus.writeRegister transport regRunningMode 0
      (openedClient slaveId handle (prepare state))).1 =
        (Modbus.writeRegister transport regRunningMode 0
          (openedClient slaveId 0 (prepare state))).1 := result
  rw [same]
  constructor
  · rintro ⟨_, ⟨⟩, accepted⟩
    exact accepted
  · exact fun accepted => ⟨state, rfl, accepted⟩

/-- What the attempts over TCP find once the socket has been flushed. -/
def TcpAcceptsOff (line : Line σ) (slaveId : Byte) : Opening σ → Prop :=
  AcceptsOff (tcpTransport line) line.flush slaveId

/-- The serial client flushes the port when it connects as well. -/
def SerialAcceptsOff (line : Line σ) (slaveId : Byte) : Opening σ → Prop :=
  AcceptsOff (serialTransport line)
    (fun state => line.flush (line.flush state)) slaveId

/-- Over TCP every attempt that connects is fatal to those after it. -/
theorem modbusClient_attemptLaw (line : Line σ) (slaveId : Byte) :
    AttemptLaw (modbusClient line) (TcpAcceptsOff line slaveId)
      Opening.Succeeds
      (fun client => ∃ connection, client = some connection ∧
        connection.client.slaveId = slaveId ∧
          connection.client.connected = false)
      (fun client => client = none) where
  writes := by
    rintro opening _ ⟨connection, rfl, rfl, disconnected⟩
    cases opening with
    | unavailable =>
        simp [shutdownAttempt, modbusClient, modbusClientConnect,
          TcpAcceptsOff, AcceptsOff]
    | abandoned =>
        simp [shutdownAttempt, modbusClient, modbusClientConnect,
          disconnected, TcpAcceptsOff, AcceptsOff]
    | established state =>
        have accepts := @acceptsOff_established _ _ line.flush
          connection.client.slaveId _
          (tcpTransport_renumber line connection.handles.acquired) state
        rw [TcpAcceptsOff, accepts]
        simp [shutdownAttempt, modbusClient, modbusClientConnect,
          disconnected, modbusClientFlushBuffer, flushReadBuffer,
          Connection.writeRegister, openedClient]
  spends := by
    rintro _ _ ⟨connection, rfl, -, disconnected⟩ ⟨state, rfl⟩
    simp [shutdownAttempt, modbusClient, modbusClientConnect, disconnected]
  keeps := by
    rintro opening _ ⟨connection, rfl, rfl, disconnected⟩ refused
    cases opening with
    | unavailable =>
        simp [shutdownAttempt, modbusClient, modbusClientConnect,
          disconnected]
    | abandoned =>
        simp [shutdownAttempt, modbusClient, modbusClientConnect,
          disconnected]
    | established state => exact absurd ⟨state, rfl⟩ refused
  remains := by
    rintro opening _ rfl
    exact ⟨rfl, rfl⟩

/-- A port is closed after a write, whatever comes of the write. -/
theorem serial_write_disconnect (line : Line σ) {connection : Connection σ}
    {handle : Nat}
    (owned : connection.client.handle = some handle)
    (address : Address) (value : Word) :
    let closed := modbusSerialClientDisconnect
      (connection.writeRegister (serialTransport line) address value).2
    closed.client.slaveId = connection.client.slaveId ∧
      closed.client.connected = false := by
  have moves := serialTransport_movesBytes line
  have slave :=
    (moves.keeps (unbroken_slaveId connection.client.slaveId)).operation rfl
      (fun _ => 0) (.writeRegister address value)
  have kept := (moves.keeps (unbroken_handle (some handle))).operation owned
    (fun _ => 0) (.writeRegister address value)
  simp only [Operation.run] at slave kept
  simp only [modbusSerialClientDisconnect, Connection.writeRegister, kept]
  exact ⟨slave, rfl⟩

/-- Over a serial line no attempt is fatal to those after it. -/
theorem modbusSerialClient_attemptLaw (line : Line σ) (slaveId : Byte) :
    AttemptLaw (modbusSerialClient line) (SerialAcceptsOff line slaveId)
      (fun _ => False)
      (fun connection => connection.client.slaveId = slaveId ∧
        connection.client.connected = false)
      (fun _ => False) where
  writes := by
    rintro opening connection ⟨rfl, disconnected⟩
    cases opening with
    | unavailable =>
        simp [shutdownAttempt, modbusSerialClient, modbusSerialClientConnect,
          disconnected, SerialAcceptsOff, AcceptsOff]
    | abandoned =>
        simp [shutdownAttempt, modbusSerialClient, modbusSerialClientConnect,
          disconnected, SerialAcceptsOff, AcceptsOff]
    | established state =>
        have accepts := @acceptsOff_established _ _
          (fun state => line.flush (line.flush state))
          connection.client.slaveId _
          (serialTransport_renumber line connection.handles.acquired) state
        rw [SerialAcceptsOff, accepts]
        simp [shutdownAttempt, modbusSerialClient, modbusSerialClientConnect,
          disconnected, modbusSerialFlushBuffer, Connection.writeRegister,
          openedClient]
  spends _ _ _ impossible := impossible.elim
  keeps := by
    rintro opening connection ⟨rfl, disconnected⟩ -
    cases opening with
    | unavailable =>
        simp [shutdownAttempt, modbusSerialClient, modbusSerialClientConnect,
          disconnected]
    | abandoned =>
        simp [shutdownAttempt, modbusSerialClient, modbusSerialClientConnect,
          disconnected]
    | established state =>
        simp only [shutdownAttempt, modbusSerialClient,
          modbusSerialClientConnect, disconnected, Bool.false_eq_true,
          if_false, if_true]
        exact serial_write_disconnect line rfl regRunningMode 0
  remains _ _ impossible := impossible.elim

/-! ## The law of all implementations -/

theorem tcp_offWritten_iff (line : Line σ) (slaveId : Byte) (start : σ)
    (script : Nat → Opening σ) :
    offWritten (modbusClient line) script
        (some (modbusClientCreate slaveId start)) = true ↔
      Reached (fun attempt => TcpAcceptsOff line slaveId (script attempt))
        (fun attempt => (script attempt).Succeeds) shutdownMaxAttempts :=
  (modbusClient_attemptLaw line slaveId).attempts _ script
    ⟨modbusClientCreate slaveId start, rfl, rfl, rfl⟩

theorem serial_offWritten_iff (line : Line σ) (slaveId : Byte) (start : σ)
    (script : Nat → Opening σ) :
    offWritten (modbusSerialClient line) script
        (modbusSerialClientCreate slaveId start) = true ↔
      ∃ attempt < shutdownMaxAttempts,
        SerialAcceptsOff line slaveId (script attempt) :=
  ((modbusSerialClient_attemptLaw line slaveId).attempts _ script
    ⟨rfl, rfl⟩).trans (reached_of_harmless _)

/--
After a sequence of calls a client can be connected: always for the serial and
the simulated client, over TCP exactly if none of the calls is a disconnect.
The shutdown write is retried for the serial client, and over TCP exactly if no
attempt connects before the first that is accepted.
-/
theorem connectability_iff (line : Line σ) (slaveId : Byte) (start : σ) :
    (∀ calls : List (Opening σ × ClientCall),
      Connectable (modbusClient line) Opening.Succeeds
          (calls.foldl (ClientCall.step (modbusClient line))
            (some (modbusClientCreate slaveId start))) ↔
        ∀ call ∈ calls, call.2 ≠ .disconnect) ∧
    (∀ calls : List (Opening σ × ClientCall),
      Connectable (modbusSerialClient line) Opening.Succeeds
        (calls.foldl (ClientCall.step (modbusSerialClient line))
          (modbusSerialClientCreate slaveId start))) ∧
    (∀ calls : List (ℚ × ClientCall),
      Connectable simulatedModbusClient (fun _ => True)
        (calls.foldl (ClientCall.step simulatedModbusClient)
          SimulatedDevice.create)) ∧
    (∀ script : Nat → Opening σ,
      (offWritten (modbusClient line) script
            (some (modbusClientCreate slaveId start)) = true ↔
          ∃ attempt < shutdownMaxAttempts,
            TcpAcceptsOff line slaveId (script attempt)) ↔
        ∀ attempt < shutdownMaxAttempts,
          TcpAcceptsOff line slaveId (script attempt) →
            (∀ earlier < attempt,
              ¬ TcpAcceptsOff line slaveId (script earlier)) →
              ∀ earlier < attempt, ¬ (script earlier).Succeeds) ∧
    ∀ script : Nat → Opening σ,
      offWritten (modbusSerialClient line) script
          (modbusSerialClientCreate slaveId start) = true ↔
        ∃ attempt < shutdownMaxAttempts,
          SerialAcceptsOff line slaveId (script attempt) := by
  refine ⟨fun calls => ?_, fun calls => ?_, fun calls => ?_,
    fun script => ?_, serial_offWritten_iff line slaveId start⟩
  · rw [modbusClient_connectable_iff line start, modbusClient_run_isSome]
    exact and_iff_right rfl
  · exact modbusSerialClient_connectable line _
  · exact simulatedModbusClient_connectable _
  · rw [tcp_offWritten_iff]
    exact reached_iff_exists_succeeds _

/-! ## A shutdown over TCP -/

/-- The first link is silent, the second takes the write and confirms it. -/
def secondAccepts : Nat → Opening LinkScript
  | 0 => .established { accepted := [8, 8, 8], chunks := [] }
  | _ + 1 =>
      .established
        { accepted := [8, 8]
          chunks := [modbusRtuBuildWriteFrame 11 regRunningMode 0,
            appendCrc [11, 0x03, 2, 0, 0]] }

def shutdownClient : Option (Connection LinkScript) :=
  some (modbusClientCreate 11 { accepted := [], chunks := [] })

/-- A disconnected client does not connect, and the unit is not switched off. -/
theorem disconnected_for_good :
    let client := modbusClient linkLine (secondAccepts 1)
    let disconnected := client.disconnect (client.connect shutdownClient).2
    client.isConnected disconnected = false ∧
      (client.connect disconnected).1 = false ∧
      offWritten (modbusClient linkLine) secondAccepts shutdownClient =
        false ∧
      TcpAcceptsOff linkLine 11 (secondAccepts 1) := by
  refine ⟨rfl, rfl, by decide +kernel, ?_⟩
  exact ⟨_, rfl, by decide +kernel⟩

end Windmi.Modbus
