import Windmi.Library.Runs
import Windmi.Modbus.Operations

/-!
# Whether the transports are interchangeable

The two clients are run over the same line from the same state, and their
callers compare what they get.  The clients receive alike, but they disagree
in two places.  The TCP client gives up on a request of which `send` takes a
part, where the serial client sends the rest.  And the serial client drops the
connection when a write cannot send its request or does not get an echo, where
the TCP client keeps it.
-/

namespace Windmi.Modbus

open Windmi.Core
open Windmi.Library

/-! ## What callers see -/

/-- A call of an operation, with the array that it is given. -/
structure Invocation where
  operation : Operation
  values : Nat → Int

/-- What the caller of a client has after an invocation. -/
structure Observation where
  code : Int
  values : Nat → Int
  isConnected : Bool

variable {σ : Type}

def Invocation.run (transport : Transport σ) (client : Client σ)
    (invocation : Invocation) : ReadResult σ :=
  invocation.operation.run transport invocation.values client

def Invocation.next (transport : Transport σ) (client : Client σ)
    (invocation : Invocation) : Client σ :=
  (invocation.run transport client).client

def ReadResult.observation (result : ReadResult σ) : Observation where
  code := result.code
  values := result.values
  isConnected := result.client.connected

/-- What is seen of the invocations of a sequence. -/
def observations (transport : Transport σ) :
    List Invocation → Client σ → List Observation
  | [], _ => []
  | invocation :: invocations, client =>
      (invocation.run transport client).observation ::
        observations transport invocations (invocation.next transport client)

/-! ## Where the clients agree -/

/-- The line takes the whole frame at once, or nothing of it. -/
def Undivided (line : Line σ) (frame : List Byte) (client : Client σ) :
    Prop :=
  (line.send frame (line.flush client.line)).1 = 0 ∨
    (line.send frame (line.flush client.line)).1 = frame.length

/-- The line takes the whole frame at once, and eight bytes follow. -/
def EchoArrives (line : Line σ) (frame : List Byte) (client : Client σ) :
    Prop :=
  let sent := line.send frame (line.flush client.line)
  sent.1 = frame.length ∧ (readExactly line.recv 8 8 sent.2).1.isSome

/--
Each attempt of a write over TCP gets eight bytes for an echo, and its
read-back is not divided.
-/
def Undisturbed (line : Line σ) (address value : Word) :
    Nat → Client σ → Prop
  | 0, _ => True
  | retries + 1, client =>
      let echoed := awaitEcho (tcpTransport line) address value client
      let attempt := writeAttempt (tcpTransport line) address value client
      client.connected = true →
        EchoArrives line
            (modbusRtuBuildWriteFrame client.slaveId address value) client ∧
          (echoed.1 = true →
            Undivided line
              (modbusRtuBuildReadFrame echoed.2.slaveId address 1)
              echoed.2) ∧
          (attempt.1 = false →
            Undisturbed line address value retries attempt.2)

/-- Neither of the places in which the clients disagree is reached. -/
def Agreeable (line : Line σ) (client : Client σ)
    (invocation : Invocation) : Prop :=
  match invocation.operation with
  | .readRegister address =>
      client.connected = true →
        Undivided line (modbusRtuBuildReadFrame client.slaveId address 1)
          client
  | .readRegisters address count =>
      client.connected = true → count ≠ 0 →
        Undivided line
          (modbusRtuBuildReadFrame client.slaveId address count) client
  | .writeRegister address value =>
      Undisturbed line address value modbusWriteMaxRetries client

/-! ## Sending and receiving -/

section

variable {line : Line σ} {client : Client σ}

/-- An undivided frame is sent alike. -/
theorem serialSendFrame_eq (opened : client.handle.isSome)
    {frame : List Byte} (nonempty : frame ≠ [])
    (undivided : Undivided line frame client) :
    serialSendFrame line frame client = sendFrame line frame client := by
  have handle := Option.isSome_iff_ne_none.mp opened
  rcases List.exists_cons_of_ne_nil nonempty with ⟨first, rest, rfl⟩
  rcases undivided with nothing | whole
  · simp [serialSendFrame, sendFrame, flushReadBuffer, serialSendLoop,
      handle, nothing]
  · have taken := whole
    rw [List.length_cons] at taken
    have all : (first :: rest).drop (rest.length + 1) = [] :=
      List.drop_length
    simp only [serialSendFrame, sendFrame, flushReadBuffer, serialSendLoop,
      handle, taken, all, List.length_cons, if_false, false_or,
      Nat.succ_ne_zero, decide_true]

/-- Anything is received alike. -/
theorem serialReceiveExact_eq (opened : client.handle.isSome)
    {expected : Nat} (positive : 0 < expected) :
    (serialTransport line).receiveExact expected client =
      (tcpTransport line).receiveExact expected client := by
  have serial := (serialTransport_faithful line).receiveExact expected client
    opened positive
  have tcp := (tcpTransport_faithful line).receiveExact expected client
    opened positive
  exact serial.trans tcp.symm

/-- Operations of the TCP client keep its socket. -/
theorem tcp_keeps_handle (line : Line σ) (handle : Option Nat) :
    (tcpTransport line).Keeps fun client => client.handle = handle :=
  (tcpTransport_movesBytes line).keeps (unbroken_handle handle)

theorem tcp_sendFrame_handle (opened : client.handle.isSome)
    (frame : List Byte) :
    ((tcpTransport line).sendFrame frame client).2.handle.isSome := by
  have kept := (tcp_keeps_handle line client.handle).send rfl frame
  rw [kept]
  exact opened

theorem tcp_receiveExact_handle (opened : client.handle.isSome)
    (expected : Nat) :
    ((tcpTransport line).receiveExact expected client).2.handle.isSome := by
  have kept := (tcp_keeps_handle line client.handle).receive rfl expected
  rw [kept]
  exact opened

/-! ## Reads -/

theorem receiveOrDrop_eq (opened : client.handle.isSome) {expected : Nat}
    (positive : 0 < expected) (values : Nat → Int)
    {serialNext tcpNext : List Byte → Client σ → ReadResult σ}
    (continues : ∀ bytes client, client.handle.isSome →
      serialNext bytes client = tcpNext bytes client) :
    receiveOrDrop (serialTransport line) expected values client serialNext =
      receiveOrDrop (tcpTransport line) expected values client tcpNext := by
  have kept := @tcp_receiveExact_handle _ line client opened expected
  unfold receiveOrDrop
  rw [serialReceiveExact_eq opened positive]
  generalize (tcpTransport line).receiveExact expected client = outcome
    at kept ⊢
  rcases outcome with ⟨_ | bytes, after⟩
  · rfl
  · exact continues bytes after kept

theorem receiveReply_eq (opened : client.handle.isSome) (readCount : Word)
    (values : Nat → Int) (header : List Byte) :
    receiveReply (serialTransport line) readCount values header client =
      receiveReply (tcpTransport line) readCount values header client := by
  unfold receiveReply
  rw [@serialReceiveExact_eq _ line client opened 2 (by decide),
    @receiveOrDrop_eq _ line client opened
      ((byteAt header 2).toNat + 2) (Nat.succ_pos _) values
      (decodeReply readCount values header)
      (decodeReply readCount values header) fun _ _ _ => rfl]

/-- A read whose request is not divided is the same for both clients. -/
theorem read_eq (opened : client.handle.isSome) (address : Word)
    (values : Nat → Int) (count : Word) (single : Bool)
    (undivided : client.connected = true → count ≠ 0 →
      Undivided line
        (modbusRtuBuildReadFrame client.slaveId address
          (if single then 1 else count)) client) :
    readWriteRegistersInternal (serialTransport line) address values count
        single client =
      readWriteRegistersInternal (tcpTransport line) address values count
        single client := by
  unfold readWriteRegistersInternal
  split
  case isTrue refused => rfl
  case isFalse ready =>
    rcases not_or.mp ready with ⟨connected, positive⟩
    have sending : (serialTransport line).sendFrame
        (modbusRtuBuildReadFrame client.slaveId address
          (if single then 1 else count)) client =
          (tcpTransport line).sendFrame
            (modbusRtuBuildReadFrame client.slaveId address
              (if single then 1 else count)) client :=
      serialSendFrame_eq opened (List.cons_ne_nil _ _)
        (undivided (not_not.mp connected) positive)
    have kept := @tcp_sendFrame_handle _ line client opened
      (modbusRtuBuildReadFrame client.slaveId address
        (if single then 1 else count))
    simp only
    rw [sending]
    generalize (tcpTransport line).sendFrame
      (modbusRtuBuildReadFrame client.slaveId address
        (if single then 1 else count)) client = outcome at kept ⊢
    rcases outcome with ⟨_ | _, after⟩
    · rfl
    · exact receiveOrDrop_eq kept (by decide) values
        fun header client opened => receiveReply_eq opened _ values header

/-! ## Writes -/

theorem verifyWrite_eq (opened : client.handle.isSome) (address value : Word)
    (undivided : client.connected = true →
      Undivided line (modbusRtuBuildReadFrame client.slaveId address 1)
        client) :
    verifyWrite (serialTransport line) address value client =
      verifyWrite (tcpTransport line) address value client := by
  unfold verifyWrite readRegister
  rw [read_eq opened address (fun _ => 0) 1 true
    fun connected _ => undivided connected]

/-- An echo that arrives is received alike, and the connection stays. -/
theorem awaitEcho_eq (opened : client.handle.isSome) (address value : Word)
    (arrives : EchoArrives line
      (modbusRtuBuildWriteFrame client.slaveId address value) client) :
    awaitEcho (serialTransport line) address value client =
      awaitEcho (tcpTransport line) address value client := by
  rcases arrives with ⟨whole, arrived⟩
  have handle := Option.isSome_iff_ne_none.mp opened
  have sending : (serialTransport line).sendFrame
      (modbusRtuBuildWriteFrame client.slaveId address value) client =
        (tcpTransport line).sendFrame
          (modbusRtuBuildWriteFrame client.slaveId address value) client :=
    serialSendFrame_eq opened (List.cons_ne_nil _ _) (Or.inr whole)
  obtain ⟨sent, taken, still, arrived⟩ : ∃ sent,
      (tcpTransport line).sendFrame
          (modbusRtuBuildWriteFrame client.slaveId address value) client =
            (true, sent) ∧
        sent.handle.isSome ∧ (readExactly line.recv 8 8 sent.line).1.isSome :=
    ⟨{ client with
        line := (line.send
          (modbusRtuBuildWriteFrame client.slaveId address value)
          (line.flush client.line)).2 },
      by simp only [tcpTransport, sendFrame, flushReadBuffer, handle,
        if_false, whole, decide_true],
      opened, arrived⟩
  rcases Option.isSome_iff_exists.mp arrived with ⟨response, received⟩
  unfold awaitEcho
  rw [sending, taken]
  simp only
  rw [serialReceiveExact_eq still (by decide),
    (tcpTransport_faithful line).receiveExact 8 sent still (by decide),
    received]

theorem tcp_awaitEcho_handle (opened : client.handle.isSome)
    (address value : Word) :
    (awaitEcho (tcpTransport line) address value client).2.handle.isSome := by
  have kept := (tcp_keeps_handle line client.handle).awaitEcho rfl address value
  rw [kept]
  exact opened

theorem tcp_writeAttempt_handle (opened : client.handle.isSome)
    (address value : Word) :
    (writeAttempt (tcpTransport line) address value
      client).2.handle.isSome := by
  have kept := (tcp_keeps_handle line client.handle).attempt rfl address value
  rw [kept]
  exact opened

/-- An attempt with an echo is the same for both clients. -/
theorem writeAttempt_agrees (opened : client.handle.isSome)
    (address value : Word)
    (arrives : EchoArrives line
      (modbusRtuBuildWriteFrame client.slaveId address value) client)
    (undivided :
      let echoed := awaitEcho (tcpTransport line) address value client
      echoed.1 = true →
        Undivided line (modbusRtuBuildReadFrame echoed.2.slaveId address 1)
          echoed.2) :
    writeAttempt (serialTransport line) address value client =
      writeAttempt (tcpTransport line) address value client := by
  have kept := @tcp_awaitEcho_handle _ line client opened address value
  rw [writeAttempt_eq, writeAttempt_eq, awaitEcho_eq opened address value
    arrives]
  simp only
  split
  case isTrue echoed =>
    exact verifyWrite_eq kept address value fun _ => undivided echoed
  case isFalse refused => rfl

end

/-! ## Runs -/

/-- The clients are in the same state, or both have no connection. -/
def Agree (tcp serial : Client σ) : Prop :=
  tcp = serial ∨ tcp.connected = false ∧ serial.connected = false

theorem Agree.connected {tcp serial : Client σ} (agree : Agree tcp serial) :
    tcp.connected = serial.connected := by
  rcases agree with rfl | ⟨lost, alsoLost⟩
  · rfl
  · rw [lost, alsoLost]

section

variable {line : Line σ} {client : Client σ}

theorem writeAttempts_agree (address value : Word) (retries : Nat)
    (opened : client.handle.isSome)
    (undisturbed : Undisturbed line address value retries client) :
    (writeAttempts (tcpTransport line) address value retries client).1 =
        (writeAttempts (serialTransport line) address value retries
          client).1 ∧
      Agree
        (writeAttempts (tcpTransport line) address value retries client).2
        (writeAttempts (serialTransport line) address value retries
          client).2 := by
  induction retries generalizing client with
  | zero => exact ⟨rfl, Or.inl rfl⟩
  | succ retries ih =>
      by_cases connected : client.connected = true
      · rcases undisturbed connected with ⟨arrives, undivided, remaining⟩
        have same := writeAttempt_agrees opened address value arrives
          undivided
        have kept := @tcp_writeAttempt_handle _ line client opened address
          value
        unfold writeAttempts
        rw [same]
        generalize writeAttempt (tcpTransport line) address value client =
          attempt at remaining kept ⊢
        rcases attempt with ⟨_ | _, after⟩
        · exact ih kept (remaining rfl)
        · exact ⟨rfl, Or.inl rfl⟩
      · have lost : client.connected = false := by simpa using connected
        rcases writeAttempts_disconnected (tcpTransport_faithful line) lost
            address value (retries + 1) with ⟨tcp, failed, tcpLost⟩
        rcases writeAttempts_disconnected (serialTransport_faithful line)
            lost address value (retries + 1) with
          ⟨serial, alsoFailed, serialLost⟩
        rw [failed, alsoFailed]
        exact ⟨rfl, Or.inr ⟨tcpLost, serialLost⟩⟩

/-- An agreeable invocation in the same state. -/
theorem Agreeable.same {invocation : Invocation} (opened : client.handle.isSome)
    (agreeable : Agreeable line client invocation) :
    (invocation.run (tcpTransport line) client).code =
        (invocation.run (serialTransport line) client).code ∧
      (invocation.run (tcpTransport line) client).values =
        (invocation.run (serialTransport line) client).values ∧
      Agree (invocation.next (tcpTransport line) client)
        (invocation.next (serialTransport line) client) := by
  rcases invocation with ⟨operation, values⟩
  have equal_read : ∀ {tcp serial : ReadResult σ}, serial = tcp →
      tcp.code = serial.code ∧ tcp.values = serial.values ∧
        Agree tcp.client serial.client := by
    rintro tcp serial rfl
    exact ⟨rfl, rfl, Or.inl rfl⟩
  cases operation with
  | readRegister address =>
      exact equal_read (read_eq opened address values 1 true
        fun connected _ => agreeable connected)
  | readRegisters address count =>
      refine equal_read ?_
      simp only [Invocation.run, Operation.run, readRegisters]
      split
      · rfl
      · exact read_eq opened address values count false agreeable
  | writeRegister address value =>
      simp only [Invocation.run, Invocation.next, Operation.run, writeRegister]
      split
      · exact ⟨rfl, trivial, Or.inl rfl⟩
      · rcases writeAttempts_agree address value _ opened agreeable with
          ⟨codes, agree⟩
        exact ⟨codes, trivial, agree⟩

/-- An agreeable invocation is seen alike, and the clients stay in agreement. -/
theorem Agree.step {tcp serial : Client σ} {invocation : Invocation}
    (agree : Agree tcp serial) (opened : tcp.handle.isSome)
    (agreeable : Agreeable line tcp invocation) :
    (invocation.run (tcpTransport line) tcp).observation =
        (invocation.run (serialTransport line) serial).observation ∧
      Agree (invocation.next (tcpTransport line) tcp)
        (invocation.next (serialTransport line) serial) := by
  have seen : ∀ {tcp serial : ReadResult σ}, tcp.code = serial.code →
      tcp.values = serial.values → Agree tcp.client serial.client →
        tcp.observation = serial.observation := by
    intro tcp serial code values agree
    simp only [ReadResult.observation, code, values, agree.connected]
  rcases agree with rfl | ⟨lost, alsoLost⟩
  · rcases agreeable.same opened with ⟨code, values, agree⟩
    exact ⟨seen code values agree, agree⟩
  · have agree : Agree (invocation.next (tcpTransport line) tcp)
        (invocation.next (serialTransport line) serial) := by
      simp only [Invocation.next, Invocation.run, operation_disconnected lost,
        operation_disconnected alsoLost]
      exact Or.inr ⟨lost, alsoLost⟩
    refine ⟨seen ?_ ?_ agree, agree⟩
    · simp only [Invocation.run, operation_disconnected lost,
        operation_disconnected alsoLost]
    · simp only [Invocation.run, operation_disconnected lost,
        operation_disconnected alsoLost]

theorem Invocation.next_handle (opened : client.handle.isSome)
    (invocation : Invocation) :
    (invocation.next (tcpTransport line) client).handle.isSome := by
  have kept := (tcp_keeps_handle line client.handle).operation rfl
    invocation.values invocation.operation
  rw [Invocation.next, Invocation.run, kept]
  exact opened

theorem Agree.run {tcp serial : Client σ} {invocations : List Invocation}
    (agree : Agree tcp serial) (opened : tcp.handle.isSome)
    (agreeable : Throughout (Invocation.next (tcpTransport line))
      (Agreeable line) tcp invocations) :
    observations (tcpTransport line) invocations tcp =
      observations (serialTransport line) invocations serial := by
  induction invocations generalizing tcp serial with
  | nil => rfl
  | cons invocation invocations ih =>
      rcases throughout_cons.mp agreeable with ⟨now, later⟩
      rcases agree.step opened now with ⟨seen, still⟩
      have rest := ih still (invocation.next_handle opened) later
      simp only [observations]
      rw [seen, rest]

end

/--
Callers of an opened client see the same over both transports, as long as no
request is divided and no write is left without its echo.
-/
theorem transports_interchangeable {line : Line σ} {client : Client σ}
    (opened : client.handle.isSome) (invocations : List Invocation)
    (agreeable : Throughout (Invocation.next (tcpTransport line))
      (Agreeable line) client invocations) :
    observations (tcpTransport line) invocations client =
      observations (serialTransport line) invocations client :=
  Agree.run (Or.inl rfl) opened agreeable

/-! ## Scripts -/

/-- What is to come: how much sends take, and what receives bring. -/
structure LinkScript where
  accepted : List Nat
  /-- An empty chunk is a timeout, as is the end of the script. -/
  chunks : List (List Byte)
  deriving DecidableEq, Repr

def LinkScript.send (frame : List Byte) (script : LinkScript) :
    Nat × LinkScript :=
  (min frame.length (script.accepted.headD 0),
    { script with accepted := script.accepted.tail })

/-- What is left of a chunk comes with the next receive. -/
def LinkScript.recv (limit : Nat) (script : LinkScript) :
    List Byte × LinkScript :=
  let chunk := script.chunks.headD []
  (chunk.take limit,
    { script with
      chunks :=
        if chunk.length ≤ limit then script.chunks.tail
        else chunk.drop limit :: script.chunks.tail })

/-- The script begins with what arrives after the flush. -/
def linkLine : Line LinkScript where
  flush script := script
  send := LinkScript.send
  recv := LinkScript.recv
  send_le _ _ := Nat.min_le_left _ _
  recv_le limit _ := List.length_take_le limit _

def scriptedClient (accepted : List Nat) (chunks : List (List Byte)) :
    Client LinkScript where
  slaveId := 11
  handle := some 3
  connected := true
  line := { accepted := accepted, chunks := chunks }

def writeTarget : Invocation where
  operation := .writeRegister regDhwTarget 450
  values := fun _ => 0

def readTarget : Invocation where
  operation := .readRegister regDhwTarget
  values := fun _ => 0

/-- The line of a verified write, which then takes no further request. -/
def refusingClient : Client LinkScript :=
  scriptedClient [8, 8, 0]
    [(modbusRtuBuildWriteFrame 11 regDhwTarget 450).take 3,
      (modbusRtuBuildWriteFrame 11 regDhwTarget 450).drop 3,
      appendCrc [11, 0x03, 2, 0x01, 0xC2]]

theorem transports_interchangeable_refusing :
    observations (tcpTransport linkLine) [writeTarget, readTarget, readTarget]
        refusingClient =
      observations (serialTransport linkLine)
        [writeTarget, readTarget, readTarget] refusingClient := by
  refine transports_interchangeable rfl _ ?_
  refine throughout_cons.mpr ⟨?_, throughout_cons.mpr
    ⟨?_, throughout_cons.mpr ⟨?_, throughout_nil _⟩⟩⟩
  · refine fun _ => ⟨?_, fun _ => Or.inr (by decide +kernel), ?_⟩
    · exact ⟨by decide +kernel, by decide +kernel⟩
    · exact fun failed => absurd failed (by decide +kernel)
  · exact fun _ => Or.inl (by decide +kernel)
  · exact fun connected => absurd connected (by decide +kernel)

/-- The line of a slave that answers nothing. -/
def silentClient : Client LinkScript :=
  scriptedClient [8, 8, 8] []

/-- A line which takes the first request in two parts. -/
def dividingClient : Client LinkScript :=
  scriptedClient [3, 5] [appendCrc [11, 0x03, 2, 0x01, 0xC2]]

/--
After a write without an echo the TCP client still counts as connected.  A
request of which a part is taken is completed by the serial client only.
-/
theorem transports_not_interchangeable :
    observations (tcpTransport linkLine) [writeTarget] silentClient ≠
        observations (serialTransport linkLine) [writeTarget]
          silentClient ∧
      observations (tcpTransport linkLine) [readTarget] dividingClient ≠
        observations (serialTransport linkLine) [readTarget]
          dividingClient := by
  constructor
  · intro same
    exact absurd (congrArg (List.map Observation.isConnected) same)
      (by decide +kernel)
  · intro same
    exact absurd (congrArg (List.map Observation.code) same)
      (by decide +kernel)

end Windmi.Modbus
