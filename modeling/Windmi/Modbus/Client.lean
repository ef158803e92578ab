import Windmi.Library.ExactRead
import Windmi.Modbus.RtuFrame

/-!
# The Modbus clients

`src/modbus_client.c` (TCP) and `src/modbus/modbus_serial_client.c` (RTU over a
serial port).  The protocol parts of the two files are the same text up to the
functions which send and receive and to what a failed write does to the
connection; they are translated once, over a `Transport`, and instantiated
under both names.

What the operating system offers for a socket or a port is a `Line`.  Sending
and receiving may be partial, and nothing sent or received stands for an
error, a timeout or the end of the stream.
-/

namespace Windmi.Modbus

open Windmi.Core
open Windmi.Library

/-! ## Lines -/

/--
A socket or a serial port, over the state of the other side.  `flush` discards
the bytes which have arrived, as the loop of `flush_read_buffer` over `select`
and `recv` does, or `windmi_serial_flush`.  `recv` waits for the receive
timeout at most.
-/
structure Line (σ : Type) where
  flush : σ → σ
  send : List Byte → σ → Nat × σ
  recv : Nat → σ → List Byte × σ
  send_le : ∀ bytes state, (send bytes state).1 ≤ bytes.length
  recv_le : ∀ limit state, (recv limit state).1.length ≤ limit

/-- A client: its connection and the line behind it. -/
structure Client (σ : Type) where
  slaveId : Byte
  /-- `socket_fd` or `port`, unless it is invalid. -/
  handle : Option Nat
  connected : Bool
  line : σ

/-- What the two clients do differently. -/
structure Transport (σ : Type) where
  sendFrame : List Byte → Client σ → Bool × Client σ
  receiveExact : Nat → Client σ → Option (List Byte) × Client σ
  /-- A write attempt that fails to send or to receive drops the connection. -/
  dropsOnWriteFailure : Bool

def modbusWriteMaxRetries : Nat := 3
def modbusReadHeaderLen : Nat := 3

variable {σ : Type}

/-! ## TCP -/

def flushReadBuffer (line : Line σ) (client : Client σ) : Client σ :=
  if client.handle = none then client
  else { client with line := line.flush client.line }

/-- A single call of `send` has to take the whole frame. -/
def sendFrame (line : Line σ) (frame : List Byte) (client : Client σ) :
    Bool × Client σ :=
  let client := flushReadBuffer line client
  if client.handle = none then
    (false, client)
  else
    let sent := line.send frame client.line
    (sent.1 = frame.length, { client with line := sent.2 })

def receiveExact (line : Line σ) (expected : Nat) (client : Client σ) :
    Option (List Byte) × Client σ :=
  if client.handle = none then
    (none, client)
  else
    let received := readExactly line.recv expected expected client.line
    (received.1, { client with line := received.2 })

def tcpTransport (line : Line σ) : Transport σ where
  sendFrame := sendFrame line
  receiveExact := receiveExact line
  dropsOnWriteFailure := false

/-! ## Serial -/

/-- The loop of `serial_send_frame`; each round takes one byte at least. -/
def serialSendLoop (line : Line σ) : Nat → List Byte → σ → Bool × σ
  | _, [], state => (true, state)
  | 0, _ :: _, state => (false, state)
  | fuel + 1, first :: rest, state =>
      let sent := line.send (first :: rest) state
      if sent.1 = 0 then
        (false, sent.2)
      else
        serialSendLoop line fuel ((first :: rest).drop sent.1) sent.2

def serialSendFrame (line : Line σ) (frame : List Byte)
    (client : Client σ) : Bool × Client σ :=
  if client.handle = none ∨ frame.length = 0 then
    (false, client)
  else
    let sent :=
      serialSendLoop line frame.length frame (line.flush client.line)
    (sent.1, { client with line := sent.2 })

def serialReceiveExact (line : Line σ) (expected : Nat)
    (client : Client σ) : Option (List Byte) × Client σ :=
  if client.handle = none ∨ expected = 0 then
    (none, client)
  else
    let received := readExactly line.recv expected expected client.line
    (received.1, { client with line := received.2 })

def serialTransport (line : Line σ) : Transport σ where
  sendFrame := serialSendFrame line
  receiveExact := serialReceiveExact line
  dropsOnWriteFailure := true

/-! ## Reading registers -/

/--
The outcome of a read: the return value and the caller's array afterwards, as
signed numbers.
-/
structure ReadResult (σ : Type) where
  code : Int
  values : Nat → Int
  client : Client σ

theorem code_failed : ¬ (-1 : Int) = 0 := by
  decide

def Client.drop (client : Client σ) : Client σ :=
  { client with connected := false }

/-- Receive and go on, or drop the connection and fail. -/
def receiveOrDrop (transport : Transport σ) (expected : Nat)
    (values : Nat → Int) (client : Client σ)
    (next : List Byte → Client σ → ReadResult σ) : ReadResult σ :=
  match transport.receiveExact expected client with
  | (none, client) =>
      { code := -1, values := values, client := client.drop }
  | (some bytes, client) => next bytes client

/-- The end of a read: the CRC, then the values. -/
def decodeReply (readCount : Word) (values : Nat → Int)
    (header dataAndCrc : List Byte) (client : Client σ) : ReadResult σ :=
  let fullFrame := header ++ dataAndCrc
  let totalLen := modbusReadHeaderLen + dataAndCrc.length
  if crcReceived fullFrame totalLen ≠ crcCalculated fullFrame totalLen then
    { code := -1, values := values, client := client }
  else
    { code := 0
      values := fun index =>
        if index < readCount.toNat then
          (bytesToUint16 dataAndCrc (index * 2)).toInt
        else
          values index
      client := client }

/-- A read from its header on. -/
def receiveReply (transport : Transport σ) (readCount : Word)
    (values : Nat → Int) (header : List Byte) (client : Client σ) :
    ReadResult σ :=
  if byteAt header 0 ≠ client.slaveId then
    { code := -1, values := values, client := client }
  else if byteAt header 1 &&& 0x80 ≠ 0 then
    -- The result of receiving the CRC of an exception is ignored.
    { code := -1
      values := values
      client := (transport.receiveExact 2 client).2 }
  else if (byteAt header 2).toNat ≠ readCount.toNat * 2 then
    { code := -1, values := values, client := client }
  else
    receiveOrDrop transport ((byteAt header 2).toNat + 2) values client
      (decodeReply readCount values header)

def readWriteRegistersInternal (transport : Transport σ) (address : Word)
    (values : Nat → Int) (count : Word) (single : Bool)
    (client : Client σ) : ReadResult σ :=
  if ¬ client.connected ∨ count = 0 then
    { code := -1, values := values, client := client }
  else
    let readCount := if single then 1 else count
    match transport.sendFrame
        (modbusRtuBuildReadFrame client.slaveId address readCount)
        client with
    | (false, client) =>
        { code := -1, values := values, client := client.drop }
    | (true, client) =>
        receiveOrDrop transport modbusReadHeaderLen values client
          (receiveReply transport readCount values)

/-- A read whose request was sent goes on with the header of the reply. -/
theorem readWriteRegistersInternal_sent {transport : Transport σ}
    {client sent : Client σ} {address count readCount : Word} {single : Bool}
    (connected : client.connected = true) (positive : count ≠ 0)
    (counted : (if single then 1 else count) = readCount)
    (sending : transport.sendFrame
      (modbusRtuBuildReadFrame client.slaveId address readCount)
      client = (true, sent)) (values : Nat → Int) :
    readWriteRegistersInternal transport address values count single client =
      receiveOrDrop transport modbusReadHeaderLen values sent
        (receiveReply transport readCount values) := by
  subst counted
  have ready : ¬ (¬ client.connected ∨ count = 0) := by
    rintro (lost | zero)
    · exact lost connected
    · exact positive zero
  unfold readWriteRegistersInternal
  rw [if_neg ready]
  simp only [sending]

def readRegister (transport : Transport σ) (address : Word)
    (value : Nat → Int) (client : Client σ) : ReadResult σ :=
  readWriteRegistersInternal transport address value 1 true client

def readRegisters (transport : Transport σ) (address : Word)
    (values : Nat → Int) (count : Word) (client : Client σ) :
    ReadResult σ :=
  if count = 0 then
    { code := -1, values := values, client := client }
  else
    readWriteRegistersInternal transport address values count false client

/-! ## Writing a register -/

def Transport.failWrite (transport : Transport σ) (client : Client σ) :
    Client σ :=
  if transport.dropsOnWriteFailure then client.drop else client

/-- The checks of the echo, in the order of the source. -/
def echoAccepted (slaveId : Byte) (response : List Byte) : Bool :=
  if byteAt response 1 &&& 0x80 ≠ 0 then
    false
  else if byteAt response 0 ≠ slaveId ∨ byteAt response 1 ≠ 0x06 then
    false
  else
    crcReceived response 8 = crcCalculated response 8

/-- The read-back of a write attempt. -/
def verifyWrite (transport : Transport σ) (address value : Word)
    (client : Client σ) : Bool × Client σ :=
  let read := readRegister transport address (fun _ => 0) client
  (read.code = 0 ∧ BitVec.ofInt 16 (read.values 0) = value, read.client)

/-- The body of the retry loop of `modbus_write_register`. -/
def writeAttempt (transport : Transport σ) (address value : Word)
    (client : Client σ) : Bool × Client σ :=
  match transport.sendFrame
      (modbusRtuBuildWriteFrame client.slaveId address value) client with
  | (false, client) => (false, transport.failWrite client)
  | (true, client) =>
      match transport.receiveExact 8 client with
      | (none, client) => (false, transport.failWrite client)
      | (some response, client) =>
          if echoAccepted client.slaveId response then
            verifyWrite transport address value client
          else
            (false, client)

/-- The part of a write attempt up to the checks of its echo. -/
def awaitEcho (transport : Transport σ) (address value : Word)
    (client : Client σ) : Bool × Client σ :=
  match transport.sendFrame
      (modbusRtuBuildWriteFrame client.slaveId address value) client with
  | (false, client) => (false, transport.failWrite client)
  | (true, client) =>
      match transport.receiveExact 8 client with
      | (none, client) => (false, transport.failWrite client)
      | (some response, client) =>
          (echoAccepted client.slaveId response, client)

/-- An attempt whose echo passes goes on with its read-back. -/
theorem writeAttempt_eq (transport : Transport σ) (address value : Word)
    (client : Client σ) :
    writeAttempt transport address value client =
      let echoed := awaitEcho transport address value client
      if echoed.1 then verifyWrite transport address value echoed.2
      else echoed := by
  unfold writeAttempt awaitEcho
  rcases transport.sendFrame _ client with ⟨_ | _, sent⟩
  · rfl
  simp only
  rcases transport.receiveExact 8 sent with ⟨_ | response, after⟩
  · rfl
  simp only
  split <;> simp_all

def writeAttempts (transport : Transport σ) (address value : Word) :
    Nat → Client σ → Int × Client σ
  | 0, client => (-1, client)
  | retries + 1, client =>
      match writeAttempt transport address value client with
      | (true, client) => (0, client)
      | (false, client) =>
          writeAttempts transport address value retries client

def writeRegister (transport : Transport σ) (address value : Word)
    (client : Client σ) : Int × Client σ :=
  if ¬ client.connected then
    (-1, client)
  else
    writeAttempts transport address value modbusWriteMaxRetries client

/-! ## The two clients -/

section

variable (line : Line σ)

def modbusReadRegister :=
  readRegister (tcpTransport line)

def modbusReadRegisters :=
  readRegisters (tcpTransport line)

def modbusWriteRegister :=
  writeRegister (tcpTransport line)

def modbusSerialReadRegister :=
  readRegister (serialTransport line)

def modbusSerialReadRegisters :=
  readRegisters (serialTransport line)

def modbusSerialWriteRegister :=
  writeRegister (serialTransport line)

end

/-! ## Operations -/

/-- An access to the registers of the slave, as a caller makes it. -/
inductive Operation where
  | readRegister (address : Word)
  | readRegisters (address count : Word)
  | writeRegister (address value : Word)
  deriving DecidableEq, Repr

/-- A write leaves the caller's array alone. -/
def Operation.run (transport : Transport σ) (values : Nat → Int)
    (operation : Operation) (client : Client σ) : ReadResult σ :=
  match operation with
  | .readRegister address => Modbus.readRegister transport address values client
  | .readRegisters address count =>
      Modbus.readRegisters transport address values count client
  | .writeRegister address value =>
      let written := Modbus.writeRegister transport address value client
      { code := written.1, values := values, client := written.2 }

end Windmi.Modbus
