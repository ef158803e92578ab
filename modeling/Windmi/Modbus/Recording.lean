import Windmi.Modbus.Client

/-!
# Recording the traffic of a line

A line with a record of what it accepted and of what it handed over.  The
record is never looked at: a client behaves on the recorded line as it does on
the line itself.  What a transport does to the record is all that the results
about arbitrary lines need.
-/

namespace Windmi.Modbus

open Windmi.Core
open Windmi.Library

variable {σ : Type}

/-! ## Records -/

/-- What a send was accepted of, or a receive returned. -/
inductive Traffic where
  | sent (bytes : List Byte)
  | received (bytes : List Byte)
  deriving DecidableEq, Repr

def sentBytes (call : List Traffic) : List Byte :=
  call.flatMap fun
    | .sent bytes => bytes
    | .received _ => []

def receivedBytes (call : List Traffic) : List Byte :=
  call.flatMap fun
    | .sent _ => []
    | .received bytes => bytes

@[simp]
theorem sentBytes_append (first second : List Traffic) :
    sentBytes (first ++ second) = sentBytes first ++ sentBytes second :=
  List.flatMap_append

@[simp]
theorem receivedBytes_append (first second : List Traffic) :
    receivedBytes (first ++ second) =
      receivedBytes first ++ receivedBytes second :=
  List.flatMap_append

structure Recorded (σ : Type) where
  other : σ
  traffic : List Traffic

/-- Discarded bytes were not received. -/
def recorded (line : Line σ) : Line (Recorded σ) where
  flush state := { state with other := line.flush state.other }
  send bytes state :=
    let result := line.send bytes state.other
    (result.1,
      { other := result.2
        traffic := state.traffic ++ [.sent (bytes.take result.1)] })
  recv limit state :=
    let result := line.recv limit state.other
    (result.1,
      { other := result.2
        traffic := state.traffic ++ [.received result.1] })
  send_le bytes state := line.send_le bytes state.other
  recv_le limit state := line.recv_le limit state.other

/-! ## What happens between two states of a client -/

/-- A part of a call: what it adds to the record. -/
structure During (call : List Traffic)
    (before after : Client (Recorded σ)) : Prop where
  traffic : after.line.traffic = before.line.traffic ++ call
  slaveId : after.slaveId = before.slaveId

theorem During.refl (client : Client (Recorded σ)) :
    During [] client client where
  traffic := (List.append_nil _).symm
  slaveId := rfl

theorem During.trans {first second : List Traffic}
    {before middle after : Client (Recorded σ)}
    (earlier : During first before middle)
    (later : During second middle after) :
    During (first ++ second) before after where
  traffic := by
    rw [later.traffic, earlier.traffic, List.append_assoc]
  slaveId := later.slaveId.trans earlier.slaveId

theorem During.drop {call : List Traffic}
    {before after : Client (Recorded σ)} (during : During call before after) :
    During call before after.drop :=
  ⟨during.traffic, during.slaveId⟩

theorem During.failWrite {call : List Traffic}
    {before after : Client (Recorded σ)}
    (transport : Transport (Recorded σ))
    (during : During call before after) :
    During call before (transport.failWrite after) := by
  unfold Transport.failWrite
  split
  · exact during.drop
  · exact during

/--
A transport which only moves bytes: it sends a prefix of the frame, all of it
if it says so, and returns what it has received.
-/
structure Transport.Recording (transport : Transport (Recorded σ)) :
    Prop where
  sendFrame : ∀ frame client, ∃ call,
    During call client (transport.sendFrame frame client).2 ∧
      receivedBytes call = [] ∧
      sentBytes call <+: frame ∧
      ((transport.sendFrame frame client).1 = true → sentBytes call = frame)
  receiveExact : ∀ expected client, ∃ call,
    During call client (transport.receiveExact expected client).2 ∧
      sentBytes call = [] ∧
      ∀ bytes,
        (transport.receiveExact expected client).1 = some bytes →
          bytes = receivedBytes call ∧ bytes.length = expected

/-! ### Receiving -/

/-- The bytes of a record which has no sends since `before`. -/
def Hands (before : Recorded σ) (bytes : List Byte) (after : Recorded σ) :
    Prop :=
  ∃ call, after.traffic = before.traffic ++ call ∧ sentBytes call = [] ∧
    receivedBytes call = bytes

theorem recorded_accounted (line : Line σ) :
    Accounted (recorded line).recv Hands where
  nothing state := ⟨[], (List.append_nil _).symm, rfl, rfl⟩
  append := by
    rintro _ _ before middle after ⟨first, early, silent, rfl⟩
      ⟨second, late, quiet, rfl⟩
    refine ⟨first ++ second, ?_, ?_, receivedBytes_append first second⟩
    · rw [late, early, List.append_assoc]
    · rw [sentBytes_append, silent, quiet, List.append_nil]
  chunk limit state :=
    ⟨[.received (line.recv limit state.other).1], rfl, rfl,
      List.append_nil _⟩
  length_le := (recorded line).recv_le

theorem Hands.during {before after : Recorded σ} {bytes : List Byte}
    (hands : Hands before bytes after) (client : Client (Recorded σ))
    (start : client.line = before) :
    ∃ call, During call client { client with line := after } ∧
      sentBytes call = [] ∧ receivedBytes call = bytes := by
  rcases hands with ⟨call, extended, silent, handed⟩
  refine ⟨call, ⟨?_, rfl⟩, silent, handed⟩
  rw [start]
  exact extended

/-- A loop of exact reads on the recorded line, as part of a call. -/
theorem recorded_readExactly (line : Line σ) (expected : Nat)
    (client : Client (Recorded σ)) :
    let received :=
      readExactly (recorded line).recv expected expected client.line
    ∃ call, During call client { client with line := received.2 } ∧
      sentBytes call = [] ∧
      ∀ bytes, received.1 = some bytes →
        bytes = receivedBytes call ∧ bytes.length = expected := by
  intro received
  rcases (recorded_accounted line).readExactly (le_refl expected)
    client.line with ⟨taken, hands, exact⟩
  rcases hands.during client rfl with ⟨call, during, silent, handed⟩
  refine ⟨call, during, silent, fun bytes success => ?_⟩
  rw [handed]
  exact exact bytes success

/-! ### Sending -/

/-- The loop of the serial client sends a prefix in any number of writes. -/
theorem recorded_serialSendLoop (line : Line σ) (fuel : Nat)
    (frame : List Byte) (state : Recorded σ) :
    let sent := serialSendLoop (recorded line) fuel frame state
    ∃ call, sent.2.traffic = state.traffic ++ call ∧
      receivedBytes call = [] ∧ sentBytes call <+: frame ∧
      (sent.1 = true → sentBytes call = frame) := by
  induction fuel generalizing frame state with
  | zero =>
      cases frame with
      | nil =>
          exact ⟨[], (List.append_nil _).symm, rfl, List.nil_prefix,
            fun _ => rfl⟩
      | cons first rest =>
          exact ⟨[], (List.append_nil _).symm, rfl, List.nil_prefix,
            fun impossible => Bool.noConfusion impossible⟩
  | succ fuel ih =>
      cases frame with
      | nil =>
          exact ⟨[], (List.append_nil _).symm, rfl, List.nil_prefix,
            fun _ => rfl⟩
      | cons first rest =>
          simp only [serialSendLoop]
          by_cases nothing :
              ((recorded line).send (first :: rest) state).1 = 0
          · rw [if_pos nothing]
            refine ⟨[.sent ((first :: rest).take 0)], ?_, rfl,
              List.nil_prefix,
              fun impossible => Bool.noConfusion impossible⟩
            rw [← nothing]
            rfl
          · rw [if_neg nothing]
            rcases ih
              ((first :: rest).drop
                ((recorded line).send (first :: rest) state).1)
              ((recorded line).send (first :: rest) state).2 with
              ⟨call, extended, silent, part, whole⟩
            refine ⟨.sent ((first :: rest).take
                ((recorded line).send (first :: rest) state).1) :: call,
              ?_, silent, ?_, fun success => ?_⟩
            · rw [extended]
              exact List.append_assoc ..
            · exact ((List.prefix_append_right_inj _).mpr part).trans
                (by rw [List.take_append_drop])
            · exact (congrArg _ (whole success)).trans
                (List.take_append_drop ..)

/-! ### The two transports -/

theorem tcpTransport_recording (line : Line σ) :
    (tcpTransport (recorded line)).Recording where
  sendFrame frame client := by
    simp only [tcpTransport, sendFrame, flushReadBuffer]
    split_ifs with closed
    · exact ⟨[], During.refl client, rfl, List.nil_prefix, False.elim⟩
    · refine ⟨[.sent (frame.take (line.send frame
          (line.flush client.line.other)).1)], ⟨rfl, rfl⟩, rfl, ?_, ?_⟩
      · simp only [sentBytes, List.flatMap_cons, List.flatMap_nil,
          List.append_nil]
        exact List.take_prefix _ _
      · intro success
        have whole : (line.send frame (line.flush client.line.other)).1 =
            frame.length := of_decide_eq_true success
        rw [whole]
        simp [sentBytes]
  receiveExact expected client := by
    simp only [tcpTransport, receiveExact]
    split_ifs with closed
    · refine ⟨[], During.refl client, rfl, ?_⟩
      rintro bytes ⟨⟩
    · exact recorded_readExactly line expected client

theorem serialTransport_recording (line : Line σ) :
    (serialTransport (recorded line)).Recording where
  sendFrame frame client := by
    simp only [serialTransport, serialSendFrame]
    split_ifs with closed
    · exact ⟨[], During.refl client, rfl, List.nil_prefix, False.elim⟩
    · rcases recorded_serialSendLoop line frame.length frame
        ((recorded line).flush client.line) with
        ⟨call, extended, silent, part, whole⟩
      exact ⟨call, ⟨extended, rfl⟩, silent, part, whole⟩
  receiveExact expected client := by
    simp only [serialTransport, serialReceiveExact]
    split_ifs with closed
    · refine ⟨[], During.refl client, rfl, ?_⟩
      rintro bytes ⟨⟩
    · exact recorded_readExactly line expected client

/-! ## The record is not looked at -/

/-- The client of the line itself. -/
def Client.erase (client : Client (Recorded σ)) : Client σ where
  slaveId := client.slaveId
  handle := client.handle
  connected := client.connected
  line := client.line.other

@[simp]
theorem Client.erase_slaveId (client : Client (Recorded σ)) :
    client.erase.slaveId = client.slaveId :=
  rfl

@[simp]
theorem Client.erase_connected (client : Client (Recorded σ)) :
    client.erase.connected = client.connected :=
  rfl

def ReadResult.erase (result : ReadResult (Recorded σ)) : ReadResult σ where
  code := result.code
  values := result.values
  client := result.client.erase

/-- A transport which does on the recorded line what another does on it. -/
structure Transport.Erases (recording : Transport (Recorded σ))
    (plain : Transport σ) : Prop where
  sendFrame : ∀ frame (client : Client (Recorded σ)),
    plain.sendFrame frame client.erase =
      ((recording.sendFrame frame client).1,
        (recording.sendFrame frame client).2.erase)
  receiveExact : ∀ expected (client : Client (Recorded σ)),
    plain.receiveExact expected client.erase =
      ((recording.receiveExact expected client).1,
        (recording.receiveExact expected client).2.erase)
  dropsOnWriteFailure :
    plain.dropsOnWriteFailure = recording.dropsOnWriteFailure

theorem recorded_readExactly_erase (line : Line σ) (expected : Nat)
    (state : Recorded σ) :
    readExactly line.recv expected expected state.other =
      ((readExactly (recorded line).recv expected expected state).1,
        (readExactly (recorded line).recv expected expected state).2.other) :=
  readExactly_map Recorded.other (fun _ _ => rfl) expected expected state

theorem recorded_serialSendLoop_erase (line : Line σ) (fuel : Nat)
    (frame : List Byte) (state : Recorded σ) :
    serialSendLoop line fuel frame state.other =
      ((serialSendLoop (recorded line) fuel frame state).1,
        (serialSendLoop (recorded line) fuel frame state).2.other) := by
  induction fuel generalizing frame state with
  | zero =>
      cases frame with
      | nil => rfl
      | cons first rest => rfl
  | succ fuel ih =>
      cases frame with
      | nil => rfl
      | cons first rest =>
          simp only [serialSendLoop]
          have same :
              ((recorded line).send (first :: rest) state).1 =
                (line.send (first :: rest) state.other).1 := rfl
          rw [same]
          split
          · rfl
          · exact ih _ ((recorded line).send (first :: rest) state).2

theorem tcpTransport_erases (line : Line σ) :
    (tcpTransport (recorded line)).Erases (tcpTransport line) where
  sendFrame frame client := by
    simp only [tcpTransport, sendFrame, flushReadBuffer, Client.erase]
    split <;> rfl
  receiveExact expected client := by
    simp only [tcpTransport, receiveExact, Client.erase]
    split
    · rfl
    · rw [recorded_readExactly_erase]
  dropsOnWriteFailure := rfl

theorem serialTransport_erases (line : Line σ) :
    (serialTransport (recorded line)).Erases (serialTransport line) where
  sendFrame frame client := by
    simp only [serialTransport, serialSendFrame, Client.erase]
    split
    · rfl
    · exact congrArg (fun sent => (sent.1, { client.erase with line := sent.2 }))
        (recorded_serialSendLoop_erase line frame.length frame
          ((recorded line).flush client.line))
  receiveExact expected client := by
    simp only [serialTransport, serialReceiveExact, Client.erase]
    split
    · rfl
    · rw [recorded_readExactly_erase]
  dropsOnWriteFailure := rfl

section

variable {recording : Transport (Recorded σ)} {plain : Transport σ}
  (erases : recording.Erases plain)

include erases

theorem Transport.Erases.receiveOrDrop (expected : Nat)
    (values : Nat → Int) (client : Client (Recorded σ))
    {next : List Byte → Client (Recorded σ) → ReadResult (Recorded σ)}
    {nextPlain : List Byte → Client σ → ReadResult σ}
    (follows : ∀ bytes client,
      nextPlain bytes client.erase = (next bytes client).erase) :
    Modbus.receiveOrDrop plain expected values client.erase nextPlain =
      (Modbus.receiveOrDrop recording expected values client next).erase := by
  unfold Modbus.receiveOrDrop
  rw [erases.receiveExact]
  rcases recording.receiveExact expected client with ⟨_ | bytes, after⟩
  · rfl
  · exact follows bytes after

theorem Transport.Erases.receiveReply (readCount : Word)
    (values : Nat → Int) (header : List Byte)
    (client : Client (Recorded σ)) :
    Modbus.receiveReply plain readCount values header client.erase =
      (Modbus.receiveReply recording readCount values header
        client).erase := by
  unfold Modbus.receiveReply
  simp only [erases.receiveExact, Client.erase_slaveId]
  split_ifs
  · rfl
  · rfl
  · rfl
  · refine erases.receiveOrDrop _ values client ?_
    intro bytes client
    simp only [decodeReply]
    split <;> rfl

/-- A read returns on the line what it returns on the recorded one. -/
theorem Transport.Erases.readWriteRegistersInternal (address : Word)
    (values : Nat → Int) (count : Word) (single : Bool)
    (client : Client (Recorded σ)) :
    Modbus.readWriteRegistersInternal plain address values count single
        client.erase =
      (Modbus.readWriteRegistersInternal recording address values count
        single client).erase := by
  unfold Modbus.readWriteRegistersInternal
  simp only [erases.sendFrame, Client.erase_slaveId, Client.erase_connected]
  split
  · rfl
  · rcases recording.sendFrame _ client with ⟨_ | _, after⟩
    · rfl
    · exact erases.receiveOrDrop _ values after
        (erases.receiveReply _ values)

theorem Transport.Erases.verifyWrite (address value : Word)
    (client : Client (Recorded σ)) :
    Modbus.verifyWrite plain address value client.erase =
      ((Modbus.verifyWrite recording address value client).1,
        (Modbus.verifyWrite recording address value client).2.erase) := by
  unfold Modbus.verifyWrite readRegister
  rw [erases.readWriteRegistersInternal]
  rfl

theorem Transport.Erases.failWrite (client : Client (Recorded σ)) :
    plain.failWrite client.erase = (recording.failWrite client).erase := by
  unfold Transport.failWrite
  rw [erases.dropsOnWriteFailure]
  split <;> rfl

theorem Transport.Erases.writeAttempt (address value : Word)
    (client : Client (Recorded σ)) :
    Modbus.writeAttempt plain address value client.erase =
      ((Modbus.writeAttempt recording address value client).1,
        (Modbus.writeAttempt recording address value client).2.erase) := by
  unfold Modbus.writeAttempt
  rw [erases.sendFrame, Client.erase_slaveId]
  rcases recording.sendFrame _ client with ⟨_ | _, sent⟩
  · exact Prod.ext rfl (erases.failWrite sent)
  simp only [erases.receiveExact]
  rcases recording.receiveExact 8 sent with ⟨_ | response, after⟩
  · exact Prod.ext rfl (erases.failWrite after)
  simp only
  rw [Client.erase_slaveId]
  split_ifs
  · exact erases.verifyWrite address value after
  · rfl

theorem Transport.Erases.writeAttempts (address value : Word)
    (retries : Nat) (client : Client (Recorded σ)) :
    Modbus.writeAttempts plain address value retries client.erase =
      ((Modbus.writeAttempts recording address value retries client).1,
        (Modbus.writeAttempts recording address value retries
          client).2.erase) := by
  induction retries generalizing client with
  | zero => rfl
  | succ retries ih =>
      unfold Modbus.writeAttempts
      rw [erases.writeAttempt]
      rcases Modbus.writeAttempt recording address value client with
        ⟨_ | _, after⟩
      · exact ih after
      · rfl

/-- A write returns on the line what it returns on the recorded one. -/
theorem Transport.Erases.writeRegister (address value : Word)
    (client : Client (Recorded σ)) :
    Modbus.writeRegister plain address value client.erase =
      ((Modbus.writeRegister recording address value client).1,
        (Modbus.writeRegister recording address value client).2.erase) := by
  unfold Modbus.writeRegister
  rw [Client.erase_connected]
  split
  · rfl
  · exact erases.writeAttempts address value _ client

theorem Transport.Erases.readRegisters (address : Word)
    (values : Nat → Int) (count : Word) (client : Client (Recorded σ)) :
    Modbus.readRegisters plain address values count client.erase =
      (Modbus.readRegisters recording address values count client).erase := by
  unfold Modbus.readRegisters
  split
  · rfl
  · exact erases.readWriteRegistersInternal address values count false client

end

/-- Both clients, with the record and without it. -/
theorem recorded_erase (line : Line σ) (client : Client (Recorded σ)) :
    (∀ address values count,
      modbusReadRegisters line address values count client.erase =
          (modbusReadRegisters (recorded line) address values count
            client).erase ∧
        modbusSerialReadRegisters line address values count client.erase =
          (modbusSerialReadRegisters (recorded line) address values count
            client).erase) ∧
      ∀ address value,
        (modbusWriteRegister line address value client.erase).1 =
            (modbusWriteRegister (recorded line) address value client).1 ∧
          (modbusSerialWriteRegister line address value client.erase).1 =
            (modbusSerialWriteRegister (recorded line) address value
              client).1 := by
  have tcp := tcpTransport_erases line
  have serial := serialTransport_erases line
  constructor
  · intro address values count
    exact ⟨tcp.readRegisters address values count client,
      serial.readRegisters address values count client⟩
  · intro address value
    exact ⟨congrArg Prod.fst (tcp.writeRegister address value client),
      congrArg Prod.fst (serial.writeRegister address value client)⟩

end Windmi.Modbus
