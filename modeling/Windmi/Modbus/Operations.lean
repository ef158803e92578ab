import Windmi.Modbus.SlaveLink

/-!
# What operations leave alone

A transport moves bytes and changes nothing else of a client; an operation may
drop the connection besides.  What neither of the two breaks holds after every
operation: above all the handle is the same, and a connection does not come
back on its own.  Where the TCP client drops it is said exactly, by what its
line does.
-/

namespace Windmi.Modbus

open Windmi.Core
open Windmi.Library

variable {σ : Type}

/-- Sending and receiving change the line of a client only. -/
structure Transport.MovesBytes (transport : Transport σ) : Prop where
  sendFrame : ∀ frame client, ∃ line,
    (transport.sendFrame frame client).2 = { client with line := line }
  receiveExact : ∀ expected client, ∃ line,
    (transport.receiveExact expected client).2 = { client with line := line }

theorem tcpTransport_movesBytes (line : Line σ) :
    (tcpTransport line).MovesBytes where
  sendFrame := by
    intro frame client
    simp only [tcpTransport, sendFrame, flushReadBuffer]
    split
    · exact ⟨client.line, rfl⟩
    · exact ⟨_, rfl⟩
  receiveExact := by
    intro expected client
    simp only [tcpTransport, receiveExact]
    split
    · exact ⟨client.line, rfl⟩
    · exact ⟨_, rfl⟩

theorem serialTransport_movesBytes (line : Line σ) :
    (serialTransport line).MovesBytes where
  sendFrame := by
    intro frame client
    simp only [serialTransport, serialSendFrame]
    split
    · exact ⟨client.line, rfl⟩
    · exact ⟨_, rfl⟩
  receiveExact := by
    intro expected client
    simp only [serialTransport, serialReceiveExact]
    split
    · exact ⟨client.line, rfl⟩
    · exact ⟨_, rfl⟩

/-- A property that depends neither on the line nor on a connection. -/
structure Unbroken (property : Client σ → Prop) : Prop where
  line : ∀ client line, property client →
    property { client with line := line }
  drop : ∀ client, property client → property client.drop

theorem unbroken_handle (handle : Option Nat) :
    Unbroken fun client : Client σ => client.handle = handle where
  line _ _ same := same
  drop _ same := same

theorem unbroken_slaveId (slaveId : Byte) :
    Unbroken fun client : Client σ => client.slaveId = slaveId where
  line _ _ same := same
  drop _ same := same

theorem unbroken_disconnected :
    Unbroken fun client : Client σ => client.connected = false where
  line _ _ lost := lost
  drop _ _ := rfl

/-- A property that a client has after every step of an operation. -/
structure Transport.Keeps (transport : Transport σ)
    (property : Client σ → Prop) : Prop where
  send : ∀ {client}, property client → ∀ frame,
    property (transport.sendFrame frame client).2
  receive : ∀ {client}, property client → ∀ expected,
    property (transport.receiveExact expected client).2
  drop : ∀ {client}, property client → property client.drop

theorem Transport.MovesBytes.keeps {transport : Transport σ}
    (moves : transport.MovesBytes) {property : Client σ → Prop}
    (unbroken : Unbroken property) : transport.Keeps property where
  send := by
    intro client holds frame
    rcases moves.sendFrame frame client with ⟨line, sent⟩
    rw [sent]
    exact unbroken.line client line holds
  receive := by
    intro client holds expected
    rcases moves.receiveExact expected client with ⟨line, received⟩
    rw [received]
    exact unbroken.line client line holds
  drop := unbroken.drop _

section

variable {transport : Transport σ} {property : Client σ → Prop}
  (keeps : transport.Keeps property) {client : Client σ}

include keeps

theorem Transport.Keeps.receiveOrDrop (holds : property client)
    (expected : Nat) (values : Nat → Int)
    {next : List Byte → Client σ → ReadResult σ}
    (kept : ∀ bytes client, property client →
      property (next bytes client).client) :
    property
      (Modbus.receiveOrDrop transport expected values client next).client := by
  have received := keeps.receive holds expected
  unfold Modbus.receiveOrDrop
  generalize transport.receiveExact expected client = outcome at received ⊢
  rcases outcome with ⟨_ | bytes, after⟩
  · exact keeps.drop received
  · exact kept bytes after received

theorem Transport.Keeps.receiveReply (holds : property client)
    (readCount : Word) (values : Nat → Int) (header : List Byte) :
    property
      (Modbus.receiveReply transport readCount values header
        client).client := by
  unfold Modbus.receiveReply
  split_ifs
  · exact holds
  · exact keeps.receive holds 2
  · exact holds
  · refine keeps.receiveOrDrop holds _ values ?_
    intro bytes client holds
    simp only [decodeReply]
    split <;> exact holds

theorem Transport.Keeps.read (holds : property client)
    (address : Word) (values : Nat → Int) (count : Word) (single : Bool) :
    property
      (readWriteRegistersInternal transport address values count single
        client).client := by
  unfold readWriteRegistersInternal
  split
  · exact holds
  · have sent := keeps.send holds
      (modbusRtuBuildReadFrame client.slaveId address
        (if single then 1 else count))
    simp only
    generalize transport.sendFrame (modbusRtuBuildReadFrame client.slaveId
      address (if single then 1 else count)) client = outcome at sent ⊢
    rcases outcome with ⟨_ | _, after⟩
    · exact keeps.drop sent
    · refine keeps.receiveOrDrop sent _ values ?_
      intro header client holds
      exact keeps.receiveReply holds _ values header

theorem Transport.Keeps.failWrite (holds : property client) :
    property (transport.failWrite client) := by
  unfold Transport.failWrite
  split
  · exact keeps.drop holds
  · exact holds

theorem Transport.Keeps.awaitEcho (holds : property client)
    (address value : Word) :
    property (Modbus.awaitEcho transport address value client).2 := by
  have sent := keeps.send holds
    (modbusRtuBuildWriteFrame client.slaveId address value)
  unfold Modbus.awaitEcho
  generalize transport.sendFrame
    (modbusRtuBuildWriteFrame client.slaveId address value) client = sending
      at sent ⊢
  rcases sending with ⟨_ | _, after⟩
  · exact keeps.failWrite sent
  · have received := keeps.receive sent 8
    simp only
    generalize transport.receiveExact 8 after = receiving at received ⊢
    rcases receiving with ⟨_ | response, final⟩
    · exact keeps.failWrite received
    · exact received

theorem Transport.Keeps.attempt (holds : property client)
    (address value : Word) :
    property (writeAttempt transport address value client).2 := by
  have echoed := keeps.awaitEcho holds address value
  rw [writeAttempt_eq]
  simp only
  split
  · exact keeps.read echoed address (fun _ => 0) 1 true
  · exact echoed

theorem Transport.Keeps.attempts (holds : property client)
    (address value : Word) (retries : Nat) :
    property (writeAttempts transport address value retries client).2 := by
  induction retries generalizing client with
  | zero => exact holds
  | succ retries ih =>
      have attempted := keeps.attempt holds address value
      unfold writeAttempts
      generalize writeAttempt transport address value client = outcome
        at attempted ⊢
      rcases outcome with ⟨_ | _, after⟩
      · exact ih attempted
      · exact attempted

theorem Transport.Keeps.write (holds : property client)
    (address value : Word) :
    property (writeRegister transport address value client).2 := by
  unfold writeRegister
  split
  · exact holds
  · exact keeps.attempts holds address value _

/-- An operation keeps what its steps keep. -/
theorem Transport.Keeps.operation (holds : property client)
    (values : Nat → Int) (operation : Operation) :
    property (operation.run transport values client).client := by
  cases operation with
  | readRegister address =>
      exact keeps.read holds address values 1 true
  | readRegisters address count =>
      simp only [Operation.run, readRegisters]
      split
      · exact holds
      · exact keeps.read holds address values count false
  | writeRegister address value => exact keeps.write holds address value

end

/-! ## Where a connection is lost -/

/-- A connected read whose request is not sent, or whose reply is cut off. -/
def ReadLost (transport : Transport σ) (address count : Word) (single : Bool)
    (client : Client σ) : Prop :=
  let readCount := if single then 1 else count
  let sent := transport.sendFrame
    (modbusRtuBuildReadFrame client.slaveId address readCount) client
  let headed := transport.receiveExact modbusReadHeaderLen sent.2
  client.connected = true ∧ count ≠ 0 ∧
    (sent.1 = false ∨ headed.1 = none ∨
      ∃ header, headed.1 = some header ∧
        byteAt header 0 = headed.2.slaveId ∧
        byteAt header 1 &&& 0x80 = 0 ∧
        (byteAt header 2).toNat = readCount.toNat * 2 ∧
        (transport.receiveExact ((byteAt header 2).toNat + 2)
          headed.2).1 = none)

/-- An attempt of a write loses the reply to its read-back. -/
def WriteLost (transport : Transport σ) (address value : Word) :
    Nat → Client σ → Prop
  | 0, _ => False
  | retries + 1, client =>
      let echoed := awaitEcho transport address value client
      let attempt := writeAttempt transport address value client
      echoed.1 = true ∧ ReadLost transport address 1 true echoed.2 ∨
        attempt.1 = false ∧
          WriteLost transport address value retries attempt.2

def OperationLost (transport : Transport σ) (client : Client σ) :
    Operation → Prop
  | .readRegister address => ReadLost transport address 1 true client
  | .readRegisters address count =>
      ReadLost transport address count false client
  | .writeRegister address value =>
      client.connected = true ∧
        WriteLost transport address value modbusWriteMaxRetries client

section

variable {line : Line σ} {transport : Transport σ} {client : Client σ}
  (faithful : transport.Faithful line)

include faithful

/-- The rest of a reply drops the connection exactly if it is cut off. -/
theorem receiveReply_connected (connected : client.connected = true)
    (readCount : Word) (values : Nat → Int) (header : List Byte) :
    (receiveReply transport readCount values header
        client).client.connected = true ↔
      ¬ (byteAt header 0 = client.slaveId ∧
        byteAt header 1 &&& 0x80 = 0 ∧
        (byteAt header 2).toNat = readCount.toNat * 2 ∧
        (transport.receiveExact ((byteAt header 2).toNat + 2)
          client).1 = none) := by
  have excepted := faithful.receiveExact_connected 2 client
  have received := faithful.receiveExact_connected
    ((byteAt header 2).toNat + 2) client
  unfold receiveReply
  split
  case isTrue foreign_ =>
    exact iff_of_true connected fun all => foreign_ all.1
  case isFalse own =>
    split
    case isTrue exception =>
      exact iff_of_true (excepted.trans connected)
        fun all => exception all.2.1
    case isFalse regular =>
      split
      case isTrue mismatch =>
        exact iff_of_true connected fun all => mismatch all.2.2.1
      case isFalse match_ =>
        unfold receiveOrDrop
        generalize transport.receiveExact ((byteAt header 2).toNat + 2)
          client = outcome at received ⊢
        rcases outcome with ⟨_ | bytes, after⟩
        · refine iff_of_false Bool.false_ne_true fun all => all ?_
          exact ⟨not_not.mp own, not_not.mp regular, not_not.mp match_, rfl⟩
        · refine iff_of_true ?_ fun all => nomatch all.2.2.2
          simp only [decodeReply]
          split <;> exact received.trans connected

/-- A read keeps a connection exactly unless it is lost. -/
theorem read_connected (address : Word) (values : Nat → Int) (count : Word)
    (single : Bool) :
    (readWriteRegistersInternal transport address values count single
        client).client.connected = true ↔
      client.connected = true ∧
        ¬ ReadLost transport address count single client := by
  by_cases ready : client.connected = true ∧ count ≠ 0
  case neg =>
    have refused : ¬ client.connected ∨ count = 0 := by
      rcases not_and_or.mp ready with lost | zero
      · exact Or.inl lost
      · exact Or.inr (not_not.mp zero)
    unfold readWriteRegistersInternal
    rw [if_pos refused]
    refine (and_iff_left ?_).symm
    exact fun lost => ready ⟨lost.1, lost.2.1⟩
  case pos =>
    rcases ready with ⟨connected, positive⟩
    have sending := faithful.sendFrame_connected
      (modbusRtuBuildReadFrame client.slaveId address
        (if single then 1 else count)) client
    unfold readWriteRegistersInternal ReadLost
    rw [if_neg (not_or.mpr ⟨not_not.mpr connected, positive⟩)]
    simp only [connected, positive, true_and, ne_eq, not_false_eq_true]
    generalize transport.sendFrame
      (modbusRtuBuildReadFrame client.slaveId address
        (if single then 1 else count)) client = sent at sending ⊢
    rcases sent with ⟨_ | _, sent⟩
    · exact iff_of_false Bool.false_ne_true fun kept => kept (Or.inl rfl)
    have receiving := faithful.receiveExact_connected modbusReadHeaderLen sent
    simp only [Bool.true_eq_false, false_or, receiveOrDrop]
    generalize transport.receiveExact modbusReadHeaderLen sent = headed
      at receiving ⊢
    rcases headed with ⟨_ | header, headed⟩
    · exact iff_of_false Bool.false_ne_true fun kept => kept (Or.inl rfl)
    · have still : headed.connected = true :=
        receiving.trans (sending.trans connected)
      refine (receiveReply_connected faithful still _ values header).trans ?_
      simp

/-- A failure to send or to receive an echo alone drops nothing. -/
theorem awaitEcho_connected (keeps : transport.dropsOnWriteFailure = false)
    (address value : Word) :
    (awaitEcho transport address value client).2.connected =
      client.connected := by
  have sending := faithful.sendFrame_connected
    (modbusRtuBuildWriteFrame client.slaveId address value) client
  have failing : ∀ client, transport.failWrite client = client := by
    intro client
    unfold Transport.failWrite
    rw [if_neg (by simp [keeps])]
  unfold awaitEcho
  generalize transport.sendFrame
    (modbusRtuBuildWriteFrame client.slaveId address value) client = sent
      at sending ⊢
  rcases sent with ⟨_ | _, sent⟩
  · exact (congrArg Client.connected (failing sent)).trans sending
  have receiving := faithful.receiveExact_connected 8 sent
  simp only
  generalize transport.receiveExact 8 sent = received at receiving ⊢
  rcases received with ⟨_ | response, after⟩
  · exact (congrArg Client.connected (failing after)).trans
      (receiving.trans sending)
  · exact receiving.trans sending

/-- An attempt drops the connection exactly if its read-back is lost. -/
theorem writeAttempt_connected (keeps : transport.dropsOnWriteFailure = false)
    (connected : client.connected = true) (address value : Word) :
    let echoed := awaitEcho transport address value client
    (writeAttempt transport address value client).2.connected = true ↔
      ¬ (echoed.1 = true ∧ ReadLost transport address 1 true echoed.2) := by
  intro echoed
  have still : echoed.2.connected = true :=
    (awaitEcho_connected faithful keeps address value).trans connected
  rw [writeAttempt_eq]
  change (if echoed.1 then verifyWrite transport address value echoed.2
    else echoed).2.connected = true ↔ _
  by_cases accepted : echoed.1 = true
  · have read := @read_connected _ line transport echoed.2 faithful address
      (fun _ => 0) 1 true
    rw [if_pos accepted]
    refine (Iff.trans read ?_)
    simp only [still, accepted, true_and]
  · rw [if_neg accepted]
    exact iff_of_true still fun lost => accepted lost.1

theorem writeAttempts_connected
    (keeps : transport.dropsOnWriteFailure = false) (address value : Word)
    (retries : Nat) (connected : client.connected = true) :
    (writeAttempts transport address value retries client).2.connected =
        true ↔
      ¬ WriteLost transport address value retries client := by
  induction retries generalizing client with
  | zero => exact iff_of_true connected not_false
  | succ retries ih =>
      have attempt := writeAttempt_connected faithful keeps connected address
        value
      simp only [writeAttempts, WriteLost]
      simp only at attempt
      by_cases lost : (awaitEcho transport address value client).1 = true ∧
          ReadLost transport address 1 true
            (awaitEcho transport address value client).2
      · have dropped : (writeAttempt transport address value
            client).2.connected = false := by
          exact Bool.eq_false_iff.mpr fun kept => attempt.mp kept lost
        refine iff_of_false ?_ fun kept => kept (Or.inl lost)
        generalize writeAttempt transport address value client = outcome
          at dropped ⊢
        rcases outcome with ⟨_ | _, after⟩
        · rcases writeAttempts_disconnected faithful dropped address value
            retries with ⟨final, failed, disconnected⟩
          simp only
          rw [failed]
          simp [disconnected]
        · simp only
          rw [dropped]
          exact Bool.false_ne_true
      · have kept := attempt.mpr lost
        rw [or_iff_right lost]
        generalize writeAttempt transport address value client = outcome
          at kept ⊢
        rcases outcome with ⟨_ | _, after⟩
        · simpa using ih kept
        · simpa using kept

/-- An operation keeps a connection exactly unless it loses it. -/
theorem operation_connected (keeps : transport.dropsOnWriteFailure = false)
    (operation : Operation) (values : Nat → Int) :
    (operation.run transport values client).client.connected = true ↔
      client.connected = true ∧
        ¬ OperationLost transport client operation := by
  cases operation with
  | readRegister address =>
      exact read_connected faithful address values 1 true
  | readRegisters address count =>
      simp only [Operation.run, readRegisters, OperationLost]
      split
      case isTrue zero =>
        exact (and_iff_left fun lost => lost.2.1 zero).symm
      case isFalse positive =>
        exact read_connected faithful address values count false
  | writeRegister address value =>
      simp only [Operation.run, writeRegister, OperationLost]
      by_cases connected : client.connected = true
      · rw [if_neg (not_not.mpr connected)]
        refine (writeAttempts_connected faithful keeps address value _
          connected).trans ?_
        simp only [connected, true_and]
      · rw [if_pos connected]
        simp only [connected, Bool.false_eq_true, false_and]

end

/-! ## What a transport does not see -/

/-- A change of clients which makes no difference to the transport. -/
structure Transport.Ignores (transport : Transport σ)
    (view : Client σ → Client σ) : Prop where
  slaveId : ∀ client, (view client).slaveId = client.slaveId
  connected : ∀ client, (view client).connected = client.connected
  drop : ∀ client, (view client).drop = view client.drop
  sendFrame : ∀ frame client,
    transport.sendFrame frame (view client) =
      Prod.map id view (transport.sendFrame frame client)
  receiveExact : ∀ expected client,
    transport.receiveExact expected (view client) =
      Prod.map id view (transport.receiveExact expected client)

/-- The client with another number for its handle, if it has one. -/
def Client.renumber (number : Nat) (client : Client σ) : Client σ :=
  { client with handle := client.handle.map fun _ => number }

theorem tcpTransport_renumber (line : Line σ) (number : Nat) :
    (tcpTransport line).Ignores (Client.renumber number) where
  slaveId _ := rfl
  connected _ := rfl
  drop _ := rfl
  sendFrame := by
    rintro frame ⟨slaveId, _ | handle, connected, state⟩
    · rfl
    · rfl
  receiveExact := by
    rintro expected ⟨slaveId, _ | handle, connected, state⟩
    · rfl
    · rfl

theorem serialTransport_renumber (line : Line σ) (number : Nat) :
    (serialTransport line).Ignores (Client.renumber number) where
  slaveId _ := rfl
  connected _ := rfl
  drop _ := rfl
  sendFrame := by
    rintro frame ⟨slaveId, _ | handle, connected, state⟩
    · simp [serialTransport, serialSendFrame, Client.renumber]
    · by_cases empty : frame.length = 0 <;>
        simp [serialTransport, serialSendFrame, Client.renumber, empty]
  receiveExact := by
    rintro expected ⟨slaveId, _ | handle, connected, state⟩
    · simp [serialTransport, serialReceiveExact, Client.renumber]
    · by_cases nothing : expected = 0 <;>
        simp [serialTransport, serialReceiveExact, Client.renumber, nothing]

def ReadResult.map (view : Client σ → Client σ) (result : ReadResult σ) :
    ReadResult σ :=
  { result with client := view result.client }

section

variable {transport : Transport σ} {view : Client σ → Client σ}
  (ignores : transport.Ignores view)

include ignores

theorem Transport.Ignores.receiveOrDrop (expected : Nat)
    (values : Nat → Int) (client : Client σ)
    {next : List Byte → Client σ → ReadResult σ}
    (continues : ∀ bytes client,
      next bytes (view client) = (next bytes client).map view) :
    Modbus.receiveOrDrop transport expected values (view client) next =
      (Modbus.receiveOrDrop transport expected values client next).map
        view := by
  unfold Modbus.receiveOrDrop
  rw [ignores.receiveExact]
  rcases transport.receiveExact expected client with ⟨_ | bytes, after⟩
  · simp only [Prod.map_apply, id_eq, ignores.drop, ReadResult.map]
  · exact continues bytes after

theorem Transport.Ignores.receiveReply (readCount : Word)
    (values : Nat → Int) (header : List Byte) (client : Client σ) :
    Modbus.receiveReply transport readCount values header (view client) =
      (Modbus.receiveReply transport readCount values header client).map
        view := by
  unfold Modbus.receiveReply
  rw [ignores.slaveId, ignores.receiveExact, ignores.receiveOrDrop]
  · split_ifs <;> rfl
  · intro bytes client
    simp only [decodeReply]
    split <;> rfl

theorem Transport.Ignores.read (address : Word) (values : Nat → Int)
    (count : Word) (single : Bool) (client : Client σ) :
    readWriteRegistersInternal transport address values count single
        (view client) =
      (readWriteRegistersInternal transport address values count single
        client).map view := by
  unfold readWriteRegistersInternal
  rw [ignores.connected, ignores.slaveId]
  split
  · rfl
  · simp only
    rw [ignores.sendFrame]
    rcases transport.sendFrame _ client with ⟨_ | _, sent⟩
    · simp only [Prod.map_apply, id_eq, ignores.drop, ReadResult.map]
    · exact ignores.receiveOrDrop _ values sent
        fun header client => ignores.receiveReply _ values header client

theorem Transport.Ignores.failWrite (client : Client σ) :
    transport.failWrite (view client) = view (transport.failWrite client) := by
  unfold Transport.failWrite
  split
  · exact ignores.drop client
  · rfl

theorem Transport.Ignores.awaitEcho (address value : Word)
    (client : Client σ) :
    Modbus.awaitEcho transport address value (view client) =
      Prod.map id view (Modbus.awaitEcho transport address value client) := by
  unfold Modbus.awaitEcho
  rw [ignores.slaveId, ignores.sendFrame]
  rcases transport.sendFrame _ client with ⟨_ | _, sent⟩
  · simp only [Prod.map_apply, id_eq, ignores.failWrite]
  · simp only [Prod.map_apply, id_eq]
    rw [ignores.receiveExact]
    rcases transport.receiveExact 8 sent with ⟨_ | response, after⟩
    · simp only [Prod.map_apply, id_eq, ignores.failWrite]
    · simp only [Prod.map_apply, id_eq, ignores.slaveId]

theorem Transport.Ignores.attempt (address value : Word)
    (client : Client σ) :
    writeAttempt transport address value (view client) =
      Prod.map id view (writeAttempt transport address value client) := by
  rw [writeAttempt_eq, writeAttempt_eq, ignores.awaitEcho]
  simp only [Prod.map_fst, Prod.map_snd, id_eq]
  split
  · simp only [verifyWrite, readRegister, ignores.read]
    rfl
  · rfl

theorem Transport.Ignores.attempts (address value : Word) (retries : Nat)
    (client : Client σ) :
    writeAttempts transport address value retries (view client) =
      Prod.map id view
        (writeAttempts transport address value retries client) := by
  induction retries generalizing client with
  | zero => rfl
  | succ retries ih =>
      unfold writeAttempts
      rw [ignores.attempt]
      rcases writeAttempt transport address value client with ⟨_ | _, after⟩
      · exact ih after
      · rfl

/-- A write does not depend on what the transport ignores. -/
theorem Transport.Ignores.write (address value : Word) (client : Client σ) :
    writeRegister transport address value (view client) =
      Prod.map id view (writeRegister transport address value client) := by
  unfold writeRegister
  rw [ignores.connected]
  split
  · rfl
  · exact ignores.attempts address value _ client

end

end Windmi.Modbus
