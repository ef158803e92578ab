import Windmi.Library.Runs
import Windmi.Modbus.Connection
import Windmi.Modbus.Interchange

/-!
# Whether handles leak

The TCP client closes its socket only while the flag `connected` is set, so a
socket is lost as soon as a read clears the flag.  The serial client closes its
port whenever it has one, and loses it only by connecting again before.
-/

namespace Windmi.Modbus

open Windmi.Core
open Windmi.Library

variable {σ : Type}

/-! ## What operations do to a connection -/

section

variable {transport : Transport σ} (moves : transport.MovesBytes)

include moves

theorem Connection.operate_handle (operation : Operation)
    (values : Nat → Int) (connection : Connection σ) :
    (connection.operate transport operation values).client.handle =
      connection.client.handle :=
  (moves.keeps (unbroken_handle connection.client.handle)).operation rfl
    values operation

/-- An operation does not connect. -/
theorem Connection.operate_connected (operation : Operation)
    (values : Nat → Int) {connection : Connection σ}
    (connected :
      (connection.operate transport operation values).client.connected =
        true) :
    connection.client.connected = true := by
  by_contra disconnected
  have still := (moves.keeps unbroken_disconnected).operation
    (by simpa using disconnected) values operation
  exact Bool.false_ne_true (still.symm.trans connected)

end

theorem OperationLost.connected {transport : Transport σ} {client : Client σ}
    {operation : Operation} (lost : OperationLost transport client operation) :
    client.connected = true := by
  cases operation with
  | readRegister address => exact lost.1
  | readRegisters address count => exact lost.1
  | writeRegister address value => exact lost.1

/-! ## Ledgers of clients -/

/-- The ledger of a client which has all that it must release. -/
structure Connection.Tidy (connection : Connection σ) : Prop where
  handles : connection.handles.Tidy connection.client.handle
  connected : connection.client.connected = true →
    connection.client.handle.isSome

/-- A handle is outstanding which the client no longer has. -/
def Connection.Lost (connection : Connection σ) : Prop :=
  ∃ handle, connection.handles.Outstanding handle ∧
    connection.client.handle ≠ some handle

theorem Connection.create_tidy (slaveId : Byte) (line : σ) :
    (Connection.create slaveId line).Tidy where
  handles := Handles.tidy_empty
  connected impossible := nomatch impossible

section

variable {connection : Connection σ}

theorem Connection.Tidy.released {handle : Nat} (tidy : connection.Tidy)
    (owned : connection.client.handle = some handle) :
    (connection.handles.release handle).Tidy none := by
  have ledger := tidy.handles
  rw [owned] at ledger
  exact ledger.release

theorem Connection.Tidy.outstanding {handle : Nat} (tidy : connection.Tidy)
    (owned : connection.client.handle = some handle) :
    connection.handles.Outstanding handle := by
  have ledger := tidy.handles
  rw [owned] at ledger
  exact ledger.outstanding

theorem Connection.Tidy.close {handle : Nat} (tidy : connection.Tidy)
    (owned : connection.client.handle = some handle) :
    (connection.close handle).Tidy where
  handles := tidy.released owned
  connected impossible := nomatch impossible

theorem Connection.Tidy.operate {transport : Transport σ}
    (moves : transport.MovesBytes) (tidy : connection.Tidy)
    (operation : Operation) (values : Nat → Int) :
    (connection.operate transport operation values).Tidy where
  handles := by
    rw [Connection.operate_handle moves]
    exact tidy.handles
  connected := by
    intro connected
    rw [Connection.operate_handle moves]
    exact tidy.connected
      (Connection.operate_connected moves operation values connected)

/-! ## The serial client -/

/-- A connect that opens anything finds no port to overwrite. -/
def ReleasedBefore (connection : Connection σ) : ConnectionCall σ → Prop
  | .connect _ =>
      connection.client.connected = true ∨ connection.client.handle = none
  | _ => True

variable {line : Line σ}

theorem Connection.Tidy.serial_flush (tidy : connection.Tidy) :
    (modbusSerialFlushBuffer line connection).Tidy := by
  unfold modbusSerialFlushBuffer
  split
  · exact tidy
  · exact ⟨tidy.handles, tidy.connected⟩

theorem Connection.Tidy.serial_connect (tidy : connection.Tidy)
    (opening : Opening σ)
    (released : connection.client.connected = true ∨
      connection.client.handle = none) :
    (modbusSerialClientConnect line opening connection).2.Tidy := by
  unfold modbusSerialClientConnect
  split
  case isTrue connected => exact tidy
  case isFalse disconnected =>
    have empty := released.resolve_left disconnected
    have ledger := tidy.handles
    rw [empty] at ledger
    cases opening with
    | unavailable => exact ⟨ledger, fun kept => absurd kept disconnected⟩
    | abandoned =>
        exact ⟨ledger.abandon, fun kept => absurd kept disconnected⟩
    | established state => exact ⟨ledger.acquire, fun _ => rfl⟩

theorem Connection.Tidy.serial_step (tidy : connection.Tidy)
    (call : ConnectionCall σ) (released : ReleasedBefore connection call) :
    (call.serial line connection).Tidy := by
  cases call with
  | connect opening => exact tidy.serial_connect opening released
  | disconnect =>
      simp only [ConnectionCall.serial, modbusSerialClientDisconnect]
      split
      case h_1 handle owned => exact tidy.close owned
      case h_2 => exact tidy
  | flushBuffer => exact tidy.serial_flush
  | operate operation values =>
      exact tidy.operate (serialTransport_movesBytes line) operation values

/-- What a serial connect does to a handle that the client may overwrite. -/
theorem Connection.serial_connect_lost {handle : Nat}
    (outstanding : connection.handles.Outstanding handle)
    (disconnected : ¬ connection.client.connected = true)
    (opening : Opening σ) :
    (modbusSerialClientConnect line opening connection).2.Lost := by
  unfold modbusSerialClientConnect
  rw [if_neg disconnected]
  cases opening with
  | unavailable => exact ⟨handle, outstanding, nofun⟩
  | abandoned => exact ⟨handle, outstanding.abandon, nofun⟩
  | established state =>
      refine ⟨handle, outstanding.acquire, ?_⟩
      rintro ⟨⟩
      exact Nat.lt_irrefl _ outstanding.acquired

theorem Connection.Tidy.serial_spoiled (tidy : connection.Tidy)
    (call : ConnectionCall σ)
    (overwritten : ¬ ReleasedBefore connection call) :
    (call.serial line connection).Lost := by
  cases call with
  | connect opening =>
      rcases not_or.mp overwritten with ⟨disconnected, owner⟩
      rcases Option.ne_none_iff_exists'.mp owner with ⟨handle, owned⟩
      exact Connection.serial_connect_lost (tidy.outstanding owned)
        disconnected opening
  | disconnect => exact absurd trivial overwritten
  | flushBuffer => exact absurd trivial overwritten
  | operate operation values => exact absurd trivial overwritten

theorem Connection.Lost.serial_step (lost : connection.Lost)
    (call : ConnectionCall σ) : (call.serial line connection).Lost := by
  rcases lost with ⟨handle, outstanding, different⟩
  cases call with
  | connect opening =>
      by_cases connected : connection.client.connected = true
      · simp only [ConnectionCall.serial, modbusSerialClientConnect,
          if_pos connected]
        exact ⟨handle, outstanding, different⟩
      · exact Connection.serial_connect_lost outstanding connected opening
  | disconnect =>
      simp only [ConnectionCall.serial, modbusSerialClientDisconnect]
      split
      case h_1 owner owned =>
        refine ⟨handle, outstanding.release ?_, nofun⟩
        rintro rfl
        exact different owned
      case h_2 => exact ⟨handle, outstanding, different⟩
  | flushBuffer =>
      simp only [ConnectionCall.serial, modbusSerialFlushBuffer]
      split
      · exact ⟨handle, outstanding, different⟩
      · exact ⟨handle, outstanding, different⟩
  | operate operation values =>
      refine ⟨handle, outstanding, ?_⟩
      simp only [ConnectionCall.serial]
      rw [Connection.operate_handle (serialTransport_movesBytes line)]
      exact different

theorem Connection.Tidy.serial_destroy (tidy : connection.Tidy) :
    (modbusSerialClientDestroy connection).Balanced := by
  simp only [modbusSerialClientDestroy, modbusSerialClientDisconnect]
  cases owned : connection.client.handle with
  | none =>
      have ledger := tidy.handles
      rw [owned] at ledger
      simpa using ledger.balanced
  | some handle =>
      simpa [Connection.close] using (tidy.released owned).balanced

theorem Connection.Lost.serial_destroy (lost : connection.Lost) :
    ¬ (modbusSerialClientDestroy connection).Balanced := by
  rcases lost with ⟨handle, outstanding, different⟩
  simp only [modbusSerialClientDestroy, modbusSerialClientDisconnect]
  cases owned : connection.client.handle with
  | none => simpa using outstanding.not_balanced
  | some owner =>
      have other : owner ≠ handle := by
        rintro rfl
        exact different owned
      simpa [Connection.close] using (outstanding.release other).not_balanced

/-! ## The TCP client -/

/-- A read or a write does not lose the connection. -/
def KeepsConnection (line : Line σ) (connection : Connection σ) :
    ConnectionCall σ → Prop
  | .operate operation _ =>
      ¬ OperationLost (tcpTransport line) connection.client operation
  | _ => True

/-- A tidy client whose socket belongs to a connection. -/
structure Connection.Synced (connection : Connection σ) : Prop
    extends connection.Tidy where
  opened : connection.client.handle.isSome →
    connection.client.connected = true

/-- A socket is outstanding which the client will not close. -/
def Connection.Stranded (connection : Connection σ) : Prop :=
  ∃ handle, connection.handles.Outstanding handle ∧
    (connection.client.connected = true →
      connection.client.handle ≠ some handle)

theorem Connection.create_synced (slaveId : Byte) (line : σ) :
    (Connection.create slaveId line).Synced where
  toTidy := Connection.create_tidy slaveId line
  opened impossible := nomatch impossible

theorem Connection.Synced.empty (synced : connection.Synced)
    (disconnected : ¬ connection.client.connected = true) :
    connection.client.handle = none := by
  by_contra owner
  exact disconnected
    (synced.opened (Option.isSome_iff_ne_none.mpr owner))

theorem Connection.Synced.tcp_connect (synced : connection.Synced)
    (opening : Opening σ) :
    (modbusClientConnect opening connection).2.Synced := by
  unfold modbusClientConnect
  split
  case isTrue connected => exact synced
  case isFalse disconnected =>
    have empty := synced.empty disconnected
    have ledger := synced.handles
    rw [empty] at ledger
    cases opening with
    | unavailable => exact synced
    | abandoned =>
        refine ⟨⟨?_, synced.connected⟩, synced.opened⟩
        simp only [empty]
        exact ledger.abandon
    | established state =>
        exact ⟨⟨ledger.acquire, fun _ => rfl⟩, fun _ => rfl⟩

theorem Connection.Synced.tcp_step (synced : connection.Synced)
    (call : ConnectionCall σ) (keeps : KeepsConnection line connection call) :
    (call.tcp line connection).Synced := by
  cases call with
  | connect opening => exact synced.tcp_connect opening
  | disconnect =>
      simp only [ConnectionCall.tcp, modbusClientDisconnect]
      split
      case h_1 handle connected owned =>
        exact ⟨synced.toTidy.close owned, nofun⟩
      case h_2 => exact synced
  | flushBuffer =>
      simp only [ConnectionCall.tcp, modbusClientFlushBuffer, flushReadBuffer]
      split
      · exact synced
      · exact ⟨⟨synced.handles, synced.connected⟩, synced.opened⟩
  | operate operation values =>
      have moves := tcpTransport_movesBytes line
      refine ⟨synced.toTidy.operate moves operation values, ?_⟩
      simp only [ConnectionCall.tcp]
      rw [Connection.operate_handle moves]
      intro owned
      exact (operation_connected (tcpTransport_faithful line) rfl operation
        values).mpr ⟨synced.opened owned, keeps⟩

theorem Connection.Synced.tcp_spoiled (synced : connection.Synced)
    (call : ConnectionCall σ) (loses : ¬ KeepsConnection line connection call) :
    (call.tcp line connection).Stranded := by
  cases call with
  | connect opening => exact absurd trivial loses
  | disconnect => exact absurd trivial loses
  | flushBuffer => exact absurd trivial loses
  | operate operation values =>
      have lost := not_not.mp loses
      rcases Option.isSome_iff_exists.mp (synced.connected lost.connected)
        with ⟨handle, owned⟩
      refine ⟨handle, synced.toTidy.outstanding owned, fun connected => ?_⟩
      have kept := (operation_connected (tcpTransport_faithful line) rfl
        operation values).mp connected
      exact absurd lost kept.2

theorem Connection.Stranded.tcp_step (stranded : connection.Stranded)
    (call : ConnectionCall σ) : (call.tcp line connection).Stranded := by
  rcases stranded with ⟨handle, outstanding, different⟩
  cases call with
  | connect opening =>
      simp only [ConnectionCall.tcp, modbusClientConnect]
      split
      · exact ⟨handle, outstanding, different⟩
      · cases opening with
        | unavailable => exact ⟨handle, outstanding, different⟩
        | abandoned => exact ⟨handle, outstanding.abandon, different⟩
        | established state =>
            refine ⟨handle, outstanding.acquire, ?_⟩
            rintro - ⟨⟩
            exact Nat.lt_irrefl _ outstanding.acquired
  | disconnect =>
      simp only [ConnectionCall.tcp, modbusClientDisconnect]
      split
      case h_1 owner connected owned =>
        refine ⟨handle, outstanding.release ?_, nofun⟩
        rintro rfl
        exact different connected owned
      case h_2 => exact ⟨handle, outstanding, different⟩
  | flushBuffer =>
      simp only [ConnectionCall.tcp, modbusClientFlushBuffer, flushReadBuffer]
      split
      · exact ⟨handle, outstanding, different⟩
      · exact ⟨handle, outstanding, different⟩
  | operate operation values =>
      have moves := tcpTransport_movesBytes line
      refine ⟨handle, outstanding, fun connected => ?_⟩
      simp only [ConnectionCall.tcp] at connected ⊢
      rw [Connection.operate_handle moves]
      exact different
        (Connection.operate_connected moves operation values connected)

theorem Connection.Synced.tcp_destroy (synced : connection.Synced) :
    (modbusClientDestroy connection).Balanced := by
  unfold modbusClientDestroy
  split
  case isTrue connected =>
    rcases Option.isSome_iff_exists.mp (synced.connected connected) with
      ⟨handle, owned⟩
    simpa [modbusClientDisconnect, connected, owned, Connection.close] using
      (synced.toTidy.released owned).balanced
  case isFalse disconnected =>
    have ledger := synced.handles
    rw [synced.empty disconnected] at ledger
    exact ledger.balanced

theorem Connection.Stranded.tcp_destroy (stranded : connection.Stranded) :
    ¬ (modbusClientDestroy connection).Balanced := by
  rcases stranded with ⟨handle, outstanding, different⟩
  unfold modbusClientDestroy
  split
  case isTrue connected =>
    unfold modbusClientDisconnect
    split
    case h_1 owner _ owned =>
      refine (outstanding.release ?_).not_balanced
      rintro rfl
      exact different connected owned
    case h_2 => exact outstanding.not_balanced
  case isFalse disconnected => exact outstanding.not_balanced

end

/-! ## Runs -/

/--
No handle leaks from the TCP client exactly if no read or write loses the
connection, and none from the serial client exactly if it never connects while
it has the port of a lost connection.
-/
theorem no_handle_leaks_iff (line : Line σ) (slaveId : Byte) (start : σ)
    (calls : List (ConnectionCall σ)) :
    ((modbusClientDestroy (calls.foldl (ConnectionCall.tcp line)
          (modbusClientCreate slaveId start))).Balanced ↔
        Throughout (ConnectionCall.tcp line) (KeepsConnection line)
          (modbusClientCreate slaveId start) calls) ∧
      ((modbusSerialClientDestroy (calls.foldl (ConnectionCall.serial line)
            (modbusSerialClientCreate slaveId start))).Balanced ↔
        Throughout (ConnectionCall.serial line) ReleasedBefore
          (modbusSerialClientCreate slaveId start) calls) := by
  constructor
  · exact throughout_iff_of_spoiled
      (fun _ call synced keeps => synced.tcp_step call keeps)
      (fun _ call synced loses => synced.tcp_spoiled call loses)
      (fun _ call stranded => stranded.tcp_step call)
      (fun _ synced => synced.tcp_destroy)
      (fun _ stranded => stranded.tcp_destroy)
      (Connection.create_synced slaveId start) calls
  · exact throughout_iff_of_spoiled
      (fun _ call tidy released => tidy.serial_step call released)
      (fun _ call tidy overwritten => tidy.serial_spoiled call overwritten)
      (fun _ call lost => lost.serial_step call)
      (fun _ tidy => tidy.serial_destroy)
      (fun _ lost => lost.serial_destroy)
      (Connection.create_tidy slaveId start) calls

/-- Two connections; the slave does not answer a read on the first. -/
def reconnectingCalls : List (ConnectionCall LinkScript) :=
  [.connect (.established { accepted := [8], chunks := [] }),
    .operate (.readRegister regDhwTarget) fun _ => 0,
    .connect (.established { accepted := [], chunks := [] })]

def tcpReconnected : Handles :=
  modbusClientDestroy
    (reconnectingCalls.foldl (ConnectionCall.tcp linkLine)
      (modbusClientCreate 11 { accepted := [], chunks := [] }))

def serialReconnected : Handles :=
  modbusSerialClientDestroy
    (reconnectingCalls.foldl (ConnectionCall.serial linkLine)
      (modbusSerialClientCreate 11 { accepted := [], chunks := [] }))

/-- Either client leaves the first of its two handles open. -/
theorem reconnecting_leaks :
    (tcpReconnected.openHandles = {0} ∧ ¬ tcpReconnected.Balanced) ∧
      serialReconnected.openHandles = {0} ∧
        ¬ serialReconnected.Balanced := by
  refine ⟨⟨by decide +kernel, fun balanced => ?_⟩,
    ⟨by decide +kernel, fun balanced => ?_⟩⟩
  · exact absurd (balanced.once 0) (by decide +kernel)
  · exact absurd (balanced.once 0) (by decide +kernel)

end Windmi.Modbus
