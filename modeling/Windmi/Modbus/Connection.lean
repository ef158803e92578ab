import Windmi.Library.Handles
import Windmi.Modbus.Operations

/-!
# Connections

How the two clients are created, connected, disconnected and destroyed, with a
ledger of the sockets and ports which they open.  The flag `connected` and the
handle are two variables: a read that fails clears the flag and leaves the
handle, and each of the functions looks at a different one of them.
-/

namespace Windmi.Modbus

open Windmi.Core
open Windmi.Library

variable {σ : Type}

/--
What comes of opening a socket or a port.  The handle is abandoned if the
address is invalid, the peer does not accept or the port cannot be configured.
-/
inductive Opening (σ : Type) where
  | unavailable
  | abandoned
  | established (state : σ)
  deriving DecidableEq, Repr

/-- A client and the handles which it has opened. -/
structure Connection (σ : Type) where
  client : Client σ
  handles : Handles

/-- Both clients begin without a handle; the line is not used yet. -/
def Connection.create (slaveId : Byte) (line : σ) : Connection σ where
  client :=
    { slaveId := slaveId, handle := none, connected := false, line := line }
  handles := {}

/-- The socket or port is closed, and the client forgets it. -/
def Connection.close (handle : Nat) (connection : Connection σ) :
    Connection σ where
  client := { connection.client with handle := none, connected := false }
  handles := connection.handles.release handle

/-! ## TCP -/

def modbusClientCreate (slaveId : Byte) (line : σ) : Connection σ :=
  Connection.create slaveId line

def modbusClientConnect (opening : Opening σ) (connection : Connection σ) :
    Bool × Connection σ :=
  if connection.client.connected then
    (false, connection)
  else
    match opening with
    | .unavailable => (false, connection)
    | .abandoned =>
        (false,
          { connection with
            handles := connection.handles.acquire.release
              connection.handles.acquired })
    | .established state =>
        (true,
          { client :=
              { connection.client with
                handle := some connection.handles.acquired
                connected := true
                line := state }
            handles := connection.handles.acquire })

def modbusClientDisconnect (connection : Connection σ) : Connection σ :=
  match connection.client.connected, connection.client.handle with
  | true, some handle => connection.close handle
  | _, _ => connection

/-- What is left of a client is its ledger. -/
def modbusClientDestroy (connection : Connection σ) : Handles :=
  if connection.client.connected then
    (modbusClientDisconnect connection).handles
  else
    connection.handles

def modbusClientFlushBuffer (line : Line σ) (connection : Connection σ) :
    Connection σ :=
  { connection with client := flushReadBuffer line connection.client }

/-! ## Serial -/

def modbusSerialClientCreate (slaveId : Byte) (line : σ) : Connection σ :=
  Connection.create slaveId line

/-- The result of opening the port replaces the old one, whatever it is. -/
def modbusSerialClientConnect (line : Line σ) (opening : Opening σ)
    (connection : Connection σ) : Bool × Connection σ :=
  if connection.client.connected then
    (false, connection)
  else
    match opening with
    | .unavailable =>
        (false,
          { connection with client := { connection.client with handle := none } })
    | .abandoned =>
        (false,
          { client := { connection.client with handle := none }
            handles := connection.handles.acquire.release
              connection.handles.acquired })
    | .established state =>
        (true,
          { client :=
              { connection.client with
                handle := some connection.handles.acquired
                connected := true
                line := line.flush state }
            handles := connection.handles.acquire })

def modbusSerialClientDisconnect (connection : Connection σ) :
    Connection σ :=
  match connection.client.handle with
  | some handle => connection.close handle
  | none => connection

def modbusSerialClientDestroy (connection : Connection σ) : Handles :=
  if connection.client.connected then
    (modbusSerialClientDisconnect connection).handles
  else
    match connection.client.handle with
    | some handle => connection.handles.release handle
    | none => connection.handles

def modbusSerialFlushBuffer (line : Line σ) (connection : Connection σ) :
    Connection σ :=
  if connection.client.handle = none then
    connection
  else
    { connection with
      client :=
        { connection.client with
          line := line.flush connection.client.line } }

/-! ## Calls -/

/-- A call of a client, with what comes of opening in a `connect`. -/
inductive ConnectionCall (σ : Type) where
  | connect (opening : Opening σ)
  | disconnect
  | flushBuffer
  | operate (operation : Operation) (values : Nat → Int)

def Connection.operate (transport : Transport σ) (operation : Operation)
    (values : Nat → Int) (connection : Connection σ) : Connection σ :=
  { connection with
    client := (operation.run transport values connection.client).client }

def ConnectionCall.tcp (line : Line σ) (connection : Connection σ) :
    ConnectionCall σ → Connection σ
  | .connect opening => (modbusClientConnect opening connection).2
  | .disconnect => modbusClientDisconnect connection
  | .flushBuffer => modbusClientFlushBuffer line connection
  | .operate operation values =>
      connection.operate (tcpTransport line) operation values

def ConnectionCall.serial (line : Line σ) (connection : Connection σ) :
    ConnectionCall σ → Connection σ
  | .connect opening => (modbusSerialClientConnect line opening connection).2
  | .disconnect => modbusSerialClientDisconnect connection
  | .flushBuffer => modbusSerialFlushBuffer line connection
  | .operate operation values =>
      connection.operate (serialTransport line) operation values

end Windmi.Modbus
