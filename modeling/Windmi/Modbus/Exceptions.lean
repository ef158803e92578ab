import Windmi.Modbus.ReplyLink

/-!
# Exception replies

A slave may answer any request with an exception of five bytes.  A read takes
it for what it is; a write waits for the eight bytes of an echo, so that each
of its attempts runs into the timeout, and the serial client then gives up its
connection.
-/

namespace Windmi.Modbus

open Windmi.Core
open Windmi.Library

/-- Every request is answered by an exception, each with a code of its own. -/
def exceptionReplies (slaveId : Byte) (codes : Nat → Byte) : Responses :=
  fun requests frame =>
    appendCrc [slaveId, byteAt frame 1 ||| 0x80, codes requests]

/-- An exception is taken for an answer, and its bytes are enough. -/
structure ExceptionAnswered (result : ReadResult ReplyLink) : Prop where
  code : result.code = -1
  satisfied : result.client.line.overreached = false
  connected : result.client.connected = true

def Operation.IsRead : Operation → Prop
  | .readRegister _ => True
  | .readRegisters _ _ => True
  | .writeRegister _ _ => False

section

variable {slaveId : Byte} {codes : Nat → Byte} {portion : Nat → Nat}
  {transport : Transport ReplyLink} {connected overreached : Bool}
  {pending : List Byte} {client : Client ReplyLink}
  (faithful :
    transport.Faithful (replyLine (exceptionReplies slaveId codes) portion))

include faithful

/-! ## Reads -/

/-- A read receives the exception to its last byte, and no further. -/
theorem Listens.read_exception
    (listens : Listens slaveId true pending false client) (address : Word)
    (values : Nat → Int) {count readCount : Word} {single : Bool}
    (positive : count ≠ 0)
    (counted : (if single then 1 else count) = readCount) :
    ExceptionAnswered
      (readWriteRegistersInternal transport address values count single
        client) := by
  rcases listens.read_begins faithful address values positive counted with
    ⟨short, -⟩ | ⟨-, headed, result, -, remaining⟩
  · exact absurd short (by
      show ¬ 5 < 3
      decide)
  · have trailer : (2 : Nat) ≤ ((exceptionReplies slaveId codes
        client.line.requests (modbusRtuBuildReadFrame client.slaveId address
          readCount)).drop 3).length :=
      le_refl 2
    rcases remaining.receive faithful (by decide) trailer with
      ⟨after, received, -, settled⟩
    rw [result, receiveReply, remaining.slaveId]
    have own : byteAt ((exceptionReplies slaveId codes client.line.requests
        (modbusRtuBuildReadFrame client.slaveId address readCount)).take 3)
        0 = slaveId :=
      rfl
    have exception : byteAt ((exceptionReplies slaveId codes
        client.line.requests (modbusRtuBuildReadFrame client.slaveId address
          readCount)).take 3) 1 &&& 0x80 ≠ 0 := by
      show (0x03 ||| 0x80 : Byte) &&& 0x80 ≠ 0
      decide
    rw [if_neg (not_not_intro own), if_pos exception, received]
    exact ⟨rfl, settled.overreached, settled.connected⟩

/-! ## Writes -/

/-- The connection after an attempt of a write that has timed out. -/
def Transport.keeps (transport : Transport ReplyLink) (connected : Bool) :
    Bool :=
  connected && !transport.dropsOnWriteFailure

/-- An attempt of a write waits for more than the exception. -/
theorem Listens.attempt_exception
    (listens : Listens slaveId connected pending overreached client)
    (address value : Word) :
    ∃ after, writeAttempt transport address value client = (false, after) ∧
      Listens slaveId (transport.keeps connected) [] true after := by
  have nonempty :
      modbusRtuBuildWriteFrame client.slaveId address value ≠ [] :=
    List.cons_ne_nil _ _
  rcases listens.send faithful nonempty with ⟨sent, sending, -, answered⟩
  have short : (exceptionReplies slaveId codes client.line.requests
      (modbusRtuBuildWriteFrame client.slaveId address value)).length < 8 := by
    show 5 < 8
    decide
  rcases answered.receive_short faithful short with
    ⟨after, failed, -, drained⟩
  refine ⟨transport.failWrite after, ?_, ?_⟩
  · simp only [writeAttempt, sending, failed]
  · unfold Transport.failWrite Transport.keeps
    cases transport.dropsOnWriteFailure with
    | true =>
        rw [if_pos rfl, Bool.not_true, Bool.and_false]
        exact ⟨drained.slaveId, drained.handle, rfl, drained.pending,
          drained.overreached⟩
    | false =>
        rw [if_neg Bool.false_ne_true, Bool.not_false, Bool.and_true]
        exact drained

theorem Listens.attempts_exception
    (listens : Listens slaveId connected pending overreached client)
    (address value : Word) (retries : Nat) :
    ∃ after,
      writeAttempts transport address value (retries + 1) client =
          (-1, after) ∧
        Listens slaveId (transport.keeps connected) [] true after := by
  induction retries generalizing client connected pending overreached with
  | zero =>
      rcases listens.attempt_exception faithful address value with
        ⟨after, attempted, timedOut⟩
      exact ⟨after, by simp only [writeAttempts, attempted], timedOut⟩
  | succ retries ih =>
      rcases listens.attempt_exception faithful address value with
        ⟨after, attempted, timedOut⟩
      rcases ih timedOut with ⟨final, rest, settled⟩
      have stays : transport.keeps (transport.keeps connected) =
          transport.keeps connected := by
        unfold Transport.keeps
        cases connected <;> cases transport.dropsOnWriteFailure <;> rfl
      rw [stays] at settled
      refine ⟨final, ?_, settled⟩
      rw [writeAttempts, attempted]
      exact rest

/-- A write answered by exceptions fails after three timeouts. -/
theorem Listens.write_exception
    (listens : Listens slaveId true pending overreached client)
    (address value : Word) :
    ∃ after,
      Modbus.writeRegister transport address value client = (-1, after) ∧
        Listens slaveId (!transport.dropsOnWriteFailure) [] true after := by
  rw [Modbus.writeRegister, if_neg (not_not_intro listens.connected)]
  rcases listens.attempts_exception faithful address value 2 with
    ⟨after, attempts, settled⟩
  rw [Transport.keeps, Bool.true_and] at settled
  exact ⟨after, attempts, settled⟩

/-! ## Operations -/

theorem Listens.operation_exception_iff
    (listens : Listens slaveId true pending false client)
    (values : Nat → Int) (operation : Operation) :
    ExceptionAnswered (operation.run transport values client) ↔
      operation.IsRead := by
  cases operation with
  | readRegister address =>
      have single : (if true then 1 else (1 : Word)) = 1 := rfl
      exact iff_of_true
        (listens.read_exception faithful address values (by decide) single)
        trivial
  | readRegisters address count =>
      refine iff_of_true ?_ trivial
      have counted : (if false then 1 else count) = count := rfl
      simp only [Operation.run, readRegisters]
      split
      case isTrue =>
        exact ⟨rfl, listens.overreached, listens.connected⟩
      case isFalse nonzero =>
        exact listens.read_exception faithful address values nonzero counted
  | writeRegister address value =>
      rcases listens.write_exception faithful address value with
        ⟨after, failed, settled⟩
      refine iff_of_false (fun answered => ?_) id
      have satisfied := answered.satisfied
      simp only [Operation.run, failed] at satisfied
      rw [settled.overreached] at satisfied
      cases satisfied

end

/--
For every slave, every exception codes and every division into portions, each
client takes an exception for an answer exactly if it was a read.
-/
theorem exception_answered_iff (slaveId : Byte) (handle : Nat)
    (stale : List Byte) (codes : Nat → Byte) (portion : Nat → Nat)
    (values : Nat → Int) (operation : Operation) :
    let line := replyLine (exceptionReplies slaveId codes) portion
    let client := listeningClient slaveId handle stale
    (ExceptionAnswered
          (operation.run (tcpTransport line) values client) ↔
        operation.IsRead) ∧
      (ExceptionAnswered
            (operation.run (serialTransport line) values client) ↔
          operation.IsRead) := by
  have listens := listeningClient_listens slaveId handle stale
  exact
    ⟨listens.operation_exception_iff (tcpTransport_faithful _) values
        operation,
      listens.operation_exception_iff (serialTransport_faithful _) values
        operation⟩

/-- The slave rejects the priority register, as the target firmware does. -/
theorem priority_write_times_out :
    let line := replyLine (exceptionReplies 11 fun _ => 2) fun _ => 8
    let client := listeningClient 11 3 []
    let write := Operation.writeRegister regDhwPriority 1
    ¬ ExceptionAnswered
          (write.run (tcpTransport line) (fun _ => 0) client) ∧
      ¬ ExceptionAnswered
          (write.run (serialTransport line) (fun _ => 0) client) := by
  constructor
  · intro answered
    exact absurd answered.satisfied (by decide +kernel)
  · intro answered
    exact absurd answered.connected (by decide +kernel)

end Windmi.Modbus
