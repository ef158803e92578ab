import Windmi.Modbus.Exchanges

/-!
# Replies are matched to their requests

Replies to reads carry no address, so a client can only tell them apart by
their place in the stream.  The TCP client keeps in step with its slave as
long as what it gives up on without dropping the connection is punctual:
replies to writes, and the trailers of exceptions.  A late echo of a write is
enough to have it return the value of one register as that of another.
-/

namespace Windmi.Modbus

open Windmi.Core
open Windmi.Library

/-! ## Runs of calls -/

inductive Call where
  | read (address : Word)
  | write (address value : Word)
  deriving DecidableEq, Repr

section

variable {σ : Type} (line : Line σ)

def Call.run (call : Call) (client : Client σ) : Client σ :=
  match call with
  | .read address =>
      (modbusReadRegister line address (fun _ => 0) client).client
  | .write address value => (modbusWriteRegister line address value client).2

def runCalls (calls : List Call) (client : Client σ) : Client σ :=
  calls.foldl (fun client call => call.run line client) client

end

variable {τ : Type}

section

variable {slave : Slave τ} {delays : Delays} {log : List Exchange}
  {state : τ} {client : Client (SlaveLink τ)}

theorem freshClient_inSync (slave : Slave τ) (handle : Nat) (state : τ) :
    InSync slave (freshClient slave handle state) :=
  Or.inr ⟨[], state, freshClient_awaits slave handle state⟩

/-- Exchanges are added to the log, and never taken out. -/
theorem tcp_keeps_log (slave : Slave τ) (delays : Delays)
    (log : List Exchange) :
    (tcpTransport (slaveLine slave delays)).Keeps
      fun client => log <:+ client.line.log where
  send := by
    intro client suffix frame
    have transmitted : log <:+
        ((client.line.flush delays).transmit slave frame).log := by
      unfold SlaveLink.transmit
      split
      · exact suffix.trans (List.suffix_cons ..)
      · exact suffix
    simp only [tcpTransport, sendFrame, flushReadBuffer]
    split_ifs
    · exact suffix
    · exact transmitted
  receive := by
    intro client suffix expected
    simp only [tcpTransport, receiveExact]
    split
    · exact suffix
    · exact readExactly_preserves (fun link : SlaveLink τ => log <:+ link.log)
        (fun _ _ kept => kept) expected expected suffix
  drop := id

/-! ## Reads -/

/-- A value which a read returns is what the slave answered to that read. -/
def ReadMatched (slave : Slave τ) (delays : Delays) (address : Word)
    (values : Nat → Int) (client : Client (SlaveLink τ)) : Prop :=
  let result :=
    modbusReadRegister (slaveLine slave delays) address values client
  result.code = 0 →
    ∃ word,
      result.client.line.log =
          { request := .read address 1, answer := .ok [word] } ::
            client.line.log ∧
        result.values 0 = word.toInt

theorem ReadMatched.newest {address : Word} {values : Nat → Int}
    (matched : ReadMatched slave delays address values client)
    (answer : Word) :
    let result :=
      modbusReadRegister (slaveLine slave delays) address values client
    result.code = 0 →
      result.client.line.log.head? =
          some { request := .read address 1, answer := .ok [answer] } →
        result.values 0 = answer.toInt := by
  intro result success newest
  rcases matched success with ⟨word, log, returned⟩
  rw [show result.client.line.log = _ from log] at newest
  have exchange := Exchange.mk.inj (Option.some.inj newest)
  rw [(List.cons.inj (Except.ok.inj exchange.2)).1] at returned
  exact returned

theorem InSync.read (synced : InSync slave client) (address : Word)
    (values : Nat → Int) :
    let after := (modbusReadRegister (slaveLine slave delays) address values
      client).client
    ReadMatched slave delays address values client ∧
      (delays.Punctual after.line.log → InSync slave after) := by
  intro after
  unfold ReadMatched
  simp only [after]
  unfold modbusReadRegister
  rcases synced with disconnected | ⟨log, state, awaits⟩
  · rw [readRegister_disconnected disconnected]
    exact ⟨fun impossible => absurd impossible code_failed,
      fun _ => Or.inl disconnected⟩
  · have single : (if true then 1 else (1 : Word)) = 1 := rfl
    rcases awaits.read_cases (tcpTransport_faithful _) address values
      (by decide) single (by decide) with
      ⟨words, after, answered, outcome, settled⟩ |
        ⟨after, outcome, settled, failed⟩
    · rcases List.length_eq_one_iff.mp
        (slave.answer_length address 1 state words answered) with
        ⟨word, rfl⟩
      rw [readRegister, outcome]
      refine ⟨fun _ => ⟨word, ?_, rfl⟩, fun _ => Or.inr ⟨_, _, settled⟩⟩
      rw [settled.log, answered, awaits.log]
    · rw [readRegister, outcome]
      exact ⟨fun impossible => absurd impossible code_failed, settled⟩

/-! ## Writes -/

/-- The last exchanges are a write and a read which gives the same value. -/
def Verified (address value : Word) (client : Client (SlaveLink τ)) :
    Prop :=
  ∃ words earlier,
    client.line.log =
      { request := .read address 1, answer := .ok [value] } ::
        { request := .write address value, answer := .ok words } ::
          earlier

/-- A write succeeds on the slave's answer to the read after it. -/
def WriteMatched (slave : Slave τ) (delays : Delays) (address value : Word)
    (client : Client (SlaveLink τ)) : Prop :=
  let result :=
    modbusWriteRegister (slaveLine slave delays) address value client
  result.1 = 0 → Verified address value result.2

theorem InSync.attempt (synced : InSync slave client)
    (address value : Word) :
    let result :=
      writeAttempt (tcpTransport (slaveLine slave delays)) address value
        client
    (delays.Punctual result.2.line.log → InSync slave result.2) ∧
      (result.1 = true → Verified address value result.2) := by
  intro result
  have faithful := tcpTransport_faithful (slaveLine slave delays)
  rcases synced with disconnected | ⟨log, state, awaits⟩
  · rcases writeAttempt_disconnected faithful disconnected address value with
      ⟨failed, still⟩
    refine ⟨fun _ => Or.inl still, fun impossible => ?_⟩
    exact Bool.noConfusion (failed.symm.trans impossible)
  · rcases awaits.attempt_cases faithful address value with
      ⟨after, accepted, confirmed, settled⟩ |
        ⟨after, rejected, settled, -⟩
    · rcases confirmed with ⟨⟨words, echoed⟩, readBack⟩
      rw [show result = (true, after) from accepted]
      refine ⟨fun _ => Or.inr ⟨_, _, settled⟩, fun _ => ⟨words, log, ?_⟩⟩
      rw [settled.log, attemptLog, echoed, readBack]
    · rw [show result = (false, after) from rejected]
      exact ⟨settled, fun impossible => Bool.noConfusion impossible⟩

theorem InSync.attempts (retries : Nat) (synced : InSync slave client)
    (address value : Word) :
    let result :=
      writeAttempts (tcpTransport (slaveLine slave delays)) address value
        retries client
    delays.Punctual result.2.line.log →
      InSync slave result.2 ∧
        (result.1 = 0 → Verified address value result.2) := by
  induction retries generalizing client with
  | zero => exact fun _ => ⟨synced, fun impossible =>
      absurd impossible code_failed⟩
  | succ retries ih =>
      have attempted := @InSync.attempt _ _ delays _ synced address value
      unfold writeAttempts
      generalize writeAttempt (tcpTransport (slaveLine slave delays)) address
        value client = outcome at attempted ⊢
      rcases outcome with ⟨_ | _, after⟩
      · intro result punctual
        have grown : after.line.log <:+ result.2.line.log :=
          (tcp_keeps_log slave delays after.line.log).attempts
            (List.suffix_refl _) address value retries
        exact ih (attempted.1 (punctual.of_suffix grown)) punctual
      · exact fun punctual =>
          ⟨attempted.1 punctual, fun _ => attempted.2 rfl⟩

theorem InSync.write (synced : InSync slave client) (address value : Word) :
    let after := (modbusWriteRegister (slaveLine slave delays) address value
      client).2
    delays.Punctual after.line.log →
      WriteMatched slave delays address value client ∧
        InSync slave after := by
  unfold WriteMatched modbusWriteRegister writeRegister
  split
  · exact fun _ =>
      ⟨fun impossible => absurd impossible code_failed, synced⟩
  · intro after punctual
    rcases synced.attempts modbusWriteMaxRetries address value punctual with
      ⟨settled, verified⟩
    exact ⟨verified, settled⟩

/-! ## Runs -/

theorem Call.log_suffix (call : Call) (client : Client (SlaveLink τ)) :
    client.line.log <:+
      (call.run (slaveLine slave delays) client).line.log := by
  have keeps := tcp_keeps_log slave delays client.line.log
  cases call with
  | read address =>
      exact keeps.read (List.suffix_refl _) address (fun _ => 0) 1 true
  | write address value =>
      exact keeps.write (List.suffix_refl _) address value

/-- A client is in step as long as all its exchanges are punctual. -/
theorem InSync.run (synced : InSync slave client) (calls : List Call)
    (punctual : delays.Punctual
      (runCalls (slaveLine slave delays) calls client).line.log) :
    InSync slave (runCalls (slaveLine slave delays) calls client) := by
  induction calls using List.reverseRecOn with
  | nil => exact synced
  | append_singleton calls call ih =>
      rw [runCalls, List.foldl_append] at punctual ⊢
      have before := ih (punctual.of_suffix (call.log_suffix _))
      cases call with
      | read address => exact (before.read address _).2 punctual
      | write address value => exact (before.write address value punctual).2

/--
On a new connection, as long as the replies to writes and the trailers of
exceptions among the exchanges so far were punctual, however late the other
replies were: a read returns what the slave answered to it, and a write is
verified by the answer to its own read-back.
-/
theorem reads_matched (slave : Slave τ) (delays : Delays) (handle : Nat)
    (state : τ) (calls : List Call) (address : Word) :
    let line := slaveLine slave delays
    let client := runCalls line calls (freshClient slave handle state)
    (delays.Punctual client.line.log →
      ∀ values, ReadMatched slave delays address values client) ∧
      ∀ value,
        delays.Punctual
            (modbusWriteRegister line address value client).2.line.log →
          WriteMatched slave delays address value client := by
  intro line client
  have synced (punctual : delays.Punctual client.line.log) :
      InSync slave client :=
    (freshClient_inSync slave handle state).run calls punctual
  refine ⟨fun punctual values => ((synced punctual).read address values).1,
    fun value punctual => ?_⟩
  have grown : client.line.log <:+
      (modbusWriteRegister line address value client).2.line.log :=
    (tcp_keeps_log slave delays client.line.log).write (List.suffix_refl _)
      address value
  exact ((synced (punctual.of_suffix grown)).write address value punctual).1

end

/-- The reply to the first read after a write comes too late. -/
def lateReadDelays : Delays where
  onFlush _ := 0
  onWait log _ := if log.length = 3 then 0 else 8
  chunk _ _ := 8

theorem reads_matched_late_read :
    ReadMatched (memorySlave 1) lateReadDelays 0x0004 (fun _ => 0)
      (runCalls (slaveLine (memorySlave 1) lateReadDelays)
        [.write 0x0191 450, .read 0x0003]
        (freshClient (memorySlave 1) 7 fun _ => 0)) := by
  have log : (runCalls (slaveLine (memorySlave 1) lateReadDelays)
      [.write 0x0191 450, .read 0x0003]
      (freshClient (memorySlave 1) 7 fun _ => 0)).line.log =
        [⟨.read 0x0003 1, .ok [0]⟩, ⟨.read 0x0191 1, .ok [450]⟩,
          ⟨.write 0x0191 450, .ok [450]⟩] := by
    decide +kernel
  apply (reads_matched (memorySlave 1) lateReadDelays 7 (fun _ => 0)
    [.write 0x0191 450, .read 0x0003] 0x0004).1
  rw [log]
  exact ⟨trivial, trivial, fun _ => Nat.succ_pos 7, trivial⟩

/-! ## Late echoes -/

/--
The three echoes of a write come after its timeouts.  The first of them fails
the next read, whose own reply comes after the flush of the one after it.
-/
def lateDelays : Delays where
  onFlush log := if log.length = 4 then 21 else 0
  onWait log _ :=
    if log.length < 4 then 0
    else if log.length = 4 then 3
    else 7
  chunk _ _ := 8

def twoTemperatures : RegisterFile
  | 0x0003 => 250
  | 0x0004 => 310
  | _ => 0

def afterLateEchoes : Client (SlaveLink RegisterFile) :=
  runCalls (slaveLine (memorySlave 1) lateDelays)
    [.write 0x0191 450, .read 0x0003]
    (freshClient (memorySlave 1) 7 twoTemperatures)

/-- The value of register 0x0003 is returned for register 0x0004. -/
theorem read_mismatched :
    ¬ ReadMatched (memorySlave 1) lateDelays 0x0004 (fun _ => 0)
      afterLateEchoes := by
  intro matched
  have answered := matched.newest 310 (by decide +kernel)
    (by decide +kernel)
  exact absurd answered (by decide +kernel)

end Windmi.Modbus
