import Windmi.Modbus.Recording

/-!
# Results are backed by received frames

Nothing is assumed of the line here: it may fail, stay silent, or hand over
any bytes in any portions.  A read which succeeds has received a well-formed
reply in that very call, and its values are the words of that reply; a write
which succeeds has sent its frame and then received the value back.
-/

namespace Windmi.Modbus

open Windmi.Core
open Windmi.Library

variable {σ : Type}

/-! ## Well-formed replies -/

/-- A reply to a read of `count` registers. -/
structure ReadReply (slaveId : Byte) (count : Nat) (frame : List Byte) :
    Prop where
  length : frame.length = 5 + 2 * count
  slaveId : byteAt frame 0 = slaveId
  noException : byteAt frame 1 &&& 0x80 = 0
  byteCount : (byteAt frame 2).toNat = 2 * count
  crc : crcReceived frame frame.length = crcCalculated frame frame.length

def replyWord (frame : List Byte) (index : Nat) : Word :=
  bytesToUint16 frame (modbusReadHeaderLen + 2 * index)

theorem replyWord_append {header : List Byte}
    (length : header.length = modbusReadHeaderLen) (data : List Byte)
    (index : Nat) :
    replyWord (header ++ data) index = bytesToUint16 data (index * 2) := by
  unfold replyWord bytesToUint16
  rw [← length, Nat.add_assoc, byteAt_append_right, byteAt_append_right,
    Nat.mul_comm]

/-! ## Reads -/

/-- A failure that left the caller's array alone, or a reply and its words. -/
def ReadOutcome (slaveId : Byte) (count : Nat) (values : Nat → Int)
    (received : List Byte) (result : ReadResult (Recorded σ)) : Prop :=
  (result.code = -1 ∧ result.values = values) ∨
    (result.code = 0 ∧ ReadReply slaveId count received ∧
      ∀ index < count,
        result.values index = (replyWord received index).toInt)

theorem ReadOutcome.failed {slaveId : Byte} {count : Nat}
    {values : Nat → Int} {received : List Byte}
    {client : Client (Recorded σ)} :
    ReadOutcome slaveId count values received
      { code := -1, values := values, client := client } :=
  Or.inl ⟨rfl, rfl⟩

/-- The part of a read from some state of the client on. -/
def ReadsOn (slaveId : Byte) (count : Nat) (values : Nat → Int)
    (received : List Byte) (client : Client (Recorded σ))
    (result : ReadResult (Recorded σ)) : Prop :=
  ∃ call, During call client result.client ∧ sentBytes call = [] ∧
    ReadOutcome slaveId count values (received ++ receivedBytes call) result

theorem ReadsOn.failed {slaveId : Byte} {count : Nat} {values : Nat → Int}
    {received : List Byte} (client : Client (Recorded σ)) :
    ReadsOn slaveId count values received client
      { code := -1, values := values, client := client } :=
  ⟨[], During.refl client, rfl, ReadOutcome.failed⟩

theorem decodeReply_outcome {slaveId : Byte} {count : Word}
    {header data : List Byte} (headerLength : header.length = 3)
    (fromSlave : byteAt header 0 = slaveId)
    (noException : byteAt header 1 &&& 0x80 = 0)
    (byteCount : (byteAt header 2).toNat = count.toNat * 2)
    (dataLength : data.length = (byteAt header 2).toNat + 2)
    (values : Nat → Int) (client : Client (Recorded σ)) :
    ReadsOn slaveId count.toNat values (header ++ data) client
      (decodeReply count values header data client) := by
  have total : (header ++ data).length = modbusReadHeaderLen + data.length := by
    rw [List.length_append, headerLength]
    rfl
  simp only [decodeReply, ← total]
  split
  case isTrue => exact ReadsOn.failed client
  case isFalse matching =>
    refine ⟨[], During.refl client, rfl, Or.inr ⟨rfl, ?_, ?_⟩⟩
    · rw [show receivedBytes [] = [] from rfl, List.append_nil]
      constructor
      case length =>
        rw [List.length_append]
        omega
      case slaveId =>
        rw [byteAt_append_left data (by omega)]
        exact fromSlave
      case noException =>
        rw [byteAt_append_left data (by omega)]
        exact noException
      case byteCount =>
        rw [byteAt_append_left data (by omega), byteCount, Nat.mul_comm]
      case crc => exact not_not.mp matching
    · intro index within
      rw [show receivedBytes [] = [] from rfl, List.append_nil,
        replyWord_append headerLength]
      exact if_pos within

section

variable {transport : Transport (Recorded σ)}
  (recording : transport.Recording)

include recording

theorem Transport.Recording.receiveOrDrop {slaveId : Byte} {count : Nat}
    {received : List Byte} (expected : Nat) (values : Nat → Int)
    (client : Client (Recorded σ))
    {next : List Byte → Client (Recorded σ) → ReadResult (Recorded σ)}
    (goesOn : ∀ bytes after, bytes.length = expected →
      after.slaveId = client.slaveId →
        ReadsOn slaveId count values (received ++ bytes) after
          (next bytes after)) :
    ReadsOn slaveId count values received client
      (Modbus.receiveOrDrop transport expected values client next) := by
  rcases recording.receiveExact expected client with
    ⟨call, during, silent, exact⟩
  unfold Modbus.receiveOrDrop
  generalize transport.receiveExact expected client = outcome
    at during exact ⊢
  rcases outcome with ⟨_ | bytes, after⟩
  · exact ⟨call, during.drop, silent, ReadOutcome.failed⟩
  · rcases exact bytes rfl with ⟨rfl, length⟩
    rcases goesOn _ after length during.slaveId with
      ⟨later, goes, quiet, outcome⟩
    refine ⟨call ++ later, during.trans goes, ?_, ?_⟩
    · rw [sentBytes_append, silent, quiet, List.append_nil]
    · rw [receivedBytes_append, ← List.append_assoc]
      exact outcome

theorem Transport.Recording.receiveReply {count : Word}
    {header : List Byte} (headerLength : header.length = 3)
    (values : Nat → Int) (client : Client (Recorded σ)) :
    ReadsOn client.slaveId count.toNat values header client
      (Modbus.receiveReply transport count values header client) := by
  unfold Modbus.receiveReply
  split_ifs with foreign exception miscounted
  · exact ReadsOn.failed client
  · rcases recording.receiveExact 2 client with ⟨call, during, silent, -⟩
    exact ⟨call, during, silent, ReadOutcome.failed⟩
  · exact ReadsOn.failed client
  · apply recording.receiveOrDrop
    intro data after dataLength _
    exact decodeReply_outcome headerLength (not_not.mp foreign)
      (not_not.mp exception) (not_not.mp miscounted) dataLength values after

/-- A read sends its request, at most, and then only receives. -/
theorem Transport.Recording.read (address : Word) (values : Nat → Int)
    (count : Word) (single : Bool) (client : Client (Recorded σ)) :
    let readCount := if single then 1 else count
    let result :=
      readWriteRegistersInternal transport address values count single client
    ∃ call, During call client result.client ∧
      sentBytes call <+:
        modbusRtuBuildReadFrame client.slaveId address readCount ∧
      ReadOutcome client.slaveId readCount.toNat values (receivedBytes call)
        result := by
  intro readCount result
  rcases recording.sendFrame
    (modbusRtuBuildReadFrame client.slaveId address readCount) client with
    ⟨call, during, silent, part, -⟩
  simp only [result, readWriteRegistersInternal]
  split
  · exact ⟨[], During.refl client, List.nil_prefix, ReadOutcome.failed⟩
  · change During call client (transport.sendFrame (modbusRtuBuildReadFrame
      client.slaveId address (if single then 1 else count)) client).2
      at during
    generalize transport.sendFrame (modbusRtuBuildReadFrame client.slaveId
      address (if single then 1 else count)) client = sending at during ⊢
    rcases sending with ⟨_ | _, sent⟩
    · exact ⟨call, during.drop, part, ReadOutcome.failed⟩
    · have received : ReadsOn client.slaveId readCount.toNat values [] sent
          (Modbus.receiveOrDrop transport modbusReadHeaderLen values sent
            (Modbus.receiveReply transport readCount values)) := by
        apply recording.receiveOrDrop
        intro header after length same
        rw [← show after.slaveId = client.slaveId from
          same.trans during.slaveId]
        exact recording.receiveReply length values after
      rcases received with ⟨later, goes, quiet, outcome⟩
      refine ⟨call ++ later, during.trans goes, ?_, ?_⟩
      · rw [sentBytes_append, quiet, List.append_nil]
        exact part
      · rw [receivedBytes_append, silent]
        exact outcome

end

/-! ## Writes -/

/-- The bytes of an attempt: of its write frame, then of its read frame. -/
structure AttemptBytes (slaveId : Byte) (address value : Word)
    (attempt : List Byte × List Byte) : Prop where
  write : attempt.1 <+: modbusRtuBuildWriteFrame slaveId address value
  readBack : attempt.2 <+: modbusRtuBuildReadFrame slaveId address 1

/--
After the write frame was sent as a whole, the last bytes received are a reply
which carries the value.
-/
def ReadBack (slaveId : Byte) (address value : Word) (call : List Traffic) :
    Prop :=
  ∃ before sending after earlier reply,
    call = before ++ sending ++ after ∧
      sentBytes sending = modbusRtuBuildWriteFrame slaveId address value ∧
      receivedBytes after = earlier ++ reply ∧
      ReadReply slaveId 1 reply ∧ replyWord reply 0 = value

theorem ReadBack.after {slaveId : Byte} {address value : Word}
    {call : List Traffic} (readBack : ReadBack slaveId address value call)
    (attempted : List Traffic) :
    ReadBack slaveId address value (attempted ++ call) := by
  rcases readBack with
    ⟨before, sending, after, earlier, reply, rfl, written, received, valid⟩
  refine ⟨attempted ++ before, sending, after, earlier, reply, ?_, written,
    received, valid⟩
  simp only [List.append_assoc]

section

variable {transport : Transport (Recorded σ)}
  (recording : transport.Recording)

include recording

theorem Transport.Recording.verify (address value : Word)
    (client : Client (Recorded σ)) :
    let result := verifyWrite transport address value client
    ∃ call, During call client result.2 ∧
      sentBytes call <+: modbusRtuBuildReadFrame client.slaveId address 1 ∧
      (result.1 = true →
        ReadReply client.slaveId 1 (receivedBytes call) ∧
          replyWord (receivedBytes call) 0 = value) := by
  intro result
  rcases recording.read address (fun _ => 0) 1 true client with
    ⟨call, during, part, outcome⟩
  refine ⟨call, during, part, fun verified => ?_⟩
  rcases of_decide_eq_true verified with ⟨success, equal⟩
  rcases outcome with ⟨failed, -⟩ | ⟨-, reply, words⟩
  · exact absurd (failed.symm.trans success) code_failed
  · refine ⟨reply, ?_⟩
    rw [← equal]
    exact ((congrArg (BitVec.ofInt 16) (words 0 (by decide))).trans
      BitVec.ofInt_toInt).symm

theorem Transport.Recording.attempt (address value : Word)
    (client : Client (Recorded σ)) :
    let result := writeAttempt transport address value client
    ∃ call, During call client result.2 ∧
      (∃ attempt, AttemptBytes client.slaveId address value attempt ∧
        sentBytes call = attempt.1 ++ attempt.2) ∧
      (result.1 = true → ReadBack client.slaveId address value call) := by
  intro result
  rcases recording.sendFrame
    (modbusRtuBuildWriteFrame client.slaveId address value) client with
    ⟨sending, during, silent, part, whole⟩
  simp only [result, writeAttempt]
  generalize transport.sendFrame
    (modbusRtuBuildWriteFrame client.slaveId address value) client =
      sendOutcome at during whole ⊢
  have written : AttemptBytes client.slaveId address value
      (sentBytes sending, []) := ⟨part, List.nil_prefix⟩
  rcases sendOutcome with ⟨_ | _, sent⟩
  · exact ⟨sending, during.failWrite transport,
      ⟨_, written, (List.append_nil _).symm⟩,
      fun impossible => Bool.noConfusion impossible⟩
  rcases recording.receiveExact 8 sent with ⟨echo, echoing, quiet, -⟩
  simp only
  generalize transport.receiveExact 8 sent = receiveOutcome at echoing ⊢
  have unread : sentBytes (sending ++ echo) = sentBytes sending ++ [] := by
    rw [sentBytes_append, quiet]
  rcases receiveOutcome with ⟨_ | response, after⟩
  · exact ⟨sending ++ echo, (during.trans echoing).failWrite transport,
      ⟨_, written, unread⟩, fun impossible => Bool.noConfusion impossible⟩
  simp only
  split
  · rcases recording.verify address value after with
      ⟨reading, verifying, readPart, verified⟩
    have same : after.slaveId = client.slaveId :=
      echoing.slaveId.trans during.slaveId
    rw [same] at readPart verified
    refine ⟨sending ++ echo ++ reading, (during.trans echoing).trans verifying,
      ⟨(sentBytes sending, sentBytes reading), ⟨part, readPart⟩, ?_⟩,
      fun success => ?_⟩
    · rw [sentBytes_append, unread, List.append_nil]
    · refine ⟨[], sending, echo ++ reading, receivedBytes echo,
        receivedBytes reading, ?_, whole rfl, receivedBytes_append _ _,
        verified success⟩
      simp only [List.nil_append, List.append_assoc]
  · exact ⟨sending ++ echo, during.trans echoing, ⟨_, written, unread⟩,
      fun impossible => Bool.noConfusion impossible⟩

/-- Each attempt adds one write frame and one read frame at most. -/
theorem Transport.Recording.attempts (address value : Word) (retries : Nat)
    (client : Client (Recorded σ)) :
    let result := writeAttempts transport address value retries client
    ∃ call, During call client result.2 ∧
      (∃ attempts : List (List Byte × List Byte),
        attempts.length ≤ retries ∧
          (∀ attempt ∈ attempts,
            AttemptBytes client.slaveId address value attempt) ∧
          sentBytes call =
            attempts.flatMap fun attempt => attempt.1 ++ attempt.2) ∧
      (result.1 = 0 → ReadBack client.slaveId address value call) := by
  induction retries generalizing client with
  | zero =>
      exact ⟨[], During.refl client,
        ⟨[], le_rfl, List.forall_mem_nil _, rfl⟩,
        fun impossible => absurd impossible code_failed⟩
  | succ retries ih =>
      rcases recording.attempt address value client with
        ⟨call, during, ⟨attempt, bytes, sent⟩, success⟩
      simp only [writeAttempts]
      generalize writeAttempt transport address value client = outcome
        at during success ⊢
      rcases outcome with ⟨_ | _, after⟩
      · rcases ih after with
          ⟨later, goes, ⟨attempts, few, all, rest⟩, readBack⟩
        have same : after.slaveId = client.slaveId := during.slaveId
        rw [same] at all readBack
        refine ⟨call ++ later, during.trans goes,
          ⟨attempt :: attempts, Nat.succ_le_succ few,
            List.forall_mem_cons.mpr ⟨bytes, all⟩, ?_⟩,
          fun accepted => (readBack accepted).after call⟩
        rw [sentBytes_append, sent, rest, List.flatMap_cons]
      · refine ⟨call, during, ⟨[attempt], Nat.succ_le_succ (Nat.zero_le _),
          List.forall_mem_singleton.mpr bytes, ?_⟩, fun _ => success rfl⟩
        rw [sent, List.flatMap_singleton]

end

/-! ## Soundness of the two clients -/

/-- A read of `count` registers, whatever the line does. -/
def ReadSound (count : Nat)
    (read : (Nat → Int) → Client (Recorded σ) → ReadResult (Recorded σ)) :
    Prop :=
  ∀ values client, ∃ call,
    (read values client).client.line.traffic =
        client.line.traffic ++ call ∧
      (((read values client).code = -1 ∧
          (read values client).values = values) ∨
        ((read values client).code = 0 ∧
          ∃ frame, frame <:+: receivedBytes call ∧
            ReadReply client.slaveId count frame ∧
            ∀ index < count,
              (read values client).values index =
                (replyWord frame index).toInt))

/-- A verified write, whatever the line does. -/
def WriteSound
    (write : Word → Word → Client (Recorded σ) →
      Int × Client (Recorded σ)) : Prop :=
  ∀ address value client, ∃ call,
    (write address value client).2.line.traffic =
        client.line.traffic ++ call ∧
      ((write address value client).1 = 0 →
        ReadBack client.slaveId address value call) ∧
      ∃ attempts : List (List Byte × List Byte),
        attempts.length ≤ 3 ∧
          (∀ attempt ∈ attempts,
            AttemptBytes client.slaveId address value attempt) ∧
          sentBytes call =
            attempts.flatMap fun attempt => attempt.1 ++ attempt.2

theorem Transport.Recording.readSound
    {transport : Transport (Recorded σ)} (recording : transport.Recording)
    (address count : Word) (single : Bool) :
    ReadSound (if single then 1 else count).toNat fun values =>
      readWriteRegistersInternal transport address values count single := by
  intro values client
  rcases recording.read address values count single client with
    ⟨call, during, -, outcome⟩
  refine ⟨call, during.traffic, outcome.imp_right ?_⟩
  rintro ⟨success, reply, words⟩
  exact ⟨success, receivedBytes call, List.infix_refl _, reply, words⟩

theorem Transport.Recording.readRegistersSound
    {transport : Transport (Recorded σ)} (recording : transport.Recording)
    (address count : Word) :
    ReadSound count.toNat fun values =>
      readRegisters transport address values count := by
  intro values client
  simp only [readRegisters]
  split
  · exact ⟨[], (List.append_nil _).symm, Or.inl ⟨rfl, rfl⟩⟩
  · exact recording.readSound address count false values client

theorem Transport.Recording.writeSound
    {transport : Transport (Recorded σ)} (recording : transport.Recording) :
    WriteSound (writeRegister transport) := by
  intro address value client
  simp only [writeRegister]
  split
  · exact ⟨[], (List.append_nil _).symm,
      fun impossible => absurd impossible code_failed, [], Nat.zero_le 3,
      List.forall_mem_nil _, rfl⟩
  · rcases recording.attempts address value modbusWriteMaxRetries client with
      ⟨call, during, attempts, success⟩
    exact ⟨call, during.traffic, success, attempts⟩

/-- Soundness on every line; the record changes nothing for the clients. -/
theorem clients_sound (line : Line σ) :
    (∀ address count,
      (ReadSound count.toNat fun values =>
          modbusReadRegisters (recorded line) address values count) ∧
        ReadSound count.toNat fun values =>
          modbusSerialReadRegisters (recorded line) address values count) ∧
      (∀ address,
        (ReadSound 1 (modbusReadRegister (recorded line) address)) ∧
          ReadSound 1 (modbusSerialReadRegister (recorded line) address)) ∧
      WriteSound (modbusWriteRegister (recorded line)) ∧
      WriteSound (modbusSerialWriteRegister (recorded line)) := by
  have tcp := tcpTransport_recording line
  have serial := serialTransport_recording line
  constructor
  · intro address count
    exact ⟨tcp.readRegistersSound address count,
      serial.readRegistersSound address count⟩
  constructor
  · intro address
    exact ⟨tcp.readSound address 1 true, serial.readSound address 1 true⟩
  · exact ⟨tcp.writeSound, serial.writeSound⟩

end Windmi.Modbus
