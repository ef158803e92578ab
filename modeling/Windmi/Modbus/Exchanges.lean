import Windmi.Modbus.Operations

/-!
# Reads and write attempts against a slave

What becomes of one read and of one write attempt of a client which is in step
with its slave, that is, whose line carries nothing left over from earlier
exchanges.  Each either does what it should or reports a failure; a read which
fails late drops the connection, so in any case the client stays in step or is
disconnected.
-/

namespace Windmi.Modbus

open Windmi.Core
open Windmi.Library

variable {τ : Type}

/-- Nothing is left over on a line that is still in use. -/
def InSync (slave : Slave τ) (client : Client (SlaveLink τ)) : Prop :=
  client.connected = false ∨
    ∃ log state, Awaits slave true log state [] client

/-! ## Replies to reads -/

/-- The caller's array after a read of some words. -/
def storeWords (words : List Word) (values : Nat → Int) (index : Nat) :
    Int :=
  if index < words.length then (words.getD index 0).toInt else values index

theorem replyFrame_words (slaveId : Byte) (address count : Word)
    (words : List Word) :
    ∃ low high,
      replyFrame slaveId (.read address count) (.ok words) =
          [slaveId, 0x03, BitVec.ofNat 8 (2 * words.length)] ++
            (bigEndian words ++ [low, high]) ∧
        crcReceived (replyFrame slaveId (.read address count) (.ok words))
            (2 * words.length + 5) =
          crcCalculated
            (replyFrame slaveId (.read address count) (.ok words))
            (2 * words.length + 5) := by
  refine ⟨_, _, (List.append_assoc ..), crcReceived_appendCrc _ ?_⟩
  simp only [List.length_append, length_bigEndian, List.length_cons,
    List.length_nil]
  omega

/-- The payload of an intact reply is stored in the caller's array. -/
theorem decodeReply_words {σ : Type} {readCount : Word} {words : List Word}
    (length : words.length = readCount.toNat) (values : Nat → Int)
    {header : List Byte} {low high : Byte}
    (check : crcReceived (header ++ (bigEndian words ++ [low, high]))
        (2 * words.length + 5) =
      crcCalculated (header ++ (bigEndian words ++ [low, high]))
        (2 * words.length + 5))
    (client : Client σ) :
    decodeReply readCount values header (bigEndian words ++ [low, high])
        client =
      { code := 0, values := storeWords words values, client := client } := by
  have total : modbusReadHeaderLen +
      (bigEndian words ++ [low, high]).length = 2 * words.length + 5 := by
    simp only [modbusReadHeaderLen, List.length_append, length_bigEndian,
      List.length_cons, List.length_nil]
    omega
  simp only [decodeReply]
  rw [total, if_neg (not_not_intro check)]
  congr 1
  funext index
  by_cases inside : index < words.length
  · have word := bigEndian_word words [low, high] inside
    rw [storeWords, if_pos inside, ← length, if_pos inside, ← word]
    rfl
  · rw [storeWords, if_neg inside, ← length, if_neg inside]

section

variable {slave : Slave τ} {delays : Delays}
  {transport : Transport (SlaveLink τ)} {log : List Exchange} {state : τ}
  {client : Client (SlaveLink τ)}
  (faithful : transport.Faithful (slaveLine slave delays))

include faithful

/-- The rest of an intact reply, once its header has been received. -/
theorem receiveReply_words {readCount : Word} {words : List Word}
    (length : words.length = readCount.toNat) (few : words.length ≤ 125)
    (values : Nat → Int) {low high : Byte}
    (check : crcReceived
        ([slave.slaveId, 0x03, BitVec.ofNat 8 (2 * words.length)] ++
          (bigEndian words ++ [low, high]))
        (2 * words.length + 5) =
      crcCalculated
        ([slave.slaveId, 0x03, BitVec.ofNat 8 (2 * words.length)] ++
          (bigEndian words ++ [low, high]))
        (2 * words.length + 5))
    (awaits : Awaits slave true log state
      (bigEndian words ++ [low, high]) client) :
    let result :=
      receiveReply transport readCount values
        [slave.slaveId, 0x03, BitVec.ofNat 8 (2 * words.length)] client
    (∃ after,
        result =
            { code := 0
              values := storeWords words values
              client := after } ∧
          Awaits slave true log state [] after) ∨
      ∃ after,
        result = { code := -1, values := values, client := after } ∧
          after.connected = false ∧ ¬ delays.Timely log := by
  let header : List Byte :=
    [slave.slaveId, 0x03, BitVec.ofNat 8 (2 * words.length)]
  have byteCount : (byteAt header 2).toNat = 2 * words.length := by
    show (2 * words.length) % 256 = 2 * words.length
    omega
  have receiving : receiveReply transport readCount values header client =
      receiveOrDrop transport (2 * words.length + 2) values client
        (decodeReply readCount values header) := by
    have id : byteAt header 0 = client.slaveId := awaits.slaveId.symm
    have function : ¬ byteAt header 1 &&& 0x80 ≠ 0 := by
      show ¬ (0x03 : Byte) &&& 0x80 ≠ 0
      decide
    unfold receiveReply
    rw [if_neg (not_not_intro id), if_neg function, byteCount,
      if_neg (by omega)]
  intro result
  have size : (bigEndian words ++ [low, high]).length =
      2 * words.length + 2 := by
    simp
  rw [← List.append_nil (bigEndian words ++ [low, high])] at awaits
  rcases awaits.receive faithful size (by omega) with
    ⟨after, received, synced⟩ | ⟨after, failed, kept, late⟩
  · refine Or.inl ⟨after, ?_, synced⟩
    refine receiving.trans ?_
    rw [receiveOrDrop, received]
    exact decodeReply_words length values check after
  · refine Or.inr ⟨after.drop, ?_, rfl, late⟩
    refine receiving.trans ?_
    rw [receiveOrDrop, failed]

/-- The rest of an exception, of which nothing remains if it arrives in time
after its header. -/
theorem receiveReply_error {readCount : Word} {code : Byte}
    {trailer : List Byte} (length : trailer.length = 2) (values : Nat → Int)
    (awaits : Awaits slave true log state trailer client)
    (paced : client.line.Paced delays 5) :
    ∃ after,
      receiveReply transport readCount values [slave.slaveId, 0x83, code]
          client =
        { code := -1, values := values, client := after } ∧
      after.line.log = log ∧
        (delays.TimelyFrom modbusReadHeaderLen log →
          Awaits slave true log state [] after) := by
  have id : byteAt [slave.slaveId, 0x83, code] 0 = client.slaveId :=
    awaits.slaveId.symm
  have exception : byteAt [slave.slaveId, 0x83, code] 1 &&& 0x80 ≠ 0 := by
    show (0x83 : Byte) &&& 0x80 ≠ 0
    decide
  have frame := awaits.receive_frame faithful (by decide : 0 < 2)
  refine ⟨(transport.receiveExact 2 client).2, ?_, frame.log, ?_⟩
  · unfold receiveReply
    rw [if_neg (not_not_intro id), if_pos exception]
  · intro timely
    have pending : (client.line.pipe.arrived ++
        client.line.pipe.underway).length = 2 :=
      (congrArg List.length awaits.pending).trans length
    have enough : modbusReadHeaderLen ≤
        delays.within log client.line.waits := by
      rw [SlaveLink.Paced, awaits.log] at paced
      rw [List.length_append] at pending
      rw [modbusReadHeaderLen]
      omega
    rw [← List.append_nil trailer] at awaits
    rcases awaits.receive_from faithful timely enough length (by decide) with
      ⟨after, received, synced⟩
    rw [received]
    exact synced

theorem Awaits.send_read (awaits : Awaits slave true log state [] client)
    (address readCount : Word) :
    let answer := slave.answer (.read address readCount) state
    ∃ sent,
      transport.sendFrame
          (modbusRtuBuildReadFrame client.slaveId address readCount)
          client = (true, sent) ∧
        Awaits slave true
          ({ request := .read address readCount, answer := answer.1 } :: log)
          answer.2
          (replyFrame slave.slaveId (.read address readCount) answer.1)
          sent ∧
        sent.line.Paced delays (replyFrame slave.slaveId
          (.read address readCount) answer.1).length := by
  have nonempty :
      modbusRtuBuildReadFrame client.slaveId address readCount ≠ [] := by
    simp [modbusRtuBuildReadFrame, appendCrc]
  refine awaits.send faithful nonempty ?_
  rw [awaits.slaveId]
  exact parseRequest_read ..

/--
A read of a client in step returns what the slave answered to it, or it fails.
If the rest of an exception is not late the client stays in step.
-/
theorem Awaits.read_cases (awaits : Awaits slave true log state [] client)
    (address : Word) (values : Nat → Int) {count readCount : Word}
    {single : Bool} (positive : count ≠ 0)
    (counted : (if single then 1 else count) = readCount)
    (few : readCount.toNat ≤ 125) :
    let answer := slave.answer (.read address readCount) state
    let log' :=
      { request := .read address readCount, answer := answer.1 } :: log
    let result :=
      readWriteRegistersInternal transport address values count single client
    (∃ words after,
        answer.1 = .ok words ∧
          result =
              { code := 0
                values := storeWords words values
                client := after } ∧
            Awaits slave true log' answer.2 [] after) ∨
      ∃ after,
        result = { code := -1, values := values, client := after } ∧
          (delays.Punctual after.line.log → InSync slave after) ∧
            ¬ ((∃ words, answer.1 = .ok words) ∧
              delays.Timely log') := by
  intro answer log' result
  rcases awaits.send_read faithful address readCount with
    ⟨sent, sending, waiting, paced⟩
  have reading := readWriteRegistersInternal_sent awaits.connected positive
    counted sending values
  cases answered : answer.1 with
  | ok words =>
      have length : words.length = readCount.toNat :=
        slave.answer_length address readCount state words answered
      rcases replyFrame_words slave.slaveId address readCount words with
        ⟨low, high, reply, check⟩
      rw [reply] at check
      have arriving : Awaits slave true log' answer.2
          ([slave.slaveId, 0x03, BitVec.ofNat 8 (2 * words.length)] ++
            (bigEndian words ++ [low, high])) sent := by
        rw [← reply, ← answered]
        exact waiting
      have headerLength :
          ([slave.slaveId, 0x03, BitVec.ofNat 8 (2 * words.length)] :
            List Byte).length = modbusReadHeaderLen :=
        rfl
      rcases arriving.receive faithful headerLength (by decide) with
        ⟨headed, received, remaining⟩ | ⟨headed, failed, kept, late⟩
      · rw [receiveOrDrop, received] at reading
        rcases receiveReply_words faithful length (by omega) values check
          remaining with
          ⟨after, outcome, synced⟩ | ⟨after, outcome, lost, late⟩
        · exact Or.inl ⟨words, after, rfl, reading.trans outcome, synced⟩
        · exact Or.inr ⟨after, reading.trans outcome, fun _ => Or.inl lost,
            fun both => late both.2⟩
      · rw [receiveOrDrop, failed] at reading
        exact Or.inr ⟨headed.drop, reading, fun _ => Or.inl rfl,
          fun both => late both.2⟩
  | error code =>
      have reply :
          replyFrame slave.slaveId (.read address readCount) answer.1 =
            appendCrc [slave.slaveId, 0x83, code] := by
        rw [answered]
        rfl
      rw [show slave.answer (.read address readCount) state = answer from rfl,
        reply] at paced
      have arriving : Awaits slave true log' answer.2
          ([slave.slaveId, 0x83, code] ++
            [lowByte (crc16 [slave.slaveId, 0x83, code]),
              highByte (crc16 [slave.slaveId, 0x83, code])]) sent := by
        rw [← appendCrc, ← reply]
        exact waiting
      have headerLength : ([slave.slaveId, 0x83, code] : List Byte).length =
          modbusReadHeaderLen :=
        rfl
      have headPaced : (transport.receiveExact modbusReadHeaderLen
          sent).2.line.Paced delays 5 :=
        arriving.receive_paced faithful paced (by decide)
      have error : ¬ ((∃ words, (.error code : Answer) = .ok words) ∧
          delays.Timely log') := by
        rintro ⟨⟨words, impossible⟩, -⟩
        cases impossible
      rcases arriving.receive faithful headerLength (by decide) with
        ⟨headed, received, remaining⟩ | ⟨headed, failed, kept, late⟩
      · rw [receiveOrDrop, received] at reading
        rw [received] at headPaced
        rcases receiveReply_error faithful rfl values remaining headPaced with
          ⟨after, outcome, logged, synced⟩
        refine Or.inr ⟨after, reading.trans outcome, ?_, error⟩
        intro punctual
        rw [logged] at punctual
        exact Or.inr ⟨log', answer.2,
          synced (punctual.1.trailer rfl answered)⟩
      · rw [receiveOrDrop, failed] at reading
        exact Or.inr ⟨headed.drop, reading, fun _ => Or.inl rfl, error⟩

/-! ## Write attempts -/

theorem Awaits.send_write (awaits : Awaits slave true log state [] client)
    (address value : Word) :
    let answer := slave.answer (.write address value) state
    ∃ sent,
      transport.sendFrame
          (modbusRtuBuildWriteFrame client.slaveId address value)
          client = (true, sent) ∧
        Awaits slave true
          ({ request := .write address value, answer := answer.1 } :: log)
          answer.2
          (replyFrame slave.slaveId (.write address value) answer.1)
          sent := by
  have nonempty :
      modbusRtuBuildWriteFrame client.slaveId address value ≠ [] := by
    simp [modbusRtuBuildWriteFrame, appendCrc]
  have parsed : parseRequest slave.slaveId
      (modbusRtuBuildWriteFrame client.slaveId address value) =
        some (.write address value) := by
    rw [awaits.slaveId]
    exact parseRequest_write ..
  rcases awaits.send faithful nonempty parsed with ⟨sent, sending, waiting, -⟩
  exact ⟨sent, sending, waiting⟩

omit faithful in
/-- The request itself passes for its echo. -/
theorem echoAccepted_request (slaveId : Byte) (address value : Word) :
    echoAccepted slaveId (modbusRtuBuildWriteFrame slaveId address value) =
      true := by
  have check : crcReceived
      (modbusRtuBuildWriteFrame slaveId address value) 8 =
        crcCalculated
          (modbusRtuBuildWriteFrame slaveId address value) 8 :=
    crcReceived_appendCrc _ rfl
  have function :
      ¬ byteAt (modbusRtuBuildWriteFrame slaveId address value) 1 &&& 0x80 ≠
        0 := by
    show ¬ (0x06 : Byte) &&& 0x80 ≠ 0
    decide
  have matched :
      ¬ (byteAt (modbusRtuBuildWriteFrame slaveId address value) 0 ≠
          slaveId ∨
        byteAt (modbusRtuBuildWriteFrame slaveId address value) 1 ≠
          0x06) := by
    rintro (other | other)
    · exact other rfl
    · exact other rfl
  unfold echoAccepted
  rw [if_neg function, if_neg matched]
  exact decide_eq_true check

/-- The answers which let a write attempt succeed. -/
structure Confirmed (slave : Slave τ) (address value : Word) (state : τ) :
    Prop where
  echoed : ∃ words,
    (slave.answer (.write address value) state).1 = .ok words
  readBack :
    (slave.answer (.read address 1)
      (slave.answer (.write address value) state).2).1 = .ok [value]

/-- The slave after a write attempt with its read-back. -/
def attemptState (slave : Slave τ) (address value : Word) (state : τ) : τ :=
  (slave.answer (.read address 1)
    (slave.answer (.write address value) state).2).2

/-- The log after a write attempt with its read-back. -/
def attemptLog (slave : Slave τ) (address value : Word) (state : τ)
    (log : List Exchange) : List Exchange :=
  let written := slave.answer (.write address value) state
  { request := .read address 1
    answer := (slave.answer (.read address 1) written.2).1 } ::
    { request := .write address value, answer := written.1 } :: log

theorem Awaits.verify_cases (awaits : Awaits slave true log state [] client)
    (address value : Word) :
    let answer := slave.answer (.read address 1) state
    let log' := { request := .read address 1, answer := answer.1 } :: log
    (∃ after,
        verifyWrite transport address value client = (true, after) ∧
          answer.1 = .ok [value] ∧
            Awaits slave true log' answer.2 [] after) ∨
      ∃ after,
        verifyWrite transport address value client = (false, after) ∧
          (delays.Punctual after.line.log → InSync slave after) ∧
            ¬ (answer.1 = .ok [value] ∧ delays.Timely log') := by
  intro answer log'
  have single : (if true then 1 else (1 : Word)) = 1 := rfl
  rcases awaits.read_cases faithful address (fun _ => 0) (by decide) single
    (by decide) with
    ⟨words, after, answered, outcome, synced⟩ |
      ⟨after, outcome, synced, failed⟩
  · have length : words.length = 1 :=
      slave.answer_length address 1 state words answered
    rcases List.length_eq_one_iff.mp length with ⟨word, rfl⟩
    have verdict : verifyWrite transport address value client =
        (decide (word = value), after) := by
      simp only [verifyWrite, readRegister, outcome, storeWords]
      simp
    by_cases equal : word = value
    · subst equal
      left
      refine ⟨after, ?_, answered, synced⟩
      rw [verdict, decide_eq_true rfl]
    · right
      refine ⟨after, ?_, fun _ => Or.inr ⟨log', answer.2, synced⟩, ?_⟩
      · rw [verdict, decide_eq_false equal]
      · rintro ⟨other, -⟩
        have same := Except.ok.inj (answered.symm.trans other)
        exact equal (List.cons.inj same).1
  · right
    refine ⟨after, ?_, synced, ?_⟩
    · simp only [verifyWrite, readRegister, outcome]
      simp
    · rintro ⟨answered, timely⟩
      exact failed ⟨⟨[value], answered⟩, timely⟩

omit faithful in
@[simp]
theorem Transport.line_failWrite (client : Client (SlaveLink τ)) :
    (transport.failWrite client).line = client.line := by
  unfold Transport.failWrite
  split
  · rfl
  · rfl

/-- A write attempt of a client in step. -/
theorem Awaits.attempt_cases (awaits : Awaits slave true log state [] client)
    (address value : Word) :
    let log' := attemptLog slave address value state log
    (∃ after,
        writeAttempt transport address value client = (true, after) ∧
          Confirmed slave address value state ∧
            Awaits slave true log' (attemptState slave address value state)
              [] after) ∨
      ∃ after,
        writeAttempt transport address value client = (false, after) ∧
          (delays.Punctual after.line.log → InSync slave after) ∧
            ¬ (Confirmed slave address value state ∧
              delays.Timely log'.tail ∧ delays.Timely log') := by
  intro log'
  rcases awaits.send_write faithful address value with ⟨sent, sending, waiting⟩
  cases answered : (slave.answer (.write address value) state).1 with
  | ok words =>
      have echo : replyFrame slave.slaveId (.write address value)
          (slave.answer (.write address value) state).1 =
            modbusRtuBuildWriteFrame slave.slaveId address value ++ [] := by
        rw [answered, List.append_nil]
        rfl
      rw [echo] at waiting
      have eight :
          (modbusRtuBuildWriteFrame slave.slaveId address value).length =
            8 :=
        rfl
      have frame := waiting.receive_frame faithful (by decide : 0 < 8)
      rcases waiting.receive faithful eight (by decide) with
        ⟨echoed, received, synced⟩ | ⟨echoed, failed, kept, late⟩
      · have attempt : writeAttempt transport address value client =
            verifyWrite transport address value echoed := by
          simp only [writeAttempt, sending, received]
          rw [synced.slaveId, if_pos (echoAccepted_request ..)]
        rw [attempt]
        rcases synced.verify_cases faithful address value with
          ⟨after, accepted, readBack, settled⟩ |
            ⟨after, rejected, settled, different⟩
        · exact Or.inl ⟨after, accepted, ⟨⟨words, answered⟩, readBack⟩,
            settled⟩
        · refine Or.inr ⟨after, rejected, settled, ?_⟩
          rintro ⟨confirmed, -, timely⟩
          exact different ⟨confirmed.readBack, timely⟩
      · rw [failed] at frame
        refine Or.inr ⟨transport.failWrite echoed, ?_, ?_, ?_⟩
        · simp only [writeAttempt, sending, failed]
        · intro punctual
          rw [Transport.line_failWrite, frame.log] at punctual
          exact absurd punctual.1 late
        · rintro ⟨-, timely, -⟩
          exact late timely
  | error code =>
      have short : (replyFrame slave.slaveId (.write address value)
          (slave.answer (.write address value) state).1).length < 8 := by
        rw [answered]
        exact (by decide : 5 < 8)
      rcases waiting.receive_short faithful short with
        ⟨after, failed, logged, synced⟩
      refine Or.inr ⟨transport.failWrite after, ?_, ?_, ?_⟩
      · simp only [writeAttempt, sending, failed]
      · intro punctual
        rw [Transport.line_failWrite, logged] at punctual
        unfold Transport.failWrite
        split
        · exact Or.inl rfl
        · exact Or.inr ⟨_, _, synced punctual.1⟩
      · rintro ⟨⟨⟨words, echoed⟩, -⟩, -⟩
        cases answered.symm.trans echoed

end

end Windmi.Modbus
