import Windmi.Modbus.Exchanges
import Windmi.Modbus.ReplyLink
import Windmi.Modbus.Soundness

/-!
# What the clients accept

The replies and echoes which pass the checks of the clients, among all byte
sequences.  Every field of a reply is compared but its function code, of which
only the exception bit is looked at; every field of an echo but the address and
the value, which the checksum covers without fixing them.
-/

namespace Windmi.Modbus

open Windmi.Core
open Windmi.Library

/-! ## Frames of slaves -/

/-- A reply to a read of some registers, under some function code. -/
def readReplyFrame (slaveId function : Byte) (payload : List Byte) :
    List Byte :=
  appendCrc
    ([slaveId, function, BitVec.ofNat 8 payload.length] ++ payload)

/-- A sequence of bytes begins with a reply, whose function is one of some. -/
def BeginsWithReply (functions : Byte → Prop) (slaveId : Byte) (count : Nat)
    (bytes : List Byte) : Prop :=
  ∃ function payload, functions function ∧ payload.length = 2 * count ∧
    readReplyFrame slaveId function payload <+: bytes

/-- A well-formed reply is made of its payload. -/
theorem ReadReply.frame {slaveId : Byte} {count : Nat} {frame : List Byte}
    (reply : ReadReply slaveId count frame) :
    ∃ payload, payload.length = 2 * count ∧
      frame = readReplyFrame slaveId (byteAt frame 1) payload := by
  have length := reply.length
  have enough : 2 ≤ frame.length := by omega
  have trailed := (crcReceived_eq_iff enough).mp reply.crc
  have bodyLength : (frame.take (frame.length - 2)).length =
      3 + 2 * count := by
    rw [List.length_take]
    omega
  generalize frame.take (frame.length - 2) = body at trailed bodyLength
  rcases body with _ | ⟨id, _ | ⟨function, _ | ⟨size, payload⟩⟩⟩
  · simp at bodyLength
    omega
  · simp at bodyLength
    omega
  · simp at bodyLength
    omega
  · have payloadLength : payload.length = 2 * count := by
      simp only [List.length_cons] at bodyLength
      omega
    have fromSlave := reply.slaveId
    have counted := reply.byteCount
    rw [trailed] at fromSlave counted
    have sameId : id = slaveId := fromSlave
    have sameSize : size = BitVec.ofNat 8 payload.length := by
      apply BitVec.eq_of_toNat_eq
      have bound := size.isLt
      have value : size.toNat = 2 * count := counted
      rw [BitVec.toNat_ofNat, payloadLength, value]
      omega
    refine ⟨payload, payloadLength, ?_⟩
    have sameFunction : byteAt frame 1 = function := by
      rw [trailed]
      rfl
    rw [sameFunction, trailed, sameId, sameSize]
    rfl

/-- A reply of few enough registers is well-formed. -/
theorem readReply_readReplyFrame {slaveId function : Byte} {count : Nat}
    {payload : List Byte} (few : count ≤ 125)
    (noException : function &&& 0x80 = 0)
    (length : payload.length = 2 * count) :
    ReadReply slaveId count (readReplyFrame slaveId function payload) := by
  have total : (readReplyFrame slaveId function payload).length =
      5 + 2 * count := by
    rw [readReplyFrame, length_appendCrc]
    simp only [List.length_append, List.length_cons, List.length_nil, length]
    omega
  constructor
  case length => exact total
  case slaveId => rfl
  case noException => exact noException
  case byteCount =>
    show (BitVec.ofNat 8 payload.length).toNat = 2 * count
    rw [BitVec.toNat_ofNat, length]
    omega
  case crc =>
    apply crcReceived_appendCrc
    exact length_appendCrc _

/-- The first bytes are a well-formed reply if there is one to begin with. -/
theorem readReply_take_iff {slaveId : Byte} {count : Nat} (few : count ≤ 125)
    (bytes : List Byte) :
    ReadReply slaveId count (bytes.take (5 + 2 * count)) ↔
      BeginsWithReply (fun function => function &&& 0x80 = 0) slaveId count
        bytes := by
  constructor
  · intro reply
    rcases reply.frame with ⟨payload, length, frame⟩
    refine ⟨_, payload, reply.noException, length, ?_⟩
    rw [← frame]
    exact List.take_prefix _ _
  · rintro ⟨function, payload, noException, length, rest, rfl⟩
    have reply : ReadReply slaveId count
        (readReplyFrame slaveId function payload) :=
      readReply_readReplyFrame few noException length
    rw [← reply.length, List.take_left]
    exact reply

/-! ## Reads -/

section

variable {responses : Responses} {portion : Nat → Nat}
  {transport : Transport ReplyLink} {slaveId : Byte} {connected : Bool}
  {pending : List Byte} {overreached : Bool} {client : Client ReplyLink}
  (faithful : transport.Faithful (replyLine responses portion))

omit faithful in
theorem decodeReply_code_iff {readCount : Word} {header data : List Byte}
    (values : Nat → Int) (client : Client ReplyLink) :
    (decodeReply readCount values header data client).code = 0 ↔
      crcReceived (header ++ data) (modbusReadHeaderLen + data.length) =
        crcCalculated (header ++ data)
          (modbusReadHeaderLen + data.length) := by
  simp only [decodeReply]
  split
  case isTrue mismatch => exact iff_of_false code_failed mismatch
  case isFalse matching => exact iff_of_true rfl (not_not.mp matching)

include faithful

/-- A read goes through exactly if the bytes begin with a valid reply. -/
theorem Listens.receiveReply_iff {bytes : List Byte}
    (headed : 3 ≤ bytes.length)
    (listens : Listens slaveId true (bytes.drop 3) overreached client)
    (readCount : Word) (values : Nat → Int) :
    (receiveReply transport readCount values (bytes.take 3) client).code =
        0 ↔
      ReadReply slaveId readCount.toNat
        (bytes.take (5 + 2 * readCount.toNat)) := by
  rcases header_bytes bytes with ⟨first, second, third⟩
  have within : ∀ index < 3,
      byteAt (bytes.take (5 + 2 * readCount.toNat)) index =
        byteAt bytes index :=
    fun index below => byteAt_take (by omega)
  simp only [receiveReply, first, second, third, listens.slaveId]
  split_ifs with foreign exception miscounted
  · refine iff_of_false code_failed fun reply => foreign ?_
    rw [← within 0 (by decide)]
    exact reply.slaveId
  · refine iff_of_false code_failed fun reply => exception ?_
    rw [← within 1 (by decide)]
    exact reply.noException
  · refine iff_of_false code_failed fun reply => miscounted ?_
    rw [← within 2 (by decide), reply.byteCount, Nat.mul_comm]
  · have counted : (byteAt bytes 2).toNat = 2 * readCount.toNat :=
      (not_not.mp miscounted).trans (Nat.mul_comm _ _)
    have reassembled : bytes.take 3 ++
        (bytes.drop 3).take (2 * readCount.toNat + 2) =
          bytes.take (5 + 2 * readCount.toNat) := by
      rw [← List.take_add]
      congr 1
      omega
    rw [counted, receiveOrDrop]
    rcases Nat.lt_or_ge (bytes.drop 3).length (2 * readCount.toNat + 2) with
      short | enough
    · rcases listens.receive_short faithful short with ⟨after, failed, -⟩
      simp only [failed]
      refine iff_of_false code_failed fun reply => ?_
      have length := reply.length
      rw [List.length_take] at length
      rw [List.length_drop] at short
      omega
    · rcases listens.receive faithful (Nat.succ_pos _) enough with
        ⟨after, received, -⟩
      simp only [received]
      rw [decodeReply_code_iff, reassembled, modbusReadHeaderLen,
        List.length_take_of_le enough]
      rw [List.length_drop] at enough
      have total : (bytes.take (5 + 2 * readCount.toNat)).length =
          3 + (2 * readCount.toNat + 2) := by
        rw [List.length_take]
        omega
      constructor
      · intro matching
        constructor
        case length => omega
        case slaveId =>
          rw [within 0 (by decide)]
          exact not_not.mp foreign
        case noException =>
          rw [within 1 (by decide)]
          exact not_not.mp exception
        case byteCount =>
          rw [within 2 (by decide)]
          exact counted
        case crc =>
          rw [total]
          exact matching
      · intro reply
        rw [← total]
        exact reply.crc

theorem Listens.read_iff
    (listens : Listens slaveId true pending overreached client)
    (address : Word) (values : Nat → Int) {count readCount : Word}
    {single : Bool} (positive : count ≠ 0)
    (counted : (if single then 1 else count) = readCount)
    (few : readCount.toNat ≤ 125) :
    (readWriteRegistersInternal transport address values count single
        client).code = 0 ↔
      BeginsWithReply (fun function => function &&& 0x80 = 0) slaveId
        readCount.toNat
        (responses client.line.requests
          (modbusRtuBuildReadFrame slaveId address readCount)) := by
  rw [← readReply_take_iff few, ← listens.slaveId]
  rcases listens.read_begins faithful address values positive counted with
    ⟨short, after, result, -⟩ | ⟨enough, headed, result, -, remaining⟩
  · rw [result]
    refine iff_of_false code_failed fun reply => ?_
    have length := reply.length
    rw [List.length_take] at length
    omega
  · rw [result, listens.slaveId]
    rw [listens.slaveId] at enough remaining
    exact remaining.receiveReply_iff faithful enough readCount values

/-! ## Echoes -/

omit faithful in
/-- An echo passes exactly if it is a write request for the slave. -/
theorem echoAccepted_iff_frame {response : List Byte}
    (length : response.length = 8) :
    echoAccepted slaveId response = true ↔
      ∃ address value,
        response = modbusRtuBuildWriteFrame slaveId address value := by
  constructor
  · intro accepted
    simp only [echoAccepted] at accepted
    split_ifs at accepted with exception mismatch
    rcases not_or.mp mismatch with ⟨slave, function⟩
    have matching := of_decide_eq_true accepted
    rw [← length] at matching
    have trailed := (crcReceived_eq_iff (by omega)).mp matching
    have bodyLength : (response.take (response.length - 2)).length = 6 := by
      rw [List.length_take]
      omega
    generalize response.take (response.length - 2) = body
      at trailed bodyLength
    subst trailed
    rcases body with _ | ⟨id, _ | ⟨code, _ | ⟨addressHigh, _ | ⟨addressLow,
      _ | ⟨valueHigh, _ | ⟨valueLow, _ | ⟨extra, rest⟩⟩⟩⟩⟩⟩⟩
    case cons.cons.cons.cons.cons.cons.nil =>
      refine ⟨joinBytes addressHigh addressLow,
        joinBytes valueHigh valueLow, ?_⟩
      have sameId : id = slaveId := not_not.mp slave
      have sameCode : code = 0x06 := not_not.mp function
      simp only [modbusRtuBuildWriteFrame, highByte_joinBytes,
        lowByte_joinBytes, sameId, sameCode]
    all_goals
      simp only [List.length_cons, List.length_nil] at bodyLength
      omega
  · rintro ⟨address, value, rfl⟩
    exact echoAccepted_request slaveId address value

/-- The echo check passes exactly if the bytes begin with such a request. -/
theorem Listens.echo_iff
    (listens : Listens slaveId connected pending overreached client)
    (address value : Word) :
    (awaitEcho transport address value client).1 = true ↔
      ∃ other word,
        modbusRtuBuildWriteFrame slaveId other word <+:
          responses client.line.requests
            (modbusRtuBuildWriteFrame slaveId address value) := by
  have nonempty :
      modbusRtuBuildWriteFrame client.slaveId address value ≠ [] :=
    List.cons_ne_nil _ _
  rcases listens.send faithful nonempty with ⟨sent, sending, -, answered⟩
  rw [listens.slaveId] at answered
  generalize responses client.line.requests
    (modbusRtuBuildWriteFrame slaveId address value) = bytes at answered ⊢
  have size : ∀ other word,
      (modbusRtuBuildWriteFrame slaveId other word).length = 8 :=
    fun _ _ => rfl
  simp only [awaitEcho, sending]
  rcases Nat.lt_or_ge bytes.length 8 with short | enough
  · rcases answered.receive_short faithful short with ⟨after, failed, -⟩
    simp only [failed]
    refine iff_of_false Bool.false_ne_true ?_
    rintro ⟨other, word, begins⟩
    have longer := begins.length_le
    rw [size] at longer
    omega
  · rcases answered.receive faithful (by decide) enough with
      ⟨after, received, -, remaining⟩
    simp only [received, remaining.slaveId]
    rw [echoAccepted_iff_frame (List.length_take_of_le enough)]
    constructor
    · rintro ⟨other, word, echo⟩
      refine ⟨other, word, ?_⟩
      rw [← echo]
      exact List.take_prefix _ _
    · rintro ⟨other, word, rest, rfl⟩
      refine ⟨other, word, ?_⟩
      rw [← size other word, List.take_left]

end

/-! ## The grammar of the slave -/

/-- The reply which the protocol prescribes. -/
def ReadGrammar : Byte → Nat → List Byte → Prop :=
  BeginsWithReply fun function => function = 0x03

/-- No reply of the right form stands under a foreign function. -/
def OwnFunction (slaveId : Byte) (count : Nat) (bytes : List Byte) : Prop :=
  ∀ function payload, payload.length = 2 * count →
    readReplyFrame slaveId function payload <+: bytes →
      function &&& 0x80 = 0 → function = 0x03

/-- No write request but the own one comes back. -/
def OwnRequest (slaveId : Byte) (address value : Word)
    (bytes : List Byte) : Prop :=
  ∀ other word, modbusRtuBuildWriteFrame slaveId other word <+: bytes →
    other = address ∧ word = value

theorem readGrammar_exact_iff (slaveId : Byte) (count : Nat)
    (bytes : List Byte) :
    (BeginsWithReply (fun function => function &&& 0x80 = 0) slaveId count
          bytes ↔
        ReadGrammar slaveId count bytes) ↔
      OwnFunction slaveId count bytes := by
  have size : ∀ function (payload : List Byte), payload.length = 2 * count →
      (readReplyFrame slaveId function payload).length = 5 + 2 * count := by
    intro function payload length
    rw [readReplyFrame, length_appendCrc]
    simp only [List.length_append, List.length_cons, List.length_nil, length]
    omega
  constructor
  · intro same function payload length begins noException
    rcases same.mp ⟨function, payload, noException, length, begins⟩ with
      ⟨prescribed, other, rfl, otherLength, otherBegins⟩
    have equal := (List.prefix_of_prefix_length_le begins otherBegins
      (by rw [size _ _ length, size _ _ otherLength])).eq_of_length
        (by rw [size _ _ length, size _ _ otherLength])
    exact congrArg (byteAt · 1) equal
  · intro own
    constructor
    · rintro ⟨function, payload, noException, length, begins⟩
      exact ⟨function, payload,
        own function payload length begins noException, length, begins⟩
    · rintro ⟨function, payload, rfl, length, begins⟩
      exact ⟨0x03, payload, by decide, length, begins⟩

theorem length_modbusRtuBuildWriteFrame (slaveId : Byte)
    (address value : Word) :
    (modbusRtuBuildWriteFrame slaveId address value).length = 8 :=
  rfl

theorem modbusRtuBuildWriteFrame_injective {slaveId : Byte}
    {address value other word : Word}
    (equal : modbusRtuBuildWriteFrame slaveId other word =
      modbusRtuBuildWriteFrame slaveId address value) :
    other = address ∧ word = value := by
  have at_ : ∀ index, byteAt (modbusRtuBuildWriteFrame slaveId other word)
      index = byteAt (modbusRtuBuildWriteFrame slaveId address value) index :=
    fun index => congrArg (byteAt · index) equal
  constructor
  · rw [← joinBytes_highByte_lowByte other,
      ← joinBytes_highByte_lowByte address]
    exact congrArg₂ joinBytes (at_ 2) (at_ 3)
  · rw [← joinBytes_highByte_lowByte word, ← joinBytes_highByte_lowByte value]
    exact congrArg₂ joinBytes (at_ 4) (at_ 5)

theorem echo_exact_iff (slaveId : Byte) (address value : Word)
    (bytes : List Byte) :
    ((∃ other word,
          modbusRtuBuildWriteFrame slaveId other word <+: bytes) ↔
        modbusRtuBuildWriteFrame slaveId address value <+: bytes) ↔
      OwnRequest slaveId address value bytes := by
  constructor
  · intro same other word begins
    have sizes : (modbusRtuBuildWriteFrame slaveId other word).length =
        (modbusRtuBuildWriteFrame slaveId address value).length :=
      (length_modbusRtuBuildWriteFrame ..).trans
        (length_modbusRtuBuildWriteFrame ..).symm
    apply modbusRtuBuildWriteFrame_injective
    exact (List.prefix_of_prefix_length_le begins
      (same.mp ⟨other, word, begins⟩) sizes.le).eq_of_length sizes
  · intro own
    constructor
    · rintro ⟨other, word, begins⟩
      rcases own other word begins with ⟨rfl, rfl⟩
      exact begins
    · exact fun begins => ⟨address, value, begins⟩

/-! ## When the checks are exact -/

/-- For which answers the reads and echo checks of a client are exact. -/
structure ExactWhen (responses : Responses)
    (readRegister : Word → (Nat → Int) → Client ReplyLink →
      ReadResult ReplyLink)
    (readRegisters : Word → (Nat → Int) → Word → Client ReplyLink →
      ReadResult ReplyLink)
    (awaitEcho : Word → Word → Client ReplyLink → Bool × Client ReplyLink)
    (client : Client ReplyLink) : Prop where
  readRegister : client.connected = true → ∀ address values,
    let reply := responses client.line.requests
      (modbusRtuBuildReadFrame client.slaveId address 1)
    ((readRegister address values client).code = 0 ↔
        ReadGrammar client.slaveId 1 reply) ↔
      OwnFunction client.slaveId 1 reply
  readRegisters : client.connected = true →
    ∀ address values (count : Word), 1 ≤ count.toNat → count.toNat ≤ 125 →
      let reply := responses client.line.requests
        (modbusRtuBuildReadFrame client.slaveId address count)
      ((readRegisters address values count client).code = 0 ↔
          ReadGrammar client.slaveId count.toNat reply) ↔
        OwnFunction client.slaveId count.toNat reply
  awaitEcho : ∀ address value,
    let request := modbusRtuBuildWriteFrame client.slaveId address value
    let echo := responses client.line.requests request
    ((awaitEcho address value client).1 = true ↔ request <+: echo) ↔
      OwnRequest client.slaveId address value echo

theorem exactWhen_of_faithful {responses : Responses} {portion : Nat → Nat}
    {transport : Transport ReplyLink}
    (faithful : transport.Faithful (replyLine responses portion))
    {client : Client ReplyLink} (opened : client.handle.isSome) :
    ExactWhen responses (readRegister transport) (readRegisters transport)
      (awaitEcho transport) client where
  readRegister := by
    intro connected address values reply
    have listens : Listens client.slaveId true client.line.arrived
        client.line.overreached client := ⟨rfl, opened, connected, rfl, rfl⟩
    have single : (if true then 1 else (1 : Word)) = 1 := rfl
    rw [readRegister, listens.read_iff faithful address values (by decide)
      single (by decide)]
    exact readGrammar_exact_iff client.slaveId 1 reply
  readRegisters := by
    intro connected address values count positive few reply
    have listens : Listens client.slaveId true client.line.arrived
        client.line.overreached client := ⟨rfl, opened, connected, rfl, rfl⟩
    have nonzero : count ≠ 0 := by
      rintro rfl
      exact absurd positive (by decide)
    have counted : (if false then 1 else count) = count := rfl
    rw [readRegisters, if_neg nonzero, listens.read_iff faithful address
      values nonzero counted few]
    exact readGrammar_exact_iff client.slaveId count.toNat reply
  awaitEcho := by
    intro address value request echo
    have listens : Listens client.slaveId client.connected
        client.line.arrived client.line.overreached client :=
      ⟨rfl, opened, rfl, rfl, rfl⟩
    rw [listens.echo_iff faithful address value]
    exact echo_exact_iff client.slaveId address value echo

/--
Whatever bytes come in whatever portions, the reads of both clients accept the
grammar and nothing else exactly if no reply has a foreign function, and the
echo check of a write attempt exactly if no echo of another write comes.
-/
theorem parsers_exact_iff (responses : Responses) (portion : Nat → Nat)
    {client : Client ReplyLink} (opened : client.handle.isSome) :
    let line := replyLine responses portion
    ExactWhen responses (modbusReadRegister line) (modbusReadRegisters line)
        (awaitEcho (tcpTransport line)) client ∧
      ExactWhen responses (modbusSerialReadRegister line)
        (modbusSerialReadRegisters line)
        (awaitEcho (serialTransport line)) client :=
  ⟨exactWhen_of_faithful (tcpTransport_faithful _) opened,
    exactWhen_of_faithful (serialTransport_faithful _) opened⟩

/-- An outdoor temperature of 21.5 °C, byte by byte. -/
theorem parsers_exact_iff_outdoor :
    OwnFunction 11 1 (readReplyFrame 11 0x03 [0x00, 0xD7]) := by
  refine ((@parsers_exact_iff
    (fun _ _ => readReplyFrame 11 0x03 [0x00, 0xD7]) (fun _ => 1)
    (listeningClient 11 3 []) rfl).1.readRegister rfl
      regOutdoorTemp fun _ => 0).mp (iff_of_true ?_ ?_)
  · decide +kernel
  · exact ⟨0x03, [0x00, 0xD7], rfl, rfl, List.prefix_rfl⟩

/-! ## A foreign function and a foreign echo -/

/-- The reply to a read of input registers, and the echo of another write. -/
def foreignResponses : Responses := fun _ frame =>
  if byteAt frame 1 = 0x06 then
    modbusRtuBuildWriteFrame 11 regHeatingTarget 250
  else
    readReplyFrame 11 0x04 [0x00, 0xD7]

/-- Both clients take them for answers to their own requests. -/
theorem foreign_answers_accepted :
    let line := replyLine foreignResponses fun _ => 8
    let client := listeningClient 11 3 []
    let reply := foreignResponses 0
      (modbusRtuBuildReadFrame 11 regOutdoorTemp 1)
    let request := modbusRtuBuildWriteFrame 11 regDhwTarget 450
    (¬ ((modbusReadRegister line regOutdoorTemp (fun _ => 0) client).code =
            0 ↔
          ReadGrammar 11 1 reply) ∧
        ¬ ((modbusSerialReadRegister line regOutdoorTemp (fun _ => 0)
              client).code = 0 ↔
            ReadGrammar 11 1 reply)) ∧
      ¬ ((awaitEcho (tcpTransport line) regDhwTarget 450 client).1 = true ↔
          request <+: foreignResponses 0 request) ∧
        ¬ ((awaitEcho (serialTransport line) regDhwTarget 450 client).1 =
              true ↔
            request <+: foreignResponses 0 request) := by
  intro line client reply request
  have foreign : ¬ ReadGrammar 11 1 reply := by
    rintro ⟨function, payload, rfl, -, rest, equal⟩
    have codes : (0x03 : Byte) = 0x04 := congrArg (byteAt · 1) equal
    exact absurd codes (by decide)
  have other : ¬ request <+: foreignResponses 0 request := by
    decide +kernel
  refine ⟨⟨fun same => foreign (same.mp ?_), fun same =>
    foreign (same.mp ?_)⟩, fun same => other (same.mp ?_), fun same =>
      other (same.mp ?_)⟩ <;> decide +kernel

end Windmi.Modbus
