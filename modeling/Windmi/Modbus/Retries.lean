import Windmi.Library.Trials
import Windmi.Modbus.SlaveLink

/-!
# Retries of a write

The line follows a script which fixes, for each attempt of a write, what
becomes of its sends and receives.  An attempt that loses the answer to its
read-back drops the connection, and with it every later attempt; so does a
serial attempt that fails to send or to receive.  The function code of the
read-back is not compared.
-/

namespace Windmi.Modbus

open Windmi.Core
open Windmi.Library

/-! ## Scripts -/

/-- What the line offers to an attempt: its two sends and what they bring. -/
structure Offer where
  writeTaken : Bool
  echo : List Byte
  readTaken : Bool
  reply : List Byte
  deriving DecidableEq, Repr

structure ScriptedLink where
  /-- The attempts begun so far. -/
  round : Nat
  arrived : List Byte

/-- A send that is taken brings an answer, whether enough of it or not. -/
def ScriptedLink.offered (taken : Bool) (answer frame : List Byte)
    (link : ScriptedLink) : Nat × ScriptedLink :=
  (if taken then frame.length else 0,
    { link with arrived := if taken then answer else [] })

/-- A write request begins the next attempt, a read request belongs to it. -/
def ScriptedLink.send (script : Nat → Offer) (frame : List Byte)
    (link : ScriptedLink) : Nat × ScriptedLink :=
  if byteAt frame 1 = 0x06 then
    ({ link with round := link.round + 1 }).offered
      (script link.round).writeTaken (script link.round).echo frame
  else
    link.offered (script (link.round - 1)).readTaken
      (script (link.round - 1)).reply frame

def ScriptedLink.recv (limit : Nat) (link : ScriptedLink) :
    List Byte × ScriptedLink :=
  (link.arrived.take limit,
    { link with arrived := link.arrived.drop limit })

def scriptedLine (script : Nat → Offer) : Line ScriptedLink where
  flush link := { link with arrived := [] }
  send := ScriptedLink.send script
  recv := ScriptedLink.recv
  send_le frame link := by
    unfold ScriptedLink.send ScriptedLink.offered
    split_ifs <;> simp
  recv_le limit link := List.length_take_le limit link.arrived

/-! ## Complete exchanges -/

/-- An echo with the right slave id, function and CRC. -/
structure ValidEcho (slaveId : Byte) (echo : List Byte) : Prop where
  enough : 8 ≤ echo.length
  slave : byteAt echo 0 = slaveId
  function : byteAt echo 1 = 0x06
  check : crcReceived (echo.take 8) 8 = crcCalculated (echo.take 8) 8

/-- A reply that carries one word, with a function out of some. -/
structure ValidReply (functions : Byte → Prop) (slaveId : Byte)
    (value : Word) (reply : List Byte) : Prop where
  enough : 7 ≤ reply.length
  slave : byteAt reply 0 = slaveId
  function : functions (byteAt reply 1)
  count : byteAt reply 2 = 2
  check : crcReceived (reply.take 7) 7 = crcCalculated (reply.take 7) 7
  carries : bytesToUint16 reply 3 = value

structure Offer.Exchanged (functions : Byte → Prop) (slaveId : Byte)
    (value : Word) (offer : Offer) : Prop where
  writeTaken : offer.writeTaken = true
  echo : ValidEcho slaveId offer.echo
  readTaken : offer.readTaken = true
  reply : ValidReply functions slaveId value offer.reply

/-- A complete valid exchange, whose reply has function 0x03. -/
def Offer.Complete : Byte → Word → Offer → Prop :=
  Offer.Exchanged fun function => function = 0x03

/-- What the clients accept: any function that is no exception. -/
def Offer.Acceptable : Byte → Word → Offer → Prop :=
  Offer.Exchanged fun function => function &&& 0x80 = 0

/-- The header of a reply, or what should follow it, does not arrive. -/
def ReplyLost (slaveId : Byte) (reply : List Byte) : Prop :=
  reply.length < 3 ∨
    reply.length < 7 ∧ byteAt reply 0 = slaveId ∧
      byteAt reply 1 &&& 0x80 = 0 ∧ byteAt reply 2 = 2

/-- The write request is not taken, or its echo does not arrive. -/
def Offer.EchoLost (offer : Offer) : Prop :=
  offer.writeTaken = false ∨ offer.echo.length < 8

/-- The attempt drops the connection. -/
def Offer.Drops (transport : Transport ScriptedLink) (slaveId : Byte)
    (offer : Offer) : Prop :=
  offer.EchoLost ∧ transport.dropsOnWriteFailure = true ∨
    ¬ offer.EchoLost ∧ ValidEcho slaveId offer.echo ∧
      (offer.readTaken = false ∨ ReplyLost slaveId offer.reply)

theorem Offer.Complete.acceptable {slaveId : Byte} {value : Word}
    {offer : Offer} (complete : offer.Complete slaveId value) :
    offer.Acceptable slaveId value where
  writeTaken := complete.writeTaken
  echo := complete.echo
  readTaken := complete.readTaken
  reply :=
    { enough := complete.reply.enough
      slave := complete.reply.slave
      function := by
        rw [complete.reply.function]
        decide
      count := complete.reply.count
      check := complete.reply.check
      carries := complete.reply.carries }

/-! ## Receiving from a script -/

theorem readExactly_nothing {link : ScriptedLink} (empty : link.arrived = [])
    (fuel missing : Nat) :
    readExactly ScriptedLink.recv fuel (missing + 1) link = (none, link) := by
  rcases link with ⟨round, arrived⟩
  cases empty
  cases fuel <;> rfl

/-- What arrives is received if it is enough. -/
theorem readExactly_scripted (expected : Nat) (link : ScriptedLink) :
    readExactly ScriptedLink.recv expected expected link =
      (if expected ≤ link.arrived.length then
        some (link.arrived.take expected)
      else none,
        { link with arrived := link.arrived.drop expected }) := by
  cases expected with
  | zero => simp [readExactly]
  | succ missing =>
      have step : readExactly ScriptedLink.recv (missing + 1) (missing + 1)
          link =
        if link.arrived.take (missing + 1) = [] then
          (none, { link with arrived := link.arrived.drop (missing + 1) })
        else
          let rest := readExactly ScriptedLink.recv missing
            (missing + 1 - (link.arrived.take (missing + 1)).length)
            { link with arrived := link.arrived.drop (missing + 1) }
          (rest.1.map fun items => link.arrived.take (missing + 1) ++ items,
            rest.2) :=
        rfl
      rw [step]
      by_cases enough : missing + 1 ≤ link.arrived.length
      · have length : (link.arrived.take (missing + 1)).length =
            missing + 1 :=
          List.length_take_of_le enough
        have taken : link.arrived.take (missing + 1) ≠ [] :=
          List.ne_nil_of_length_eq_add_one length
        rw [if_neg taken, if_pos enough, length, Nat.sub_self]
        simp [readExactly]
      · have all : link.arrived.take (missing + 1) = link.arrived :=
          List.take_of_length_le (by omega)
        have drained : link.arrived.drop (missing + 1) = [] :=
          List.drop_of_length_le (by omega)
        rw [if_neg enough, all, drained]
        split
        · rfl
        · obtain ⟨left, positive⟩ :
              ∃ left, missing + 1 - link.arrived.length = left + 1 :=
            ⟨missing - link.arrived.length, by omega⟩
          rw [positive, readExactly_nothing rfl]
          rfl

/-! ## Transports over a script -/

/-- The transport sends whole frames as the script says. -/
structure Transport.Plays (transport : Transport ScriptedLink)
    (script : Nat → Offer) : Prop where
  faithful : transport.Faithful (scriptedLine script)
  sendFrame : ∀ frame (client : Client ScriptedLink),
    client.handle.isSome → frame ≠ [] →
      let sent := ScriptedLink.send script frame
        { client.line with arrived := [] }
      transport.sendFrame frame client =
        (decide (sent.1 = frame.length), { client with line := sent.2 })

theorem tcpTransport_plays (script : Nat → Offer) :
    (tcpTransport (scriptedLine script)).Plays script where
  faithful := tcpTransport_faithful _
  sendFrame := by
    intro frame client opened nonempty sent
    have handle := Option.isSome_iff_ne_none.mp opened
    simp only [tcpTransport, Modbus.sendFrame, flushReadBuffer,
      if_neg handle]
    rfl

/-- A frame is taken as a whole or not at all. -/
theorem ScriptedLink.send_cases (script : Nat → Offer) (frame : List Byte)
    (link : ScriptedLink) :
    (ScriptedLink.send script frame link).1 = frame.length ∨
      (ScriptedLink.send script frame link).1 = 0 := by
  unfold ScriptedLink.send ScriptedLink.offered
  split_ifs
  · exact Or.inl rfl
  · exact Or.inr rfl
  · exact Or.inl rfl
  · exact Or.inr rfl

/-- The loop over partial sends needs one round at most. -/
theorem serialSendLoop_scripted (script : Nat → Offer) (first : Byte)
    (rest : List Byte) (link : ScriptedLink) :
    let sent := ScriptedLink.send script (first :: rest) link
    serialSendLoop (scriptedLine script) (first :: rest).length
        (first :: rest) link =
      (decide (sent.1 = (first :: rest).length), sent.2) := by
  intro sent
  have step : serialSendLoop (scriptedLine script) (first :: rest).length
      (first :: rest) link =
    if sent.1 = 0 then (false, sent.2)
    else
      serialSendLoop (scriptedLine script) rest.length
        ((first :: rest).drop sent.1) sent.2 :=
    rfl
  have positive : (first :: rest).length ≠ 0 := Nat.succ_ne_zero _
  rw [step]
  rcases ScriptedLink.send_cases script (first :: rest) link with
    whole | nothing
  · have sentAll : sent.1 = (first :: rest).length := whole
    rw [if_neg (by rw [sentAll]; exact positive), sentAll, List.drop_length]
    cases rest <;> simp [serialSendLoop]
  · have sentNone : sent.1 = 0 := nothing
    rw [if_pos sentNone, sentNone, decide_eq_false positive.symm]

theorem serialTransport_plays (script : Nat → Offer) :
    (serialTransport (scriptedLine script)).Plays script where
  faithful := serialTransport_faithful _
  sendFrame := by
    intro frame client opened nonempty sent
    have handle := Option.isSome_iff_ne_none.mp opened
    rcases List.exists_cons_of_ne_nil nonempty with ⟨first, rest, rfl⟩
    have something :
        ¬ (client.handle = none ∨ (first :: rest).length = 0) := by
      simp [handle]
    have looped := serialSendLoop_scripted script first rest
      { client.line with arrived := [] }
    simp only [serialTransport, serialSendFrame, if_neg something]
    exact congrArg (fun sent => (sent.1, { client with line := sent.2 }))
      looped

/-! ## Attempts -/

/-- The client has begun a number of attempts. -/
structure Begun (slaveId : Byte) (round : Nat)
    (client : Client ScriptedLink) : Prop where
  slaveId : client.slaveId = slaveId
  handle : client.handle.isSome
  round : client.line.round = round

section

variable {script : Nat → Offer} {transport : Transport ScriptedLink}
  (plays : transport.Plays script) {slaveId : Byte} {round : Nat}
  {client : Client ScriptedLink}

include plays

theorem Begun.receive (begun : Begun slaveId round client) {expected : Nat}
    (positive : 0 < expected) :
    transport.receiveExact expected client =
      (if expected ≤ client.line.arrived.length then
        some (client.line.arrived.take expected)
      else none,
        { client with
          line :=
            { client.line with
              arrived := client.line.arrived.drop expected } }) := by
  have received := plays.faithful.receiveExact expected client begun.handle
    positive
  have scripted := readExactly_scripted expected client.line
  refine received.trans ?_
  exact congrArg
    (fun received => (received.1, { client with line := received.2 }))
    scripted

/-- A write request begins the next attempt. -/
theorem Begun.sendWrite (begun : Begun slaveId round client)
    (address value : Word) :
    transport.sendFrame
        (modbusRtuBuildWriteFrame client.slaveId address value) client =
      ((script round).writeTaken,
        { client with
          line :=
            { round := round + 1
              arrived :=
                if (script round).writeTaken then (script round).echo
                else [] } }) := by
  have sent := plays.sendFrame
    (modbusRtuBuildWriteFrame client.slaveId address value) client
    begun.handle (List.cons_ne_nil _ _)
  rw [sent]
  have function : byteAt
      (modbusRtuBuildWriteFrame client.slaveId address value) 1 = 0x06 :=
    rfl
  simp only [ScriptedLink.send, if_pos function, begun.round,
    ScriptedLink.offered]
  cases (script round).writeTaken <;> rfl

/-- A read request belongs to the attempt that has begun. -/
theorem Begun.sendRead (begun : Begun slaveId (round + 1) client)
    (address count : Word) :
    transport.sendFrame
        (modbusRtuBuildReadFrame client.slaveId address count) client =
      ((script round).readTaken,
        { client with
          line :=
            { round := round + 1
              arrived :=
                if (script round).readTaken then (script round).reply
                else [] } }) := by
  have sent := plays.sendFrame
    (modbusRtuBuildReadFrame client.slaveId address count) client
    begun.handle (List.cons_ne_nil _ _)
  rw [sent]
  have function : byteAt
      (modbusRtuBuildReadFrame client.slaveId address count) 1 ≠ 0x06 := by
    have equal : byteAt
        (modbusRtuBuildReadFrame client.slaveId address count) 1 = 0x03 :=
      rfl
    rw [equal]
    decide
  simp only [ScriptedLink.send, if_neg function, begun.round,
    ScriptedLink.offered, Nat.add_sub_cancel]
  cases (script round).readTaken <;> rfl

/-! ### The read-back -/

/-- The reply which a client accepts. -/
def AcceptableReply : Byte → Word → List Byte → Prop :=
  ValidReply fun function => function &&& 0x80 = 0

/-- The result of a read-back, by the reply that the script offers. -/
structure Answered (slaveId : Byte) (round : Nat) (value : Word)
    (accepted lost : Prop) (read : ReadResult ScriptedLink) : Prop where
  begun : Begun slaveId round read.client
  confirms : read.code = 0 ∧ BitVec.ofInt 16 (read.values 0) = value ↔
    accepted
  connected : read.client.connected = true ↔ ¬ lost

omit plays in
theorem Answered.rejected {value : Word} {accepted lost : Prop}
    {values : Nat → Int} (begun : Begun slaveId round client)
    (connected : client.connected = true) (unaccepted : ¬ accepted)
    (kept : ¬ lost) :
    Answered slaveId round value accepted lost
      { code := -1, values := values, client := client } where
  begun := begun
  confirms := iff_of_false (fun both => code_failed both.1) unaccepted
  connected := iff_of_true connected kept

omit plays in
theorem Answered.dropped {value : Word} {accepted lost : Prop}
    {values : Nat → Int} (begun : Begun slaveId round client)
    (unaccepted : ¬ accepted) (dropped : lost) :
    Answered slaveId round value accepted lost
      { code := -1, values := values, client := client.drop } where
  begun := ⟨begun.slaveId, begun.handle, begun.round⟩
  confirms := iff_of_false (fun both => code_failed both.1) unaccepted
  connected := iff_of_false Bool.false_ne_true fun kept => kept dropped

omit plays in
/-- A complete reply is compared with the value that was written. -/
theorem decodeReply_readBack {value : Word} {reply : List Byte}
    (begun : Begun slaveId round client)
    (connected : client.connected = true) (enough : 7 ≤ reply.length)
    (slave : byteAt reply 0 = slaveId)
    (function : byteAt reply 1 &&& 0x80 = 0) (count : byteAt reply 2 = 2) :
    Answered slaveId round value (AcceptableReply slaveId value reply)
      (ReplyLost slaveId reply)
      (decodeReply 1 (fun _ => 0) (reply.take 3) ((reply.drop 3).take 4)
        client) := by
  have whole : reply.take 3 ++ (reply.drop 3).take 4 = reply.take 7 :=
    List.take_add.symm
  have length : ((reply.drop 3).take 4).length = 4 := by
    rw [List.length_take_of_le]
    rw [List.length_drop]
    omega
  have kept : ¬ ReplyLost slaveId reply := by
    rintro (short | ⟨short, -⟩) <;> omega
  have word : bytesToUint16 ((reply.drop 3).take 4) 0 =
      bytesToUint16 reply 3 := by
    simp only [bytesToUint16, byteAt_take (by decide : 0 < 4),
      byteAt_take (by decide : 0 + 1 < 4), byteAt_drop]
  simp only [decodeReply, whole, length, modbusReadHeaderLen]
  split
  case isTrue mismatch =>
    refine Answered.rejected begun connected ?_ kept
    exact fun accepted => mismatch accepted.check
  case isFalse matching =>
    refine ⟨begun, ?_, iff_of_true connected kept⟩
    have stored : BitVec.ofInt 16
        (if 0 < (1 : Word).toNat then
          (bytesToUint16 ((reply.drop 3).take 4) (0 * 2)).toInt
        else 0) = bytesToUint16 reply 3 := by
      rw [if_pos (by decide), BitVec.ofInt_toInt]
      exact word
    constructor
    · rintro ⟨-, equal⟩
      exact ⟨enough, slave, function, count, not_not.mp matching,
        stored.symm.trans equal⟩
    · exact fun accepted => ⟨rfl, stored.trans accepted.carries⟩

/-- The rest of a read-back whose header has arrived. -/
theorem Begun.receiveReply {value : Word} {reply : List Byte}
    (begun : Begun slaveId round client)
    (connected : client.connected = true) (header : 3 ≤ reply.length)
    (arrived : client.line.arrived = reply.drop 3) :
    Answered slaveId round value (AcceptableReply slaveId value reply)
      (ReplyLost slaveId reply)
      (Modbus.receiveReply transport 1 (fun _ => 0) (reply.take 3)
        client) := by
  rcases header_bytes reply with ⟨first, second, third⟩
  have twice : (byteAt reply 2).toNat ≠ (1 : Word).toNat * 2 ↔
      byteAt reply 2 ≠ 2 := by
    rw [not_iff_not]
    exact ⟨fun equal => BitVec.eq_of_toNat_eq equal,
      fun equal => congrArg BitVec.toNat equal⟩
  simp only [Modbus.receiveReply, first, second, third, begun.slaveId, twice]
  split
  case isTrue foreign =>
    refine Answered.rejected begun connected ?_ ?_
    · exact fun accepted => foreign accepted.slave
    · rintro (short | ⟨-, slave, -⟩)
      · omega
      · exact foreign slave
  case isFalse slave =>
    split
    case isTrue exception =>
      rw [begun.receive plays (by decide)]
      refine Answered.rejected ⟨begun.slaveId, begun.handle, begun.round⟩
        connected ?_ ?_
      · exact fun accepted => exception accepted.function
      · rintro (short | ⟨-, -, regular, -⟩)
        · omega
        · exact exception regular
    case isFalse regular =>
      split
      case isTrue miscounted =>
        refine Answered.rejected begun connected ?_ ?_
        · exact fun accepted => miscounted accepted.count
        · rintro (short | ⟨-, -, -, counted⟩)
          · omega
          · exact miscounted counted
      case isFalse counted =>
        have two : byteAt reply 2 = 2 := not_not.mp counted
        have remaining : (byteAt reply 2).toNat + 2 = 4 := by
          rw [two]
          rfl
        rw [remaining, receiveOrDrop, begun.receive plays (by decide),
          arrived]
        by_cases enough : 4 ≤ (reply.drop 3).length
        · have length : 7 ≤ reply.length := by
            rw [List.length_drop] at enough
            omega
          rw [if_pos enough]
          exact decodeReply_readBack
            ⟨begun.slaveId, begun.handle, begun.round⟩ connected length
            (not_not.mp slave) (not_not.mp regular) two
        · have short : reply.length < 7 := by
            rw [List.length_drop] at enough
            omega
          rw [if_neg enough]
          refine Answered.dropped
            ⟨begun.slaveId, begun.handle, begun.round⟩ ?_ ?_
          · exact fun accepted => absurd accepted.enough (by omega)
          · exact Or.inr ⟨short, not_not.mp slave, not_not.mp regular, two⟩

omit plays in
theorem Answered.congr {value : Word}
    {accepted accepted' lost lost' : Prop} {read : ReadResult ScriptedLink}
    (back : Answered slaveId round value accepted lost read)
    (sameAccepted : accepted ↔ accepted') (sameLost : lost ↔ lost') :
    Answered slaveId round value accepted' lost' read where
  begun := back.begun
  confirms := back.confirms.trans sameAccepted
  connected := back.connected.trans (not_congr sameLost)

theorem Begun.readBack (begun : Begun slaveId (round + 1) client)
    (connected : client.connected = true) (address value : Word) :
    Answered slaveId (round + 1) value
      ((script round).readTaken = true ∧
        AcceptableReply slaveId value (script round).reply)
      ((script round).readTaken = false ∨
        ReplyLost slaveId (script round).reply)
      (readRegister transport address (fun _ => 0) client) := by
  have asks : ¬ (¬ client.connected = true ∨ (1 : Word) = 0) := by
    simp [connected]
  have asked : Begun slaveId (round + 1)
      { client with
        line :=
          { round := round + 1
            arrived :=
              if (script round).readTaken then (script round).reply
              else [] } } :=
    ⟨begun.slaveId, begun.handle, rfl⟩
  have sent := begun.sendRead plays address 1
  rw [readRegister, readWriteRegistersInternal, if_neg asks]
  simp only [if_true]
  rw [sent]
  cases taken : (script round).readTaken with
  | false =>
      refine Answered.dropped ⟨begun.slaveId, begun.handle, rfl⟩ ?_
        (Or.inl rfl)
      exact fun both => Bool.false_ne_true both.1
  | true =>
      rw [taken] at asked
      simp only [if_true, modbusReadHeaderLen, receiveOrDrop] at asked ⊢
      rw [asked.receive plays (by decide)]
      by_cases header : 3 ≤ (script round).reply.length
      · simp only [if_pos header]
        refine Answered.congr (Begun.receiveReply plays ?_ connected header
          rfl) (by simp) (by simp)
        exact ⟨begun.slaveId, begun.handle, rfl⟩
      · simp only [if_neg header]
        refine Answered.dropped ⟨begun.slaveId, begun.handle, rfl⟩ ?_ ?_
        · rintro ⟨-, accepted⟩
          exact absurd accepted.enough (by omega)
        · exact Or.inr (Or.inl (by omega))

/-! ### The echo and the whole attempt -/

omit plays in
theorem echoAccepted_iff {echo : List Byte} (enough : 8 ≤ echo.length) :
    echoAccepted slaveId (echo.take 8) = true ↔ ValidEcho slaveId echo := by
  have first : byteAt (echo.take 8) 0 = byteAt echo 0 :=
    byteAt_take (by decide)
  have second : byteAt (echo.take 8) 1 = byteAt echo 1 :=
    byteAt_take (by decide)
  simp only [echoAccepted, first, second]
  constructor
  · intro accepted
    split_ifs at accepted with exception mismatch
    rcases not_or.mp mismatch with ⟨slave, function⟩
    exact ⟨enough, not_not.mp slave, not_not.mp function,
      of_decide_eq_true accepted⟩
  · intro valid
    rw [valid.function, if_neg (by decide), if_neg (by simp [valid.slave])]
    exact decide_eq_true valid.check

/-- The result of an attempt, by what the script offers. -/
structure Attempted (slaveId : Byte) (round : Nat) (accepted dropped : Prop)
    (attempt : Bool × Client ScriptedLink) : Prop where
  begun : Begun slaveId round attempt.2
  succeeds : attempt.1 = true ↔ accepted
  connected : attempt.2.connected = true ↔ ¬ dropped

omit plays in
/-- An attempt that does not get its echo. -/
theorem Attempted.echoLost {offer : Offer} {value : Word}
    (begun : Begun slaveId round client)
    (connected : client.connected = true) (lost : offer.EchoLost) :
    Attempted slaveId round (offer.Acceptable slaveId value)
      (offer.Drops transport slaveId)
      (false, transport.failWrite client) where
  begun := by
    unfold Transport.failWrite
    split
    · exact ⟨begun.slaveId, begun.handle, begun.round⟩
    · exact begun
  succeeds := by
    refine iff_of_false Bool.false_ne_true fun accepted => ?_
    rcases lost with untaken | short
    · rw [accepted.writeTaken] at untaken
      cases untaken
    · exact absurd accepted.echo.enough (by omega)
  connected := by
    unfold Transport.failWrite
    split
    case isTrue drops =>
      exact iff_of_false Bool.false_ne_true
        fun kept => kept (Or.inl ⟨lost, drops⟩)
    case isFalse keeps =>
      refine iff_of_true connected ?_
      rintro (⟨-, drops⟩ | ⟨arrived, -⟩)
      · exact keeps drops
      · exact arrived lost

theorem Begun.attempt (begun : Begun slaveId round client)
    (connected : client.connected = true) (address value : Word) :
    Attempted slaveId (round + 1) ((script round).Acceptable slaveId value)
      ((script round).Drops transport slaveId)
      (writeAttempt transport address value client) := by
  have same := begun.slaveId
  subst same
  have sent := begun.sendWrite plays address value
  have started : ∀ arrived, Begun client.slaveId (round + 1)
      { client with line := { round := round + 1, arrived := arrived } } :=
    fun _ => ⟨rfl, begun.handle, rfl⟩
  rw [writeAttempt, sent]
  cases taken : (script round).writeTaken with
  | false => exact Attempted.echoLost (started _) connected (Or.inl taken)
  | true =>
      simp only [if_true]
      rw [(started _).receive plays (by decide)]
      by_cases arrived : 8 ≤ (script round).echo.length
      · have notLost : ¬ (script round).EchoLost := by
          rintro (untaken | short)
          · rw [taken] at untaken
            cases untaken
          · omega
        simp only [if_pos arrived]
        split
        case isTrue echoed =>
          have valid := (echoAccepted_iff arrived).mp echoed
          have back := (started ((script round).echo.drop 8)).readBack plays
            connected address value
          refine ⟨back.begun, ?_, ?_⟩
          · refine decide_eq_true_iff.trans (back.confirms.trans ?_)
            constructor
            · exact fun both => ⟨taken, valid, both.1, both.2⟩
            · exact fun accepted => ⟨accepted.readTaken, accepted.reply⟩
          · refine back.connected.trans (not_congr ?_)
            constructor
            · exact fun lost => Or.inr ⟨notLost, valid, lost⟩
            · rintro (⟨lost, -⟩ | ⟨-, -, lost⟩)
              · exact absurd lost notLost
              · exact lost
        case isFalse refused =>
          have invalid : ¬ ValidEcho client.slaveId (script round).echo :=
            fun valid => refused ((echoAccepted_iff arrived).mpr valid)
          refine ⟨started _, ?_, ?_⟩
          · exact iff_of_false Bool.false_ne_true
              fun accepted => invalid accepted.echo
          · refine iff_of_true connected ?_
            rintro (⟨lost, -⟩ | ⟨-, valid, -⟩)
            · exact notLost lost
            · exact invalid valid
      · simp only [if_neg arrived]
        exact Attempted.echoLost (started _) connected (Or.inr (by omega))

/-! ## The retry loop -/

/-- The loop succeeds if it reaches an attempt that is acceptable. -/
theorem Begun.attempts (address value : Word) (retries : Nat)
    {client : Client ScriptedLink} {round : Nat}
    (begun : Begun slaveId round client)
    (connected : client.connected = true) :
    (writeAttempts transport address value retries client).1 = 0 ↔
      Reached
        (fun trial => (script (round + trial)).Acceptable slaveId value)
        (fun trial => (script (round + trial)).Drops transport slaveId)
        retries := by
  induction retries generalizing client round with
  | zero => exact iff_of_false code_failed not_reached_zero
  | succ retries ih =>
      have attempt := begun.attempt plays connected address value
      have shift : ∀ trial,
          script (round + (trial + 1)) = script (round + 1 + trial) :=
        fun trial => congrArg script (Nat.add_right_comm round trial 1)
      rw [writeAttempts, reached_succ]
      simp only [shift, Nat.add_zero]
      split
      case h_1 after succeeded =>
        rw [succeeded] at attempt
        exact iff_of_true rfl (Or.inl (attempt.succeeds.mp rfl))
      case h_2 after failed =>
        rw [failed] at attempt
        have refused : ¬ (script round).Acceptable slaveId value :=
          fun accepted =>
            Bool.false_ne_true (attempt.succeeds.mpr accepted)
        rw [or_iff_right refused]
        by_cases still : after.connected = true
        · rw [ih attempt.begun still]
          exact (and_iff_right (attempt.connected.mp still)).symm
        · rcases writeAttempts_disconnected plays.faithful
              (by simpa using still) address value retries with
            ⟨final, failure, -⟩
          rw [failure]
          exact iff_of_false code_failed fun rest =>
            still (attempt.connected.mpr rest.1)

end

/-! ## Three attempts -/

/--
The attempts before the first acceptable one keep the connection exactly if
one of the three is a complete exchange.
-/
def Retriable (transport : Transport ScriptedLink) (slaveId : Byte)
    (value : Word) (script : Nat → Offer) : Prop :=
  ∀ trial < 3, (script trial).Acceptable slaveId value →
    (∀ earlier < trial, ¬ (script earlier).Acceptable slaveId value) →
      ((∀ earlier < trial, ¬ (script earlier).Drops transport slaveId) ↔
        ∃ trial < 3, (script trial).Complete slaveId value)

theorem writeRegister_iff {script : Nat → Offer}
    {transport : Transport ScriptedLink} (plays : transport.Plays script)
    {client : Client ScriptedLink} (connected : client.connected = true)
    (opened : client.handle.isSome) (fresh : client.line.round = 0)
    (address value : Word) :
    ((writeRegister transport address value client).1 = 0 ↔
        ∃ trial < 3, (script trial).Complete client.slaveId value) ↔
      Retriable transport client.slaveId value script := by
  have begun : Begun client.slaveId 0 client := ⟨rfl, opened, fresh⟩
  have attempts := begun.attempts plays address value 3 connected
  simp only [Nat.zero_add] at attempts
  rw [writeRegister, if_neg (by simp [connected]),
    show modbusWriteMaxRetries = 3 from rfl, attempts]
  exact reached_iff_exists_iff fun trial complete => complete.acceptable

/--
Each client reports success exactly for a script with a complete exchange, if
and only if the attempts before the first acceptable one keep the connection
exactly for such a script.
-/
theorem write_retries_iff (script : Nat → Offer)
    {client : Client ScriptedLink} (connected : client.connected = true)
    (opened : client.handle.isSome) (fresh : client.line.round = 0)
    (address value : Word) :
    let line := scriptedLine script
    (((modbusWriteRegister line address value client).1 = 0 ↔
          ∃ trial < 3, (script trial).Complete client.slaveId value) ↔
        Retriable (tcpTransport line) client.slaveId value script) ∧
      (((modbusSerialWriteRegister line address value client).1 = 0 ↔
          ∃ trial < 3, (script trial).Complete client.slaveId value) ↔
        Retriable (serialTransport line) client.slaveId value script) :=
  ⟨writeRegister_iff (tcpTransport_plays script) connected opened fresh
      address value,
    writeRegister_iff (serialTransport_plays script) connected opened fresh
      address value⟩

/-! ## A reply that is lost -/

/-- A write of 45 °C to the tank, echoed and read back. -/
def completeOffer : Offer where
  writeTaken := true
  echo := modbusRtuBuildWriteFrame 11 regDhwTarget 450
  readTaken := true
  reply := appendCrc [11, 0x03, 2, 0x01, 0xC2]

theorem completeOffer_complete : completeOffer.Complete 11 450 where
  writeTaken := rfl
  echo := ⟨by decide, rfl, rfl, by decide +kernel⟩
  readTaken := rfl
  reply := ⟨by decide, rfl, rfl, rfl, by decide +kernel, by decide +kernel⟩

def openClient : Client ScriptedLink where
  slaveId := 11
  handle := some 3
  connected := true
  line := { round := 0, arrived := [] }

/-- The slave is busy, and answers the first attempt with an exception. -/
def busyFirst : Nat → Offer
  | 0 => { completeOffer with echo := appendCrc [11, 0x86, 6] }
  | _ + 1 => completeOffer

theorem write_retries_iff_busyFirst :
    Retriable (tcpTransport (scriptedLine busyFirst)) 11 450 busyFirst := by
  refine (@write_retries_iff busyFirst openClient rfl rfl rfl regDhwTarget
    450).1.mp (iff_of_true ?_ ?_)
  · decide +kernel
  · exact ⟨1, by decide, completeOffer_complete⟩

/-- The reply to the first read-back does not arrive. -/
def lostFirst : Nat → Offer
  | 0 => { completeOffer with reply := [] }
  | _ + 1 => completeOffer

/-- Both clients give up on a slave that answers all that follows. -/
theorem lost_reply_not_retried :
    ¬ ((modbusWriteRegister (scriptedLine lostFirst) regDhwTarget 450
          openClient).1 = 0 ↔
        ∃ trial < 3, (lostFirst trial).Complete 11 450) ∧
      ¬ ((modbusSerialWriteRegister (scriptedLine lostFirst) regDhwTarget
            450 openClient).1 = 0 ↔
          ∃ trial < 3, (lostFirst trial).Complete 11 450) := by
  have complete : ∃ trial < 3, (lostFirst trial).Complete 11 450 :=
    ⟨1, by decide, completeOffer_complete⟩
  constructor
  · exact fun same => absurd (same.mpr complete) (by decide +kernel)
  · exact fun same => absurd (same.mpr complete) (by decide +kernel)

end Windmi.Modbus
