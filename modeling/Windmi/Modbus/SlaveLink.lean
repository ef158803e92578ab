import Windmi.Library.Pipe
import Windmi.Modbus.Client
import Windmi.Modbus.Interface

/-!
# A slave at the other end of the line

A slave answers every well-formed request which it receives exactly once, in
order and with a correct frame.  Its replies travel through a pipe: how many
of their bytes arrive before each flush and during each wait, and in which
chunks they are handed over, is arbitrary and may depend on all exchanges so
far.
-/

namespace Windmi.Modbus

open Windmi.Core
open Windmi.Library

/-! ## Slaves -/

inductive Request where
  | read (address count : Word)
  | write (address value : Word)
  deriving DecidableEq, Repr

/-- The words which a slave returns, or the code of its exception. -/
abbrev Answer := Except Byte (List Word)

/-- A slave, over the state of its registers. -/
structure Slave (τ : Type) where
  slaveId : Byte
  answer : Request → τ → Answer × τ
  answer_length : ∀ address count state words,
    (answer (.read address count) state).1 = .ok words →
      words.length = count.toNat

/--
The answers of a slave which holds a map from addresses to words.  It rejects
reads of no or too many registers, and reads beyond the last address.
-/
def answerFromMap : Request → RegisterFile → Answer × RegisterFile
  | .read address count, registers =>
      if count = 0 ∨ 125 < count.toNat then
        (.error 3, registers)
      else if 65536 < address.toNat + count.toNat then
        (.error 2, registers)
      else
        (.ok ((List.range count.toNat).map fun index =>
          registers (address + BitVec.ofNat 16 index)), registers)
  | .write address value, registers =>
      (.ok [value], Function.update registers address value)

def memorySlave (slaveId : Byte) : Slave RegisterFile where
  slaveId := slaveId
  answer := answerFromMap
  answer_length := by
    intro address count registers words answered
    simp only [answerFromMap] at answered
    split_ifs at answered
    rcases Except.ok.inj answered with rfl
    simp

/-- The request in a frame, if it is addressed to the slave and intact. -/
def parseRequest (slaveId : Byte) : List Byte → Option Request
  | [id, function, addressHigh, addressLow, high, low, crcLow, crcHigh] =>
      if id ≠ slaveId ∨
          joinBytes crcHigh crcLow ≠
            crc16 [id, function, addressHigh, addressLow, high, low] then
        none
      else if function = 0x03 then
        some (.read (joinBytes addressHigh addressLow) (joinBytes high low))
      else if function = 0x06 then
        some (.write (joinBytes addressHigh addressLow) (joinBytes high low))
      else
        none
  | _ => none

/-- The frame of an answer; the answer to a write is an echo. -/
def replyFrame (slaveId : Byte) : Request → Answer → List Byte
  | .read _ _, .ok words =>
      appendCrc
        ([slaveId, 0x03, BitVec.ofNat 8 (2 * words.length)] ++
          bigEndian words)
  | .write address value, .ok _ =>
      modbusRtuBuildWriteFrame slaveId address value
  | .read _ _, .error code => appendCrc [slaveId, 0x83, code]
  | .write _ _, .error code => appendCrc [slaveId, 0x86, code]

@[simp]
theorem parseRequest_read (slaveId : Byte) (address count : Word) :
    parseRequest slaveId (modbusRtuBuildReadFrame slaveId address count) =
      some (.read address count) := by
  simp [parseRequest, modbusRtuBuildReadFrame, appendCrc]

@[simp]
theorem parseRequest_write (slaveId : Byte) (address value : Word) :
    parseRequest slaveId (modbusRtuBuildWriteFrame slaveId address value) =
      some (.write address value) := by
  simp [parseRequest, modbusRtuBuildWriteFrame, appendCrc]

/-! ## Links -/

structure Exchange where
  request : Request
  answer : Answer
  deriving DecidableEq

/-- The pace of a link, as a function of the exchanges so far. -/
structure Delays where
  onFlush : List Exchange → Nat
  /-- The bytes that arrive in a wait, given the waits since the request. -/
  onWait : List Exchange → Nat → Nat
  chunk : List Exchange → Nat → Nat

/-- Something arrives in every wait, as long as something is under way. -/
def Delays.Timely (delays : Delays) (log : List Exchange) : Prop :=
  ∀ waits, 0 < delays.onWait log waits

/-- The bytes that arrive in the first waits, as long as some are under way. -/
def Delays.within (delays : Delays) (log : List Exchange) (waits : Nat) : Nat :=
  ((List.range waits).map (delays.onWait log)).sum

theorem Delays.within_succ (delays : Delays) (log : List Exchange)
    (waits : Nat) :
    delays.within log (waits + 1) =
      delays.within log waits + delays.onWait log waits := by
  simp [Delays.within, List.range_succ]

/-- Something arrives in every wait once so many bytes have arrived. -/
def Delays.TimelyFrom (delays : Delays) (least : Nat) (log : List Exchange) :
    Prop :=
  ∀ waits, least ≤ delays.within log waits → 0 < delays.onWait log waits

/-- A reply to a write arrives in time, and so does the rest of an exception
once its header has arrived.  Other replies to reads may come at any time. -/
def Delays.PunctualFor (delays : Delays) (exchange : Exchange)
    (earlier : List Exchange) : Prop :=
  match exchange.request, exchange.answer with
  | .write _ _, _ => delays.Timely (exchange :: earlier)
  | .read _ _, .error _ =>
      delays.TimelyFrom modbusReadHeaderLen (exchange :: earlier)
  | .read _ _, .ok _ => True

theorem Delays.PunctualFor.trailer {delays : Delays} {exchange : Exchange}
    {earlier : List Exchange} (punctual : delays.PunctualFor exchange earlier)
    {address count : Word} {code : Byte}
    (request : exchange.request = .read address count)
    (answer : exchange.answer = .error code) :
    delays.TimelyFrom modbusReadHeaderLen (exchange :: earlier) := by
  rcases exchange with ⟨_, _⟩
  cases request
  cases answer
  exact punctual

/-- So it is in every one of the exchanges. -/
def Delays.Punctual (delays : Delays) : List Exchange → Prop
  | [] => True
  | exchange :: earlier =>
      delays.PunctualFor exchange earlier ∧ delays.Punctual earlier

theorem Delays.Punctual.of_suffix {delays : Delays}
    {log later : List Exchange} (suffix : log <:+ later)
    (punctual : delays.Punctual later) : delays.Punctual log := by
  induction later with
  | nil =>
      rw [List.suffix_nil.mp suffix]
      exact punctual
  | cons exchange earlier ih =>
      rcases List.suffix_cons_iff.mp suffix with rfl | within
      · exact punctual
      · exact ih within punctual.2

/-- The slave, the bytes on their way back and the exchanges, newest first. -/
structure SlaveLink (τ : Type) where
  slave : τ
  pipe : Pipe Byte
  log : List Exchange
  waits : Nat

variable {τ : Type}

def SlaveLink.contents (link : SlaveLink τ) : List Byte :=
  link.pipe.contents

def SlaveLink.flush (delays : Delays) (link : SlaveLink τ) : SlaveLink τ :=
  { link with
    pipe := (link.pipe.deliver (delays.onFlush link.log)).discard }

/-- The slave receives a request and answers it. -/
def SlaveLink.serve (slave : Slave τ) (request : Request)
    (link : SlaveLink τ) : SlaveLink τ :=
  let answer := slave.answer request link.slave
  { slave := answer.2
    pipe := link.pipe.push (replyFrame slave.slaveId request answer.1)
    log := { request := request, answer := answer.1 } :: link.log
    waits := 0 }

def SlaveLink.transmit (slave : Slave τ) (frame : List Byte)
    (link : SlaveLink τ) : SlaveLink τ :=
  match parseRequest slave.slaveId frame with
  | some request => link.serve slave request
  | none => link

def SlaveLink.recv (delays : Delays) (limit : Nat) (link : SlaveLink τ) :
    List Byte × SlaveLink τ :=
  let received :=
    (link.pipe.deliver (delays.onWait link.log link.waits)).receive limit
      (delays.chunk link.log link.waits)
  (received.1, { link with pipe := received.2, waits := link.waits + 1 })

/-- The line to a slave accepts every frame as a whole. -/
def slaveLine (slave : Slave τ) (delays : Delays) :
    Line (SlaveLink τ) where
  flush := SlaveLink.flush delays
  send frame link := (frame.length, link.transmit slave frame)
  recv := SlaveLink.recv delays
  send_le _ _ := le_rfl
  recv_le limit _ := Pipe.length_receive_le _ limit _

theorem SlaveLink.recv_sequential (delays : Delays) :
    Sequential (SlaveLink.recv (τ := τ) delays) SlaveLink.contents where
  append limit _ := by
    refine (Pipe.receive_append _ limit _).trans ?_
    exact Pipe.contents_deliver ..
  length_le limit _ := Pipe.length_receive_le _ limit _

/-- Receiving leaves the slave and the log alone. -/
theorem SlaveLink.recv_frame (delays : Delays) {log : List Exchange}
    {state : τ} (limit : Nat) (link : SlaveLink τ)
    (known : link.log = log ∧ link.slave = state) :
    (link.recv delays limit).2.log = log ∧
      (link.recv delays limit).2.slave = state :=
  known

/-- What arrives in a wait can be received. -/
theorem SlaveLink.recv_nonempty {delays : Delays} {link : SlaveLink τ}
    (arrives : 0 < delays.onWait link.log link.waits)
    (nonempty : link.contents ≠ []) {limit : Nat} (positive : 0 < limit) :
    (link.recv delays limit).1 ≠ [] :=
  Pipe.receive_ne _ positive (Pipe.arrived_deliver_ne _ arrives nonempty)

theorem SlaveLink.recv_prompt {delays : Delays} {log : List Exchange}
    (timely : delays.Timely log) (state : τ) :
    Prompt (SlaveLink.recv delays) SlaveLink.contents
      (fun link => link.log = log ∧ link.slave = state) where
  preserved := SlaveLink.recv_frame delays
  nonempty := by
    rintro limit link ⟨rfl, -⟩ nonempty positive
    exact SlaveLink.recv_nonempty (timely link.waits) nonempty positive

/-- Once so many bytes have arrived the line is as good as a timely one. -/
theorem SlaveLink.recv_prompt_from {delays : Delays} {log : List Exchange}
    {least : Nat} (timely : delays.TimelyFrom least log) :
    Prompt (SlaveLink.recv (τ := τ) delays) SlaveLink.contents
      (fun link => link.log = log ∧ least ≤ delays.within log link.waits) where
  preserved := by
    rintro limit link ⟨rfl, enough⟩
    refine ⟨rfl, enough.trans ?_⟩
    show _ ≤ delays.within link.log (link.waits + 1)
    rw [Delays.within_succ]
    exact Nat.le_add_right ..
  nonempty := by
    rintro limit link ⟨rfl, enough⟩ nonempty positive
    exact SlaveLink.recv_nonempty (timely link.waits enough) nonempty positive

/-- What is not under way any more of a reply of this size has come in the
waits so far. -/
def SlaveLink.Paced (delays : Delays) (size : Nat) (link : SlaveLink τ) :
    Prop :=
  size ≤ link.pipe.underway.length + delays.within link.log link.waits

theorem SlaveLink.paced_serve (delays : Delays) (slave : Slave τ)
    (request : Request) (link : SlaveLink τ) :
    (link.serve slave request).Paced delays (replyFrame slave.slaveId request
      (slave.answer request link.slave).1).length := by
  show _ ≤ (link.pipe.underway ++ _).length + 0
  rw [List.length_append]
  exact Nat.le_add_left ..

theorem SlaveLink.Paced.recv {delays : Delays} {size : Nat}
    {link : SlaveLink τ} (paced : link.Paced delays size) (limit : Nat) :
    (link.recv delays limit).2.Paced delays size := by
  show size ≤ (link.pipe.underway.drop _).length +
    delays.within link.log (link.waits + 1)
  rw [Paced] at paced
  rw [Delays.within_succ, List.length_drop]
  omega

/-! ## Transports over a line -/

/--
On a line which accepts whole frames the transport sends the frame after a
flush, and receives with the loop of exact reads.
-/
structure Transport.Faithful {σ : Type} (transport : Transport σ)
    (line : Line σ) : Prop where
  sendFrame : ∀ frame (client : Client σ), client.handle.isSome →
    frame ≠ [] →
      (∀ bytes state, (line.send bytes state).1 = bytes.length) →
        transport.sendFrame frame client =
          (true,
            { client with
              line := (line.send frame (line.flush client.line)).2 })
  receiveExact : ∀ expected (client : Client σ), client.handle.isSome →
    0 < expected →
      let received := readExactly line.recv expected expected client.line
      transport.receiveExact expected client =
        (received.1, { client with line := received.2 })
  sendFrame_connected : ∀ frame client,
    (transport.sendFrame frame client).2.connected = client.connected
  receiveExact_connected : ∀ expected client,
    (transport.receiveExact expected client).2.connected = client.connected

theorem tcpTransport_faithful {σ : Type} (line : Line σ) :
    (tcpTransport line).Faithful line where
  sendFrame := by
    intro frame client open_ nonempty accepts
    have handle := Option.isSome_iff_ne_none.mp open_
    simp [tcpTransport, Modbus.sendFrame, flushReadBuffer, handle, accepts]
  receiveExact := by
    intro expected client open_ positive
    have handle := Option.isSome_iff_ne_none.mp open_
    simp [tcpTransport, Modbus.receiveExact, handle]
  sendFrame_connected := by
    intro frame client
    simp only [tcpTransport, Modbus.sendFrame, flushReadBuffer]
    split_ifs <;> rfl
  receiveExact_connected := by
    intro expected client
    simp only [tcpTransport, Modbus.receiveExact]
    split_ifs <;> rfl

theorem serialTransport_faithful {σ : Type} (line : Line σ) :
    (serialTransport line).Faithful line where
  sendFrame := by
    intro frame client open_ nonempty accepts
    have handle := Option.isSome_iff_ne_none.mp open_
    rcases List.exists_cons_of_ne_nil nonempty with ⟨first, rest, rfl⟩
    simp [serialTransport, serialSendFrame, serialSendLoop, handle, accepts]
  receiveExact := by
    intro expected client open_ positive
    have handle := Option.isSome_iff_ne_none.mp open_
    simp [serialTransport, serialReceiveExact, handle,
      Nat.pos_iff_ne_zero.mp positive]
  sendFrame_connected := by
    intro frame client
    simp only [serialTransport, serialSendFrame]
    split_ifs <;> rfl
  receiveExact_connected := by
    intro expected client
    simp only [serialTransport, serialReceiveExact]
    split_ifs <;> rfl

/-! ## Without a connection -/

theorem readRegister_disconnected {σ : Type} {transport : Transport σ}
    {client : Client σ} (disconnected : client.connected = false)
    (address : Word) (values : Nat → Int) :
    readRegister transport address values client =
      { code := -1, values := values, client := client } := by
  unfold readRegister readWriteRegistersInternal
  rw [if_pos (Or.inl (by simp [disconnected]))]

theorem failWrite_connected {σ : Type} (transport : Transport σ)
    {client : Client σ} (disconnected : client.connected = false) :
    (transport.failWrite client).connected = false := by
  unfold Transport.failWrite
  split
  · rfl
  · exact disconnected

theorem verifyWrite_disconnected {σ : Type} {transport : Transport σ}
    {client : Client σ} (disconnected : client.connected = false)
    (address value : Word) :
    verifyWrite transport address value client = (false, client) := by
  simp only [verifyWrite, readRegister_disconnected disconnected,
    code_failed, false_and, decide_false]

/-- Without a connection an attempt fails, and brings none back. -/
theorem writeAttempt_disconnected {σ : Type} {line : Line σ}
    {transport : Transport σ} (faithful : transport.Faithful line)
    {client : Client σ} (disconnected : client.connected = false)
    (address value : Word) :
    (writeAttempt transport address value client).1 = false ∧
      (writeAttempt transport address value client).2.connected = false := by
  have kept := faithful.sendFrame_connected
    (modbusRtuBuildWriteFrame client.slaveId address value) client
  rw [disconnected] at kept
  unfold writeAttempt
  generalize transport.sendFrame
    (modbusRtuBuildWriteFrame client.slaveId address value) client =
      sending at kept ⊢
  rcases sending with ⟨_ | _, sent⟩
  · exact ⟨rfl, failWrite_connected transport kept⟩
  have received := faithful.receiveExact_connected 8 sent
  rw [show sent.connected = false from kept] at received
  simp only
  generalize transport.receiveExact 8 sent = receiving at received ⊢
  rcases receiving with ⟨_ | response, after⟩
  · exact ⟨rfl, failWrite_connected transport received⟩
  simp only
  split
  · rw [verifyWrite_disconnected received]
    exact ⟨rfl, received⟩
  · exact ⟨rfl, received⟩

/-- Attempts without a connection fail, and bring none back. -/
theorem writeAttempts_disconnected {σ : Type} {line : Line σ}
    {transport : Transport σ} (faithful : transport.Faithful line)
    {client : Client σ} (disconnected : client.connected = false)
    (address value : Word) (retries : Nat) :
    ∃ after,
      writeAttempts transport address value retries client = (-1, after) ∧
        after.connected = false := by
  induction retries generalizing client with
  | zero => exact ⟨client, rfl, disconnected⟩
  | succ retries ih =>
      rcases writeAttempt_disconnected faithful disconnected address value
        with ⟨fails, still⟩
      unfold writeAttempts
      generalize writeAttempt transport address value client = outcome
        at fails still ⊢
      rcases outcome with ⟨_ | _, after⟩
      · exact ih still
      · cases fails

/-- An operation without a connection fails, and changes nothing. -/
theorem operation_disconnected {σ : Type} {transport : Transport σ}
    {client : Client σ} (disconnected : client.connected = false)
    (values : Nat → Int) (operation : Operation) :
    operation.run transport values client =
      { code := -1, values := values, client := client } := by
  cases operation with
  | readRegister address =>
      exact readRegister_disconnected disconnected address values
  | readRegisters address count =>
      simp only [Operation.run, readRegisters, readWriteRegistersInternal]
      split
      · rfl
      · rw [if_pos (Or.inl (by simp [disconnected]))]
  | writeRegister address value =>
      simp only [Operation.run, writeRegister]
      rw [if_pos (by simp [disconnected])]

/-! ## Clients of a slave -/

/-- What a client of the slave stands at. -/
structure Awaits (slave : Slave τ) (connected : Bool)
    (log : List Exchange) (state : τ) (pending : List Byte)
    (client : Client (SlaveLink τ)) : Prop where
  slaveId : client.slaveId = slave.slaveId
  handle : client.handle.isSome
  connected : client.connected = connected
  log : client.line.log = log
  state : client.line.slave = state
  pending : client.line.contents = pending

/-- A new connection to a slave. -/
def freshClient (slave : Slave τ) (handle : Nat) (state : τ) :
    Client (SlaveLink τ) where
  slaveId := slave.slaveId
  handle := some handle
  connected := true
  line := { slave := state, pipe := Pipe.empty, log := [], waits := 0 }

theorem freshClient_awaits (slave : Slave τ) (handle : Nat) (state : τ) :
    Awaits slave true [] state [] (freshClient slave handle state) :=
  ⟨rfl, rfl, rfl, rfl, rfl, rfl⟩

section

variable {slave : Slave τ} {delays : Delays}
  {transport : Transport (SlaveLink τ)} {connected : Bool}
  {log : List Exchange} {state : τ} {client : Client (SlaveLink τ)}
  (faithful : transport.Faithful (slaveLine slave delays))

include faithful

/-- Sending a request with nothing pending leaves exactly its reply. -/
theorem Awaits.send (awaits : Awaits slave connected log state [] client)
    {frame : List Byte} {request : Request} (nonempty : frame ≠ [])
    (parsed : parseRequest slave.slaveId frame = some request) :
    ∃ after, transport.sendFrame frame client = (true, after) ∧
      Awaits slave connected
        ({ request := request, answer := (slave.answer request state).1 } ::
          log)
        (slave.answer request state).2
        (replyFrame slave.slaveId request (slave.answer request state).1)
        after ∧
      after.line.Paced delays (replyFrame slave.slaveId request
        (slave.answer request state).1).length := by
  have sending := faithful.sendFrame frame client awaits.handle nonempty
    fun _ _ => rfl
  have served : (slaveLine slave delays).send frame
      ((slaveLine slave delays).flush client.line) =
        (frame.length,
          (client.line.flush delays).serve slave request) := by
    simp only [slaveLine, SlaveLink.transmit, parsed]
  rw [served] at sending
  have paced := SlaveLink.paced_serve delays slave request
    (client.line.flush delays)
  rw [show (client.line.flush delays).slave = state from awaits.state] at paced
  refine ⟨_, sending, ?_, paced⟩
  have cleared : (client.line.pipe.deliver
      (delays.onFlush client.line.log)).discard.contents = [] := by
    apply Pipe.contents_discard_of_empty
    rw [Pipe.contents_deliver]
    exact awaits.pending
  constructor
  case slaveId => exact awaits.slaveId
  case handle => exact awaits.handle
  case connected => exact awaits.connected
  case log => simp [SlaveLink.serve, SlaveLink.flush, awaits.log, awaits.state]
  case state => simp [SlaveLink.serve, SlaveLink.flush, awaits.state]
  case pending =>
    simp [SlaveLink.serve, SlaveLink.flush, SlaveLink.contents, cleared,
      awaits.state]

/-- What a receive leaves, whatever it returns. -/
theorem Awaits.receive_frame {pending : List Byte} {expected : Nat}
    (awaits : Awaits slave connected log state pending client)
    (positive : 0 < expected) :
    Awaits slave connected log state
      (transport.receiveExact expected client).2.line.contents
      (transport.receiveExact expected client).2 := by
  rw [faithful.receiveExact expected client awaits.handle positive]
  have kept := readExactly_preserves
    (fun link : SlaveLink τ => link.log = log ∧ link.slave = state)
    (SlaveLink.recv_frame delays) expected expected
    ⟨awaits.log, awaits.state⟩
  exact ⟨awaits.slaveId, awaits.handle, awaits.connected, kept.1, kept.2,
    rfl⟩

/-- Receiving what is pending succeeds unless the line is late. -/
theorem Awaits.receive {items rest : List Byte} {expected : Nat}
    (awaits : Awaits slave connected log state (items ++ rest) client)
    (length : items.length = expected) (positive : 0 < expected) :
    (∃ after, transport.receiveExact expected client = (some items, after) ∧
        Awaits slave connected log state rest after) ∨
      ∃ after, transport.receiveExact expected client = (none, after) ∧
        after.connected = connected ∧ ¬ delays.Timely log := by
  have frame := awaits.receive_frame faithful positive
  have equation := faithful.receiveExact expected client awaits.handle positive
  obtain ⟨taken, split, exact⟩ :=
    (SlaveLink.recv_sequential delays).readExactly_append (le_refl expected)
      client.line
  rw [awaits.pending] at split
  cases outcome :
      (readExactly (slaveLine slave delays).recv expected expected
        client.line).1 with
  | some bytes =>
      left
      rcases exact bytes outcome with ⟨rfl, full⟩
      rcases List.append_inj split (full.trans length.symm) with
        ⟨rfl, remains⟩
      have pending : (transport.receiveExact expected client).2.line.contents =
          rest := by
        rw [equation]
        exact remains
      rw [pending] at frame
      refine ⟨_, ?_, frame⟩
      rw [equation, outcome]
  | none =>
      right
      refine ⟨_, ?_, frame.connected, ?_⟩
      · rw [equation, outcome]
      · intro timely
        have success :=
          ((SlaveLink.recv_sequential delays).readExactly_prompt
            (SlaveLink.recv_prompt timely state) (le_refl expected)
            ⟨awaits.log, awaits.state⟩ awaits.pending length).1
        exact Option.some_ne_none items (success.symm.trans outcome)

/-- Receiving succeeds if the rest is timely and enough has arrived before. -/
theorem Awaits.receive_from {items rest : List Byte} {expected least : Nat}
    (awaits : Awaits slave connected log state (items ++ rest) client)
    (timely : delays.TimelyFrom least log)
    (enough : least ≤ delays.within log client.line.waits)
    (length : items.length = expected) (positive : 0 < expected) :
    ∃ after, transport.receiveExact expected client = (some items, after) ∧
      Awaits slave connected log state rest after := by
  rcases awaits.receive faithful length positive with
    received | ⟨after, failed, -⟩
  · exact received
  · have success :=
      ((SlaveLink.recv_sequential delays).readExactly_prompt
        (SlaveLink.recv_prompt_from timely) (le_refl expected)
        ⟨awaits.log, enough⟩ awaits.pending length).1
    have equation :=
      faithful.receiveExact expected client awaits.handle positive
    rw [failed] at equation
    exact absurd (success.symm.trans (congrArg Prod.fst equation).symm)
      (Option.some_ne_none items)

/-- A receive does not change how far the reply has come. -/
theorem Awaits.receive_paced {pending : List Byte} {expected size : Nat}
    (awaits : Awaits slave connected log state pending client)
    (paced : client.line.Paced delays size) (positive : 0 < expected) :
    (transport.receiveExact expected client).2.line.Paced delays size := by
  rw [faithful.receiveExact expected client awaits.handle positive]
  exact readExactly_preserves (SlaveLink.Paced delays size)
    (fun limit _ paced => paced.recv limit) expected expected paced

/-- A receive that asks for too much fails, and empties a timely line. -/
theorem Awaits.receive_short {pending : List Byte} {expected : Nat}
    (awaits : Awaits slave connected log state pending client)
    (short : pending.length < expected) :
    ∃ after, transport.receiveExact expected client = (none, after) ∧
      after.line.log = log ∧
        (delays.Timely log → Awaits slave connected log state [] after) := by
  have positive : 0 < expected := by omega
  have frame := awaits.receive_frame faithful positive
  have equation := faithful.receiveExact expected client awaits.handle positive
  obtain ⟨taken, split, exact⟩ :=
    (SlaveLink.recv_sequential delays).readExactly_append (le_refl expected)
      client.line
  have lengths := congrArg List.length (split.trans awaits.pending)
  rw [List.length_append] at lengths
  refine ⟨(transport.receiveExact expected client).2, ?_, frame.log, ?_⟩
  · cases outcome :
        (readExactly (slaveLine slave delays).recv expected expected
          client.line).1 with
    | some bytes =>
        rcases exact bytes outcome with ⟨rfl, full⟩
        omega
    | none =>
        rw [equation]
        exact Prod.ext outcome rfl
  · intro timely
    have drained :=
      ((SlaveLink.recv_sequential delays).readExactly_short
        (SlaveLink.recv_prompt timely state) (le_refl expected)
        ⟨awaits.log, awaits.state⟩
        (by rw [awaits.pending]; exact short)).2
    have empty : (transport.receiveExact expected client).2.line.contents =
        [] := by
      rw [equation]
      exact drained
    rw [empty] at frame
    exact frame

end

end Windmi.Modbus
