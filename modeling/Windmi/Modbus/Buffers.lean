import Windmi.Modbus.ReplyLink

/-!
# The buffers of the read path

The read path once more, with a record of the array cells which it stores to
and loads from.  The number of bytes to receive is a byte count from the wire
which was compared with the number of registers as integers, so that it fits
`data_and_crc`; `full_frame` is of the same size, but takes three bytes more.
-/

namespace Windmi.Modbus

open Windmi.Core
open Windmi.Library

/-! ## Accesses -/

/-- The local arrays of the read path, and the array of the caller. -/
inductive Buffer where
  | header
  | excCrc
  | dataAndCrc
  | fullFrame
  | values
  deriving DecidableEq, Repr

/-- `MODBUS_MAX_FRAME` and `MODBUS_SERIAL_MAX_FRAME`. -/
def modbusMaxFrame : Nat := 256

/-- The number of cells; the caller has made room for `count` registers. -/
def Buffer.size (count : Nat) : Buffer → Nat
  | .header => modbusReadHeaderLen
  | .excCrc => 2
  | .dataAndCrc => modbusMaxFrame
  | .fullFrame => modbusMaxFrame
  | .values => count

structure Access where
  buffer : Buffer
  index : Nat
  deriving DecidableEq, Repr

/-- Accesses to consecutive cells. -/
def cells (buffer : Buffer) (start length : Nat) : List Access :=
  (List.range length).map fun offset =>
    { buffer := buffer, index := start + offset }

def InBounds (count : Nat) (accesses : List Access) : Prop :=
  ∀ access ∈ accesses, access.index < access.buffer.size count

@[simp]
theorem inBounds_nil (count : Nat) : InBounds count [] :=
  List.forall_mem_nil _

@[simp]
theorem inBounds_append {count : Nat} {first second : List Access} :
    InBounds count (first ++ second) ↔
      InBounds count first ∧ InBounds count second :=
  List.forall_mem_append

/-- Consecutive cells are in bounds if the last one is. -/
@[simp]
theorem inBounds_cells {count start length : Nat} {buffer : Buffer} :
    InBounds count (cells buffer start length) ↔
      length = 0 ∨ start + length ≤ buffer.size count := by
  simp only [InBounds, cells, List.forall_mem_map, List.mem_range]
  constructor
  · intro all
    cases length with
    | zero => exact Or.inl rfl
    | succ last => exact Or.inr (all last (Nat.lt_succ_self last))
  · rintro (rfl | within) offset below <;> omega

/-! ## The read path with its accesses -/

variable {σ : Type}

structure Traced (σ : Type) where
  result : ReadResult σ
  accesses : List Access

def Traced.after (accesses : List Access) (traced : Traced σ) : Traced σ :=
  { traced with accesses := accesses ++ traced.accesses }

/-- The bytes which a receive stores, also where it fails in the end. -/
def storedCount (line : Line σ) (expected : Nat) (client : Client σ) : Nat :=
  if client.handle = none then 0
  else collected line.recv expected expected client.line

def tracedReceiveOrDrop (line : Line σ) (transport : Transport σ)
    (buffer : Buffer) (expected : Nat) (values : Nat → Int)
    (client : Client σ) (next : List Byte → Client σ → Traced σ) :
    Traced σ :=
  let stored := cells buffer 0 (storedCount line expected client)
  match transport.receiveExact expected client with
  | (none, client) =>
      { result := { code := -1, values := values, client := client.drop }
        accesses := stored }
  | (some bytes, client) => (next bytes client).after stored

/-- The copy into `full_frame`, the checksum over it and the values. -/
def tracedDecodeReply (readCount : Word) (values : Nat → Int)
    (header dataAndCrc : List Byte) (client : Client σ) : Traced σ :=
  let remaining := dataAndCrc.length
  let totalLen := modbusReadHeaderLen + remaining
  let fullFrame := header ++ dataAndCrc
  let checked :=
    cells .fullFrame 0 3 ++
      cells .dataAndCrc 0 remaining ++ cells .fullFrame 3 remaining ++
      cells .fullFrame (totalLen - 2) 2 ++ cells .fullFrame 0 (totalLen - 2)
  if crcReceived fullFrame totalLen ≠ crcCalculated fullFrame totalLen then
    { result := { code := -1, values := values, client := client }
      accesses := checked }
  else
    { result :=
        { code := 0
          values := fun index =>
            if index < readCount.toNat then
              (bytesToUint16 dataAndCrc (index * 2)).toInt
            else
              values index
          client := client }
      accesses :=
        checked ++ cells .dataAndCrc 0 (readCount.toNat * 2) ++
          cells .values 0 readCount.toNat }

def tracedReceiveReply (line : Line σ) (transport : Transport σ)
    (readCount : Word) (values : Nat → Int) (header : List Byte)
    (client : Client σ) : Traced σ :=
  let failed (accesses : List Access) (client : Client σ) : Traced σ :=
    { result := { code := -1, values := values, client := client }
      accesses := accesses }
  if byteAt header 0 ≠ client.slaveId then
    failed (cells .header 0 1) client
  else if byteAt header 1 &&& 0x80 ≠ 0 then
    failed
      (cells .header 0 3 ++ cells .excCrc 0 (storedCount line 2 client))
      (transport.receiveExact 2 client).2
  else if (byteAt header 2).toNat ≠ readCount.toNat * 2 then
    failed (cells .header 0 3) client
  else
    (tracedReceiveOrDrop line transport .dataAndCrc
      ((byteAt header 2).toNat + 2) values client
      (tracedDecodeReply readCount values header)).after (cells .header 0 3)

def tracedReadRegisters (line : Line σ) (transport : Transport σ)
    (address : Word) (values : Nat → Int) (count : Word)
    (client : Client σ) : Traced σ :=
  let failed (client : Client σ) : Traced σ :=
    { result := { code := -1, values := values, client := client }
      accesses := [] }
  if ¬ client.connected ∨ count = 0 then
    failed client
  else
    match transport.sendFrame
        (modbusRtuBuildReadFrame client.slaveId address count) client with
    | (false, client) => failed client.drop
    | (true, client) =>
        tracedReceiveOrDrop line transport .header modbusReadHeaderLen values
          client (tracedReceiveReply line transport count values)

/-! ### The record changes nothing -/

theorem tracedReceiveOrDrop_result (line : Line σ) (transport : Transport σ)
    (buffer : Buffer) (expected : Nat) (values : Nat → Int)
    (client : Client σ) {traced : List Byte → Client σ → Traced σ}
    {next : List Byte → Client σ → ReadResult σ}
    (follows : ∀ bytes client,
      (traced bytes client).result = next bytes client) :
    (tracedReceiveOrDrop line transport buffer expected values client
        traced).result =
      receiveOrDrop transport expected values client next := by
  unfold tracedReceiveOrDrop receiveOrDrop
  rcases transport.receiveExact expected client with ⟨_ | bytes, after⟩
  · rfl
  · exact follows bytes after

theorem tracedReceiveReply_result (line : Line σ) (transport : Transport σ)
    (readCount : Word) (values : Nat → Int) (header : List Byte)
    (client : Client σ) :
    (tracedReceiveReply line transport readCount values header
        client).result =
      receiveReply transport readCount values header client := by
  unfold tracedReceiveReply receiveReply
  split_ifs
  · rfl
  · rfl
  · rfl
  · refine tracedReceiveOrDrop_result line transport _ _ values client ?_
    intro bytes client
    simp only [tracedDecodeReply, decodeReply]
    split <;> rfl

/-- The recorded read is the read of the clients. -/
theorem tracedReadRegisters_result (line : Line σ) (transport : Transport σ)
    (address : Word) (values : Nat → Int) (count : Word)
    (client : Client σ) :
    (tracedReadRegisters line transport address values count client).result =
      readRegisters transport address values count client := by
  unfold tracedReadRegisters readRegisters readWriteRegistersInternal
  by_cases none : count = 0
  · rw [if_pos (Or.inr none), if_pos none]
  · rw [if_neg none]
    split
    · rfl
    · simp only [Bool.false_eq_true, if_false]
      rcases transport.sendFrame _ client with ⟨_ | _, sent⟩
      · rfl
      · exact tracedReceiveOrDrop_result line transport _ _ values sent
          (tracedReceiveReply_result line transport count values)

/-! ## When all accesses are in bounds -/

/-- A received reply which fits `data_and_crc` but not `full_frame`. -/
structure Overlong (slaveId : Byte) (count : Nat) (bytes : List Byte) :
    Prop where
  critical : count = 126 ∨ count = 127
  enough : 5 + 2 * count ≤ bytes.length
  slave : byteAt bytes 0 = slaveId
  noException : byteAt bytes 1 &&& 0x80 = 0
  byteCount : (byteAt bytes 2).toNat = 2 * count

theorem storedCount_le (line : Line σ) (expected : Nat) (client : Client σ) :
    storedCount line expected client ≤ expected := by
  unfold storedCount
  split
  · exact Nat.zero_le _
  · exact collected_le line.recv_le _ _ _

theorem inBounds_stored {count expected : Nat} {buffer : Buffer}
    (fits : expected ≤ buffer.size count) (line : Line σ)
    (client : Client σ) :
    InBounds count (cells buffer 0 (storedCount line expected client)) := by
  have stored := storedCount_le line expected client
  exact inBounds_cells.mpr (Or.inr (by omega))

theorem inBounds_header (count : Nat) {length : Nat} (few : length ≤ 3) :
    InBounds count (cells .header 0 length) :=
  inBounds_cells.mpr (Or.inr ((Nat.zero_add _).le.trans few))

/-- The copy into `full_frame` goes past its end from 126 registers on. -/
theorem inBounds_tracedDecodeReply_iff {readCount : Word}
    {header dataAndCrc : List Byte}
    (length : dataAndCrc.length = 2 * readCount.toNat + 2)
    (fits : readCount.toNat ≤ 127) (values : Nat → Int)
    (client : Client σ) :
    InBounds readCount.toNat
        (tracedDecodeReply readCount values header dataAndCrc
          client).accesses ↔
      ¬ (readCount.toNat = 126 ∨ readCount.toNat = 127) := by
  simp only [tracedDecodeReply, length, modbusReadHeaderLen]
  split <;>
    simp only [inBounds_append, inBounds_cells, Buffer.size,
      modbusMaxFrame] <;> omega

section

variable {responses : Responses} {portion : Nat → Nat}
  {transport : Transport ReplyLink} {slaveId : Byte} {pending : List Byte}
  {overreached : Bool} {client : Client ReplyLink}
  (faithful : transport.Faithful (replyLine responses portion))

include faithful

theorem Listens.tracedReply_inBounds_iff {bytes : List Byte}
    (headed : 3 ≤ bytes.length)
    (listens : Listens slaveId true (bytes.drop 3) overreached client)
    (readCount : Word) (values : Nat → Int) :
    InBounds readCount.toNat
        (tracedReceiveReply (replyLine responses portion) transport readCount
          values (bytes.take 3) client).accesses ↔
      ¬ Overlong slaveId readCount.toNat bytes := by
  rcases header_bytes bytes with ⟨first, second, third⟩
  simp only [tracedReceiveReply, first, second, third, listens.slaveId]
  split_ifs with foreign exception miscounted
  · exact iff_of_true (inBounds_header _ (by decide))
      fun long => foreign long.slave
  · refine iff_of_true ?_ fun long => exception long.noException
    refine inBounds_append.mpr ⟨inBounds_header _ le_rfl, ?_⟩
    exact inBounds_stored (le_refl 2) _ client
  · refine iff_of_true (inBounds_header _ le_rfl) fun long => miscounted ?_
    rw [long.byteCount, Nat.mul_comm]
  · have counted : (byteAt bytes 2).toNat = 2 * readCount.toNat :=
      (not_not.mp miscounted).trans (Nat.mul_comm _ _)
    have fits : readCount.toNat ≤ 127 := by
      have byte := (byteAt bytes 2).isLt
      omega
    have stored : InBounds readCount.toNat
        (cells .dataAndCrc 0
          (storedCount (replyLine responses portion)
            (2 * readCount.toNat + 2) client)) := by
      apply inBounds_stored
      show 2 * readCount.toNat + 2 ≤ 256
      omega
    simp only [counted, tracedReceiveOrDrop, Traced.after]
    rcases Nat.lt_or_ge (bytes.drop 3).length (2 * readCount.toNat + 2) with
      short | enough
    · rcases listens.receive_short faithful short with ⟨after, failed, -⟩
      simp only [failed]
      refine iff_of_true
        (inBounds_append.mpr ⟨inBounds_header _ le_rfl, stored⟩) ?_
      intro long
      have length := long.enough
      rw [List.length_drop] at short
      omega
    · rcases listens.receive faithful (Nat.succ_pos _) enough with
        ⟨after, received, -⟩
      simp only [received]
      rw [inBounds_append, inBounds_append,
        and_iff_right (inBounds_header _ le_rfl), and_iff_right stored,
        inBounds_tracedDecodeReply_iff (List.length_take_of_le enough) fits]
      rw [List.length_drop] at enough
      refine not_congr ⟨fun critical => ?_, fun long => long.critical⟩
      exact ⟨critical, by omega, not_not.mp foreign, not_not.mp exception,
        counted⟩

theorem Listens.tracedRead_inBounds_iff
    (listens : Listens slaveId true pending overreached client)
    (address : Word) (values : Nat → Int) (count : Word)
    (positive : count ≠ 0) :
    InBounds count.toNat
        (tracedReadRegisters (replyLine responses portion) transport address
          values count client).accesses ↔
      ¬ Overlong slaveId count.toNat
        (responses client.line.requests
          (modbusRtuBuildReadFrame slaveId address count)) := by
  have ready : ¬ (¬ client.connected = true ∨ count = 0) := by
    rintro (lost | zero)
    · exact lost listens.connected
    · exact positive zero
  have nonempty :
      modbusRtuBuildReadFrame client.slaveId address count ≠ [] :=
    List.cons_ne_nil _ _
  rcases listens.send faithful nonempty with ⟨sent, sending, -, answered⟩
  rw [listens.slaveId] at sending answered
  generalize responses client.line.requests
    (modbusRtuBuildReadFrame slaveId address count) = bytes at answered ⊢
  have stored : InBounds count.toNat
      (cells .header 0 (storedCount (replyLine responses portion) 3 sent)) :=
    inBounds_stored (le_refl 3) _ sent
  simp only [tracedReadRegisters, if_neg ready, listens.slaveId, sending,
    tracedReceiveOrDrop, modbusReadHeaderLen]
  rcases Nat.lt_or_ge bytes.length 3 with short | enough
  · rcases answered.receive_short faithful short with ⟨after, failed, -⟩
    simp only [failed]
    refine iff_of_true stored fun long => ?_
    have length := long.enough
    omega
  · rcases answered.receive faithful (by decide) enough with
      ⟨headed, received, -, remaining⟩
    simp only [received, Traced.after]
    rw [inBounds_append, and_iff_right stored]
    exact remaining.tracedReply_inBounds_iff faithful enough count values

end

/--
The reads of both clients stay within their arrays for every number of
registers and every answer of the slave, unless it sends a whole reply of 126
or 127 registers.
-/
theorem reads_in_bounds_iff (responses : Responses) (portion : Nat → Nat)
    {client : Client ReplyLink} (connected : client.connected = true)
    (opened : client.handle.isSome) (address : Word) (values : Nat → Int)
    {count : Word} (positive : 1 ≤ count.toNat) :
    let line := replyLine responses portion
    let reply := responses client.line.requests
      (modbusRtuBuildReadFrame client.slaveId address count)
    (InBounds count.toNat
          (tracedReadRegisters line (tcpTransport line) address values count
            client).accesses ↔
        ¬ Overlong client.slaveId count.toNat reply) ∧
      (InBounds count.toNat
            (tracedReadRegisters line (serialTransport line) address values
              count client).accesses ↔
          ¬ Overlong client.slaveId count.toNat reply) := by
  have listens : Listens client.slaveId true client.line.arrived
      client.line.overreached client := ⟨rfl, opened, connected, rfl, rfl⟩
  have nonzero : count ≠ 0 := by
    rintro rfl
    exact absurd positive (by decide)
  exact
    ⟨listens.tracedRead_inBounds_iff (tcpTransport_faithful _) address values
        count nonzero,
      listens.tracedRead_inBounds_iff (serialTransport_faithful _) address
        values count nonzero⟩

/-- A slave that answers every read with zeros, as many as a byte can count. -/
def zeroReplies (count : Nat) : Responses := fun _ _ =>
  appendCrc
    ([11, 0x03, BitVec.ofNat 8 (2 * count)] ++ List.replicate (2 * count) 0)

theorem length_zeroReplies (count requests : Nat) (frame : List Byte) :
    (zeroReplies count requests frame).length = 5 + 2 * count := by
  simp only [zeroReplies, length_appendCrc, List.length_append,
    List.length_cons, List.length_nil, List.length_replicate]
  omega

/-- No reply is overlong where the byte count cannot match. -/
theorem reads_in_bounds_iff_wide :
    InBounds 382
      (tracedReadRegisters (replyLine (zeroReplies 126) fun _ => 8)
        (tcpTransport (replyLine (zeroReplies 126) fun _ => 8)) 0x0001
        (fun _ => 0) 382 (listeningClient 11 3 [])).accesses := by
  refine (@reads_in_bounds_iff (zeroReplies 126) (fun _ => 8)
    (listeningClient 11 3 []) rfl rfl 0x0001 (fun _ => 0) 382
    (by decide)).1.mpr ?_
  rintro ⟨wide | wide, -⟩
  · exact absurd wide (by decide)
  · exact absurd wide (by decide)

/-- A complete reply of 126 registers is copied past the end of the frame. -/
theorem full_frame_overrun :
    ¬ InBounds 126
        (tracedReadRegisters (replyLine (zeroReplies 126) fun _ => 256)
          (tcpTransport (replyLine (zeroReplies 126) fun _ => 256)) 0x0001
          (fun _ => 0) 126 (listeningClient 11 3 [])).accesses ∧
      ¬ InBounds 126
        (tracedReadRegisters (replyLine (zeroReplies 126) fun _ => 256)
          (serialTransport (replyLine (zeroReplies 126) fun _ => 256)) 0x0001
          (fun _ => 0) 126 (listeningClient 11 3 [])).accesses := by
  have listens := listeningClient_listens 11 3 []
  have long : Overlong 11 (126 : Word).toNat
      (zeroReplies 126 0 (modbusRtuBuildReadFrame 11 0x0001 126)) :=
    ⟨Or.inl rfl, (length_zeroReplies 126 0 _).ge, rfl, rfl, rfl⟩
  constructor
  · intro within
    exact (listens.tracedRead_inBounds_iff (tcpTransport_faithful _) 0x0001
      (fun _ => 0) 126 (by decide)).mp within long
  · intro within
    exact (listens.tracedRead_inBounds_iff (serialTransport_faithful _) 0x0001
      (fun _ => 0) 126 (by decide)).mp within long

end Windmi.Modbus
