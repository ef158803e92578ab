import Windmi.Modbus.SlaveLink

/-!
# Answers in portions

A line which takes every request and brings an answer to it, of any bytes and
of any length.  The answer is handed over in portions of any size, and nothing
follows it.  The link notes a receive that asks for more than has been sent.
-/

namespace Windmi.Modbus

open Windmi.Core
open Windmi.Library

/-- What has arrived and was not received yet. -/
structure ReplyLink where
  arrived : List Byte
  requests : Nat := 0
  receives : Nat := 0
  overreached : Bool := false
  deriving DecidableEq, Repr

/-- The answer to a request, given the number of the requests before it. -/
abbrev Responses := Nat → List Byte → List Byte

def ReplyLink.send (responses : Responses) (frame : List Byte)
    (link : ReplyLink) : Nat × ReplyLink :=
  (frame.length,
    { link with
      arrived := link.arrived ++ responses link.requests frame
      requests := link.requests + 1 })

/-- A receive gets a portion, and nothing once nothing is left. -/
def ReplyLink.recv (portion : Nat → Nat) (limit : Nat) (link : ReplyLink) :
    List Byte × ReplyLink :=
  let count := min limit (max 1 (portion link.receives))
  (link.arrived.take count,
    { link with
      arrived := link.arrived.drop count
      receives := link.receives + 1
      overreached := link.overreached || link.arrived.length < limit })

def replyLine (responses : Responses) (portion : Nat → Nat) :
    Line ReplyLink where
  flush link := { link with arrived := [] }
  send := ReplyLink.send responses
  recv := ReplyLink.recv portion
  send_le _ _ := le_rfl
  recv_le limit link := by
    simp only [ReplyLink.recv, List.length_take]
    omega

theorem ReplyLink.recv_sequential (portion : Nat → Nat) :
    Sequential (ReplyLink.recv portion) ReplyLink.arrived where
  append _ _ := List.take_append_drop _ _
  length_le limit link := (replyLine (fun _ _ => []) portion).recv_le limit link

theorem ReplyLink.recv_prompt (portion : Nat → Nat) :
    Prompt (ReplyLink.recv portion) ReplyLink.arrived fun _ => True where
  preserved _ _ _ := trivial
  nonempty := by
    intro limit link _ something positive nothing
    rcases List.take_eq_nil_iff.mp nothing with zero | nil
    · omega
    · exact something nil

/-! ## Clients of the line -/

/-- What a client with an open handle stands at. -/
structure Listens (slaveId : Byte) (connected : Bool) (pending : List Byte)
    (overreached : Bool) (client : Client ReplyLink) : Prop where
  slaveId : client.slaveId = slaveId
  handle : client.handle.isSome
  connected : client.connected = connected
  pending : client.line.arrived = pending
  overreached : client.line.overreached = overreached

/-- A connected client, with something left over from before. -/
def listeningClient (slaveId : Byte) (handle : Nat) (stale : List Byte) :
    Client ReplyLink where
  slaveId := slaveId
  handle := some handle
  connected := true
  line := { arrived := stale }

theorem listeningClient_listens (slaveId : Byte) (handle : Nat)
    (stale : List Byte) :
    Listens slaveId true stale false (listeningClient slaveId handle stale) :=
  ⟨rfl, rfl, rfl, rfl, rfl⟩

section

variable {responses : Responses} {portion : Nat → Nat}
  {transport : Transport ReplyLink} {slaveId : Byte} {connected : Bool}
  {pending : List Byte} {overreached : Bool} {client : Client ReplyLink}
  (faithful : transport.Faithful (replyLine responses portion))

include faithful

/-- A request is answered, and nothing else is pending then. -/
theorem Listens.send
    (listens : Listens slaveId connected pending overreached client)
    {frame : List Byte} (nonempty : frame ≠ []) :
    ∃ after, transport.sendFrame frame client = (true, after) ∧
      after.line.requests = client.line.requests + 1 ∧
      Listens slaveId connected (responses client.line.requests frame)
        overreached after :=
  ⟨_, faithful.sendFrame frame client listens.handle nonempty
      fun _ _ => rfl,
    rfl,
    ⟨listens.slaveId, listens.handle, listens.connected, rfl,
      listens.overreached⟩⟩

/-- As much as is pending can be received, without asking for more. -/
theorem Listens.receive
    (listens : Listens slaveId connected pending overreached client)
    {expected : Nat}
    (positive : 0 < expected) (enough : expected ≤ pending.length) :
    ∃ after,
      transport.receiveExact expected client =
          (some (pending.take expected), after) ∧
        after.line.requests = client.line.requests ∧
        Listens slaveId connected (pending.drop expected) overreached
          after := by
  have source := ReplyLink.recv_sequential portion
  have available : expected ≤ client.line.arrived.length := by
    rw [listens.pending]
    exact enough
  have holds : client.line.arrived =
      pending.take expected ++ pending.drop expected := by
    rw [listens.pending, List.take_append_drop]
  rcases source.readExactly_prompt (ReplyLink.recv_prompt portion)
      (le_refl expected) trivial holds (List.length_take_of_le enough) with
    ⟨received, remains⟩
  have satisfied := source.readExactly_within
    (fun limit link within
        (same : link.overreached = overreached ∧
          link.requests = client.line.requests) =>
      ⟨by simp [ReplyLink.recv, same.1, within], same.2⟩)
    expected ⟨listens.overreached, rfl⟩ available
  have equation := faithful.receiveExact expected client listens.handle
    positive
  exact ⟨_, equation.trans (Prod.ext received rfl), satisfied.2,
    listens.slaveId, listens.handle, listens.connected, remains, satisfied.1⟩

/-- What is too little is waited for in vain. -/
theorem Listens.receive_short
    (listens : Listens slaveId connected pending overreached client)
    {expected : Nat}
    (short : pending.length < expected) :
    ∃ after, transport.receiveExact expected client = (none, after) ∧
      after.line.requests = client.line.requests ∧
      Listens slaveId connected [] true after := by
  have source := ReplyLink.recv_sequential portion
  have lacking : client.line.arrived.length < expected := by
    rw [listens.pending]
    exact short
  rcases source.readExactly_short (ReplyLink.recv_prompt portion)
      (le_refl expected) trivial lacking with
    ⟨failed, drained⟩
  have first : (ReplyLink.recv portion expected client.line).2.overreached =
      true ∧
        (ReplyLink.recv portion expected client.line).2.requests =
          client.line.requests :=
    ⟨by simp [ReplyLink.recv, lacking], rfl⟩
  have noted := @readExactly_begins _ _ (ReplyLink.recv portion)
    (fun link => link.overreached = true ∧
      link.requests = client.line.requests)
    (fun limit link noted => ⟨by simp [ReplyLink.recv, noted.1], noted.2⟩)
    expected (Nat.zero_lt_of_lt lacking) client.line first
  have equation := faithful.receiveExact expected client listens.handle
    (Nat.zero_lt_of_lt lacking)
  exact ⟨_, equation.trans (Prod.ext failed rfl), noted.2,
    listens.slaveId, listens.handle, listens.connected, drained, noted.1⟩

/-! ## Reads -/

/-- A read gets its header, or drops the connection. -/
theorem Listens.read_begins
    (listens : Listens slaveId true pending overreached client)
    (address : Word) (values : Nat → Int) {count readCount : Word}
    {single : Bool} (positive : count ≠ 0)
    (counted : (if single then 1 else count) = readCount) :
    let bytes := responses client.line.requests
      (modbusRtuBuildReadFrame client.slaveId address readCount)
    let result :=
      readWriteRegistersInternal transport address values count single client
    (bytes.length < 3 ∧
        ∃ after,
          result = { code := -1, values := values, client := after.drop } ∧
            Listens slaveId true [] true after) ∨
      (3 ≤ bytes.length ∧
        ∃ headed,
          result =
              receiveReply transport readCount values (bytes.take 3)
                headed ∧
            headed.line.requests = client.line.requests + 1 ∧
            Listens slaveId true (bytes.drop 3) overreached headed) := by
  intro bytes result
  have nonempty :
      modbusRtuBuildReadFrame client.slaveId address readCount ≠ [] :=
    List.cons_ne_nil _ _
  rcases listens.send faithful nonempty with
    ⟨sent, sending, requests, answered⟩
  have reading := readWriteRegistersInternal_sent listens.connected positive
    counted sending values
  rcases Nat.lt_or_ge bytes.length 3 with short | enough
  · rcases answered.receive_short faithful short with
      ⟨after, failed, -, drained⟩
    refine Or.inl ⟨short, after, ?_, drained⟩
    refine reading.trans ?_
    simp only [receiveOrDrop, modbusReadHeaderLen, failed]
  · rcases answered.receive faithful (by decide) enough with
      ⟨headed, received, same, remaining⟩
    refine Or.inr ⟨enough, headed, ?_, same.trans requests, remaining⟩
    refine reading.trans ?_
    simp only [receiveOrDrop, modbusReadHeaderLen, received]
    rfl

end

end Windmi.Modbus
