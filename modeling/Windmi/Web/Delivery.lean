import Mathlib.Data.List.Induction
import Windmi.Web.System

/-!
# Which commands arrive

Every request that passes its checks is answered with the same success, also
if the queue had no room for its command.  As long as there is room whenever
such a request comes, the commands of the requests answered with success are
those which the loop pops, in their order; the first request that finds the
queue full breaks this for good.
-/

namespace Windmi.Web

open Windmi.Core
open Windmi.Modbus

variable {Device : Type}

/-! ## Delivery -/

/-- The commands of the requests answered with success, in their order. -/
def promised (json : MgJson) (answered : List Answered) : List Command :=
  answered.filterMap fun answer =>
    if answer.reply.status = 202 then answer.request.command json else none

/--
What was popped and what is queued are the promised commands, and success is
answered only to a request whose command was enqueued.
-/
def Delivered (json : MgJson) (system : System Device) : Prop :=
  system.popped ++ system.server.queued = promised json system.answered ∧
    ∀ answer ∈ system.answered, answer.reply = queuedReply →
      answer.pushed = true

/-- The commands which were enqueued. -/
def enqueued (json : MgJson) (answered : List Answered) : List Command :=
  answered.filterMap fun answer =>
    if answer.pushed then answer.request.command json else none

theorem enqueued_append (json : MgJson) (answered : List Answered)
    (answer : Answered) :
    enqueued json (answered ++ [answer]) =
      enqueued json answered ++
        if answer.pushed then (answer.request.command json).toList
        else [] := by
  rcases answer with ⟨request, reply, _ | _⟩
  · simp [enqueued]
  · cases asks : request.command json <;> simp [enqueued, asks]

/-- An answer is success exactly if the request passes its checks. -/
structure Answered.Consistent (json : MgJson) (answer : Answered) :
    Prop where
  reply :
    if (answer.request.command json).isSome then answer.reply = queuedReply
    else answer.reply.ClientError
  pushed : answer.pushed = true → (answer.request.command json).isSome

theorem Answered.Consistent.valid {json : MgJson} {answer : Answered}
    (consistent : answer.Consistent json)
    (success : answer.reply = queuedReply) :
    (answer.request.command json).isSome := by
  have reply := consistent.reply
  split at reply
  case isTrue valid => exact valid
  case isFalse invalid =>
    rw [success] at reply
    exact absurd reply.1 (by decide)

theorem Answered.Consistent.status {json : MgJson} {answer : Answered}
    (consistent : answer.Consistent json) :
    answer.reply.status = 202 ↔ answer.reply = queuedReply := by
  constructor
  · intro success
    have reply := consistent.reply
    split at reply
    · exact reply
    · have error := reply.1
      omega
  · rintro queued
    exact congrArg Reply.status queued

/-! ## The invariant of the system -/

/-- Whatever was enqueued is popped once and in order. -/
structure Conserves (json : MgJson) (system : System Device) : Prop where
  ready : system.server.Ready
  conserved :
    system.popped ++ system.server.queued = enqueued json system.answered
  consistent : ∀ answer ∈ system.answered, answer.Consistent json

theorem System.start_conserves (json : MgJson)
    (client : IModbusClient Device) (loop : ControlLoop) (device : Device) :
    Conserves json (System.start client loop device) where
  ready := ⟨rfl, rfl⟩
  conserved := rfl
  consistent := List.forall_mem_nil _

/-- What a request does to a system, whether its command is enqueued or not. -/
theorem Conserves.respond {json : MgJson} {system : System Device}
    (conserves : Conserves json system) (request : Request) :
    ∃ answer,
      (system.respond json request).answered =
          system.answered ++ [answer] ∧
        answer.request = request ∧
        answer.Consistent json ∧
        Conserves json (system.respond json request) ∧
        ((request.command json).isSome →
          answer.pushed = decide (system.server.queued.length < 15) ∧
            answer.reply = queuedReply) := by
  refine ⟨_, rfl, rfl, ?_⟩
  cases asks : request.command json with
  | none =>
      rcases WebServer.respond_refused conserves.ready.running asks with
        ⟨error, notPushed, same⟩
      have consistent : Answered.Consistent json
          { request := request
            reply := (system.server.respond json request).reply
            pushed := (system.server.respond json request).pushed } := by
        constructor
        case reply =>
          simp only [asks]
          exact error
        case pushed =>
          simp only [notPushed]
          exact fun impossible => Bool.noConfusion impossible
      refine ⟨consistent, ?_, fun impossible => Bool.noConfusion impossible⟩
      constructor
      case ready =>
        simp only [System.respond, same]
        exact conserves.ready
      case conserved =>
        simp only [System.respond, same, conserves.conserved,
          enqueued_append, notPushed, Bool.false_eq_true, if_false,
          List.append_nil]
      case consistent =>
        refine List.forall_mem_append.mpr ⟨conserves.consistent, ?_⟩
        exact List.forall_mem_singleton.mpr consistent
  | some cmd =>
      have response :=
        WebServer.respond_of_command conserves.ready.running asks
      rcases conserves.ready.enqueue cmd with
        ⟨success, ready, pushed, queued⟩
      rw [← response] at success ready pushed queued
      have consistent : Answered.Consistent json
          { request := request
            reply := (system.server.respond json request).reply
            pushed := (system.server.respond json request).pushed } := by
        constructor
        case reply =>
          simp only [asks, Option.isSome_some, if_true]
          exact success
        case pushed =>
          exact fun _ => by simp only [asks, Option.isSome_some]
      refine ⟨consistent, ?_, fun _ => ⟨pushed, success⟩⟩
      constructor
      case ready => exact ready
      case conserved =>
        simp only [System.respond, queued, enqueued_append, pushed, asks,
          decide_eq_true_eq, ← conserves.conserved]
        split
        · exact (List.append_assoc ..).symm
        · exact (List.append_nil _).symm
      case consistent =>
        refine List.forall_mem_append.mpr ⟨conserves.consistent, ?_⟩
        exact List.forall_mem_singleton.mpr consistent

theorem Conserves.loop {json : MgJson} {system : System Device}
    (conserves : Conserves json system) (client : IModbusClient Device) :
    Conserves json (system.step json client .loop) := by
  simp only [System.step]
  split
  · unfold System.connect
    split <;> exact ⟨conserves.ready, conserves.conserved,
      conserves.consistent⟩
  · have taken := system.server.popCommand_queued
    have ready := conserves.ready.popCommand
    have conserved := conserves.conserved
    unfold System.drain
    generalize system.server.popCommand = popping at taken ready ⊢
    rcases popping with ⟨_ | cmd, server⟩
    · exact ⟨conserves.ready, conserved, conserves.consistent⟩
    · refine ⟨ready, ?_, conserves.consistent⟩
      rw [← taken] at conserved
      simp only [List.append_assoc]
      exact conserved

theorem Conserves.step {json : MgJson} {system : System Device}
    (conserves : Conserves json system) (client : IModbusClient Device)
    (step : Step) : Conserves json (system.step json client step) := by
  cases step with
  | request request =>
      rcases conserves.respond request with ⟨-, -, -, -, kept, -⟩
      exact kept
  | loop => exact conserves.loop client

theorem Conserves.run {json : MgJson} {system : System Device}
    (conserves : Conserves json system) (client : IModbusClient Device)
    (steps : List Step) : Conserves json (system.run json client steps) :=
  List.foldlRecOn steps _ conserves fun _ kept step _ => kept.step client step

/-- Delivery is what is left to ask: no success without an enqueued command. -/
theorem Conserves.delivered_iff {json : MgJson} {system : System Device}
    (conserves : Conserves json system) :
    Delivered json system ↔
      ∀ answer ∈ system.answered, answer.reply = queuedReply →
        answer.pushed = true := by
  constructor
  · exact And.right
  · intro honest
    refine ⟨?_, honest⟩
    rw [conserves.conserved, enqueued, promised]
    apply List.filterMap_congr
    intro answer member
    have consistent := conserves.consistent answer member
    by_cases pushed : answer.pushed = true
    · have reply := consistent.reply
      rw [if_pos (consistent.pushed pushed)] at reply
      rw [if_pos pushed, if_pos (consistent.status.mpr reply)]
    · have refused : ¬ answer.reply.status = 202 := by
        intro success
        exact pushed (honest answer member (consistent.status.mp success))
      rw [if_neg pushed, if_neg refused]

/-! ## Runs -/

/-- Every request that passes its checks finds room in the queue. -/
def RoomThroughout (json : MgJson) (client : IModbusClient Device)
    (system : System Device) (steps : List Step) : Prop :=
  ∀ earlier request later, steps = earlier ++ .request request :: later →
    (request.command json).isSome →
      (system.run json client earlier).server.queued.length < 15

theorem roomThroughout_append {json : MgJson}
    {client : IModbusClient Device} {system : System Device}
    {steps : List Step} {step : Step} :
    RoomThroughout json client system (steps ++ [step]) ↔
      RoomThroughout json client system steps ∧
        ∀ request, step = .request request →
          (request.command json).isSome →
            (system.run json client steps).server.queued.length < 15 := by
  constructor
  · intro room
    constructor
    · intro earlier request later split
      exact room earlier request (later ++ [step]) (by simp [split])
    · intro request last
      exact room steps request [] (by rw [last])
  · rintro ⟨before, last⟩ earlier request later split
    rcases List.eq_nil_or_concat later with rfl | ⟨front, back, rfl⟩
    · rcases List.append_inj' split rfl with ⟨rfl, same⟩
      exact last request (List.cons.inj same).1
    · refine before earlier request front ?_
      rw [List.concat_eq_append, ← List.cons_append, ← List.append_assoc]
        at split
      exact (List.append_inj' split rfl).1

theorem System.run_append (json : MgJson) (client : IModbusClient Device)
    (steps : List Step) (step : Step) (system : System Device) :
    system.run json client (steps ++ [step]) =
      (system.run json client steps).step json client step :=
  List.foldl_append

theorem System.loop_answered (json : MgJson)
    (client : IModbusClient Device) (system : System Device) :
    (system.step json client .loop).answered = system.answered := by
  simp only [System.step]
  split
  · unfold System.connect
    split <;> rfl
  · unfold System.drain
    split <;> rfl

/-- The answers along a run are honest exactly if there is room throughout. -/
theorem Conserves.honest_iff {json : MgJson} {system : System Device}
    (conserves : Conserves json system)
    (honest : ∀ answer ∈ system.answered, answer.reply = queuedReply →
      answer.pushed = true)
    (client : IModbusClient Device) (steps : List Step) :
    (∀ answer ∈ (system.run json client steps).answered,
        answer.reply = queuedReply → answer.pushed = true) ↔
      RoomThroughout json client system steps := by
  induction steps using List.reverseRecOn with
  | nil =>
      refine iff_of_true honest ?_
      intro earlier request later split
      cases earlier <;> cases split
  | append_singleton steps step ih =>
      rw [System.run_append, roomThroughout_append, ← ih]
      cases step with
      | loop =>
          rw [System.loop_answered]
          refine (and_iff_left ?_).symm
          intro request impossible
          cases impossible
      | request request =>
          rcases (conserves.run client steps).respond request with
            ⟨answer, added, rfl, consistent, -, asked⟩
          rw [System.step, added, List.forall_mem_append,
            List.forall_mem_singleton]
          refine and_congr_right fun _ => ?_
          constructor
          · rintro answered _ ⟨⟩ asks
            rcases asked asks with ⟨pushed, success⟩
            rw [answered success] at pushed
            exact of_decide_eq_true pushed.symm
          · intro room success
            have asks := consistent.valid success
            rw [(asked asks).1]
            exact decide_eq_true (room answer.request rfl asks)

/--
A success is a promise that the command is delivered exactly in the runs in
which fewer than fifteen commands wait whenever a valid request comes.
-/
theorem delivered_iff_room (json : MgJson) (client : IModbusClient Device)
    (loop : ControlLoop) (device : Device) (steps : List Step) :
    Delivered json
        ((System.start client loop device).run json client steps) ↔
      RoomThroughout json client (System.start client loop device) steps := by
  have conserves := System.start_conserves json client loop device
  rw [(conserves.run client steps).delivered_iff]
  exact conserves.honest_iff (List.forall_mem_nil _) client steps

/-! ## Sixteen requests while the loop is busy -/

/-- The getters on one body, which asks for 45 degrees. -/
def temperatureJson : MgJson where
  getNum body path :=
    if body = "\x7b\"temperature\":45\x7d" ∧ path = "$.temperature" then
      some 45
    else
      none
  getStr _ _ := none
  getLong _ _ default := default

def temperatureRequest : Request where
  api := .setDhw
  body := "\x7b\"temperature\":45\x7d"

theorem temperatureRequest_valid :
    (temperatureRequest.command temperatureJson).isSome := by
  decide +kernel

/-- The last of the requests is answered with success and lost. -/
theorem sixteenth_command_lost :
    ¬ Delivered temperatureJson
      ((System.start registerFile {} fun _ => 0).run temperatureJson
        registerFile
        (List.replicate 16 (.request temperatureRequest))) := by
  intro delivered
  have room := ((System.start_conserves temperatureJson registerFile {}
    fun _ => 0).honest_iff (List.forall_mem_nil _) registerFile _).mp
      delivered.2
  have waiting := room (List.replicate 15 (.request temperatureRequest))
    temperatureRequest [] (by decide +kernel) temperatureRequest_valid
  exact absurd waiting (by decide +kernel)

end Windmi.Web
