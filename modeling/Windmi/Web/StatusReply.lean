import Windmi.Core.StatusQueueCalls
import Windmi.Library.Json

/-!
# The reply to a status request

`apiStatusHandler` of `src/web/WebServer.cpp` with the text that it prints.  It
fits into the buffer whatever the snapshot is, and a reader of JSON finds the
snapshot in it, to the decimals of the format.  The server keeps the last
snapshot it has found, and that is the newest one.
-/

namespace Windmi.Web

open Windmi.Core
open Windmi.Library
open Windmi.Library.Json

/-! ## The text -/

/-- `mode_to_string` -/
def modeToString (mode : Int) : String :=
  match mode with
  | 0 => "off"
  | 1 => "cool+dhw"
  | 2 => "heat+dhw"
  | _ => "unknown"

/-- `status_to_string` -/
def statusToString (status : Int) : String :=
  match status with
  | 0 => "off"
  | 1 => "cool"
  | 2 => "heat"
  | 4 => "dhw"
  | 7 => "defrost"
  | 20 => "antifreeze"
  | _ => "unknown"

/-- The members of the format string, with their conversions. -/
def statusItems (status : StatusSnapshot) : List (String × Item) :=
  [("dhwTemperature", .fixed 1 status.dhwTankTemp),
    ("dhwTarget", .fixed 1 status.dhwTarget),
    ("heatingTemperature", .fixed 1 status.leavingWaterTemp),
    ("heatingTarget", .fixed 1 status.heatingTarget),
    ("outdoorTemperature", .fixed 1 status.outdoorTemp),
    ("leavingWaterTemperature", .fixed 1 status.leavingWaterTemp),
    ("enteringWaterTemperature", .fixed 1 status.enteringWaterTemp),
    ("mode", .text (modeToString status.runningMode).toList),
    ("runningStatus", .text (statusToString status.runningStatus).toList),
    ("priority",
      .text (if status.dhwPriority then "dhw" else "heating").toList),
    ("status",
      .text (if status.isRunning then "running" else "stopped").toList),
    ("deviceOnline", .truth status.deviceOnline),
    ("acCurrent", .fixed 2 status.acCurrent),
    ("dcCurrent", .fixed 2 status.dcCurrent),
    ("acVoltage", .fixed 1 status.acVoltage),
    ("dcVoltage", .fixed 1 status.dcVoltage),
    ("acPowerVA", .fixed 1 status.acPowerVa),
    ("acPowerW", .fixed 1 status.acPowerW),
    ("powerValid", .truth status.powerValid),
    ("compressorFrequency", .fixed 1 status.compressorFreq),
    ("waterFlow", .fixed 2 status.waterFlow),
    ("unitCapacityKw", .integer status.unitCapacityKw),
    ("actualCapacityOutput", .integer status.actualCapacityOutput),
    ("oduInputStatus", .integer status.oduInputStatus),
    ("compressorRuntimeHours", .integer status.compressorRuntimeH),
    ("pumpRuntimeHours", .integer status.pumpRuntimeH),
    ("heatOutputW", .fixed 1 status.heatOutputW),
    ("cop", .fixed 2 status.cop),
    ("copValid", .truth status.copValid),
    ("dhwValveStatus", .integer status.dhwValveStatus),
    ("dhwModeStatus", .integer status.dhwModeStatus),
    ("workingMode", .integer status.workingMode),
    ("occupancyMode", .integer status.occupancyMode)]

def statusMembers (status : StatusSnapshot) : List (List Char × Item) :=
  (statusItems status).map fun member => (member.1.toList, member.2)

/-- `snprintf` into a buffer, whose last byte is the terminator. -/
def snprintf (size : Nat) (text : List Char) : List Char :=
  text.take (size - 1)

/-- The text of the format, which may be too long for the buffer. -/
def statusText (status : StatusSnapshot) : List Char :=
  writeObject (statusMembers status) ++ ['\n']

def statusResponse (status : StatusSnapshot) : List Char :=
  snprintf 4096 (statusText status)

/-! ## The handler -/

/-- The server as far as it answers status requests. -/
structure StatusServer where
  statusQueue : StatusQueue := .create
  lastStatus : StatusSnapshot := {}
  /-- All replies so far, in order. -/
  replies : List (List Char) := []

inductive StatusStep where
  | publish (status : StatusSnapshot)
  | request

namespace StatusServer

/-- `apiStatusHandler` with its queue. -/
def apiStatusHandler (server : StatusServer) : StatusServer :=
  let lastStatus :=
    match server.statusQueue.latest with
    | none => server.lastStatus
    | some found => found.snapshot
  { server with
    lastStatus := lastStatus
    replies := server.replies ++ [statusResponse lastStatus] }

def step (server : StatusServer) : StatusStep → StatusServer
  | .publish status =>
      { server with statusQueue := server.statusQueue.push status }
  | .request => server.apiStatusHandler

def run (steps : List StatusStep) : StatusServer :=
  steps.foldl step {}

end StatusServer

/-! ## The text is JSON -/

/-- A finite `float`, or an `int`. -/
def OfCType : Item → Prop
  | .fixed _ value => |value| < 2 ^ 128
  | .integer value => -2 ^ 31 ≤ value ∧ value < 2 ^ 31
  | .text _ => True
  | .truth _ => True

instance (item : Item) : Decidable (OfCType item) :=
  match item with
  | .fixed _ value => inferInstanceAs (Decidable (|value| < 2 ^ 128))
  | .integer value =>
      inferInstanceAs (Decidable (-2 ^ 31 ≤ value ∧ value < 2 ^ 31))
  | .text _ => inferInstanceAs (Decidable True)
  | .truth _ => inferInstanceAs (Decidable True)

/-- The numbers of a snapshot are of the types that the code has. -/
def Finite (status : StatusSnapshot) : Prop :=
  ∀ member ∈ statusItems status, OfCType member.2

instance (status : StatusSnapshot) : Decidable (Finite status) :=
  inferInstanceAs (Decidable (∀ member ∈ statusItems status, _))

/-- What a reader finds for a snapshot. -/
def statusFields (status : StatusSnapshot) : List Member :=
  (statusMembers status).map written

/-- The decimals which the format asks for. -/
def places : Item → Option Nat
  | .fixed places _ => some places
  | _ => none

/-- The text which is printed as it is. -/
def chars : Item → Option (List Char)
  | .text chars => some chars
  | _ => none

theorem statusItems_keys (status : StatusSnapshot) :
    (statusItems status).map Prod.fst = (statusItems {}).map Prod.fst :=
  rfl

theorem statusItems_places (status : StatusSnapshot) :
    (statusItems status).filterMap (fun member => places member.2) =
      (statusItems {}).filterMap fun member => places member.2 :=
  rfl

theorem statusItems_chars (status : StatusSnapshot) :
    (statusItems status).filterMap (fun member => chars member.2) =
      [(modeToString status.runningMode).toList,
        (statusToString status.runningStatus).toList,
        (if status.dhwPriority then "dhw" else "heating").toList,
        (if status.isRunning then "running" else "stopped").toList] :=
  rfl

/-- A word without escapes, of ten letters at most. -/
def Short (chars : List Char) : Prop :=
  chars.all isTextChar = true ∧ chars.length ≤ 10

instance (chars : List Char) : Decidable (Short chars) :=
  inferInstanceAs (Decidable (_ ∧ _))

theorem short_modeToString (mode : Int) :
    Short (modeToString mode).toList := by
  unfold modeToString
  split
  all_goals decide +kernel

theorem short_statusToString (status : Int) :
    Short (statusToString status).toList := by
  unfold statusToString
  split
  all_goals decide +kernel

theorem short_ite (condition : Bool) {first second : String}
    (one : Short first.toList) (two : Short second.toList) :
    Short (if condition then first else second).toList := by
  cases condition with
  | true => exact one
  | false => exact two

section

variable {status : StatusSnapshot} {member : String × Item}

theorem short_of_mem {text : List Char}
    (inside : member ∈ statusItems status)
    (item : member.2 = .text text) : Short text := by
  have among : text ∈ (statusItems status).filterMap
      fun member => chars member.2 := by
    refine List.mem_filterMap.mpr ⟨member, inside, ?_⟩
    rw [item]
    rfl
  rw [statusItems_chars] at among
  simp only [List.mem_cons, List.not_mem_nil, or_false] at among
  rcases among with rfl | rfl | rfl | rfl
  · exact short_modeToString _
  · exact short_statusToString _
  · exact short_ite _ (by decide +kernel) (by decide +kernel)
  · exact short_ite _ (by decide +kernel) (by decide +kernel)

theorem places_of_mem {count : Nat} {value : ℚ}
    (inside : member ∈ statusItems status)
    (item : member.2 = .fixed count value) : 0 < count ∧ count ≤ 2 := by
  have among : count ∈ (statusItems status).filterMap
      fun member => places member.2 := by
    refine List.mem_filterMap.mpr ⟨member, inside, ?_⟩
    rw [item]
    rfl
  rw [statusItems_places] at among
  have all : ∀ count ∈ (statusItems {}).filterMap
      (fun member => places member.2), 0 < count ∧ count ≤ 2 := by
    decide +kernel
  exact all count among

theorem key_of_mem (inside : member ∈ statusItems status) :
    (∀ char ∈ member.1.toList, isTextChar char = true) ∧
      member.1.toList.length ≤ 24 := by
  have among : member.1 ∈ (statusItems status).map Prod.fst :=
    List.mem_map_of_mem inside
  rw [statusItems_keys] at among
  have all : ∀ key ∈ (statusItems {}).map Prod.fst,
      key.toList.all isTextChar = true ∧ key.toList.length ≤ 24 := by
    decide +kernel
  exact (all member.1 among).imp_left List.all_eq_true.mp

/-- Every member can be written. -/
theorem writable_of_mem (inside : member ∈ statusItems status) :
    Writable (member.1.toList, member.2) where
  key := (key_of_mem inside).1
  plain := by
    show member.2.Plain
    cases item : member.2 with
    | fixed count value => exact (places_of_mem inside item).1
    | text text => exact List.all_eq_true.mp (short_of_mem inside item).1
    | integer value => trivial
    | truth value => trivial

/-- No number is longer than a float with two decimals can be. -/
theorem length_write_le (inside : member ∈ statusItems status)
    (finite : OfCType member.2) : member.2.write.length ≤ 43 := by
  cases item : member.2 with
  | fixed count value =>
      rw [item] at finite
      rcases places_of_mem inside item with ⟨some, most⟩
      have bound : |value| + 1 ≤ 10 ^ 39 := by
        have small : |value| < 2 ^ 128 := finite
        norm_num at small ⊢
        linarith
      have length := Decimal.length_fixed_le some (by norm_num) bound
      exact length.trans (by omega)
  | integer value =>
      rw [item] at finite
      have small : value.natAbs < 10 ^ 10 := by
        rcases finite with ⟨least, most⟩
        norm_num at least most ⊢
        omega
      exact (Decimal.length_integer_le (by norm_num) small).trans (by norm_num)
  | text text =>
      have short := (short_of_mem inside item).2
      simp only [Item.write, List.length_append, List.length_cons,
        List.length_nil]
      omega
  | truth value =>
      cases value with
      | true => decide
      | false => decide

end

/-- The buffer is large enough for every snapshot. -/
theorem length_statusText_lt {status : StatusSnapshot}
    (finite : Finite status) : (statusText status).length < 4096 := by
  have short : ∀ member ∈ statusMembers status,
      (writeMember member).length ≤ 70 := by
    intro member inside
    rcases List.mem_map.mp inside with ⟨item, among, rfl⟩
    have key := (key_of_mem among).2
    have value := length_write_le among (finite item among)
    simp only [writeMember, List.cons_append, List.length_append,
      List.length_cons]
    omega
  have length := length_writeObject_le short
  have count : (statusMembers status).length = 33 := rfl
  rw [count] at length
  rw [statusText, List.length_append, List.length_singleton]
  omega

/-- So nothing of the text is cut off. -/
theorem statusResponse_eq {status : StatusSnapshot}
    (finite : Finite status) : statusResponse status = statusText status :=
  List.take_of_length_le (Nat.le_of_lt_succ (length_statusText_lt finite))

/-- It is a JSON object with the snapshot in it. -/
theorem readObject_statusText (status : StatusSnapshot) :
    readObject (statusText status) = some (statusFields status) := by
  refine readObject_write (fun member inside => ?_) rfl
  rcases List.mem_map.mp inside with ⟨item, among, rfl⟩
  exact writable_of_mem among

/-! ## Runs -/

/-- The snapshots that a run publishes, in order. -/
def published (steps : List StatusStep) : List StatusSnapshot :=
  steps.filterMap fun step =>
    match step with
    | .publish status => some status
    | .request => none

/-- For each request, the newest snapshot that was published before it. -/
def newest (before : StatusSnapshot) : List StatusStep → List StatusSnapshot
  | [] => []
  | .publish status :: steps => newest status steps
  | .request :: steps => before :: newest before steps

/-- The newest snapshot is at the end of the queue, or there is none yet. -/
structure StatusServer.Shows (server : StatusServer)
    (status : StatusSnapshot) (count : Nat) : Prop where
  waiting : ∃ start model, server.statusQueue.Represents start model ∧
    model.pushes = count ∧ (model.items.getLast? = some status ∨
      model.items = [] ∧ server.lastStatus = status)

theorem StatusServer.shows_create : ({} : StatusServer).Shows {} 0 :=
  ⟨0, {}, StatusQueue.create_represents, rfl, Or.inr ⟨rfl, rfl⟩⟩

section

variable {server : StatusServer} {status before : StatusSnapshot}
  {count : Nat}

theorem StatusServer.Shows.publish (shows : server.Shows status count)
    (next : StatusSnapshot) :
    (server.step (.publish next)).Shows next (count + 1) := by
  rcases shows.waiting with ⟨start, model, represents, pushes, -⟩
  rcases represents.push next with ⟨later, pushed⟩
  refine ⟨later, _, pushed, congrArg (· + 1) pushes, Or.inl ?_⟩
  show (DropOldest.trim StatusQueue.bound (model.items ++ [next])).getLast? =
    some next
  have bounded : model.items.length ≤ 31 := represents.bounded
  rw [DropOldest.trim, List.getLast?_drop, if_neg, List.getLast?_concat]
  rw [List.length_append, List.length_singleton, StatusQueue.bound,
    StatusQueue.capacity]
  omega

/-- Below `2 ^ 32` pushes, `latest` finds the newest snapshot if there is one. -/
theorem StatusServer.Shows.lastStatus (shows : server.Shows status count)
    (few : count < 2 ^ 32) :
    (server.step .request).lastStatus = status := by
  rcases shows.waiting with ⟨start, model, represents, pushes, newest⟩
  have total := represents.total
  show (match server.statusQueue.latest with
    | none => server.lastStatus
    | some found => found.snapshot) = status
  unfold StatusQueue.latest
  by_cases missed : server.statusQueue.head ≥ server.statusQueue.tail
  · rw [if_pos missed]
    have empty : model.items = [] := by
      rcases represents.missing_iff.mp missed with empty | wrapped
      · exact empty
      · rw [pushes, Nat.mod_eq_of_lt few] at wrapped
        omega
    rcases newest with last | ⟨-, same⟩
    · rw [empty] at last
      cases last
    · exact same
  · rw [if_neg missed]
    have found := (represents.found missed).2
    rcases newest with last | ⟨empty, -⟩
    · exact Option.some.inj (found.symm.trans last)
    · rw [empty] at found
      cases found

theorem StatusServer.Shows.request (shows : server.Shows status count)
    (few : count < 2 ^ 32) : (server.step .request).Shows status count := by
  have shown := shows.lastStatus few
  rcases shows.waiting with ⟨start, model, represents, pushes, newest⟩
  refine ⟨start, model, represents, pushes, ?_⟩
  exact newest.imp_right fun none => ⟨none.1, shown⟩

theorem StatusServer.replies_publish (server : StatusServer)
    (next : StatusSnapshot) :
    (server.step (.publish next)).replies = server.replies := by
  show StatusServer.replies
    { server with statusQueue := server.statusQueue.push next } = _
  generalize server.statusQueue.push next = queue
  rfl

theorem StatusServer.replies_request (server : StatusServer) :
    (server.step .request).replies =
      server.replies ++ [statusResponse (server.step .request).lastStatus] :=
  rfl

theorem StatusServer.Shows.run (shows : server.Shows status count)
    {steps : List StatusStep}
    (few : count + (published steps).length < 2 ^ 32) :
    (steps.foldl StatusServer.step server).replies =
      server.replies ++ (newest status steps).map statusResponse := by
  induction steps generalizing server status count with
  | nil => exact (List.append_nil _).symm
  | cons step steps ih =>
      rw [List.foldl_cons]
      cases step with
      | publish next =>
          have length : (published (.publish next :: steps)).length =
              (published steps).length + 1 := rfl
          rw [length] at few
          rw [ih (shows.publish next) (by omega), server.replies_publish,
            newest]
      | request =>
          have length : (published (.request :: steps)).length =
              (published steps).length := rfl
          rw [length] at few
          have now : count < 2 ^ 32 := by omega
          rw [ih (shows.request now) few, server.replies_request,
            shows.lastStatus now, newest, List.map_cons, List.append_assoc,
            List.singleton_append]

/-- What a client can find was published, or is there from the beginning. -/
theorem mem_newest {steps : List StatusStep}
    (member : status ∈ newest before steps) :
    status = before ∨ status ∈ published steps := by
  induction steps generalizing before with
  | nil => cases member
  | cons step steps ih =>
      cases step with
      | publish next =>
          rcases ih member with rfl | later
          · exact Or.inr List.mem_cons_self
          · exact Or.inr (List.mem_cons_of_mem _ later)
      | request =>
          rcases List.mem_cons.mp member with rfl | later
          · exact Or.inl rfl
          · exact ih later

end

theorem finite_default : Finite {} := by
  decide +kernel

/--
A client that asks for the status finds the newest snapshot that the loop has
published, to the decimals of the format, as long as there are fewer than
`2 ^ 32` of them; before the first one it finds the snapshot of the constructor.
-/
theorem status_replies_newest (steps : List StatusStep)
    (few : (published steps).length < 2 ^ 32)
    (finite : ∀ status ∈ published steps, Finite status) :
    let replies := (StatusServer.run steps).replies
    replies = (newest {} steps).map statusText ∧
      (∀ reply ∈ replies, reply.length < 4096) ∧
      replies.map readObject =
        (newest {} steps).map fun status => some (statusFields status) := by
  intro replies
  have each : ∀ status ∈ newest {} steps, Finite status := by
    intro status member
    rcases mem_newest member with rfl | among
    · exact finite_default
    · exact finite status among
  have texts : replies = (newest {} steps).map statusText := by
    have sent := @StatusServer.Shows.run _ _ _ StatusServer.shows_create
      steps (by omega)
    rw [show replies = _ from sent, List.nil_append]
    exact List.map_congr_left fun status member =>
      statusResponse_eq (each status member)
  refine ⟨texts, fun reply member => ?_, ?_⟩
  · rw [texts] at member
    rcases List.mem_map.mp member with ⟨status, among, rfl⟩
    exact length_statusText_lt (each status among)
  · rw [texts, List.map_map]
    exact List.map_congr_left fun status _ => readObject_statusText status

/-- A request comes before the first snapshot, and two after it. -/
theorem status_replies_newest_three :
    let steps : List StatusStep := [.request,
      .publish { dhwTankTemp := 91 / 2 },
      .publish { dhwTankTemp := 93 / 2, isRunning := true }, .request,
      .request]
    let replies := (StatusServer.run steps).replies
    replies = (newest {} steps).map statusText ∧
      (∀ reply ∈ replies, reply.length < 4096) ∧
      replies.map readObject =
        (newest {} steps).map fun status => some (statusFields status) :=
  status_replies_newest [.request, .publish { dhwTankTemp := 91 / 2 },
    .publish { dhwTankTemp := 93 / 2, isRunning := true }, .request,
    .request] (by
      show 2 < 2 ^ 32
      norm_num) (by decide +kernel)

end Windmi.Web
