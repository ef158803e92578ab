import Windmi.Core.CmdQueue
import Windmi.Library.Rounding

/-!
# The handlers of the web server

The five handlers of `src/web/WebServer.cpp` which accept a setting.  All of
them refuse while the server shuts down and refuse an empty body; then each
validates its own field, builds a command and pushes it.  The JSON getters are
those of the HTTP library and are a parameter.
-/

namespace Windmi.Web

open Windmi.Core
open Windmi.Library

/-! ## JSON getters, conversions and replies -/

/-- The getters of the HTTP library, on a body and a path. -/
structure MgJson where
  /-- `mg_json_get_num`, unless it returns less than 1. -/
  getNum : String → String → Option ℚ
  /-- `mg_json_get_str`, unless it returns a null pointer. -/
  getStr : String → String → Option String
  /-- `mg_json_get_long`, with its default. -/
  getLong : String → String → Int → Int

/-- `static_cast<int>` of a long. -/
def toInt (value : Int) : Int :=
  (BitVec.ofInt 32 value).toInt

/-- `strncmp` of a text with all of another one. -/
def startsWith (start text : String) : Bool :=
  start.toList.isPrefixOf text.toList

structure Reply where
  status : Nat
  body : String
  deriving DecidableEq, Repr

def errorReply (status : Nat) (message : String) : Reply where
  status := status
  body := "\x7b\"error\":\"" ++ message ++ "\"\x7d"

/-- The reply to every request that gets as far as the queue. -/
def queuedReply : Reply where
  status := 202
  body :=
    "\x7b\"success\":true,\"verified\":false,\"message\":\"Command queued\"\x7d"

/-! ## Validation -/

def parseTemperature (json : MgJson) (type : CommandType)
    (minimum maximum : ℚ) (body : String) : Except Reply Command :=
  match json.getNum body "$.temperature" with
  | none => .error (errorReply 400 "Missing or invalid temperature")
  | some temperature =>
      if temperature < minimum ∨ temperature > maximum then
        .error (errorReply 422 "Temperature out of range")
      else
        .ok { type := type, floatVal := toFloat temperature }

def parseDhw (json : MgJson) : String → Except Reply Command :=
  parseTemperature json .setDhwTemp dhwTempMin dhwTempMax

def parseHeating (json : MgJson) : String → Except Reply Command :=
  parseTemperature json .setHeatingTemp heatingTempMin heatingTempMax

/-- Only the beginning of the text is compared. -/
def parsePriority (json : MgJson) (body : String) : Except Reply Command :=
  match json.getStr body "$.priority" with
  | none => .error (errorReply 400 "Missing or invalid priority")
  | some priority =>
      if startsWith "dhw" priority then
        .ok { type := .setPriority, intVal := 1 }
      else if startsWith "heating" priority then
        .ok { type := .setPriority, intVal := 0 }
      else
        .error (errorReply 422 "Invalid priority value")

/-- The field `priority` is read too, but only logged. -/
def parseMode (json : MgJson) (body : String) : Except Reply Command :=
  let mode := json.getLong body "$.mode" (-1)
  if mode = -1 then
    .error (errorReply 400 "Missing mode parameter")
  else
    .ok { type := .setRunningMode, intVal := toInt mode }

def parseOccupancy (json : MgJson) (body : String) : Except Reply Command :=
  let mode := json.getLong body "$.mode" (-1)
  if mode < 0 ∨ mode > 2 then
    .error
      (errorReply 422 "Invalid occupancy mode (0=Away, 1=Sleep, 2=Home)")
  else
    .ok { type := .setOccupancyMode, intVal := toInt mode }

/-! ## Handlers -/

structure WebServer where
  shuttingDown : Bool := false
  /-- `cmd_queue_`, unless it is null. -/
  cmdQueue : Option CmdQueue

/-- What a handler answers, its variable `pushed` and the server after it. -/
structure Handled where
  reply : Reply
  pushed : Bool
  server : WebServer

/-- The result of the push is logged and decides on the wake-up only. -/
def WebServer.enqueue (server : WebServer) (cmd : Command) : Handled :=
  match server.cmdQueue with
  | none => { reply := queuedReply, pushed := false, server := server }
  | some queue =>
      { reply := queuedReply
        pushed := (queue.push cmd).1
        server := { server with cmdQueue := some (queue.push cmd).2 } }

/-- The frame of the five handlers around their validation. -/
def WebServer.handle (server : WebServer) (body : String)
    (parsed : Except Reply Command) : Handled :=
  if server.shuttingDown then
    { reply := errorReply 503 "Server is shutting down"
      pushed := false
      server := server }
  else if body = "" then
    { reply := errorReply 400 "Empty request body"
      pushed := false
      server := server }
  else
    match parsed with
    | .error reply => { reply := reply, pushed := false, server := server }
    | .ok cmd => server.enqueue cmd

section

variable (json : MgJson) (server : WebServer) (body : String)

def WebServer.apiSetDhwHandler : Handled :=
  server.handle body (parseDhw json body)

def WebServer.apiSetHeatingHandler : Handled :=
  server.handle body (parseHeating json body)

def WebServer.apiSetPriorityHandler : Handled :=
  server.handle body (parsePriority json body)

def WebServer.apiSetModeHandler : Handled :=
  server.handle body (parseMode json body)

def WebServer.apiSetOccupancyHandler : Handled :=
  server.handle body (parseOccupancy json body)

end

/-! ## Requests -/

inductive Api where
  | setDhw
  | setHeating
  | setPriority
  | setMode
  | setOccupancy
  deriving DecidableEq, Repr

structure Request where
  api : Api
  body : String
  deriving DecidableEq, Repr

def WebServer.respond (json : MgJson) (server : WebServer)
    (request : Request) : Handled :=
  match request.api with
  | .setDhw => server.apiSetDhwHandler json request.body
  | .setHeating => server.apiSetHeatingHandler json request.body
  | .setPriority => server.apiSetPriorityHandler json request.body
  | .setMode => server.apiSetModeHandler json request.body
  | .setOccupancy => server.apiSetOccupancyHandler json request.body

def Request.parse (json : MgJson) (request : Request) :
    Except Reply Command :=
  match request.api with
  | .setDhw => parseDhw json request.body
  | .setHeating => parseHeating json request.body
  | .setPriority => parsePriority json request.body
  | .setMode => parseMode json request.body
  | .setOccupancy => parseOccupancy json request.body

/-- The command which a request asks for, if it passes all checks. -/
def Request.command (json : MgJson) (request : Request) : Option Command :=
  if request.body = "" then none else (request.parse json).toOption

theorem WebServer.respond_eq (json : MgJson) (server : WebServer)
    (request : Request) :
    server.respond json request =
      server.handle request.body (request.parse json) := by
  rcases request with ⟨api, body⟩
  cases api <;> rfl

theorem Request.command_eq_some {json : MgJson} {request : Request}
    {cmd : Command} :
    request.command json = some cmd ↔
      request.body ≠ "" ∧ request.parse json = .ok cmd := by
  unfold Request.command
  split
  case isTrue empty => simp [empty]
  case isFalse nonempty =>
    cases request.parse json with
    | error reply => simp [Except.toOption]
    | ok parsed => simp [Except.toOption, nonempty]

/-- A request which passes its checks is enqueued. -/
theorem WebServer.respond_of_command {json : MgJson} {server : WebServer}
    {request : Request} {cmd : Command}
    (running : server.shuttingDown = false)
    (asks : request.command json = some cmd) :
    server.respond json request = server.enqueue cmd := by
  rcases Request.command_eq_some.mp asks with ⟨nonempty, parsed⟩
  rw [server.respond_eq, parsed]
  simp only [WebServer.handle, running, Bool.false_eq_true, if_false,
    if_neg nonempty]

/-! ### Acceptance -/

/-- The range is checked before the conversion to a float. -/
theorem parseTemperature_ok {json : MgJson} {type : CommandType}
    {minimum maximum : ℚ} {body : String} {cmd : Command}
    (parsed : parseTemperature json type minimum maximum body = .ok cmd) :
    ∃ temperature, json.getNum body "$.temperature" = some temperature ∧
      minimum ≤ temperature ∧ temperature ≤ maximum ∧
        cmd = { type := type, floatVal := toFloat temperature } := by
  unfold parseTemperature at parsed
  split at parsed
  case h_1 => cases parsed
  case h_2 temperature found =>
    split at parsed
    case isTrue => cases parsed
    case isFalse inside =>
      cases parsed
      rcases not_or.mp inside with ⟨above, below⟩
      exact ⟨temperature, found, not_lt.mp above, not_lt.mp below, rfl⟩

theorem parsePriority_ok {json : MgJson} {body : String} {cmd : Command}
    (parsed : parsePriority json body = .ok cmd) :
    ∃ priority, json.getStr body "$.priority" = some priority ∧
      ((startsWith "dhw" priority = true ∧
          cmd = { type := .setPriority, intVal := 1 }) ∨
        startsWith "dhw" priority = false ∧
          startsWith "heating" priority = true ∧
          cmd = { type := .setPriority, intVal := 0 }) := by
  unfold parsePriority at parsed
  split at parsed
  case h_1 => cases parsed
  case h_2 priority found =>
    refine ⟨priority, found, ?_⟩
    split_ifs at parsed with dhw heating
    · cases parsed
      exact Or.inl ⟨dhw, rfl⟩
    · cases parsed
      exact Or.inr ⟨Bool.eq_false_iff.mpr dhw, heating, rfl⟩

theorem parseMode_ok {json : MgJson} {body : String} {cmd : Command}
    (parsed : parseMode json body = .ok cmd) :
    json.getLong body "$.mode" (-1) ≠ -1 ∧
      cmd =
        { type := .setRunningMode
          intVal := toInt (json.getLong body "$.mode" (-1)) } := by
  simp only [parseMode] at parsed
  split at parsed
  case isTrue => cases parsed
  case isFalse present =>
    cases parsed
    exact ⟨present, rfl⟩

theorem parseOccupancy_ok {json : MgJson} {body : String} {cmd : Command}
    (parsed : parseOccupancy json body = .ok cmd) :
    0 ≤ json.getLong body "$.mode" (-1) ∧
      json.getLong body "$.mode" (-1) ≤ 2 ∧
      cmd =
        { type := .setOccupancyMode
          intVal := toInt (json.getLong body "$.mode" (-1)) } := by
  simp only [parseOccupancy] at parsed
  split at parsed
  case isTrue => cases parsed
  case isFalse inside =>
    cases parsed
    rcases not_or.mp inside with ⟨above, below⟩
    exact ⟨not_lt.mp above, not_lt.mp below, rfl⟩

/-! ### Refusals -/

def Reply.ClientError (reply : Reply) : Prop :=
  400 ≤ reply.status ∧ reply.status < 500

theorem errorReply_clientError {status : Nat}
    (code : 400 ≤ status ∧ status < 500) (message : String) :
    (errorReply status message).ClientError :=
  code

theorem parseTemperature_error {json : MgJson} {type : CommandType}
    {minimum maximum : ℚ} {body : String} {reply : Reply}
    (failed : parseTemperature json type minimum maximum body =
      .error reply) : reply.ClientError := by
  unfold parseTemperature at failed
  split at failed
  · cases failed
    exact errorReply_clientError (by decide) _
  · split at failed <;> cases failed
    exact errorReply_clientError (by decide) _

theorem parsePriority_error {json : MgJson} {body : String} {reply : Reply}
    (failed : parsePriority json body = .error reply) :
    reply.ClientError := by
  unfold parsePriority at failed
  split at failed
  · cases failed
    exact errorReply_clientError (by decide) _
  · split_ifs at failed
    cases failed
    exact errorReply_clientError (by decide) _

theorem parseMode_error {json : MgJson} {body : String} {reply : Reply}
    (failed : parseMode json body = .error reply) : reply.ClientError := by
  simp only [parseMode] at failed
  split at failed <;> cases failed
  exact errorReply_clientError (by decide) _

theorem parseOccupancy_error {json : MgJson} {body : String}
    {reply : Reply} (failed : parseOccupancy json body = .error reply) :
    reply.ClientError := by
  simp only [parseOccupancy] at failed
  split at failed <;> cases failed
  exact errorReply_clientError (by decide) _

theorem Request.parse_error {json : MgJson} {request : Request}
    {reply : Reply} (failed : request.parse json = .error reply) :
    reply.ClientError := by
  rcases request with ⟨api, body⟩
  cases api with
  | setDhw => exact parseTemperature_error failed
  | setHeating => exact parseTemperature_error failed
  | setPriority => exact parsePriority_error failed
  | setMode => exact parseMode_error failed
  | setOccupancy => exact parseOccupancy_error failed

/-- Every other request is refused with an error, and has no effect. -/
theorem WebServer.respond_refused {json : MgJson} {server : WebServer}
    {request : Request} (running : server.shuttingDown = false)
    (asks : request.command json = none) :
    (server.respond json request).reply.ClientError ∧
      (server.respond json request).pushed = false ∧
      (server.respond json request).server = server := by
  rw [server.respond_eq]
  unfold Request.command at asks
  simp only [WebServer.handle, running, Bool.false_eq_true, if_false]
  split
  case isTrue empty =>
    exact ⟨errorReply_clientError (by decide) _, rfl, rfl⟩
  case isFalse nonempty =>
    rw [if_neg nonempty] at asks
    cases parsed : request.parse json with
    | error reply => exact ⟨Request.parse_error parsed, rfl, rfl⟩
    | ok cmd =>
        rw [parsed] at asks
        cases asks

end Windmi.Web
