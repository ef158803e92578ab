import Windmi.Web.Domains
import Windmi.Web.PageRuns

/-!
# The requests of the page

What `JSON.stringify` makes of the requests, and the commands that the handlers
make of them.  The handlers refuse none of them, for the page sends a mode of
its buttons or a temperature within the bounds of the server only.
-/

namespace Windmi.Web

open Windmi.Core
open Windmi.Library

/-! ## Texts and commands -/

def TargetName.api : TargetName → Api
  | .dhw => .setDhw
  | .heating => .setHeating

def TargetName.type : TargetName → CommandType
  | .dhw => .setDhwTemp
  | .heating => .setHeatingTemp

def occupancyBody (mode : Int) : String :=
  "\x7b\"mode\":" ++ toString mode ++ "\x7d"

/-- The text of a number is that of the JavaScript engine. -/
def temperatureBody (number : ℚ → String) (temperature : ℚ) : String :=
  "\x7b\"temperature\":" ++ number temperature ++ "\x7d"

/-- What `apiPost` sends. -/
def Post.request (number : ℚ → String) : Post → Request
  | .mode selected => setWorkingMode selected
  | .occupancy selected =>
      { api := .setOccupancy, body := occupancyBody selected }
  | .target name temperature =>
      { api := name.api, body := temperatureBody number temperature }

/-- The command that is meant. -/
def Post.command : Post → Command
  | .mode selected =>
      { type := .setRunningMode, intVal := backendMode selected }
  | .occupancy selected => { type := .setOccupancyMode, intVal := selected }
  | .target name temperature =>
      { type := name.type, floatVal := toFloat temperature }

/-- Only a request for a mode is about the mode. -/
theorem Post.quiet {post : Post} (other : ∀ mode, post ≠ .mode mode) :
    Quiet post.command := by
  cases post with
  | mode selected => exact absurd rfl (other selected)
  | occupancy selected => exact ⟨nofun, nofun⟩
  | target name temperature => cases name <;> exact ⟨nofun, nofun⟩

/-- The getter finds in the text what the page has put there. -/
def Post.ReadBy (number : ℚ → String) (json : MgJson) : Post → Prop
  | .mode selected =>
      json.getLong (setWorkingMode selected).body "$.mode" (-1) =
        backendMode selected
  | .occupancy selected =>
      json.getLong (occupancyBody selected) "$.mode" (-1) = selected
  | .target _ temperature =>
      json.getNum (temperatureBody number temperature) "$.temperature" =
        some temperature

instance (number : ℚ → String) (json : MgJson) (post : Post) :
    Decidable (post.ReadBy number json) :=
  match post with
  | .mode _ => inferInstanceAs (Decidable (_ = _))
  | .occupancy _ => inferInstanceAs (Decidable (_ = _))
  | .target _ _ => inferInstanceAs (Decidable (_ = _))

/-! ## Acceptance -/

theorem append_ne_empty {start rest : String} (nonempty : start ≠ "") :
    start ++ rest ≠ "" := by
  intro empty
  exact nonempty (String.append_eq_empty_iff.mp empty).1

theorem Post.body_ne_empty (number : ℚ → String) (post : Post) :
    (post.request number).body ≠ "" := by
  cases post with
  | mode selected =>
      exact append_ne_empty (append_ne_empty (append_ne_empty
        (append_ne_empty (by decide))))
  | occupancy selected =>
      exact append_ne_empty (append_ne_empty (by decide))
  | target name temperature =>
      exact append_ne_empty (append_ne_empty (by decide))

theorem backendMode_range {mode : Int} (lower : 0 ≤ mode)
    (upper : mode ≤ 4) : 0 ≤ backendMode mode ∧ backendMode mode ≤ 3 := by
  rcases mode_cases lower upper with rfl | rfl | rfl | rfl | rfl <;> decide

/-- The bounds of the page are those of the handlers. -/
theorem TargetName.parse (json : MgJson) (name : TargetName)
    (body : String) :
    Request.parse json { api := name.api, body := body } =
      parseTemperature json name.type name.minimum name.maximum body := by
  cases name <;> rfl

section

variable {number : ℚ → String} {json : MgJson}

theorem parse_mode {mode : Int}
    (read : (Post.mode mode).ReadBy number json) (lower : 0 ≤ mode)
    (upper : mode ≤ 4) :
    (setWorkingMode mode).parse json =
      .ok { type := .setRunningMode, intVal := backendMode mode } := by
  have range := backendMode_range lower upper
  show parseMode json (setWorkingMode mode).body = _
  unfold parseMode
  rw [show json.getLong _ _ _ = backendMode mode from read]
  have present : backendMode mode ≠ -1 := by
    intro missing
    rw [missing] at range
    exact absurd range.1 (by decide)
  simp only [present, if_false, toInt_of_small range.1 range.2]

theorem parse_occupancy {mode : Int}
    (read : (Post.occupancy mode).ReadBy number json) (lower : 0 ≤ mode)
    (upper : mode ≤ 2) :
    parseOccupancy json (occupancyBody mode) =
      .ok { type := .setOccupancyMode, intVal := mode } := by
  have inside : ¬ (mode < 0 ∨ mode > 2) :=
    not_or.mpr ⟨not_lt.mpr lower, not_lt.mpr upper⟩
  have small := toInt_of_small lower (upper.trans (by decide))
  unfold parseOccupancy
  rw [show json.getLong _ _ _ = mode from read]
  simp only [inside, if_false, small]

theorem parse_target {name : TargetName} {temperature : ℚ}
    (read : (Post.target name temperature).ReadBy number json)
    (lower : name.minimum ≤ temperature)
    (upper : temperature ≤ name.maximum) :
    parseTemperature json name.type name.minimum name.maximum
        (temperatureBody number temperature) =
      .ok { type := name.type, floatVal := toFloat temperature } := by
  have inside : ¬ (temperature < name.minimum ∨ temperature > name.maximum) :=
    not_or.mpr ⟨not_lt.mpr lower, not_lt.mpr upper⟩
  unfold parseTemperature
  rw [show json.getNum _ _ = some temperature from read]
  simp only [inside, if_false]

/-- The handlers accept a legal request, and make the command of it. -/
theorem Post.Legal.command {post : Post} (legal : post.Legal)
    (read : post.ReadBy number json) :
    (post.request number).command json = some post.command := by
  apply Request.command_eq_some.mpr
  refine ⟨post.body_ne_empty number, ?_⟩
  cases post with
  | mode selected => exact parse_mode read legal.1 legal.2
  | occupancy selected => exact parse_occupancy read legal.1 legal.2
  | target name temperature =>
      exact (name.parse json _).trans (parse_target read legal.1 legal.2)

end

-- The request for mode 4 says `heating`, but its command is that of mode 3.
example : (Post.mode 4).command = (Post.mode 3).command :=
  rfl

end Windmi.Web
