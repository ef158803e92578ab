import Mathlib.Data.Rat.Lemmas
import Mathlib.Logic.Function.Basic
import Windmi.Library.Runs
import Windmi.Web.App
import Windmi.Web.StatusReply

/-!
# The state of the page

The script `static/app.js` between two events: what it displays, what the user
has chosen and the server has not confirmed yet, the timers that end such a
choice, the requests on their way and the fetch of the status.  Anything may
happen next: a click, an entry, an answer, a timer that is due.
-/

namespace Windmi.Web

open Windmi.Core
open Windmi.Library
open Windmi.Library.Json

/-! ## The reply -/

/-- The fields of the status reply which end up in the state of the page. -/
structure PageStatus where
  reply : StatusReply
  dhwTarget : ℚ
  heatingTarget : ℚ
  occupancyMode : Int
  deriving DecidableEq

/-- A snapshot as the page gets it, with the decimals of the text. -/
def pageStatus (status : StatusSnapshot) : PageStatus where
  reply := apiStatus status
  dhwTarget := Decimal.fixedValue 1 status.dhwTarget
  heatingTarget := Decimal.fixedValue 1 status.heatingTarget
  occupancyMode := status.occupancyMode

def numberOf (members : List Member) (key : String) : Option ℚ :=
  match members.lookup key.toList with
  | some (.number value) => some value
  | _ => none

def textOf (members : List Member) (key : String) : Option String :=
  match members.lookup key.toList with
  | some (.text chars) => some (String.ofList chars)
  | _ => none

/-- What `updateUI` reads in the reply; the integers are written as such. -/
def receivedStatus (members : List Member) : Option PageStatus := do
  let workingMode ← numberOf members "workingMode"
  let priority ← textOf members "priority"
  let dhwTarget ← numberOf members "dhwTarget"
  let heatingTarget ← numberOf members "heatingTarget"
  let occupancyMode ← numberOf members "occupancyMode"
  return {
    reply := { workingMode := workingMode.num, priority := priority }
    dhwTarget := dhwTarget
    heatingTarget := heatingTarget
    occupancyMode := occupancyMode.num }

theorem lookup_written (items : List (String × Item)) (key : String) :
    ((items.map fun member => (member.1.toList, member.2)).map
        written).lookup key.toList =
      (items.lookup key).map Item.scalar := by
  induction items with
  | nil => rfl
  | cons member items ih =>
      rcases member with ⟨name, item⟩
      simp only [List.map_cons, written, List.lookup_cons, ih]
      by_cases same : key = name
      · subst same
        rw [beq_self_eq_true, beq_self_eq_true]
        rfl
      · have different : key.toList ≠ name.toList :=
          fun equal => same (String.toList_inj.mp equal)
        rw [beq_false_of_ne different, beq_false_of_ne same]

theorem lookup_statusFields (status : StatusSnapshot) (key : String) :
    (statusFields status).lookup key.toList =
      ((statusItems status).lookup key).map Item.scalar :=
  lookup_written (statusItems status) key

/-- The page finds the snapshot in the text that is sent to it. -/
theorem receivedStatus_statusFields (status : StatusSnapshot) :
    receivedStatus (statusFields status) = some (pageStatus status) := by
  simp only [receivedStatus, numberOf, textOf, lookup_statusFields]
  simp [statusItems, List.lookup_cons, Item.scalar]
  rfl

/-! ## The state -/

inductive TargetName where
  | dhw
  | heating
  deriving DecidableEq, Repr

/-- The bounds of the two click handlers, and of the inputs. -/
def TargetName.minimum : TargetName → ℚ
  | .dhw => 40
  | .heating => 25

def TargetName.maximum : TargetName → ℚ
  | .dhw => 63
  | .heating => 63

def PageStatus.target (status : PageStatus) : TargetName → ℚ
  | .dhw => status.dhwTarget
  | .heating => status.heatingTarget

inductive Occupancy where
  | away
  | sleep
  | home
  deriving DecidableEq, Repr

/-- `modeMap` of `setOccupancyMode` -/
def Occupancy.mode : Occupancy → Int
  | .away => 0
  | .sleep => 1
  | .home => 2

/-- `serverOccupancy` of `updateUI` -/
def serverOccupancy (occupancyMode : Int) : Occupancy :=
  match occupancyMode with
  | 0 => .away
  | 1 => .sleep
  | _ => .home

/-- `pendingMode`, `pendingDhwTarget` or `pendingHeatingTarget` -/
inductive Slot where
  | mode
  | target (name : TargetName)
  deriving DecidableEq, Repr

/-- The second argument of `setTimeout`, in milliseconds. -/
def Slot.delay : Slot → Nat
  | .mode => 10000
  | .target _ => 15000

/-- A timer that has not fired, and the slot which it sets to null. -/
structure Timer where
  slot : Slot
  deadline : Nat
  deriving DecidableEq, Repr

/-- The controls of a target temperature. -/
structure Target where
  pending : Option ℚ := none
  /-- `parseFloat` of what stands in the input, unless that is not a number. -/
  input : Option ℚ
  /-- The timer of the click whose request is on its way: until the answer the
  button is disabled. -/
  posting : Option Timer := none

/-- `fetchStatus` with the attempts of `apiGet`; it is idle if `isUpdating` is
false. -/
inductive Fetch where
  | idle
  | asked (retries : Nat)
  | delayed (retries deadline : Nat)
  deriving DecidableEq, Repr

/-- What is given to `apiPost`. -/
inductive Post where
  | mode (mode : Int)
  | occupancy (mode : Int)
  | target (name : TargetName) (temperature : ℚ)
  deriving DecidableEq

/-- The page, with the values that the document starts with. -/
structure Page where
  now : Nat := 0
  timers : List Timer := []
  pendingMode : Option Int := none
  currentMode : Int := 3
  currentPriority : String := "dhw"
  currentOccupancy : Occupancy := .home
  targets : TargetName → Target := fun name =>
    match name with
    | .dhw => { input := some 50 }
    | .heating => { input := some 40 }
  /-- The requests of `setWorkingMode` without an answer. -/
  modePosts : Nat := 0
  countdown : Int := 5
  /-- `init` fetches the status at once. -/
  fetch : Fetch := .asked 0
  /-- All requests which the page has sent, in order. -/
  posts : List Post := []

inductive ModeButton where
  | mode0Btn
  | mode1Btn
  | mode2Btn
  | mode3Btn
  | mode4Btn
  deriving DecidableEq, Repr

def ModeButton.mode : ModeButton → Int
  | .mode0Btn => 0
  | .mode1Btn => 1
  | .mode2Btn => 2
  | .mode3Btn => 3
  | .mode4Btn => 4

inductive PageEvent where
  | wait (duration : Nat)
  | mode (button : ModeButton)
  | power
  | occupancy (mode : Occupancy)
  | enter (name : TargetName) (value : Option ℚ)
  | set (name : TargetName)
  /-- The answer to a request of the slot, or its failure. -/
  | posted (slot : Slot) (ok : Bool)
  /-- The interval of the countdown. -/
  | second
  /-- The result of the attempt that is on its way, unless it failed. -/
  | attempt (result : Option PageStatus)
  /-- The delay before the next attempt is over. -/
  | retry
  | timeout (timer : Timer)

namespace Page

/-! ## Timers -/

def setTimeout (page : Page) (slot : Slot) : Page :=
  { page with
    timers :=
      page.timers ++ [{ slot := slot, deadline := page.now + slot.delay }] }

def clearTimeout (page : Page) (timer : Timer) : Page :=
  { page with timers := page.timers.erase timer }

def setTarget (page : Page) (name : TargetName) (target : Target) : Page :=
  { page with targets := Function.update page.targets name target }

/-- The variable of the slot is set to null. -/
def release (page : Page) : Slot → Page
  | .mode => { page with pendingMode := none }
  | .target name =>
      page.setTarget name { page.targets name with pending := none }

/-! ## Clicks -/

def setWorkingMode (page : Page) (mode : Int) : Page :=
  if mode = page.currentMode then page
  else
    { page.setTimeout .mode with
      currentMode := mode
      pendingMode := some mode
      currentPriority := modePriority mode
      modePosts := page.modePosts + 1
      posts := page.posts ++ [.mode mode] }

/-- The power button asks for the default mode or for none. -/
def powerMode (page : Page) : Int :=
  if page.currentMode = 0 then 3 else 0

def setOccupancyMode (page : Page) (mode : Occupancy) : Page :=
  if mode = page.currentOccupancy then page
  else
    { page with
      currentOccupancy := mode
      posts := page.posts ++ [.occupancy mode.mode] }

/-- What a click on the button of the target sends, unless it is disabled or
the entry is refused. -/
def accepted (page : Page) (name : TargetName) : Option ℚ :=
  if (page.targets name).posting.isSome then none
  else
    (page.targets name).input.filter fun temperature =>
      ¬ (temperature < name.minimum ∨ temperature > name.maximum)

/-- The click handlers of `setDhwBtn` and `setHeatingBtn` up to `apiPost`. -/
def set (page : Page) (name : TargetName) : Page :=
  match page.accepted name with
  | none => page
  | some temperature =>
      let timer : Timer :=
        { slot := .target name
          deadline := page.now + Slot.delay (.target name) }
      { (page.setTimeout (.target name)).setTarget name
          { page.targets name with
            pending := some temperature
            posting := some timer } with
        posts := page.posts ++ [.target name temperature] }

/-! ## Answers -/

/-- The rest of the handlers, behind `apiPost`. -/
def posted (page : Page) (slot : Slot) (ok : Bool) : Page :=
  match slot with
  | .mode =>
      if page.modePosts = 0 then page
      else
        let answered := { page with modePosts := page.modePosts - 1 }
        if ok then answered else answered.release .mode
  | .target name =>
      match (page.targets name).posting with
      | none => page
      | some timer =>
          let answered := page.setTarget name
            { page.targets name with posting := none }
          if ok then answered
          else (answered.release (.target name)).clearTimeout timer

/-- `updateUI`, as far as it is about the mode. -/
def updateMode (page : Page) (mode : Int) : Page :=
  let updated :=
    match page.pendingMode with
    | none => { page with currentMode := mode }
    | some pending =>
        if mode = pending then { page with pendingMode := none } else page
  { updated with currentPriority := modePriority updated.currentMode }

/-- `updateUI`, as far as it is about one target; the difference of the doubles
is exact where it is near 1. -/
def updateTarget (page : Page) (name : TargetName) (value : ℚ) : Page :=
  let pending := (page.targets name).pending.filter fun pending =>
    ¬ |value - pending| < 1
  let display := pending.getD value
  page.setTarget name
    { page.targets name with
      pending := pending
      input :=
        if name.minimum ≤ display ∧ display ≤ name.maximum then some display
        else (page.targets name).input }

def updateUI (page : Page) (status : PageStatus) : Page :=
  let updated :=
    ((page.updateMode (displayMode status.reply)).updateTarget .dhw
      status.dhwTarget).updateTarget .heating status.heatingTarget
  { updated with currentOccupancy := serverOccupancy status.occupancyMode }

/-- The handler of errors in `fetchStatus`. -/
def fail (page : Page) : Page :=
  ((page.release (.target .dhw)).release (.target .heating)).release .mode

/-- The guard of `fetchStatus`, and its first attempt. -/
def fetchStatus (page : Page) : Page :=
  if page.fetch = .idle then { page with fetch := .asked 0 } else page

/-- The callback of the interval in `startCountdown`. -/
def second (page : Page) : Page :=
  if page.countdown - 1 ≤ 0 then { page.fetchStatus with countdown := 5 }
  else { page with countdown := page.countdown - 1 }

/-- `apiGet`, from the result of an attempt to the next one or to the end. -/
def attempt (page : Page) (result : Option PageStatus) : Page :=
  match page.fetch with
  | .asked retries =>
      match result with
      | some status => { page.updateUI status with fetch := .idle }
      | none =>
          if retries < 3 then
            { page with fetch := .delayed retries (page.now + 1000) }
          else
            { page.fail with fetch := .idle }
  | _ => page

def retry (page : Page) : Page :=
  match page.fetch with
  | .delayed retries deadline =>
      if deadline ≤ page.now then { page with fetch := .asked (retries + 1) }
      else page
  | _ => page

/-- A timer fires at its deadline or later. -/
def timeout (page : Page) (timer : Timer) : Page :=
  if timer ∈ page.timers ∧ timer.deadline ≤ page.now then
    (page.clearTimeout timer).release timer.slot
  else page

def step (page : Page) : PageEvent → Page
  | .wait duration => { page with now := page.now + duration }
  | .mode button => page.setWorkingMode button.mode
  | .power => page.setWorkingMode page.powerMode
  | .occupancy mode => page.setOccupancyMode mode
  | .enter name value =>
      page.setTarget name { page.targets name with input := value }
  | .set name => page.set name
  | .posted slot ok => page.posted slot ok
  | .second => page.second
  | .attempt result => page.attempt result
  | .retry => page.retry
  | .timeout timer => page.timeout timer

def run (page : Page) (events : List PageEvent) : Page :=
  events.foldl step page

end Page

end Windmi.Web
