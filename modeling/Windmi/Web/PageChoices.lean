import Windmi.Web.Page

/-!
# The choices of the user

A choice that the page has sent stands until the server confirms it, another
one replaces it, something fails, or a timer of its slot fires.  What stands is
displayed whatever the server says; what the server says is displayed if
nothing stands.
-/

namespace Windmi.Web

open Windmi.Core
open Windmi.Library

inductive Choice where
  | mode (mode : Int)
  | target (name : TargetName) (temperature : ℚ)
  deriving DecidableEq

def Choice.slot : Choice → Slot
  | .mode _ => .mode
  | .target name _ => .target name

/-- The server has what was chosen. -/
def PageStatus.Confirms (status : PageStatus) : Choice → Prop
  | .mode mode => displayMode status.reply = mode
  | .target name temperature => |status.target name - temperature| < 1

namespace Page

def Holds (page : Page) : Choice → Prop
  | .mode mode => page.pendingMode = some mode
  | .target name temperature =>
      (page.targets name).pending = some temperature

/-- The mode that a click asks for. -/
def asks (page : Page) : PageEvent → Option Int
  | .mode button => some button.mode
  | .power => some page.powerMode
  | _ => none

/-- The event makes the choice, and a request for it is sent. -/
def Chooses (choice : Choice) (page : Page) (event : PageEvent) : Prop :=
  match choice with
  | .mode mode => page.asks event = some mode ∧ mode ≠ page.currentMode
  | .target name temperature =>
      event = .set name ∧ page.accepted name = some temperature

/-- A request of the slot fails, or the last attempt to get the status. -/
def Fails (slot : Slot) (page : Page) (event : PageEvent) : Prop :=
  (∃ retries, event = .attempt none ∧ page.fetch = .asked retries ∧
      3 ≤ retries) ∨
    event = .posted slot false ∧
      match slot with
      | .mode => page.modePosts ≠ 0
      | .target name => (page.targets name).posting.isSome

/-- A timer of the slot fires. -/
def Fires (slot : Slot) (page : Page) (event : PageEvent) : Prop :=
  ∃ timer ∈ page.timers, event = .timeout timer ∧ timer.slot = slot ∧
    timer.deadline ≤ page.now

/-- The page gets a status which confirms the choice. -/
def Confirmed (choice : Choice) (page : Page) (event : PageEvent) : Prop :=
  ∃ status retries, event = .attempt (some status) ∧
    page.fetch = .asked retries ∧ status.Confirms choice

/-- Something failed, the server has what was chosen, or there is a newer
choice. -/
def Overruled (choice : Choice) (page : Page) (event : PageEvent) : Prop :=
  Fails choice.slot page event ∨ Confirmed choice page event ∨
    ∃ other, other.slot = choice.slot ∧ Chooses other page event

/-- What ends a choice. -/
def Ends (choice : Choice) (page : Page) (event : PageEvent) : Prop :=
  Fires choice.slot page event ∨ Overruled choice page event

/-! ## Small steps -/

section

variable {page : Page} {choice : Choice}

/-- The pending values are all that matters. -/
theorem holds_congr {other : Page}
    (mode : page.pendingMode = other.pendingMode)
    (targets : ∀ name,
      (page.targets name).pending = (other.targets name).pending) :
    page.Holds choice ↔ other.Holds choice := by
  cases choice with
  | mode held => rw [Holds, Holds, mode]
  | target name temperature => rw [Holds, Holds, targets name]

theorem holds_release {slot : Slot} :
    (page.release slot).Holds choice ↔
      page.Holds choice ∧ choice.slot ≠ slot := by
  cases slot with
  | mode =>
      cases choice with
      | mode mode => simp [release, Holds, Choice.slot]
      | target name temperature => simp [release, Holds, Choice.slot]
  | target name =>
      cases choice with
      | mode mode => simp [release, setTarget, Holds, Choice.slot]
      | target other temperature =>
          by_cases same : other = name
          · subst same
            simp [release, setTarget, Holds, Choice.slot]
          · simp [release, setTarget, Holds, Choice.slot, same]

theorem holds_fail : ¬ page.fail.Holds choice := by
  rw [fail, holds_release, holds_release, holds_release]
  rintro ⟨⟨⟨-, dhw⟩, heating⟩, mode⟩
  cases choice with
  | mode other => exact mode rfl
  | target name temperature =>
      cases name with
      | dhw => exact dhw rfl
      | heating => exact heating rfl

theorem holds_setWorkingMode {mode : Int} :
    (page.setWorkingMode mode).Holds choice ↔
      (mode ≠ page.currentMode ∧ choice = .mode mode) ∨
        (page.Holds choice ∧
          ¬ (choice.slot = .mode ∧ mode ≠ page.currentMode)) := by
  unfold setWorkingMode
  by_cases same : mode = page.currentMode
  · simp [same]
  · rw [if_neg same]
    cases choice with
    | mode other => simp [Holds, Choice.slot, same, eq_comm]
    | target name temperature =>
        simp [Holds, setTimeout, Choice.slot, same]

theorem holds_setOccupancyMode {mode : Occupancy} :
    (page.setOccupancyMode mode).Holds choice ↔ page.Holds choice := by
  unfold setOccupancyMode
  split <;> cases choice <;> exact Iff.rfl

theorem holds_set {name : TargetName} :
    (page.set name).Holds choice ↔
      (∃ temperature, page.accepted name = some temperature ∧
          choice = .target name temperature) ∨
        (page.Holds choice ∧
          ¬ (choice.slot = .target name ∧ (page.accepted name).isSome)) := by
  unfold set
  cases accepted : page.accepted name with
  | none => simp
  | some temperature =>
      cases choice with
      | mode mode => simp [Holds, setTimeout, setTarget, Choice.slot]
      | target other held =>
          by_cases same : other = name
          · subst same
            simp [Holds, setTimeout, setTarget, Choice.slot, eq_comm]
          · simp [Holds, setTimeout, setTarget, Choice.slot, same]

/-- The input and the button of a target say nothing about the choice. -/
theorem holds_setTarget {name : TargetName} {target : Target}
    (same : target.pending = (page.targets name).pending) :
    (page.setTarget name target).Holds choice ↔ page.Holds choice := by
  cases choice with
  | mode mode => exact Iff.rfl
  | target other temperature =>
      by_cases named : other = name
      · subst named
        simp [Holds, setTarget, same]
      · simp [Holds, setTarget, named]

theorem holds_clearTimeout {timer : Timer} :
    (page.clearTimeout timer).Holds choice ↔ page.Holds choice := by
  cases choice <;> exact Iff.rfl

theorem holds_fetchStatus :
    page.fetchStatus.Holds choice ↔ page.Holds choice := by
  unfold fetchStatus
  split <;> cases choice <;> exact Iff.rfl

theorem holds_second : page.second.Holds choice ↔ page.Holds choice := by
  unfold second
  split
  · exact (holds_congr rfl fun name => rfl).trans holds_fetchStatus
  · exact holds_congr rfl fun name => rfl

theorem holds_retry : page.retry.Holds choice ↔ page.Holds choice := by
  unfold retry
  split
  · split
    · exact holds_congr rfl fun name => rfl
    · exact Iff.rfl
  · exact Iff.rfl

theorem holds_updateMode {mode : Int} :
    (page.updateMode mode).Holds choice ↔
      page.Holds choice ∧ choice ≠ .mode mode := by
  unfold updateMode
  cases choice with
  | mode held =>
      cases pending : page.pendingMode with
      | none => simp [Holds, pending]
      | some other =>
          by_cases confirmed : mode = other
          · subst confirmed
            simp [Holds, pending, eq_comm]
          · have different : some other = some held →
                Choice.mode held ≠ .mode mode := by
              rintro ⟨⟩ ⟨⟩
              exact confirmed rfl
            simpa only [Holds, pending, confirmed, if_false] using
              (and_iff_left_of_imp different).symm
  | target name temperature =>
      simp only [Holds, ne_eq, reduceCtorEq, not_false_eq_true, and_true]
      split
      · exact Iff.rfl
      · split <;> exact Iff.rfl

theorem holds_updateTarget {name : TargetName} {value : ℚ} :
    (page.updateTarget name value).Holds choice ↔
      page.Holds choice ∧
        ∀ temperature, choice = .target name temperature →
          ¬ |value - temperature| < 1 := by
  unfold updateTarget
  cases choice with
  | mode mode => simp [Holds, setTarget]
  | target other held =>
      by_cases same : other = name
      · subst same
        simp [Holds, setTarget, Option.filter_eq_some_iff]
      · simp [Holds, setTarget, same]

theorem holds_updateUI {status : PageStatus} :
    (page.updateUI status).Holds choice ↔
      page.Holds choice ∧ ¬ status.Confirms choice := by
  have kept : (page.updateUI status).Holds choice ↔
      (((page.updateMode (displayMode status.reply)).updateTarget .dhw
        status.dhwTarget).updateTarget .heating
          status.heatingTarget).Holds choice := by
    cases choice <;> exact Iff.rfl
  rw [kept, holds_updateTarget, holds_updateTarget, holds_updateMode]
  cases choice with
  | mode mode => simp [PageStatus.Confirms, eq_comm]
  | target name temperature =>
      cases name with
      | dhw => simp [PageStatus.Confirms, PageStatus.target]
      | heating => simp [PageStatus.Confirms, PageStatus.target]

theorem fails_posted {slot other : Slot} {ok : Bool} :
    Fails other page (.posted slot ok) ↔
      other = slot ∧ ok = false ∧
        match slot with
        | .mode => page.modePosts ≠ 0
        | .target name => (page.targets name).posting.isSome := by
  constructor
  · rintro (⟨_, ⟨⟩, -⟩ | ⟨⟨⟩, waits⟩)
    exact ⟨rfl, rfl, waits⟩
  · rintro ⟨rfl, rfl, waits⟩
    exact Or.inr ⟨rfl, waits⟩

theorem holds_posted {slot : Slot} {ok : Bool} :
    (page.posted slot ok).Holds choice ↔
      page.Holds choice ∧
        ¬ Fails choice.slot page (.posted slot ok) := by
  rw [fails_posted]
  unfold posted
  cases slot with
  | mode =>
      by_cases unasked : page.modePosts = 0
      · simp [unasked]
      · cases ok with
        | true =>
            have kept : ({ page with
                modePosts := page.modePosts - 1 } : Page).Holds choice ↔
                  page.Holds choice :=
              holds_congr rfl fun name => rfl
            simpa [unasked] using kept
        | false =>
            have kept : ({ page with
                modePosts := page.modePosts - 1 } : Page).Holds choice ↔
                  page.Holds choice :=
              holds_congr rfl fun name => rfl
            simp [unasked, holds_release, kept]
  | target name =>
      dsimp only
      split
      case h_1 enabled => simp [enabled]
      case h_2 timer waits =>
        have kept := @holds_setTarget page choice name
          { page.targets name with posting := none } rfl
        cases ok with
        | true => simpa using kept
        | false =>
            simp only [Bool.false_eq_true, if_false, holds_clearTimeout,
              holds_release, kept, waits, Option.isSome_some, and_true, ne_eq]

theorem holds_attempt {result : Option PageStatus} :
    (page.attempt result).Holds choice ↔
      page.Holds choice ∧
        ¬ (Fails choice.slot page (.attempt result) ∨
          Confirmed choice page (.attempt result)) := by
  unfold attempt
  cases fetch : page.fetch with
  | idle => simp [Fails, Confirmed, fetch]
  | delayed retries deadline => simp [Fails, Confirmed, fetch]
  | asked retries =>
      cases result with
      | some status =>
          have kept : ({ page.updateUI status with
              fetch := .idle } : Page).Holds choice ↔
                (page.updateUI status).Holds choice :=
            holds_congr rfl fun name => rfl
          simpa [Fails, Confirmed, fetch, kept] using holds_updateUI
      | none =>
          by_cases again : retries < 3
          · have kept : ({ page with
                fetch := .delayed retries (page.now + 1000) } : Page).Holds
                  choice ↔ page.Holds choice :=
              holds_congr rfl fun name => rfl
            simpa [Fails, Confirmed, fetch, again] using kept
          · have kept : ({ page.fail with fetch := .idle } : Page).Holds
                choice ↔ page.fail.Holds choice :=
              holds_congr rfl fun name => rfl
            simp [Fails, Confirmed, fetch, again, kept, holds_fail,
              not_lt.mp again]

theorem holds_timeout {timer : Timer} :
    (page.timeout timer).Holds choice ↔
      page.Holds choice ∧ ¬ Fires choice.slot page (.timeout timer) := by
  have firing : Fires choice.slot page (.timeout timer) ↔
      (timer ∈ page.timers ∧ timer.deadline ≤ page.now) ∧
        timer.slot = choice.slot := by
    constructor
    · rintro ⟨_, member, ⟨⟩, slot, due⟩
      exact ⟨⟨member, due⟩, slot⟩
    · rintro ⟨⟨member, due⟩, slot⟩
      exact ⟨timer, member, rfl, slot, due⟩
  rw [firing]
  unfold timeout
  by_cases due : timer ∈ page.timers ∧ timer.deadline ≤ page.now
  · rw [if_pos due, holds_release, holds_clearTimeout]
    simp only [due, true_and, and_self, ne_eq, eq_comm]
  · simp [due]

theorem exists_chooses {slot : Slot} {event : PageEvent} :
    (∃ other, Choice.slot other = slot ∧ Chooses other page event) ↔
      match slot with
      | .mode =>
          ∃ mode, page.asks event = some mode ∧ mode ≠ page.currentMode
      | .target name => event = .set name ∧ (page.accepted name).isSome := by
  constructor
  · rintro ⟨other, rfl, chosen⟩
    cases other with
    | mode mode => exact ⟨mode, chosen⟩
    | target name temperature =>
        exact ⟨chosen.1, Option.isSome_iff_exists.mpr ⟨_, chosen.2⟩⟩
  · intro chosen
    cases slot with
    | mode =>
        rcases chosen with ⟨mode, asked⟩
        exact ⟨.mode mode, rfl, asked⟩
    | target name =>
        rcases Option.isSome_iff_exists.mp chosen.2 with ⟨temperature, found⟩
        exact ⟨.target name temperature, rfl, chosen.1, found⟩

theorem not_fires {slot : Slot} {event : PageEvent}
    (other : ∀ timer, event ≠ .timeout timer) : ¬ Fires slot page event := by
  rintro ⟨timer, -, fired, -⟩
  exact other timer fired

theorem not_fails {slot : Slot} {event : PageEvent}
    (attempt : event ≠ .attempt none)
    (posted : event ≠ .posted slot false) : ¬ Fails slot page event := by
  rintro (⟨-, failed, -⟩ | ⟨failed, -⟩)
  · exact attempt failed
  · exact posted failed

theorem not_confirmed {event : PageEvent}
    (other : ∀ status, event ≠ .attempt (some status)) :
    ¬ Confirmed choice page event := by
  rintro ⟨status, -, got, -⟩
  exact other status got

/-- An event which is no click on a choice can only end one. -/
theorem holds_unchosen {event : PageEvent} {after : Page}
    (unasked : page.asks event = none)
    (unset : ∀ name, event ≠ .set name)
    (kept : after.Holds choice ↔
      page.Holds choice ∧
        ¬ (Fires choice.slot page event ∨ Fails choice.slot page event ∨
          Confirmed choice page event)) :
    after.Holds choice ↔
      Chooses choice page event ∨
        page.Holds choice ∧ ¬ Ends choice page event := by
  have unchosen : ∀ other, ¬ Chooses other page event := by
    intro other chosen
    cases other with
    | mode mode =>
        rw [Chooses, unasked] at chosen
        cases chosen.1
    | target name temperature => exact unset name chosen.1
  rw [kept, Ends, Overruled]
  simp only [unchosen, and_false, exists_false, or_false, false_or]

/-- Most events say nothing about the choices. -/
theorem holds_silent {event : PageEvent} {after : Page}
    (unasked : page.asks event = none)
    (unset : ∀ name, event ≠ .set name)
    (unfired : ∀ timer, event ≠ .timeout timer)
    (unanswered : ∀ result, event ≠ .attempt result)
    (unposted : ∀ slot, event ≠ .posted slot false)
    (kept : after.Holds choice ↔ page.Holds choice) :
    after.Holds choice ↔
      Chooses choice page event ∨
        page.Holds choice ∧ ¬ Ends choice page event := by
  apply holds_unchosen unasked unset
  rw [kept, and_iff_left]
  rintro (fired | failed | confirmed)
  · exact not_fires unfired fired
  · exact not_fails (unanswered _) (unposted _) failed
  · exact not_confirmed (fun status => unanswered _) confirmed

/-- A click asks for a mode. -/
theorem holds_asked {event : PageEvent} {mode : Int}
    (asked : page.asks event = some mode) :
    (page.setWorkingMode mode).Holds choice ↔
      Chooses choice page event ∨
        page.Holds choice ∧ ¬ Ends choice page event := by
  have click : (∃ button, event = .mode button) ∨ event = .power := by
    cases event with
    | mode button => exact Or.inl ⟨button, rfl⟩
    | power => exact Or.inr rfl
    | _ => cases asked
  have ends : Ends choice page event ↔
      choice.slot = .mode ∧ mode ≠ page.currentMode := by
    have replaced : (∃ other, Choice.slot other = choice.slot ∧
        Chooses other page event) ↔
          choice.slot = .mode ∧ mode ≠ page.currentMode := by
      rw [exists_chooses]
      cases choice with
      | mode other => simp [Choice.slot, asked]
      | target name temperature =>
          rcases click with ⟨button, rfl⟩ | rfl <;> simp [Choice.slot]
    rw [Ends, Overruled, replaced]
    rcases click with ⟨button, rfl⟩ | rfl <;>
      simp [not_fires, not_fails, not_confirmed]
  have chooses : Chooses choice page event ↔
      mode ≠ page.currentMode ∧ choice = .mode mode := by
    cases choice with
    | mode other =>
        rw [Chooses, asked]
        constructor
        · rintro ⟨⟨⟩, changed⟩
          exact ⟨changed, rfl⟩
        · rintro ⟨changed, ⟨⟩⟩
          exact ⟨rfl, changed⟩
    | target name temperature =>
        rcases click with ⟨button, rfl⟩ | rfl <;> simp [Chooses]
  rw [holds_setWorkingMode, chooses, ends]

/-- A click on the button of a target. -/
theorem holds_clicked {name : TargetName} :
    (page.set name).Holds choice ↔
      Chooses choice page (.set name) ∨
        page.Holds choice ∧ ¬ Ends choice page (.set name) := by
  have ends : Ends choice page (.set name) ↔
      choice.slot = .target name ∧ (page.accepted name).isSome := by
    rw [Ends, Overruled, exists_chooses]
    cases choice with
    | mode other =>
        simp [Choice.slot, asks, not_fires, not_fails, not_confirmed]
    | target other temperature =>
        simp only [Choice.slot, Slot.target.injEq, PageEvent.set.injEq]
        constructor
        · rintro (fired | failed | confirmed | ⟨rfl, accepted⟩)
          · exact absurd fired (not_fires nofun)
          · exact absurd failed (not_fails nofun nofun)
          · exact absurd confirmed (not_confirmed nofun)
          · exact ⟨rfl, accepted⟩
        · rintro ⟨rfl, accepted⟩
          exact Or.inr (Or.inr (Or.inr ⟨rfl, accepted⟩))
  have chooses : Chooses choice page (.set name) ↔
      ∃ temperature, page.accepted name = some temperature ∧
        choice = .target name temperature := by
    cases choice with
    | mode other => simp [Chooses, asks]
    | target other temperature =>
        constructor
        · rintro ⟨⟨⟩, accepted⟩
          exact ⟨temperature, accepted, rfl⟩
        · rintro ⟨_, accepted, ⟨⟩⟩
          exact ⟨rfl, accepted⟩
  rw [holds_set, chooses, ends]

end

/-- What one event does to the choices. -/
theorem holds_step (choice : Choice) (page : Page) (event : PageEvent) :
    (page.step event).Holds choice ↔
      Chooses choice page event ∨
        page.Holds choice ∧ ¬ Ends choice page event := by
  cases event with
  | wait duration =>
      exact holds_silent rfl nofun nofun nofun nofun
        (holds_congr rfl fun name => rfl)
  | mode button => exact holds_asked rfl
  | power => exact holds_asked rfl
  | occupancy mode =>
      exact holds_silent rfl nofun nofun nofun nofun holds_setOccupancyMode
  | enter name value =>
      exact holds_silent rfl nofun nofun nofun nofun (holds_setTarget rfl)
  | set name => exact holds_clicked
  | posted slot ok =>
      refine holds_unchosen rfl nofun ?_
      have going : ¬ Fires choice.slot page (.posted slot ok) :=
        not_fires nofun
      have never : ¬ Confirmed choice page (.posted slot ok) :=
        not_confirmed nofun
      simp only [going, never, or_false, false_or]
      exact holds_posted
  | second =>
      exact holds_silent rfl nofun nofun nofun nofun holds_second
  | attempt result =>
      refine holds_unchosen rfl nofun ?_
      have going : ¬ Fires choice.slot page (.attempt result) :=
        not_fires nofun
      simp only [going, false_or]
      exact holds_attempt
  | retry =>
      exact holds_silent rfl nofun nofun nofun nofun holds_retry
  | timeout timer =>
      refine holds_unchosen rfl nofun ?_
      have going : ¬ Fails choice.slot page (.timeout timer) :=
        not_fails nofun nofun
      have never : ¬ Confirmed choice page (.timeout timer) :=
        not_confirmed nofun
      simp only [going, never, or_false]
      exact holds_timeout

end Page

end Windmi.Web
