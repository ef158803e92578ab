import Windmi.Web.PageChoices

/-!
# Runs of the page

Whatever happens, the page displays a choice that stands, and otherwise what
the server said last.  A choice is given up by a timer no earlier than the
first timer of its slot is due, and the timer of its own is there as long as
the choice is.
-/

namespace Windmi.Web

open Windmi.Core
open Windmi.Library

/-- A request which the handlers of the server are made for. -/
def Post.Legal : Post → Prop
  | .mode selected => 0 ≤ selected ∧ selected ≤ 4
  | .occupancy selected => 0 ≤ selected ∧ selected ≤ 2
  | .target name temperature =>
      name.minimum ≤ temperature ∧ temperature ≤ name.maximum

theorem displayMode_range (reply : StatusReply) :
    0 ≤ displayMode reply ∧ displayMode reply ≤ 4 := by
  unfold displayMode
  split_ifs <;> decide

theorem ModeButton.mode_range (button : ModeButton) :
    0 ≤ button.mode ∧ button.mode ≤ 4 := by
  cases button <;> decide

theorem Occupancy.mode_range (occupancy : Occupancy) :
    0 ≤ occupancy.mode ∧ occupancy.mode ≤ 2 := by
  cases occupancy <;> decide

namespace Page

/-! ## The invariant -/

structure Sound (page : Page) : Prop where
  /-- A pending mode is the one that is displayed. -/
  mode : ∀ mode, page.pendingMode = some mode → page.currentMode = mode
  modes : 0 ≤ page.currentMode ∧ page.currentMode ≤ 4
  priority : page.currentPriority = modePriority page.currentMode
  target : ∀ name temperature,
    (page.targets name).pending = some temperature →
      name.minimum ≤ temperature ∧ temperature ≤ name.maximum
  posting : ∀ name timer,
    (page.targets name).posting = some timer → timer.slot = .target name
  posts : ∀ post ∈ page.posts, post.Legal

theorem sound_initial : ({} : Page).Sound where
  mode := nofun
  modes := by decide
  priority := rfl
  target := by rintro (_ | _) _ ⟨⟩
  posting := by rintro (_ | _) _ ⟨⟩
  posts := nofun

section

variable {page : Page}

theorem powerMode_range : 0 ≤ page.powerMode ∧ page.powerMode ≤ 4 := by
  unfold powerMode
  split <;> decide

theorem forall_mem_concat {posts : List Post} {last : Post}
    (before : ∀ post ∈ posts, post.Legal) (legal : last.Legal) :
    ∀ post ∈ posts ++ [last], post.Legal :=
  List.forall_mem_append.mpr ⟨before, List.forall_mem_singleton.mpr legal⟩

/-- What holds for one target and was there for the others. -/
theorem forall_setTarget {property : TargetName → Target → Prop}
    {name : TargetName} {target : Target}
    (before : ∀ name, property name (page.targets name))
    (new : property name target) (other : TargetName) :
    property other ((page.setTarget name target).targets other) := by
  by_cases same : other = name
  · subst same
    simpa [setTarget] using new
  · simpa [setTarget, same] using before other

theorem Sound.setTarget (sound : page.Sound) {name : TargetName}
    {target : Target}
    (pending : ∀ temperature, target.pending = some temperature →
      name.minimum ≤ temperature ∧ temperature ≤ name.maximum)
    (posting : ∀ timer, target.posting = some timer →
      timer.slot = .target name) :
    (page.setTarget name target).Sound where
  mode := sound.mode
  modes := sound.modes
  priority := sound.priority
  target := @forall_setTarget page
    (fun name target => ∀ temperature, target.pending = some temperature →
      name.minimum ≤ temperature ∧ temperature ≤ name.maximum)
    name target sound.target pending
  posting := @forall_setTarget page
    (fun name target => ∀ timer, target.posting = some timer →
      timer.slot = .target name) name target sound.posting posting
  posts := sound.posts

theorem Sound.release (sound : page.Sound) (slot : Slot) :
    (page.release slot).Sound := by
  cases slot with
  | mode => exact { sound with mode := nofun }
  | target name => exact sound.setTarget nofun (sound.posting name)

theorem Sound.setWorkingMode (sound : page.Sound) {mode : Int}
    (range : 0 ≤ mode ∧ mode ≤ 4) : (page.setWorkingMode mode).Sound := by
  unfold Page.setWorkingMode
  split
  · exact sound
  · exact {
      mode := fun pending held => Option.some.inj held
      modes := range
      priority := rfl
      target := sound.target
      posting := sound.posting
      posts := forall_mem_concat sound.posts range }

theorem Sound.setOccupancyMode (sound : page.Sound) (mode : Occupancy) :
    (page.setOccupancyMode mode).Sound := by
  unfold Page.setOccupancyMode
  split
  · exact sound
  · exact { sound with
      posts := forall_mem_concat sound.posts mode.mode_range }

/-- An accepted entry is within the bounds, and the button is enabled. -/
theorem accepted_eq_some {name : TargetName} {temperature : ℚ} :
    page.accepted name = some temperature ↔
      (page.targets name).posting = none ∧
        (page.targets name).input = some temperature ∧
          name.minimum ≤ temperature ∧ temperature ≤ name.maximum := by
  unfold accepted
  cases posting : (page.targets name).posting with
  | some timer => simp
  | none => simp [Option.filter_eq_some_iff]

theorem Sound.set (sound : page.Sound) (name : TargetName) :
    (page.set name).Sound := by
  unfold Page.set
  cases accepted : page.accepted name with
  | none => exact sound
  | some temperature =>
      have range := (accepted_eq_some.mp accepted).2.2
      have started : (page.setTimeout (.target name)).Sound :=
        { sound with }
      have chosen := @started.setTarget _ name
        { page.targets name with
          pending := some temperature
          posting := some
            { slot := .target name
              deadline := page.now + Slot.delay (.target name) } }
        (by rintro _ ⟨⟩; exact range) (by rintro _ ⟨⟩; rfl)
      exact { chosen with posts := forall_mem_concat sound.posts range }

theorem Sound.posted (sound : page.Sound) (slot : Slot) (ok : Bool) :
    (page.posted slot ok).Sound := by
  cases slot with
  | mode =>
      unfold Page.posted
      have answered : ({ page with
          modePosts := page.modePosts - 1 } : Page).Sound := { sound with }
      dsimp only
      split_ifs
      · exact sound
      · exact answered
      · exact answered.release .mode
  | target name =>
      unfold Page.posted
      have answered : (page.setTarget name
          { page.targets name with posting := none }).Sound :=
        sound.setTarget (sound.target name) nofun
      dsimp only
      split
      · exact sound
      · split
        · exact answered
        · exact { answered.release (.target name) with }

theorem Sound.updateMode (sound : page.Sound) {mode : Int}
    (range : 0 ≤ mode ∧ mode ≤ 4) : (page.updateMode mode).Sound := by
  unfold Page.updateMode
  cases pending : page.pendingMode with
  | none =>
      exact {
        mode := nofun
        modes := range
        priority := rfl
        target := sound.target
        posting := sound.posting
        posts := sound.posts }
  | some held =>
      by_cases confirmed : mode = held
      · simp only [if_pos confirmed]
        exact { sound with mode := nofun, priority := rfl }
      · simp only [if_neg confirmed]
        exact { sound with priority := rfl }

theorem Sound.updateTarget (sound : page.Sound) (name : TargetName)
    (value : ℚ) : (page.updateTarget name value).Sound := by
  apply sound.setTarget
  · intro temperature held
    exact sound.target name temperature (Option.filter_eq_some_iff.mp held).1
  · exact sound.posting name

theorem Sound.updateUI (sound : page.Sound) (status : PageStatus) :
    (page.updateUI status).Sound := by
  have mode := sound.updateMode (displayMode_range status.reply)
  have dhw := mode.updateTarget .dhw status.dhwTarget
  have heating := dhw.updateTarget .heating status.heatingTarget
  exact { heating with }

theorem Sound.fail (sound : page.Sound) : page.fail.Sound :=
  ((sound.release _).release _).release _

theorem Sound.attempt (sound : page.Sound) (result : Option PageStatus) :
    (page.attempt result).Sound := by
  unfold Page.attempt
  split
  · split
    case h_1 status => exact { sound.updateUI status with }
    case h_2 =>
      split
      · exact { sound with }
      · exact { sound.fail with }
  · exact sound

end

/-- No event breaks the invariant. -/
theorem Sound.step {page : Page} (sound : page.Sound) (event : PageEvent) :
    (page.step event).Sound := by
  cases event with
  | wait duration => exact { sound with }
  | mode button =>
      exact sound.setWorkingMode button.mode_range
  | power => exact sound.setWorkingMode powerMode_range
  | occupancy mode => exact sound.setOccupancyMode mode
  | enter name value =>
      exact sound.setTarget (sound.target name) (sound.posting name)
  | set name => exact sound.set name
  | posted slot ok => exact sound.posted slot ok
  | second =>
      show (Page.second page).Sound
      unfold Page.second Page.fetchStatus
      split_ifs <;> exact { sound with }
  | attempt result => exact sound.attempt result
  | retry =>
      show (Page.retry page).Sound
      unfold Page.retry
      split
      · split <;> exact { sound with }
      · exact sound
  | timeout timer =>
      show (Page.timeout page timer).Sound
      unfold Page.timeout
      split
      · have cleared : (page.clearTimeout timer).Sound := { sound with }
        exact cleared.release timer.slot
      · exact sound

theorem Sound.run {page : Page} (sound : page.Sound)
    (events : List PageEvent) : (page.run events).Sound :=
  List.foldlRecOn events Page.step sound
    fun _ before event _ => before.step event

/-! ## What is displayed -/

section

variable {page : Page}

theorem Sound.currentMode_updateUI (sound : page.Sound)
    (status : PageStatus) :
    (page.updateUI status).currentMode =
      page.pendingMode.getD (displayMode status.reply) := by
  show (page.updateMode (displayMode status.reply)).currentMode = _
  unfold Page.updateMode
  cases pending : page.pendingMode with
  | none => rfl
  | some held =>
      have displayed := sound.mode held pending
      by_cases confirmed : displayMode status.reply = held
      · simpa [confirmed] using displayed
      · simpa [confirmed] using displayed

theorem targets_updateTarget_self {name : TargetName} {value : ℚ} :
    (page.updateTarget name value).targets name =
      let pending := (page.targets name).pending.filter fun pending =>
        ¬ |value - pending| < 1
      let display := pending.getD value
      { page.targets name with
        pending := pending
        input :=
          if name.minimum ≤ display ∧ display ≤ name.maximum then some display
          else (page.targets name).input } :=
  Function.update_self ..

theorem targets_updateTarget_of_ne {name other : TargetName} {value : ℚ}
    (different : other ≠ name) :
    (page.updateTarget name value).targets other = page.targets other :=
  Function.update_of_ne different ..

/-- Each target is updated with its own value, whatever happens to the other. -/
theorem targets_updateUI (page : Page) (status : PageStatus)
    (name : TargetName) :
    (page.updateUI status).targets name =
      (page.updateTarget name (status.target name)).targets name := by
  show (((page.updateMode (displayMode status.reply)).updateTarget .dhw
    status.dhwTarget).updateTarget .heating status.heatingTarget).targets
      name = _
  have same : (page.updateMode (displayMode status.reply)).targets =
      page.targets := by
    unfold updateMode
    cases page.pendingMode with
    | none => rfl
    | some held => dsimp only; split <;> rfl
  cases name with
  | dhw =>
      rw [targets_updateTarget_of_ne (by decide), targets_updateTarget_self,
        targets_updateTarget_self, same]
      rfl
  | heating =>
      rw [targets_updateTarget_self, targets_updateTarget_self,
        targets_updateTarget_of_ne (by decide), same]
      rfl

/-- A target that still stands is in the input, and otherwise the server's, if
it is one that the page admits. -/
theorem Sound.input_updateUI (sound : page.Sound) (status : PageStatus)
    (name : TargetName) :
    let after := page.updateUI status
    (∀ temperature, after.Holds (.target name temperature) →
        (after.targets name).input = some temperature) ∧
      ((∀ temperature, ¬ after.Holds (.target name temperature)) →
        (after.targets name).input =
          if name.minimum ≤ status.target name ∧
              status.target name ≤ name.maximum then
            some (status.target name)
          else
            (page.targets name).input) := by
  intro after
  have updated : after.targets name = _ :=
    (targets_updateUI page status name).trans targets_updateTarget_self
  dsimp only [Holds]
  rw [updated]
  constructor
  · intro temperature stands
    have range := sound.target name temperature
      (Option.filter_eq_some_iff.mp stands).1
    dsimp only at stands ⊢
    rw [stands, Option.getD_some, if_pos range]
  · intro nothing
    dsimp only at nothing ⊢
    rw [Option.eq_none_iff_forall_ne_some.mpr nothing, Option.getD_none]

/-- Without a click, only a status changes the displayed mode, and only if no
mode stands. -/
theorem Sound.currentMode_step (sound : page.Sound) {event : PageEvent}
    (unchosen : ∀ mode, ¬ Chooses (.mode mode) page event) :
    (page.step event).currentMode = page.currentMode ∨
      ∃ status, event = .attempt (some status) ∧ page.pendingMode = none ∧
        (page.step event).currentMode = displayMode status.reply := by
  have kept : ∀ mode, page.asks event = some mode →
      page.setWorkingMode mode = page := by
    intro mode asked
    by_contra changed
    refine unchosen mode ⟨asked, ?_⟩
    rintro rfl
    exact changed (if_pos rfl)
  cases event with
  | wait duration => exact Or.inl rfl
  | mode button => exact Or.inl (congrArg currentMode (kept _ rfl))
  | power => exact Or.inl (congrArg currentMode (kept _ rfl))
  | occupancy mode =>
      left
      show (page.setOccupancyMode mode).currentMode = _
      unfold Page.setOccupancyMode
      split <;> rfl
  | enter name value => exact Or.inl rfl
  | set name =>
      left
      show (page.set name).currentMode = _
      unfold Page.set
      split <;> rfl
  | posted slot ok =>
      left
      show (page.posted slot ok).currentMode = _
      unfold Page.posted
      cases slot with
      | mode => dsimp only; split_ifs <;> rfl
      | target name =>
          dsimp only
          split
          · rfl
          · split <;> rfl
  | second =>
      left
      show (page.second).currentMode = _
      unfold Page.second Page.fetchStatus
      split_ifs <;> rfl
  | attempt result =>
      show (page.attempt result).currentMode = _ ∨ _
      unfold Page.attempt
      cases fetch : page.fetch with
      | idle => exact Or.inl rfl
      | delayed retries deadline => exact Or.inl rfl
      | asked retries =>
          cases result with
          | none =>
              left
              dsimp only
              split <;> rfl
          | some status =>
              have updated := sound.currentMode_updateUI status
              cases pending : page.pendingMode with
              | none =>
                  rw [pending] at updated
                  refine Or.inr ⟨status, rfl, rfl, ?_⟩
                  show (page.attempt (some status)).currentMode = _
                  unfold Page.attempt
                  rw [fetch]
                  exact updated
              | some mode =>
                  rw [pending] at updated
                  left
                  exact updated.trans (sound.mode mode pending).symm
  | retry =>
      left
      show (page.retry).currentMode = _
      unfold Page.retry
      split
      · split <;> rfl
      · rfl
  | timeout timer =>
      left
      show (page.timeout timer).currentMode = _
      unfold Page.timeout
      split
      · cases timer.slot <;> rfl
      · rfl

theorem step_of_asks {event : PageEvent} {mode : Int}
    (asked : page.asks event = some mode) :
    page.step event = page.setWorkingMode mode := by
  cases event with
  | mode button =>
      cases asked
      rfl
  | power =>
      cases asked
      rfl
  | _ => cases asked

theorem posts_of_asks {event : PageEvent} {mode : Int}
    (asked : page.asks event = some mode) :
    ∃ sent, (page.setWorkingMode mode).posts = page.posts ++ sent ∧
      ∀ other, .mode other ∈ sent → Chooses (.mode other) page event := by
  unfold setWorkingMode
  by_cases same : mode = page.currentMode
  · exact ⟨[], by simp [same], nofun⟩
  · refine ⟨[.mode mode], by simp [same], ?_⟩
    intro other inside
    cases List.mem_singleton.mp inside
    exact ⟨asked, same⟩

theorem posts_release {slot : Slot} :
    (page.release slot).posts = page.posts := by
  cases slot <;> rfl

theorem posts_posted {slot : Slot} {ok : Bool} :
    (page.posted slot ok).posts = page.posts := by
  unfold posted
  cases slot with
  | mode => dsimp only; split_ifs <;> rfl
  | target name =>
      dsimp only
      split
      · rfl
      · split <;> rfl

theorem posts_attempt {result : Option PageStatus} :
    (page.attempt result).posts = page.posts := by
  unfold attempt
  split
  · split
    case h_1 status =>
      show (page.updateMode (displayMode status.reply)).posts = _
      unfold updateMode
      split
      · rfl
      · dsimp only
        split <;> rfl
    case h_2 => split <;> rfl
  · rfl

theorem posts_second : page.second.posts = page.posts := by
  unfold second fetchStatus
  split_ifs <;> rfl

theorem posts_retry : page.retry.posts = page.posts := by
  unfold retry
  split
  · split <;> rfl
  · rfl

theorem posts_timeout {timer : Timer} :
    (page.timeout timer).posts = page.posts := by
  unfold timeout
  split
  · exact posts_release
  · rfl

/-- A choice of a mode is sent to the server. -/
theorem posts_of_chooses {event : PageEvent} {mode : Int}
    (chooses : Chooses (.mode mode) page event) :
    (page.step event).posts = page.posts ++ [.mode mode] := by
  rw [step_of_asks chooses.1, setWorkingMode, if_neg chooses.2]

/-- A request for a mode is sent only if the mode is chosen. -/
theorem posts_step (page : Page) (event : PageEvent) :
    ∃ sent, (page.step event).posts = page.posts ++ sent ∧
      ∀ mode, .mode mode ∈ sent → Chooses (.mode mode) page event := by
  have none : ∀ {after : Page}, after.posts = page.posts →
      ∃ sent, after.posts = page.posts ++ sent ∧
        ∀ mode, .mode mode ∈ sent → Chooses (.mode mode) page event :=
    fun same => ⟨[], by simpa using same, nofun⟩
  cases event with
  | wait duration => exact none rfl
  | mode button => exact posts_of_asks rfl
  | power => exact posts_of_asks rfl
  | occupancy mode =>
      show ∃ sent, (page.setOccupancyMode mode).posts = _ ∧ _
      unfold setOccupancyMode
      split
      · exact none rfl
      · exact ⟨[.occupancy mode.mode], rfl, by simp⟩
  | enter name value => exact none rfl
  | set name =>
      show ∃ sent, (page.set name).posts = _ ∧ _
      unfold set
      split
      · exact none rfl
      · exact ⟨[.target name _], rfl, by simp⟩
  | posted slot ok => exact none posts_posted
  | second => exact none posts_second
  | attempt result => exact none posts_attempt
  | retry => exact none posts_retry
  | timeout timer => exact none posts_timeout

/-- What stands is what was chosen last and has not ended since. -/
theorem holds_run (choice : Choice) (events : List PageEvent) :
    (({} : Page).run events).Holds choice ↔
      Standing Page.step (Chooses choice) (Ends choice) {} events := by
  have nothing : ¬ ({} : Page).Holds choice := by
    cases choice with
    | mode mode => exact nofun
    | target name temperature => cases name <;> exact nofun
  refine (@latch_iff _ _ Page.step (Chooses choice) (Ends choice)
    (fun page => page.Holds choice) (holds_step choice) {} events).trans ?_
  exact or_iff_left fun before => nothing before.1

end

/--
After any events, a choice stands exactly if it was made and nothing has ended
it since; a status that arrives then changes the displayed mode and the entries
to what the server says, except where a choice stands and where the server's
target is out of the bounds of the page, which leaves the entry as it is.
-/
theorem choices_displayed (events : List PageEvent) :
    let page := ({} : Page).run events
    (∀ choice, page.Holds choice ↔
      Standing Page.step (Chooses choice) (Ends choice) {} events) ∧
    (∀ mode, page.Holds (.mode mode) → page.currentMode = mode) ∧
    ∀ status retries, page.fetch = .asked retries →
      let after := page.step (.attempt (some status))
      after.currentMode =
          page.pendingMode.getD (displayMode status.reply) ∧
        ∀ name,
          (∀ temperature, after.Holds (.target name temperature) →
            (after.targets name).input = some temperature) ∧
          ((∀ temperature, ¬ after.Holds (.target name temperature)) →
            (after.targets name).input =
              if name.minimum ≤ status.target name ∧
                  status.target name ≤ name.maximum then
                some (status.target name)
              else
                (page.targets name).input) := by
  intro page
  have sound : page.Sound := sound_initial.run events
  refine ⟨fun choice => holds_run choice events, sound.mode, ?_⟩
  intro status retries asked after
  have updated : after = { page.updateUI status with fetch := .idle } := by
    show page.attempt (some status) = _
    rw [attempt, asked]
  rw [updated]
  exact ⟨sound.currentMode_updateUI status, sound.input_updateUI status⟩

/-! ## Timers -/

/-- The timer which a choice starts. -/
def ownTimer (choice : Choice) (page : Page) : Timer where
  slot := choice.slot
  deadline := page.now + choice.slot.delay

section

variable {page : Page} {event : PageEvent} {choice : Choice}

theorem now_updateUI (status : PageStatus) :
    (page.updateUI status).now = page.now ∧
      (page.updateUI status).timers = page.timers := by
  show (page.updateMode (displayMode status.reply)).now = _ ∧
    (page.updateMode (displayMode status.reply)).timers = _
  unfold updateMode
  split
  · exact ⟨rfl, rfl⟩
  · dsimp only
    split <;> exact ⟨rfl, rfl⟩

theorem now_setWorkingMode {mode : Int} :
    (page.setWorkingMode mode).now = page.now := by
  unfold setWorkingMode
  split <;> rfl

theorem now_set {name : TargetName} : (page.set name).now = page.now := by
  unfold set
  split <;> rfl

theorem now_posted {slot : Slot} {ok : Bool} :
    (page.posted slot ok).now = page.now := by
  unfold posted
  cases slot with
  | mode => dsimp only; split_ifs <;> rfl
  | target name =>
      dsimp only
      split
      · rfl
      · split <;> rfl

theorem clock_attempt {result : Option PageStatus} :
    (page.attempt result).now = page.now ∧
      (page.attempt result).timers = page.timers := by
  unfold attempt
  split
  · split
    case h_1 status => exact now_updateUI status
    case h_2 => split <;> exact ⟨rfl, rfl⟩
  · exact ⟨rfl, rfl⟩

theorem clock_release {slot : Slot} :
    (page.release slot).now = page.now ∧
      (page.release slot).timers = page.timers := by
  cases slot <;> exact ⟨rfl, rfl⟩

theorem clock_second :
    page.second.now = page.now ∧ page.second.timers = page.timers := by
  unfold second fetchStatus
  split_ifs <;> exact ⟨rfl, rfl⟩

theorem clock_retry :
    page.retry.now = page.now ∧ page.retry.timers = page.timers := by
  unfold retry
  split
  · split <;> exact ⟨rfl, rfl⟩
  · exact ⟨rfl, rfl⟩

theorem clock_setOccupancyMode {mode : Occupancy} :
    (page.setOccupancyMode mode).now = page.now ∧
      (page.setOccupancyMode mode).timers = page.timers := by
  unfold setOccupancyMode
  split <;> exact ⟨rfl, rfl⟩

theorem timers_setWorkingMode {mode : Int} (changed : mode ≠ page.currentMode) :
    (page.setWorkingMode mode).timers =
      page.timers ++ [ownTimer (.mode mode) page] := by
  rw [setWorkingMode, if_neg changed]
  rfl

theorem timers_set {name : TargetName} {temperature : ℚ}
    (accepted : page.accepted name = some temperature) :
    (page.set name).timers =
      page.timers ++ [ownTimer (.target name temperature) page] := by
  rw [set, accepted]
  rfl

/-- A choice starts its timer, at the time of the click. -/
theorem Chooses.clock (chooses : Chooses choice page event) :
    (page.step event).timers = page.timers ++ [ownTimer choice page] ∧
      (page.step event).now = page.now := by
  cases choice with
  | mode mode =>
      rw [step_of_asks chooses.1]
      exact ⟨timers_setWorkingMode chooses.2, now_setWorkingMode⟩
  | target name temperature =>
      rcases chooses with ⟨rfl, accepted⟩
      exact ⟨timers_set accepted, now_set⟩

theorem timers_of_asks {mode : Int} (asked : page.asks event = some mode) :
    (page.step event).timers = page.timers ∨
      ∃ choice, Chooses choice page event ∧
        (page.step event).timers =
          page.timers ++ [ownTimer choice page] := by
  by_cases same : mode = page.currentMode
  · left
    rw [step_of_asks asked, setWorkingMode, if_pos same]
  · right
    have chooses : Chooses (.mode mode) page event := ⟨asked, same⟩
    exact ⟨.mode mode, chooses, chooses.clock.1⟩

/-- What an event does to the timers. -/
theorem timers_step (page : Page) (event : PageEvent) :
    ((page.step event).timers = page.timers ∨
      ∃ choice, Chooses choice page event ∧
        (page.step event).timers = page.timers ++ [ownTimer choice page]) ∨
      ∃ timer, (page.step event).timers = page.timers.erase timer ∧
        (Fires timer.slot page event ∨
          ∃ name, event = .posted (.target name) false ∧
            (page.targets name).posting = some timer) := by
  cases event with
  | wait duration => exact Or.inl (Or.inl rfl)
  | mode button => exact Or.inl (timers_of_asks rfl)
  | power => exact Or.inl (timers_of_asks rfl)
  | occupancy mode => exact Or.inl (Or.inl clock_setOccupancyMode.2)
  | enter name value => exact Or.inl (Or.inl rfl)
  | set name =>
      left
      cases accepted : page.accepted name with
      | none =>
          left
          show (page.set name).timers = page.timers
          rw [set, accepted]
      | some temperature =>
          right
          exact ⟨.target name temperature, ⟨rfl, accepted⟩,
            timers_set accepted⟩
  | posted slot ok =>
      show ((page.posted slot ok).timers = _ ∨ _) ∨ _
      cases slot with
      | mode =>
          left
          left
          unfold posted
          dsimp only
          split_ifs <;> rfl
      | target name =>
          cases posting : (page.targets name).posting with
          | none =>
              left
              left
              simp only [posted, posting]
          | some timer =>
              cases ok with
              | true =>
                  left
                  left
                  simp only [posted, posting, if_true]
                  rfl
              | false =>
                  right
                  refine ⟨timer, ?_, Or.inr ⟨name, rfl, posting⟩⟩
                  show (page.posted (.target name) false).timers = _
                  simp only [posted, posting, Bool.false_eq_true, if_false]
                  rfl
  | second => exact Or.inl (Or.inl clock_second.2)
  | attempt result => exact Or.inl (Or.inl clock_attempt.2)
  | retry => exact Or.inl (Or.inl clock_retry.2)
  | timeout timer =>
      by_cases due : timer ∈ page.timers ∧ timer.deadline ≤ page.now
      · have fired : page.step (.timeout timer) =
            (page.clearTimeout timer).release timer.slot := if_pos due
        right
        rw [fired]
        exact ⟨timer, clock_release.2,
          Or.inl ⟨timer, due.1, rfl, rfl, due.2⟩⟩
      · have silent : page.step (.timeout timer) = page := if_neg due
        left
        left
        rw [silent]

theorem now_step (page : Page) (event : PageEvent) :
    page.now ≤ (page.step event).now := by
  cases event with
  | wait duration => exact Nat.le_add_right ..
  | mode button => exact now_setWorkingMode.ge
  | power => exact now_setWorkingMode.ge
  | occupancy mode => exact clock_setOccupancyMode.1.ge
  | enter name value => exact le_rfl
  | set name => exact now_set.ge
  | posted slot ok => exact now_posted.ge
  | second => exact clock_second.1.ge
  | attempt result => exact clock_attempt.1.ge
  | retry => exact clock_retry.1.ge
  | timeout timer =>
      show page.now ≤ (page.timeout timer).now
      unfold timeout
      split
      · exact (@clock_release (page.clearTimeout timer) timer.slot).1.ge
      · exact le_rfl

/-- Only a choice starts a timer. -/
theorem mem_timers_step {timer : Timer}
    (member : timer ∈ (page.step event).timers) :
    timer ∈ page.timers ∨
      ∃ choice, Chooses choice page event ∧ timer = ownTimer choice page := by
  rcases timers_step page event with (same | ⟨choice, chooses, added⟩) |
    ⟨gone, erased, -⟩
  · exact Or.inl (same ▸ member)
  · rw [added] at member
    rcases List.mem_append.mp member with before | new
    · exact Or.inl before
    · exact Or.inr ⟨choice, chooses, List.mem_singleton.mp new⟩
  · rw [erased] at member
    exact Or.inl (List.mem_of_mem_erase member)

/-- A timer is there until it fires or its request fails. -/
theorem Sound.timer_kept (sound : page.Sound) {timer : Timer}
    (member : timer ∈ page.timers) :
    timer ∈ (page.step event).timers ∨ Fires timer.slot page event ∨
      Fails timer.slot page event := by
  rcases timers_step page event with (same | ⟨choice, chooses, added⟩) |
    ⟨gone, erased, ends⟩
  · exact Or.inl (same ▸ member)
  · rw [added]
    exact Or.inl (List.mem_append_left _ member)
  · by_cases other : timer = gone
    · subst other
      right
      rcases ends with fires | ⟨name, rfl, posting⟩
      · exact Or.inl fires
      · right
        rw [sound.posting name timer posting]
        exact Or.inr ⟨rfl, Option.isSome_iff_exists.mpr ⟨timer, posting⟩⟩
    · rw [erased]
      exact Or.inl ((List.mem_erase_of_ne other).mpr member)

/-- As long as nothing else ends it, a choice stands until the first timer of
its slot is due, and stands only while there is a timer of its own. -/
structure Timed (choice : Choice) (own : Timer) (bound : Nat) (page : Page) :
    Prop where
  timers : ∀ timer ∈ page.timers, timer.slot = choice.slot →
    bound ≤ timer.deadline
  stands : page.now < bound → page.Holds choice
  own : page.Holds choice → own ∈ page.timers

theorem Timed.step {own : Timer} {bound : Nat}
    (timed : Timed choice own bound page) (sound : page.Sound)
    (slot : own.slot = choice.slot)
    (going : ¬ Overruled choice page event) :
    Timed choice own bound (page.step event) where
  timers := by
    intro timer member same
    rcases mem_timers_step member with before | ⟨other, chooses, rfl⟩
    · exact timed.timers timer before same
    · exact absurd (Or.inr (Or.inr ⟨other, same, chooses⟩)) going
  stands := by
    intro early
    have before := lt_of_le_of_lt (now_step page event) early
    refine (holds_step choice page event).mpr
      (Or.inr ⟨timed.stands before, ?_⟩)
    rintro (⟨timer, member, -, same, due⟩ | overruled)
    · exact absurd (timed.timers timer member same) (by omega)
    · exact going overruled
  own := by
    intro holds
    rcases (holds_step choice page event).mp holds with
      chooses | ⟨held, unended⟩
    · exact absurd (Or.inr (Or.inr ⟨choice, rfl, chooses⟩)) going
    · rcases sound.timer_kept (timed.own held) with kept | fires | fails
      · exact kept
      · exact absurd (Or.inl (slot ▸ fires)) unended
      · exact absurd (Or.inl (slot ▸ fails)) going

theorem Timed.run {own : Timer} {bound : Nat} {events : List PageEvent}
    (timed : Timed choice own bound page) (sound : page.Sound)
    (slot : own.slot = choice.slot)
    (going : ¬ Happens Page.step (Overruled choice) page events) :
    Timed choice own bound (page.run events) := by
  induction events generalizing page with
  | nil => exact timed
  | cons event events ih =>
      rcases not_or.mp (mt happens_cons.mpr going) with ⟨now, later⟩
      exact ih (timed.step sound slot now) (sound.step event) later

/-- A choice at the time of its click. -/
theorem Chooses.timed {bound : Nat} (chooses : Chooses choice page event)
    (older : ∀ timer ∈ page.timers, timer.slot = choice.slot →
      bound ≤ timer.deadline)
    (within : bound ≤ page.now + choice.slot.delay) :
    Timed choice (ownTimer choice page) bound (page.step event) where
  timers := by
    rw [chooses.clock.1]
    intro timer member same
    rcases List.mem_append.mp member with before | new
    · exact older timer before same
    · rw [List.mem_singleton.mp new]
      exact within
  stands := fun _ => (holds_step choice page event).mpr (Or.inl chooses)
  own := by
    intro holds
    rw [chooses.clock.1]
    exact List.mem_append_right _ (List.mem_singleton_self _)

end

/--
A choice which the server does not confirm, which nothing replaces and after
which nothing fails stands as long as no timer of its slot is due, be it an
older one or its own; and it stands only while its own timer has not fired.
-/
theorem choice_timed (earlier later : List PageEvent) {event : PageEvent}
    {choice : Choice} {bound : Nat}
    (chooses : Chooses choice (({} : Page).run earlier) event)
    (older : ∀ timer ∈ (({} : Page).run earlier).timers,
      timer.slot = choice.slot → bound ≤ timer.deadline)
    (within : bound ≤ (({} : Page).run earlier).now + choice.slot.delay)
    (going : ¬ Happens Page.step (Overruled choice)
      ((({} : Page).run earlier).step event) later) :
    let after := ({} : Page).run (earlier ++ event :: later)
    (after.now < bound → after.Holds choice) ∧
      (after.Holds choice →
        ownTimer choice (({} : Page).run earlier) ∈ after.timers) := by
  intro after
  have sound := sound_initial.run earlier
  have split : after =
      ((({} : Page).run earlier).step event).run later := by
    show List.foldl .. = _
    rw [List.foldl_append]
    rfl
  have timed := (chooses.timed older within).run (sound.step event) rfl going
  rw [split]
  exact ⟨timed.stands, timed.own⟩

/-- A status that comes too early does not change the mode back. -/
theorem choice_timed_early :
    let early : PageStatus :=
      { reply := { workingMode := 3, priority := "dhw" }
        dhwTarget := 50
        heatingTarget := 40
        occupancyMode := 2 }
    let after := ({} : Page).run
      ([] ++ .mode .mode1Btn :: [.attempt (some early), .wait 9999])
    (after.now < 10000 → after.Holds (.mode 1)) ∧
      (after.Holds (.mode 1) → ownTimer (.mode 1) {} ∈ after.timers) := by
  intro early
  have chosen : Chooses (.mode 1) (({} : Page).run [])
      (.mode .mode1Btn) :=
    ⟨rfl, by decide⟩
  apply choice_timed [] [.attempt (some early), .wait 9999] chosen nofun
    (by decide)
  have unconfirmed : displayMode early.reply ≠ 1 := by decide
  simp only [happens_cons, Overruled, exists_chooses]
  simp [Fails, Confirmed, Choice.slot, asks, PageStatus.Confirms,
    unconfirmed]

end Page

end Windmi.Web
