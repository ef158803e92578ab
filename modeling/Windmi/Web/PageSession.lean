import Windmi.Web.PageRequests

/-!
# The page and the server

One browser, the handlers, the queue and the loop together.  Requests may be
overtaken, the loop may run at any time, and a status may be old when it
arrives.  A mode that the user selects is displayed from the click on: first
because the choice stands, and then because the server has it.
-/

namespace Windmi.Web

open Windmi.Core
open Windmi.Modbus
open Windmi.Library

/-! ## What becomes of a mode -/

/-- What the page makes of its mode when the server has it. -/
def settledMode (mode : Int) : Int :=
  if mode = 4 then 3 else mode

/-- The loop wants the mode, and has the priority that goes with it. -/
def Wants (mode : Int) (world : World RegisterFile) : Prop :=
  world.loop.desiredWorkingMode = backendMode mode ∧
    (backendMode mode = 3 → world.bus.device regDhwPriority = 1)

instance (mode : Int) (world : World RegisterFile) :
    Decidable (Wants mode world) :=
  inferInstanceAs (Decidable (_ ∧ _))

/-- Whether the mode is wanted after a command. -/
def wantedAfter (mode : Int) (wanted : Prop) (cmd : Command) : Prop :=
  if cmd.type = .setRunningMode then cmd.intVal = backendMode mode
  else wanted ∧ cmd.type ≠ .setPriority

/-- Whether the mode is wanted after all commands. -/
def wantedAtLast (mode : Int) (wanted : Prop) (commands : List Command) :
    Prop :=
  commands.foldl (wantedAfter mode) wanted

section

variable {mode : Int} {world : World RegisterFile}

theorem wantedAtLast_append (wanted : Prop) (earlier later : List Command) :
    wantedAtLast mode wanted (earlier ++ later) =
      wantedAtLast mode (wantedAtLast mode wanted earlier) later :=
  List.foldl_append ..

theorem wantedAfter_mono {wanted wanted' : Prop} {cmd : Command}
    (weaker : wanted → wanted') (after : wantedAfter mode wanted cmd) :
    wantedAfter mode wanted' cmd := by
  unfold wantedAfter at after ⊢
  split_ifs at after ⊢
  · exact after
  · exact ⟨weaker after.1, after.2⟩

theorem wantedAtLast_mono {wanted wanted' : Prop} {commands : List Command}
    (weaker : wanted → wanted')
    (atLast : wantedAtLast mode wanted commands) :
    wantedAtLast mode wanted' commands := by
  induction commands generalizing wanted wanted' with
  | nil => exact weaker atLast
  | cons cmd commands ih => exact ih (wantedAfter_mono weaker) atLast

theorem wantedAtLast_of_quiet {wanted : Prop} {commands : List Command}
    (quiet : ∀ cmd ∈ commands, Quiet cmd) (now : wanted) :
    wantedAtLast mode wanted commands := by
  induction commands generalizing wanted with
  | nil => exact now
  | cons cmd commands ih =>
      rcases List.forall_mem_cons.mp quiet with ⟨first, rest⟩
      apply ih rest
      unfold wantedAfter
      rw [if_neg first.1]
      exact ⟨now, first.2⟩

theorem Wants.processCommand {cmd : Command}
    (after : wantedAfter mode (Wants mode world) cmd) :
    Wants mode (processCommand registerFile cmd world) := by
  unfold wantedAfter at after
  by_cases kind : cmd.type = .setRunningMode
  · rw [if_pos kind] at after
    refine ⟨(selected_desired kind).trans after, ?_⟩
    intro both
    exact (selectBoth_priority kind (after.trans both)).2
  · rw [if_neg kind] at after
    have kept := @processCommands_quiet [cmd]
      (List.forall_mem_singleton.mpr ⟨kind, after.2⟩) world
    exact ⟨kept.1.trans after.1.1,
      fun both => kept.2.2.trans (after.1.2 both)⟩

theorem Wants.processCommands {batch : List Command}
    (atLast : wantedAtLast mode (Wants mode world) batch) :
    Wants mode (processCommands registerFile batch world) := by
  induction batch generalizing world with
  | nil => exact atLast
  | cons cmd batch ih =>
      exact ih (wantedAtLast_mono Wants.processCommand atLast)

/-- An iteration enforces what it finds. -/
theorem Wants.iteration {batch : List Command}
    (atLast : wantedAtLast mode (Wants mode world) batch) :
    Wants mode (iteration registerFile batch world) := by
  have commanded := Wants.processCommands atLast
  have enforced := iteration_regDhwPriority batch world
  refine ⟨enforced.1.trans commanded.1, ?_⟩
  intro both
  have required : requiredPriority
      (Core.processCommands registerFile batch
        world).loop.desiredWorkingMode = some .dhw := by
    rw [commanded.1, both]
    rfl
  refine enforced.2.trans ((enforcedPriority_eq_iff required).mpr ?_)
  rw [commanded.2 both]
  cases (Core.processCommands registerFile batch
    world).loop.currentPriority with
  | dhw => exact Or.inl rfl
  | heating => exact Or.inr nofun

theorem displayMode_wanted (lower : 0 ≤ mode) (upper : mode ≤ 4)
    {register : Word} (priority : backendMode mode = 3 → register = 1) :
    displayMode
        { workingMode := backendMode mode
          priority := if register.toInt ≠ 0 then "dhw" else "heating" } =
      settledMode mode := by
  rcases mode_cases lower upper with rfl | rfl | rfl | rfl | rfl
  · simp [displayMode, backendMode, settledMode]
  · simp [displayMode, backendMode, settledMode]
  · simp [displayMode, backendMode, settledMode]
  · rw [priority rfl]
    decide
  · rw [priority rfl]
    decide

/-- An iteration that wants the mode publishes it. -/
theorem Wants.displayed {batch : List Command} (lower : 0 ≤ mode)
    (upper : mode ≤ 4)
    (atLast : wantedAtLast mode (Wants mode world) batch) :
    displayed (Core.iteration registerFile batch world).bus.history =
      some (settledMode mode) := by
  have commanded := Wants.processCommands atLast
  rw [displayed_iteration, commanded.1, Option.some.injEq]
  exact displayMode_wanted lower upper commanded.2

end

/-! ## The session -/

/-- The page, the server with its loop, and what is on its way between them. -/
structure Session where
  page : Page := {}
  system : System RegisterFile
  /-- Requests on their way, in no order. -/
  outbox : List Post := []
  /-- A status on its way to the page. -/
  reply : Option PageStatus := none

inductive SessionStep where
  /-- An event of the page, with no status in it. -/
  | page (event : PageEvent)
  | deliver (post : Post)
  | loop
  | serve
  | receive

namespace Session

section

variable (number : ℚ → String) (json : MgJson)

/-- What `/api/status` answers now. -/
def status (session : Session) : PageStatus :=
  pageStatus ((lastStatus session.system.world.bus.history).getD {})

def event (session : Session) (event : PageEvent) : Session :=
  let page := session.page.step event
  { session with
    page := page
    outbox := session.outbox ++ page.posts.drop session.page.posts.length }

def step (session : Session) : SessionStep → Session
  | .page event =>
      match event with
      | .attempt (some _) => session
      | event => session.event event
  | .deliver post =>
      if post ∈ session.outbox then
        { session with
          outbox := session.outbox.erase post
          system := session.system.respond json (post.request number) }
      else session
  | .loop =>
      { session with system := session.system.step json registerFile .loop }
  | .serve => { session with reply := some session.status }
  | .receive =>
      match session.reply with
      | none => session
      | some status =>
          { session.event (.attempt (some status)) with reply := none }

def run (session : Session) (steps : List SessionStep) : Session :=
  steps.foldl (step number json) session

/-- As `main` starts it, with a page that is just loaded. -/
def start (loop : ControlLoop) (registers : RegisterFile) : Session where
  system := System.start registerFile loop registers

end

/-! ## What is required of a run -/

/-- The commands which the loop has not processed. -/
def commands (session : Session) : List Command :=
  session.system.batch ++ session.system.server.queued

/-- The server has the mode, and so does every status from now on. -/
structure Settled (mode : Int) (session : Session) : Prop where
  sent : ∀ other, .mode other ∉ session.outbox
  commands : ∀ cmd ∈ session.commands, Quiet cmd
  wants : Wants mode session.system.world
  status : displayMode session.status.reply = settledMode mode
  reply : ∀ reply ∈ session.reply,
    displayMode reply.reply = settledMode mode

/-- The event of the page in a step. -/
def pageEvent (session : Session) : SessionStep → Option PageEvent
  | .page event => some event
  | .receive => session.reply.map fun status => .attempt (some status)
  | _ => none

/-- No other mode is selected, the choice of the mode does not end before the
server has it, and its request is read and finds room. -/
structure Undisturbed (number : ℚ → String) (json : MgJson) (mode : Int)
    (session : Session) (step : SessionStep) : Prop where
  selected : ∀ event ∈ session.pageEvent step,
    ∀ other, ¬ Page.Chooses (.mode other) session.page event
  ends : ∀ event ∈ session.pageEvent step,
    Page.Ends (.mode mode) session.page event → session.Settled mode
  read : ∀ post, step = .deliver post → post.ReadBy number json
  room : step = .deliver (.mode mode) →
    session.system.server.queued.length < 15

/-! ## The server -/

section

variable {number : ℚ → String} {json : MgJson} {mode : Int}
  {session : Session}

/-- A pass of the loop leaves the commands alone, or processes the batch. -/
theorem loop_cases (json : MgJson) (system : System RegisterFile)
    (ready : system.server.Ready) :
    let after := system.step json registerFile .loop
    after.server.Ready ∧
      ((after.batch ++ after.server.queued =
            system.batch ++ system.server.queued ∧
          after.world = system.world) ∨
        (after.batch = [] ∧ after.server = system.server ∧
          after.world = iteration registerFile system.batch system.world)) := by
  intro after
  have taken := system.server.popCommand_queued
  have popped := ready.popCommand
  cases phase : system.phase with
  | waiting =>
      have connected : after = { system with phase := .draining } := by
        simp only [after, System.step, phase]
        rfl
      rw [connected]
      exact ⟨ready, Or.inl ⟨rfl, rfl⟩⟩
  | draining =>
      have drained : after = system.drain registerFile := by
        simp only [after, System.step, phase]
      rw [drained]
      unfold System.drain
      generalize system.server.popCommand = popping at taken popped
      rcases popping with ⟨_ | cmd, server⟩
      · exact ⟨ready, Or.inr ⟨rfl, rfl, rfl⟩⟩
      · refine ⟨popped, Or.inl ⟨?_, rfl⟩⟩
        show (system.batch ++ [cmd]) ++ server.queued = _
        rw [← taken, List.append_assoc]
        rfl

/-- A request that is read enters the queue if there is room. -/
theorem respond_cases (ready : session.system.server.Ready) {post : Post}
    (legal : post.Legal) (read : post.ReadBy number json) :
    let after := session.system.respond json (post.request number)
    after.server.Ready ∧
      after.batch = session.system.batch ∧
        after.server.queued =
          if session.system.server.queued.length < 15 then
            session.system.server.queued ++ [post.command]
          else session.system.server.queued := by
  intro after
  have asks := legal.command read
  have enqueued := ready.enqueue post.command
  have answer : after.server =
      (session.system.server.enqueue post.command).server :=
    congrArg Handled.server
      (WebServer.respond_of_command ready.running asks)
  rw [answer]
  exact ⟨enqueued.2.1, rfl, enqueued.2.2.2⟩

theorem status_of_displayed
    (shown : displayed session.system.world.bus.history =
      some (settledMode mode)) :
    displayMode session.status.reply = settledMode mode := by
  unfold displayed at shown
  rcases Option.map_eq_some_iff.mp shown with ⟨latest, last, equal⟩
  rw [status, last]
  exact equal

/-! ## The invariant -/

/-- The mode is on its way to the loop or wanted there, and the page displays
it as long as the choice stands, and the server's idea of it afterwards. -/
structure Follows (mode : Int) (session : Session) : Prop where
  sound : session.page.Sound
  ready : session.system.server.Ready
  legal : ∀ post ∈ session.outbox, post.Legal
  others : ∀ other, .mode other ∈ session.outbox → other = mode
  wanted : .mode mode ∈ session.outbox ∨
    wantedAtLast mode (Wants mode session.system.world) session.commands
  stands : session.page.Holds (.mode mode) ∨ session.Settled mode
  shown : session.page.currentMode = mode ∨
    session.Settled mode ∧ session.page.currentMode = settledMode mode

/-! ### Events of the page -/

/-- What an event of the page puts into the outbox. -/
theorem outbox_event (session : Session) (event : PageEvent) :
    ∃ sent, (session.event event).outbox = session.outbox ++ sent ∧
      (session.page.step event).posts = session.page.posts ++ sent ∧
        ∀ mode, .mode mode ∈ sent →
          Page.Chooses (.mode mode) session.page event := by
  rcases Page.posts_step session.page event with ⟨sent, posts, chosen⟩
  refine ⟨sent, ?_, posts, chosen⟩
  show session.outbox ++
    (session.page.step event).posts.drop session.page.posts.length = _
  rw [posts, List.drop_left]

theorem Settled.event (settled : session.Settled mode) {event : PageEvent}
    (unchosen : ∀ other, ¬ Page.Chooses (.mode other) session.page event) :
    (session.event event).Settled mode where
  sent := by
    rcases outbox_event session event with ⟨sent, outbox, -, chosen⟩
    intro other inside
    rw [outbox] at inside
    rcases List.mem_append.mp inside with before | new
    · exact settled.sent other before
    · exact unchosen other (chosen other new)
  commands := settled.commands
  wants := settled.wants
  status := settled.status
  reply := settled.reply

theorem Follows.event (follows : session.Follows mode) {event : PageEvent}
    (unchosen : ∀ other, ¬ Page.Chooses (.mode other) session.page event)
    (ends : Page.Ends (.mode mode) session.page event →
      session.Settled mode)
    (answers : ∀ status, event = .attempt (some status) →
      session.Settled mode → displayMode status.reply = settledMode mode) :
    (session.event event).Follows mode := by
  rcases outbox_event session event with ⟨sent, outbox, posts, chosen⟩
  have none : ∀ other, .mode other ∉ sent :=
    fun other inside => unchosen other (chosen other inside)
  have sound := follows.sound.step event
  have settles : session.Settled mode →
      (session.event event).Settled mode :=
    fun settled => settled.event unchosen
  exact {
    sound := sound
    ready := follows.ready
    legal := by
      intro post inside
      rw [outbox] at inside
      rcases List.mem_append.mp inside with before | new
      · exact follows.legal post before
      · apply sound.posts
        rw [posts]
        exact List.mem_append_right _ new
    others := by
      intro other inside
      rw [outbox] at inside
      rcases List.mem_append.mp inside with before | new
      · exact follows.others other before
      · exact absurd new (none other)
    wanted := by
      rw [outbox]
      exact follows.wanted.imp_left (List.mem_append_left _)
    stands := by
      rcases follows.stands with holds | settled
      · by_cases ended : Page.Ends (.mode mode) session.page event
        · exact Or.inr (settles (ends ended))
        · left
          exact (Page.holds_step _ _ _).mpr (Or.inr ⟨holds, ended⟩)
      · exact Or.inr (settles settled)
    shown := by
      show (session.page.step event).currentMode = mode ∨ _ ∧
        (session.page.step event).currentMode = settledMode mode
      rcases follows.sound.currentMode_step unchosen with
        same | ⟨status, got, nothing, shown⟩
      · rw [same]
        exact follows.shown.imp_right (And.imp_left settles)
      · right
        have settled : session.Settled mode := by
          rcases follows.stands with holds | settled
          · cases nothing.symm.trans holds
          · exact settled
        exact ⟨settles settled, shown.trans (answers status got settled)⟩ }

/-! ### The other steps -/

/-- Nothing changes on the page, and what is settled remains so. -/
theorem Follows.of_system (follows : session.Follows mode) {after : Session}
    (page : after.page = session.page)
    (ready : after.system.server.Ready)
    (outbox : ∀ post ∈ after.outbox, post ∈ session.outbox)
    (wanted : .mode mode ∈ after.outbox ∨
      wantedAtLast mode (Wants mode after.system.world) after.commands)
    (settles : session.Settled mode → after.Settled mode) :
    after.Follows mode where
  sound := page ▸ follows.sound
  ready := ready
  legal := fun post inside => follows.legal post (outbox post inside)
  others := fun other inside => follows.others other (outbox _ inside)
  wanted := wanted
  stands := by
    rw [page]
    exact follows.stands.imp_right settles
  shown := by
    rw [page]
    exact follows.shown.imp_right (And.imp_left settles)

theorem Follows.deliver (follows : session.Follows mode) {post : Post}
    (inside : post ∈ session.outbox) (read : post.ReadBy number json)
    (room : post = .mode mode →
      session.system.server.queued.length < 15) :
    ({ session with
        outbox := session.outbox.erase post
        system := session.system.respond json
          (post.request number) } : Session).Follows mode := by
  have legal := follows.legal post inside
  rcases respond_cases follows.ready legal read with
    ⟨ready, batch, queued⟩
  have sub : ∀ other ∈ session.outbox.erase post, other ∈ session.outbox :=
    fun other => List.mem_of_mem_erase
  have commands : (session.system.respond json (post.request number)).batch ++
      (session.system.respond json (post.request number)).server.queued =
        if session.system.server.queued.length < 15 then
          session.commands ++ [post.command]
        else session.commands := by
    rw [batch, queued]
    split
    · exact (List.append_assoc ..).symm
    · rfl
  refine follows.of_system rfl ready sub ?wanted ?settles
  case wanted =>
    by_cases same : post = .mode mode
    · right
      show wantedAtLast mode (Wants mode session.system.world) (_ ++ _)
      rw [commands, if_pos (room same), wantedAtLast_append, same]
      rfl
    · have quiet : Quiet post.command := by
        apply Post.quiet
        rintro other rfl
        exact same (congrArg Post.mode (follows.others other inside))
      refine follows.wanted.imp (fun waiting => ?_) (fun wanted => ?_)
      · exact (List.mem_erase_of_ne (Ne.symm same)).mpr waiting
      · show wantedAtLast mode (Wants mode session.system.world) (_ ++ _)
        rw [commands]
        split
        · rw [wantedAtLast_append]
          exact wantedAtLast_of_quiet (List.forall_mem_singleton.mpr quiet)
            wanted
        · exact wanted
  case settles =>
    intro settled
    have quiet : Quiet post.command := by
      apply Post.quiet
      rintro other rfl
      exact settled.sent other inside
    exact {
      sent := fun other member => settled.sent other (sub _ member)
      commands := by
        show ∀ cmd ∈ _ ++ _, Quiet cmd
        rw [commands]
        split
        · exact List.forall_mem_append.mpr
            ⟨settled.commands, List.forall_mem_singleton.mpr quiet⟩
        · exact settled.commands
      wants := settled.wants
      status := settled.status
      reply := settled.reply }

theorem Follows.loop (follows : session.Follows mode) (json : MgJson)
    (range : 0 ≤ mode ∧ mode ≤ 4) :
    ({ session with
        system := session.system.step json registerFile
          .loop } : Session).Follows mode := by
  rcases loop_cases json session.system follows.ready with ⟨ready, cases⟩
  refine follows.of_system rfl ready (fun post inside => inside) ?wanted
    ?settles
  case wanted =>
    refine follows.wanted.imp_right fun wanted => ?_
    show wantedAtLast mode (Wants mode (_ : System _).world) (_ ++ _)
    rcases cases with ⟨commands, world⟩ | ⟨batch, server, world⟩
    · rw [commands, world]
      exact wanted
    · rw [batch, server, world, List.nil_append]
      unfold Session.commands at wanted
      rw [wantedAtLast_append] at wanted
      exact wantedAtLast_mono Wants.iteration wanted
  case settles =>
    intro settled
    rcases cases with ⟨commands, world⟩ | ⟨batch, server, world⟩
    · exact {
        sent := settled.sent
        commands := by
          show ∀ cmd ∈ _ ++ _, Quiet cmd
          rw [commands]
          exact settled.commands
        wants := by
          show Wants mode (_ : System _).world
          rw [world]
          exact settled.wants
        status := by
          unfold Session.status
          rw [world]
          exact settled.status
        reply := settled.reply }
    · rcases List.forall_mem_append.mp settled.commands with
        ⟨quietBatch, quietQueue⟩
      have wanted : wantedAtLast mode (Wants mode session.system.world)
          session.system.batch :=
        wantedAtLast_of_quiet quietBatch settled.wants
      exact {
        sent := settled.sent
        commands := by
          show ∀ cmd ∈ _ ++ _, Quiet cmd
          rw [batch, server]
          exact quietQueue
        wants := by
          show Wants mode (_ : System _).world
          rw [world]
          exact Wants.iteration wanted
        status := by
          apply status_of_displayed
          show displayed (_ : System _).world.bus.history = _
          rw [world]
          exact Wants.displayed range.1 range.2 wanted
        reply := settled.reply }

theorem Follows.serve (follows : session.Follows mode) :
    ({ session with reply := some session.status } : Session).Follows
      mode := by
  refine follows.of_system rfl follows.ready (fun post inside => inside)
    ?wanted ?settles
  case wanted => exact follows.wanted
  case settles =>
    intro settled
    exact { settled with
      reply := by
        rintro _ ⟨⟩
        exact settled.status }

theorem Follows.step (follows : session.Follows mode)
    (range : 0 ≤ mode ∧ mode ≤ 4) {step : SessionStep}
    (undisturbed : session.Undisturbed number json mode step) :
    (session.step number json step).Follows mode := by
  cases step with
  | page event =>
      have selected := undisturbed.selected event rfl
      have ends := undisturbed.ends event rfl
      unfold Session.step
      dsimp only
      split
      case h_1 => exact follows
      case h_2 other =>
        apply follows.event selected ends
        rintro status rfl
        exact absurd rfl (other status)
  | deliver post =>
      show Follows mode (if post ∈ session.outbox then _ else session)
      split
      case isTrue inside =>
        apply follows.deliver inside (undisturbed.read post rfl)
        rintro rfl
        exact undisturbed.room rfl
      case isFalse => exact follows
  | loop => exact follows.loop json range
  | serve => exact follows.serve
  | receive =>
      show Follows mode (match session.reply with
        | none => session
        | some status =>
            { session.event (.attempt (some status)) with reply := none })
      cases reply : session.reply with
      | none => exact follows
      | some status =>
          have got : PageEvent.attempt (some status) ∈
              session.pageEvent .receive := by
            simp [pageEvent, reply]
          have after := follows.event (undisturbed.selected _ got)
            (undisturbed.ends _ got) (by
              rintro _ ⟨⟩ settled
              exact settled.reply status reply)
          refine after.of_system rfl after.ready
            (fun post inside => inside) ?wanted ?settles
          case wanted => exact after.wanted
          case settles => exact fun settled => { settled with reply := nofun }

theorem Follows.run (follows : session.Follows mode)
    (range : 0 ≤ mode ∧ mode ≤ 4) {steps : List SessionStep}
    (undisturbed : Throughout (Session.step number json)
      (Undisturbed number json mode) session steps) :
    (session.run number json steps).Follows mode := by
  induction steps generalizing session with
  | nil => exact follows
  | cons step steps ih =>
      rcases throughout_cons.mp undisturbed with ⟨now, later⟩
      exact ih (follows.step range now) later

/-! ### From the beginning -/

/-- What holds of a session whatever happens. -/
structure Good (session : Session) : Prop where
  sound : session.page.Sound
  ready : session.system.server.Ready
  legal : ∀ post ∈ session.outbox, post.Legal

theorem Good.event (good : session.Good) (event : PageEvent) :
    (session.event event).Good := by
  rcases outbox_event session event with ⟨sent, outbox, posts, -⟩
  have sound := good.sound.step event
  refine ⟨sound, good.ready, ?_⟩
  rw [outbox]
  refine List.forall_mem_append.mpr ⟨good.legal, fun post new => ?_⟩
  apply sound.posts
  rw [posts]
  exact List.mem_append_right _ new

theorem Good.step (good : session.Good) (number : ℚ → String)
    (json : MgJson) (step : SessionStep) :
    (session.step number json step).Good := by
  cases step with
  | page event =>
      unfold Session.step
      dsimp only
      split
      · exact good
      · exact good.event _
  | deliver post =>
      unfold Session.step
      dsimp only
      split
      · exact ⟨good.sound, (good.ready.respond json _).1,
          fun other inside => good.legal other (List.mem_of_mem_erase inside)⟩
      · exact good
  | loop =>
      exact ⟨good.sound, (loop_cases json session.system good.ready).1,
        good.legal⟩
  | serve => exact ⟨good.sound, good.ready, good.legal⟩
  | receive =>
      unfold Session.step
      dsimp only
      split
      case h_1 => exact good
      case h_2 status _ =>
        have after := good.event (.attempt (some status))
        exact ⟨after.sound, after.ready, after.legal⟩

theorem Good.run (good : session.Good) (number : ℚ → String)
    (json : MgJson) (steps : List SessionStep) :
    (session.run number json steps).Good :=
  List.foldlRecOn steps (Session.step number json) good
    fun _ before step _ => before.step number json step

theorem Good.follows (good : session.Good) {event : PageEvent}
    (chooses : Page.Chooses (.mode mode) session.page event)
    (others : ∀ other, .mode other ∈ session.outbox → other = mode) :
    (session.event event).Follows mode := by
  have after := good.event event
  have holds : (session.event event).page.Holds (.mode mode) :=
    (Page.holds_step _ _ _).mpr (Or.inl chooses)
  have outbox : (session.event event).outbox =
      session.outbox ++ [.mode mode] := by
    rcases outbox_event session event with ⟨sent, outbox, posts, -⟩
    rw [Page.posts_of_chooses chooses] at posts
    rw [outbox, List.append_cancel_left posts]
  exact {
    sound := after.sound
    ready := after.ready
    legal := after.legal
    others := by
      intro other inside
      rw [outbox] at inside
      rcases List.mem_append.mp inside with before | new
      · exact others other before
      · cases List.mem_singleton.mp new
        rfl
    wanted := by
      left
      rw [outbox]
      exact List.mem_append_right _ (List.mem_singleton_self _)
    stands := Or.inl holds
    shown := Or.inl (after.sound.mode mode holds) }

end

/-- A fresh system on registers that hold zeros. -/
def fresh : Session :=
  start defaultSettings.loop fun _ => 0

def number : ℚ → String :=
  fun _ => "0"

/-- The session before the page gets the status. -/
def served : Session :=
  (fresh.event (.mode .mode2Btn)).run number pageJson
    [.deliver (.mode 2), .loop, .loop, .loop, .serve]

end Session

end Windmi.Web
