import Mathlib.Logic.Function.Basic
import Windmi.Library.Decimal
import Windmi.Library.LockFile
import Windmi.Library.Runs

/-!
# The instance lock

`acquire_instance_lock` and `release_instance_lock` of `src/utils/Platform.cpp`
with every system call as a step of its own, in any number of processes which
may end at any point.  The file may fail to open, `flock` may fail although
nobody holds the lock, and a write may be cut short.  The lock file is never
removed, and a process that was started with `--force` goes on without the
lock if it does not get it.
-/

namespace Windmi.Utils

open Windmi.Library

abbrev Pid := Nat

/-- The lock file as the processes see it; `none` holds no lock. -/
abbrev InstanceLock := LockFile Pid Char

/-- What is written into the lock file: the process id on a line. -/
def pidText (pid : Pid) : List Char :=
  Decimal.integer pid ++ ['\n']

/-! ## One process by itself -/

/-- How the system calls of one start turn out: whether the file opens,
whether `flock` works, so that it fails only if somebody has the lock, and how
many characters the write gets through. -/
structure LockCalls where
  opens : Bool := true
  flocks : Bool := true
  written : Nat
  deriving DecidableEq

/-- `acquire_instance_lock`. -/
def acquireInstanceLock (calls : LockCalls) (force : Bool) (pid : Pid)
    (file : InstanceLock) : Bool × InstanceLock :=
  if calls.opens = false then
    (false, file)
  else
    let attempt := if calls.flocks then file.tryLock pid else (false, file)
    if attempt.1 = false ∧ force = false then
      (false, attempt.2.close pid)
    else
      let file :=
        if attempt.1 then attempt.2 else attempt.2.truncate '\x00' 0
      let text := pidText pid
      (true, (file.write (text.take calls.written)).truncate '\x00'
        text.length)

/-- `release_instance_lock`. -/
def releaseInstanceLock (pid : Pid) (file : InstanceLock) : InstanceLock :=
  file.close pid

section

variable {pid : Pid} {file : InstanceLock} {calls : LockCalls} {force : Bool}

theorem acquireInstanceLock_of_unopened (unopened : calls.opens = false) :
    acquireInstanceLock calls force pid file = (false, file) :=
  if_pos unopened

theorem acquireInstanceLock_of_granted (opens : calls.opens = true)
    (flocks : calls.flocks = true) (free : file.holder = none) :
    acquireInstanceLock calls force pid file =
      (true, (LockFile.write ((pidText pid).take calls.written)
        { file with holder := some pid }).truncate '\x00'
          (pidText pid).length) := by
  simp [acquireInstanceLock, opens, flocks, LockFile.tryLock_of_free free]

/-- `flock` fails, as somebody has the lock or for another reason. -/
def LockCalls.Denied (calls : LockCalls) (file : InstanceLock) : Prop :=
  calls.flocks = false ∨ file.holder ≠ none

theorem LockCalls.not_denied_iff :
    ¬ calls.Denied file ↔ calls.flocks = true ∧ file.holder = none := by
  rw [Denied, not_or, Bool.not_eq_false, not_not]

theorem LockCalls.Denied.attempt (denied : calls.Denied file) :
    (if calls.flocks then file.tryLock pid else (false, file)) =
      (false, file) := by
  split
  case isTrue flocks =>
    rcases denied with fails | held
    · rw [fails] at flocks
      cases flocks
    · rcases Option.ne_none_iff_exists'.mp held with ⟨owner, holder⟩
      exact LockFile.tryLock_of_held holder
  case isFalse => rfl

theorem acquireInstanceLock_of_forced (opens : calls.opens = true)
    (denied : calls.Denied file) :
    acquireInstanceLock calls true pid file =
      (true, ((file.truncate '\x00' 0).write
        ((pidText pid).take calls.written)).truncate '\x00'
          (pidText pid).length) := by
  simp [acquireInstanceLock, opens, denied.attempt]

theorem acquireInstanceLock_of_refused (opens : calls.opens = true)
    (denied : calls.Denied file) :
    acquireInstanceLock calls false pid file = (false, file.close pid) := by
  simp [acquireInstanceLock, opens, denied.attempt]

theorem acquireInstanceLock_refused_iff :
    (acquireInstanceLock calls force pid file).1 = false ↔
      calls.opens = false ∨ force = false ∧ calls.Denied file := by
  cases opens : calls.opens with
  | false => simp [acquireInstanceLock_of_unopened opens]
  | true =>
      by_cases denied : calls.Denied file
      · cases force with
        | true => simp [acquireInstanceLock_of_forced opens denied]
        | false => simp [acquireInstanceLock_of_refused opens denied, denied]
      · rcases LockCalls.not_denied_iff.mp denied with ⟨flocks, free⟩
        simp [acquireInstanceLock_of_granted opens flocks free, denied]

/-- A refused start does not touch the file. -/
theorem file_of_refused (foreign : file.holder ≠ some pid)
    (refused : (acquireInstanceLock calls force pid file).1 = false) :
    (acquireInstanceLock calls force pid file).2 = file := by
  cases opens : calls.opens with
  | false => rw [acquireInstanceLock_of_unopened opens]
  | true =>
      rcases acquireInstanceLock_refused_iff.mp refused with unopened | held
      · rw [opens] at unopened
        cases unopened
      · rcases held with ⟨rfl, denied⟩
        rw [acquireInstanceLock_of_refused opens denied]
        exact LockFile.close_of_foreign foreign

end

/-! ## Any number of processes -/

/-- The next system call of a process that has got past the lock. -/
inductive Stage where
  | overriding
  | naming
  | trimming
  | running
  deriving DecidableEq

inductive Phase where
  /-- Not started, refused, or ended. -/
  | absent
  | opened (force : Bool)
  | past (force : Bool) (stage : Stage) (locked : Bool)
  deriving DecidableEq

/-- What happens to a process next. -/
inductive InstanceMove where
  /-- It has opened the lock file. -/
  | launch (force : Bool)
  /-- It could not open the lock file, or its `flock` fails for another reason
  than that somebody has the lock. -/
  | fail
  /-- It makes its next call; a write writes so many characters at most. -/
  | proceed (count : Nat)
  /-- It ends, in whatever way. -/
  | quit
  deriving DecidableEq

structure Instances where
  phase : Pid → Phase := fun _ => .absent
  file : InstanceLock := {}

namespace Instances

def setPhase (pid : Pid) (phase : Phase) (instances : Instances) :
    Instances :=
  { instances with phase := Function.update instances.phase pid phase }

def setFile (file : InstanceLock) (instances : Instances) : Instances :=
  { instances with file := file }

/-- A process did not get the lock. -/
def deny (pid : Pid) (force : Bool) (instances : Instances) : Instances :=
  if force then
    instances.setPhase pid (.past force .overriding false)
  else
    (instances.setFile (instances.file.close pid)).setPhase pid .absent

/-- The next call of a process. -/
def proceed (pid : Pid) (count : Nat) (instances : Instances) : Instances :=
  match instances.phase pid with
  | .absent => instances
  | .opened force =>
      let attempt := instances.file.tryLock pid
      if attempt.1 then
        (instances.setFile attempt.2).setPhase pid (.past force .naming true)
      else
        (instances.setFile attempt.2).deny pid force
  | .past force .overriding locked =>
      (instances.setFile (instances.file.truncate '\x00' 0)).setPhase pid
        (.past force .naming locked)
  | .past force .naming locked =>
      (instances.setFile
        (instances.file.write ((pidText pid).take count))).setPhase pid
          (.past force .trimming locked)
  | .past force .trimming locked =>
      (instances.setFile
        (instances.file.truncate '\x00' (pidText pid).length)).setPhase pid
          (.past force .running locked)
  | .past _ .running _ => instances

def step (instances : Instances) (move : Pid × InstanceMove) : Instances :=
  match move.2 with
  | .launch force =>
      if instances.phase move.1 = .absent then
        instances.setPhase move.1 (.opened force)
      else
        instances
  | .fail =>
      match instances.phase move.1 with
      | .opened force => instances.deny move.1 force
      | _ => instances
  | .proceed count => instances.proceed move.1 count
  | .quit =>
      (instances.setFile
        (releaseInstanceLock move.1 instances.file)).setPhase move.1 .absent

/-- Any interleaving of the processes, from an empty lock file on. -/
def run (moves : List (Pid × InstanceMove)) : Instances :=
  moves.foldl step {}

/-! ## The lock -/

/-- The process goes on, with the lock or without it. -/
def Past (instances : Instances) (pid : Pid) : Prop :=
  ∃ force stage locked, instances.phase pid = .past force stage locked

/-- It goes on and was started with `--force`. -/
def Forced (instances : Instances) (pid : Pid) : Prop :=
  ∃ stage locked, instances.phase pid = .past true stage locked

/-- The process believes to have the lock. -/
def Locked (instances : Instances) (pid : Pid) : Prop :=
  ∃ force stage, instances.phase pid = .past force stage true

variable {instances : Instances} {pid other : Pid}

@[simp]
theorem file_setPhase (phase : Phase) :
    (instances.setPhase pid phase).file = instances.file :=
  rfl

@[simp]
theorem file_setFile (file : InstanceLock) :
    (instances.setFile file).file = file :=
  rfl

@[simp]
theorem phase_setFile (file : InstanceLock) :
    (instances.setFile file).phase = instances.phase :=
  rfl

@[simp]
theorem phase_setPhase_self (phase : Phase) :
    (instances.setPhase pid phase).phase pid = phase :=
  Function.update_self ..

theorem not_locked_of_opened {force : Bool}
    (opened : instances.phase pid = .opened force) :
    ¬ instances.Locked pid := by
  rintro ⟨_, _, past⟩
  rw [opened] at past
  cases past

theorem not_locked_of_absent (absent : instances.phase pid = .absent) :
    ¬ instances.Locked pid := by
  rintro ⟨_, _, past⟩
  rw [absent] at past
  cases past

theorem locked_iff_of_past {force locked : Bool} {stage : Stage}
    (past : instances.phase pid = .past force stage locked) :
    instances.Locked pid ↔ locked = true := by
  constructor
  · rintro ⟨_, _, equal⟩
    rw [past] at equal
    cases equal
    rfl
  · rintro rfl
    exact ⟨force, stage, past⟩

/-! ## What a process can do next -/

/-- With this move a process that asks for the lock does not get it. -/
def Denied (instances : Instances) : InstanceMove → Prop
  | .fail => True
  | .proceed _ => instances.file.holder ≠ none
  | .launch _ | .quit => False

/-- One effect of a step on one process and on the file. -/
inductive Effect (instances : Instances) (pid : Pid) :
    InstanceMove → Instances → Prop where
  | nothing (move : InstanceMove) : Effect instances pid move instances
  | launched (force : Bool) (absent : instances.phase pid = .absent) :
      Effect instances pid (.launch force)
        (instances.setPhase pid (.opened force))
  | locked (force : Bool) (count : Nat)
      (opened : instances.phase pid = .opened force)
      (free : instances.file.holder = none) :
      Effect instances pid (.proceed count)
        ((instances.setFile
          { instances.file with holder := some pid }).setPhase pid
            (.past force .naming true))
  | overrode (move : InstanceMove) (denied : instances.Denied move)
      (opened : instances.phase pid = .opened true) :
      Effect instances pid move
        (instances.setPhase pid (.past true .overriding false))
  | refused (move : InstanceMove) (denied : instances.Denied move)
      (opened : instances.phase pid = .opened false) :
      Effect instances pid move
        ((instances.setFile (instances.file.close pid)).setPhase pid .absent)
  | emptied (force locked : Bool) (count : Nat)
      (past : instances.phase pid = .past force .overriding locked) :
      Effect instances pid (.proceed count)
        ((instances.setFile (instances.file.truncate '\x00' 0)).setPhase pid
          (.past force .naming locked))
  | named (force locked : Bool) (count : Nat)
      (past : instances.phase pid = .past force .naming locked) :
      Effect instances pid (.proceed count)
        ((instances.setFile
          (instances.file.write ((pidText pid).take count))).setPhase pid
            (.past force .trimming locked))
  | trimmed (force locked : Bool) (count : Nat)
      (past : instances.phase pid = .past force .trimming locked) :
      Effect instances pid (.proceed count)
        ((instances.setFile
          (instances.file.truncate '\x00' (pidText pid).length)).setPhase pid
            (.past force .running locked))
  | ended : Effect instances pid .quit
      ((instances.setFile
        (releaseInstanceLock pid instances.file)).setPhase pid .absent)

theorem effect_deny {move : InstanceMove} (denied : instances.Denied move)
    {force : Bool} (opened : instances.phase pid = .opened force) :
    Effect instances pid move (instances.deny pid force) := by
  cases force with
  | true => exact .overrode move denied opened
  | false => exact .refused move denied opened

theorem effect_proceed (instances : Instances) (pid : Pid) (count : Nat) :
    Effect instances pid (.proceed count) (instances.proceed pid count) := by
  unfold proceed
  split
  case h_1 => exact .nothing _
  case h_2 force opened =>
    cases holder : instances.file.holder with
    | none =>
        simp only [LockFile.tryLock_of_free holder, if_true]
        exact .locked force count opened holder
    | some owner =>
        simp only [LockFile.tryLock_of_held holder, Bool.false_eq_true,
          if_false]
        apply effect_deny _ opened
        intro free
        rw [holder] at free
        cases free
  case h_3 force locked past => exact .emptied force locked count past
  case h_4 force locked past => exact .named force locked count past
  case h_5 force locked past => exact .trimmed force locked count past
  case h_6 => exact .nothing _

theorem effect_step (instances : Instances) (pid : Pid)
    (move : InstanceMove) :
    Effect instances pid move (instances.step (pid, move)) := by
  cases move with
  | launch force =>
      show Effect instances pid (.launch force)
        (if instances.phase pid = .absent then _ else _)
      split
      case isTrue absent => exact .launched force absent
      case isFalse => exact .nothing _
  | fail =>
      show Effect instances pid .fail
        (match instances.phase pid with
          | .opened force => instances.deny pid force
          | _ => instances)
      split
      case h_1 force opened =>
        have denied : instances.Denied .fail := trivial
        exact effect_deny denied opened
      case h_2 => exact .nothing _
  | proceed count => exact effect_proceed instances pid count
  | quit => exact .ended

/-- The other processes are where they were. -/
theorem Effect.phase_of_ne {move : InstanceMove} {after : Instances}
    (effect : Effect instances pid move after) (foreign : other ≠ pid) :
    after.phase other = instances.phase other := by
  cases effect with
  | nothing => rfl
  | _ => exact Function.update_of_ne foreign ..

/-! ## Who has the lock -/

/-- Exactly the process which believes to have the lock has it, and only one
that was started with `--force` goes on without it. -/
structure Sound (instances : Instances) : Prop where
  holder : ∀ pid, instances.file.holder = some pid ↔ instances.Locked pid
  forced : ∀ pid force stage,
    instances.phase pid = .past force stage false → force = true

theorem Sound.create : Sound {} := by
  constructor
  · intro pid
    refine iff_of_false (fun held => ?_) (not_locked_of_absent rfl)
    cases held
  · intro pid force stage past
    cases past

/-- What the process that makes a step has to keep. -/
theorem Sound.effect (sound : instances.Sound) {move : InstanceMove}
    {after : Instances} (effect : Effect instances pid move after)
    (foreign : ∀ other, other ≠ pid →
      (after.file.holder = some other ↔
        instances.file.holder = some other))
    (own : after.file.holder = some pid ↔ after.Locked pid)
    (forced : ∀ force stage,
      after.phase pid = .past force stage false → force = true) :
    after.Sound := by
  constructor
  · intro other
    by_cases it : other = pid
    · rw [it]
      exact own
    · rw [foreign other it, sound.holder, Locked, Locked,
        effect.phase_of_ne it]
  · intro other force stage past
    by_cases it : other = pid
    · rw [it] at past
      exact forced force stage past
    · rw [effect.phase_of_ne it] at past
      exact sound.forced other force stage past

theorem Sound.step (sound : instances.Sound) (pid : Pid)
    (move : InstanceMove) : (instances.step (pid, move)).Sound := by
  have effect := effect_step instances pid move
  generalize instances.step (pid, move) = after at effect
  have own := sound.holder pid
  apply sound.effect effect
  · intro other different
    cases effect with
    | locked force count opened free =>
        refine iff_of_false (fun held => ?_) fun held => ?_
        · exact different (Option.some.inj held).symm
        · rw [free] at held
          cases held
    | refused =>
        exact LockFile.holder_close_iff.trans (and_iff_left different)
    | ended => exact LockFile.holder_close_iff.trans (and_iff_left different)
    | _ => exact Iff.rfl
  · cases effect with
    | nothing => exact own
    | launched force absent =>
        apply iff_of_false
        · exact fun held => not_locked_of_absent absent (own.mp held)
        · exact not_locked_of_opened (phase_setPhase_self _)
    | locked force count opened free =>
        exact iff_of_true rfl ⟨force, .naming, phase_setPhase_self _⟩
    | overrode move denied opened =>
        apply iff_of_false
        · exact fun held => not_locked_of_opened opened (own.mp held)
        · rw [locked_iff_of_past (phase_setPhase_self _)]
          exact Bool.false_ne_true
    | refused | ended =>
        apply iff_of_false
        · exact fun held => (LockFile.holder_close_iff.mp held).2 rfl
        · exact not_locked_of_absent (phase_setPhase_self _)
    | emptied force locked count past | named force locked count past
    | trimmed force locked count past =>
        rw [locked_iff_of_past (phase_setPhase_self _),
          ← locked_iff_of_past past]
        exact own
  · intro force stage past
    cases effect with
    | nothing => exact sound.forced pid force stage past
    | emptied given locked count before | named given locked count before
    | trimmed given locked count before =>
        rw [phase_setPhase_self] at past
        cases past
        exact sound.forced pid force _ before
    | overrode =>
        rw [phase_setPhase_self] at past
        cases past
        rfl
    | launched | locked | refused | ended =>
        rw [phase_setPhase_self] at past
        cases past

theorem run_sound (moves : List (Pid × InstanceMove)) : (run moves).Sound :=
  List.foldlRecOn moves step Sound.create
    fun _ sound move _ => sound.step move.1 move.2

/-- A process that goes on without `--force` has the lock. -/
theorem holder_of_past (moves : List (Pid × InstanceMove)) {stage : Stage}
    {locked : Bool}
    (past : (run moves).phase pid = .past false stage locked) :
    (run moves).file.holder = some pid := by
  have sound := run_sound moves
  cases locked with
  | true => exact (sound.holder pid).mpr ⟨false, stage, past⟩
  | false => cases sound.forced pid false stage past

/-- Two processes are past the lock together only if one was started with
`--force`, however the processes interleave and wherever they end; what holds
the lock is always a process that is past it. -/
theorem instances_exclusive (moves : List (Pid × InstanceMove)) :
    (∀ pid other, (run moves).Past pid → (run moves).Past other →
      pid ≠ other → (run moves).Forced pid ∨ (run moves).Forced other) ∧
      ∀ pid, (run moves).file.holder = some pid → (run moves).Past pid := by
  constructor
  · rintro pid other ⟨force, stage, locked, past⟩
      ⟨given, next, claimed, beside⟩ different
    cases force with
    | true => exact Or.inl ⟨stage, locked, past⟩
    | false =>
        cases given with
        | true => exact Or.inr ⟨next, claimed, beside⟩
        | false =>
            have first := holder_of_past moves past
            rw [holder_of_past moves beside] at first
            exact absurd (Option.some.inj first).symm different
  · intro pid held
    rcases ((run_sound moves).holder pid).mp held with ⟨force, stage, past⟩
    exact ⟨force, stage, true, past⟩

/-! ## What the file says -/

/-- A start without `--force`, or a write that is complete. -/
def Orderly (move : Pid × InstanceMove) : Prop :=
  match move.2 with
  | .launch force => force = false
  | .proceed count => (pidText move.1).length ≤ count
  | .fail | .quit => True

instance (move : Pid × InstanceMove) : Decidable (Orderly move) :=
  match move with
  | (_, .launch force) => inferInstanceAs (Decidable (force = false))
  | (pid, .proceed count) =>
      inferInstanceAs (Decidable ((pidText pid).length ≤ count))
  | (_, .fail) | (_, .quit) => inferInstanceAs (Decidable True)

/-- How much of the process id the file has by then. -/
def Written (contents : List Char) (pid : Pid) : Stage → Prop
  | .overriding | .naming => True
  | .trimming => ∃ rest, contents = pidText pid ++ rest
  | .running => contents = pidText pid

/-- Nobody was started with `--force`, and whoever has the lock has written
its process id. -/
structure Named (instances : Instances) : Prop where
  opened : ∀ pid force, instances.phase pid = .opened force → force = false
  past : ∀ pid force stage locked,
    instances.phase pid = .past force stage locked →
      force = false ∧ Written instances.file.contents pid stage

theorem Named.create : Named {} := by
  constructor
  · intro pid force opened
    cases opened
  · intro pid force stage locked past
    cases past

/-- Only the process which has the lock is past it. -/
theorem Named.only (named : instances.Named) (sound : instances.Sound)
    {force locked : Bool} {stage : Stage}
    (past : instances.phase pid = .past force stage locked) :
    instances.file.holder = some pid := by
  cases locked with
  | true => exact (sound.holder pid).mpr ⟨force, stage, past⟩
  | false =>
      have forced := sound.forced pid force stage past
      rw [(named.past pid force stage false past).1] at forced
      cases forced

/-- What the process that makes a step has to keep. -/
theorem Named.effect (named : instances.Named) (sound : instances.Sound)
    {move : InstanceMove} {after : Instances}
    (effect : Effect instances pid move after)
    (same : after.file.contents = instances.file.contents ∨
      instances.file.holder = some pid)
    (opened : ∀ force, after.phase pid = .opened force → force = false)
    (past : ∀ force stage locked,
      after.phase pid = .past force stage locked →
        force = false ∧ Written after.file.contents pid stage) :
    after.Named := by
  constructor
  · intro other force waiting
    by_cases it : other = pid
    · rw [it] at waiting
      exact opened force waiting
    · rw [effect.phase_of_ne it] at waiting
      exact named.opened other force waiting
  · intro other force stage locked beyond
    by_cases it : other = pid
    · rw [it] at beyond ⊢
      exact past force stage locked beyond
    · rw [effect.phase_of_ne it] at beyond
      rcases same with same | owned
      · rw [same]
        exact named.past other force stage locked beyond
      · rw [named.only sound beyond] at owned
        exact absurd (Option.some.inj owned) it

theorem Named.step (named : instances.Named) (sound : instances.Sound)
    (pid : Pid) (move : InstanceMove) (orderly : Orderly (pid, move)) :
    (instances.step (pid, move)).Named := by
  have effect := effect_step instances pid move
  generalize instances.step (pid, move) = after at effect
  apply named.effect sound effect
  · cases effect with
    | nothing | launched | locked | overrode => exact Or.inl rfl
    | refused | ended => exact Or.inl LockFile.contents_close
    | emptied force locked count past | named force locked count past
    | trimmed force locked count past =>
        exact Or.inr (named.only sound past)
  · intro force waiting
    cases effect with
    | nothing => exact named.opened pid force waiting
    | launched given absent =>
        rw [phase_setPhase_self] at waiting
        cases waiting
        exact orderly
    | _ =>
        rw [phase_setPhase_self] at waiting
        cases waiting
  · intro force stage locked beyond
    cases effect with
    | nothing => exact named.past pid force stage locked beyond
    | launched | refused | ended =>
        rw [phase_setPhase_self] at beyond
        cases beyond
    | locked given count opened free =>
        rw [phase_setPhase_self] at beyond
        cases beyond
        exact ⟨named.opened pid force opened, trivial⟩
    | overrode move denied opened =>
        rw [phase_setPhase_self] at beyond
        cases beyond
        exact ⟨named.opened pid true opened, trivial⟩
    | emptied given claimed count past =>
        rw [phase_setPhase_self] at beyond
        cases beyond
        exact ⟨(named.past pid force _ locked past).1, trivial⟩
    | named given claimed count past =>
        rw [phase_setPhase_self] at beyond
        cases beyond
        refine ⟨(named.past pid force _ locked past).1, ?_⟩
        have whole : (pidText pid).take count = pidText pid :=
          List.take_of_length_le orderly
        rw [whole]
        exact ⟨_, rfl⟩
    | trimmed given claimed count past =>
        rw [phase_setPhase_self] at beyond
        cases beyond
        rcases named.past pid force _ locked past with ⟨plain, rest, text⟩
        refine ⟨plain, ?_⟩
        show (instances.file.truncate '\x00' _).contents = pidText pid
        exact LockFile.truncate_of_contents '\x00' text

theorem run_named (moves : List (Pid × InstanceMove))
    (orderly : ∀ move ∈ moves, Orderly move) : (run moves).Named := by
  induction moves using List.reverseRecOn with
  | nil => exact Named.create
  | append_singleton moves move ih =>
      rw [run, List.foldl_append]
      have named := ih fun before member =>
        orderly before (List.mem_append_left _ member)
      exact named.step (run_sound moves) move.1 move.2
        (orderly move (List.mem_append_right _ (List.mem_singleton_self _)))

/-- If nobody uses `--force` and no write is cut short, the lock file names a
process that has come through, exactly, and nobody else is past the lock; no
matter how starts, steps and ends of the processes interleave. -/
theorem lock_file_names_instance (moves : List (Pid × InstanceMove))
    (orderly : ∀ move ∈ moves, Orderly move) (pid : Pid) (locked : Bool)
    (running : (run moves).phase pid = .past false .running locked) :
    (run moves).file.contents = pidText pid ∧
      ∀ other, (run moves).Past other → other = pid := by
  have named := run_named moves orderly
  refine ⟨(named.past pid false .running locked running).2, ?_⟩
  rintro other ⟨force, stage, claimed, past⟩
  have holder := named.only (run_sound moves) past
  rw [holder_of_past moves running] at holder
  exact (Option.some.inj holder).symm

theorem lock_file_names_second :
    (run [(1, .launch false), (1, .proceed 2), (1, .quit),
      (2, .launch false), (2, .proceed 2), (2, .proceed 2),
      (2, .proceed 2)]).file.contents = pidText 2 ∧
    ∀ other, (run [(1, .launch false), (1, .proceed 2), (1, .quit),
      (2, .launch false), (2, .proceed 2), (2, .proceed 2),
      (2, .proceed 2)]).Past other → other = 2 :=
  lock_file_names_instance _ (by decide) 2 true (by decide)

/-! ## Starts -/

/-- A process by itself: it opens the file and makes its calls. -/
def start (calls : LockCalls) (force : Bool) (pid : Pid) :
    List (Pid × InstanceMove) :=
  [(pid, if calls.opens then .launch force else .fail),
    (pid, if calls.flocks then .proceed calls.written else .fail),
    (pid, .proceed calls.written), (pid, .proceed calls.written),
    (pid, .proceed calls.written)]

theorem proceed_of_absent (absent : instances.phase pid = .absent)
    (count : Nat) : instances.proceed pid count = instances := by
  rw [proceed, absent]

/-- A process which does not come as far as the lock changes nothing. -/
theorem start_of_unopened {calls : LockCalls} (force : Bool)
    (unopened : calls.opens = false)
    (absent : instances.phase pid = .absent) :
    (start calls force pid).foldl step instances = instances := by
  have fails : instances.step (pid, .fail) = instances := by
    simp only [step, absent]
  have proceeds (count : Nat) :
      instances.step (pid, .proceed count) = instances :=
    proceed_of_absent absent count
  cases flocks : calls.flocks with
  | true => simp [start, unopened, flocks, fails, proceeds]
  | false => simp [start, unopened, flocks, fails, proceeds]

/-- What a process does that did not get the lock. -/
theorem start_of_denied {calls : LockCalls} (force : Bool)
    (opens : calls.opens = true) (denied : calls.Denied instances.file)
    (absent : instances.phase pid = .absent) :
    (start calls force pid).foldl step instances =
      (((((instances.setPhase pid (.opened force)).deny pid force).proceed pid
        calls.written).proceed pid calls.written).proceed pid
          calls.written) := by
  have launched : instances.step (pid, .launch force) =
      instances.setPhase pid (.opened force) := if_pos absent
  have refused : (instances.setPhase pid (.opened force)).step (pid,
      if calls.flocks then .proceed calls.written else .fail) =
        (instances.setPhase pid (.opened force)).deny pid force := by
    cases flocks : calls.flocks with
    | true =>
        have held := denied.resolve_left (by simp [flocks])
        rcases Option.ne_none_iff_exists'.mp held with ⟨owner, holder⟩
        simp [step, proceed, LockFile.tryLock_of_held holder, setFile,
          setPhase]
    | false => simp [step]
  simp only [start, opens, if_true, List.foldl_cons, List.foldl_nil, launched,
    refused]
  rfl

/-- The steps of one process, with no other in between, are the function. -/
theorem start_eq (calls : LockCalls) (force : Bool)
    (absent : instances.phase pid = .absent) :
    let attempt := acquireInstanceLock calls force pid instances.file
    let after := (start calls force pid).foldl step instances
    after.file = attempt.2 ∧
      after.phase pid = if attempt.1 then
        .past force .running (calls.flocks && instances.file.holder.isNone)
        else .absent := by
  intro attempt after
  cases opens : calls.opens with
  | false =>
      rw [show after = _ from start_of_unopened force opens absent,
        show attempt = _ from acquireInstanceLock_of_unopened opens]
      exact ⟨rfl, absent⟩
  | true =>
      by_cases denied : calls.Denied instances.file
      · have locked : (calls.flocks && instances.file.holder.isNone) =
            false := by
          rcases denied with fails | held
          · rw [fails, Bool.false_and]
          · rw [Option.isNone_eq_false_iff.mpr
              (Option.isSome_iff_ne_none.mpr held), Bool.and_false]
        rw [show after = _ from start_of_denied force opens denied absent,
          locked]
        cases force with
        | true =>
            rw [show attempt = _ from
              acquireInstanceLock_of_forced opens denied]
            simp [deny, proceed]
        | false =>
            rw [show attempt = _ from
              acquireInstanceLock_of_refused opens denied]
            simp [deny, proceed]
      · rcases LockCalls.not_denied_iff.mp denied with ⟨flocks, free⟩
        have launched : instances.step (pid, .launch force) =
            instances.setPhase pid (.opened force) := if_pos absent
        rw [show attempt = _ from
          acquireInstanceLock_of_granted opens flocks free]
        simp only [after, start, opens, flocks, if_true, List.foldl_cons,
          List.foldl_nil, launched, free]
        simp [step, proceed, LockFile.tryLock_of_free free]

/-- A start that is not refused has written into the file. -/
theorem written_of_acquired {calls : LockCalls} {force : Bool}
    {file : InstanceLock}
    (acquired : (acquireInstanceLock calls force pid file).1 = true) :
    ∃ opened : InstanceLock, (acquireInstanceLock calls force pid file).2 =
      (opened.write ((pidText pid).take calls.written)).truncate '\x00'
        (pidText pid).length := by
  unfold acquireInstanceLock at acquired ⊢
  dsimp only at acquired ⊢
  split_ifs at acquired ⊢
  all_goals exact ⟨_, rfl⟩

/-- Whatever happened to the processes before and however the calls of a start
turn out: it is refused only if the file cannot be opened or, without
`--force`, if `flock` fails, as it does while another process that still goes
on has the lock.  A refused start leaves the file alone.  Any other one leaves
a file of the length of its process id in it, with as much of the process id
as the write got through. -/
theorem no_stale_lock (moves : List (Pid × InstanceMove)) (pid : Pid)
    (force : Bool) (calls : LockCalls)
    (absent : (run moves).phase pid = .absent) :
    let before := run moves
    let after := run (moves ++ start calls force pid)
    (after.phase pid = .absent ↔ calls.opens = false ∨
      force = false ∧
        (calls.flocks = false ∨ ∃ other, before.Locked other)) ∧
    (after.phase pid = .absent → after.file = before.file) ∧
    (after.phase pid ≠ .absent →
      after.file.contents.length = (pidText pid).length ∧
      (pidText pid).take calls.written <+: after.file.contents ∧
      ((pidText pid).length ≤ calls.written →
        after.file.contents = pidText pid)) := by
  intro before after
  have sound : before.Sound := run_sound moves
  have apart : after = (start calls force pid).foldl step before :=
    List.foldl_append
  rcases start_eq calls force absent with ⟨file, phase⟩
  rw [← apart] at file phase
  have refused : after.phase pid = .absent ↔
      (acquireInstanceLock calls force pid before.file).1 = false := by
    rw [phase]
    split
    case isTrue acquired => simp [before, acquired]
    case isFalse refused => simp [before, refused]
  have held : (∃ other, before.Locked other) ↔
      before.file.holder ≠ none := by
    simp only [← sound.holder, Option.ne_none_iff_exists']
  refine ⟨?_, fun gone => ?_, fun past => ?_⟩
  · rw [refused, acquireInstanceLock_refused_iff, held, LockCalls.Denied]
  · have foreign : before.file.holder ≠ some pid :=
      fun own => not_locked_of_absent absent ((sound.holder pid).mp own)
    rw [file]
    exact file_of_refused foreign (refused.mp gone)
  · have acquired := Bool.of_not_eq_false (mt refused.mpr past)
    rcases written_of_acquired acquired with ⟨opened, same⟩
    have contents : after.file.contents = _ :=
      congrArg LockFile.contents (file.trans same)
    have length : after.file.contents.length = (pidText pid).length := by
      rw [contents, LockFile.length_truncate]
    have start : (pidText pid).take calls.written <+:
        after.file.contents := by
      rw [contents]
      exact LockFile.prefix_truncate_write _ (List.length_take_le' ..)
    refine ⟨length, start, fun whole => ?_⟩
    rw [List.take_of_length_le whole] at start
    exact (start.eq_of_length length.symm).symm

/-- The first process crashes with half of its process id written, the second
one cannot open the file, and the write of the third one is cut short. -/
theorem no_stale_lock_crash :
    let moves : List (Pid × InstanceMove) := [(10, .launch false),
      (10, .proceed 9), (10, .proceed 1), (10, .quit), (11, .fail)]
    let calls : LockCalls := { written := 1 }
    let before := run moves
    let after := run (moves ++ start calls false 23)
    (after.phase 23 = .absent ↔ true = false ∨
      false = false ∧ (true = false ∨ ∃ other, before.Locked other)) ∧
    (after.phase 23 = .absent → after.file = before.file) ∧
    (after.phase 23 ≠ .absent →
      after.file.contents.length = (pidText 23).length ∧
      (pidText 23).take 1 <+: after.file.contents ∧
      ((pidText 23).length ≤ 1 → after.file.contents = pidText 23)) :=
  no_stale_lock [(10, .launch false), (10, .proceed 9), (10, .proceed 1),
    (10, .quit), (11, .fail)] 23 false { written := 1 } (by decide)

end Instances

end Windmi.Utils
