import Zenbedded.ControlThread

/-!
# What holds while the owner and the control threads run

The assertions at the places of the owner and of the threads.  The owner is alone
wherever it is about to write the frequency, to set the flag or to create a thread; a
thread that leaves its loop has seen the flag cleared.
-/

namespace Zenbedded

variable {kconfig : Kconfig} {UserData : Type}

/-- A call after which no control thread is left. -/
def OwnerCall.Ends : OwnerCall → Prop
  | .stopThread | .destroy => True
  | .init .. | .startThread _ => False

def ThreadPc.Leaves : ThreadPc kconfig → Prop
  | .clearing | .exiting => True
  | _ => False

/-- At an evaluation of `1000 / control_freq_`. -/
def ThreadPc.Divides : ThreadPc kconfig → Prop
  | .comparing | .choosing => True
  | _ => False

def ThreadPc.Uses (pub : Option (Fin kconfig.maxPublishers)) : ThreadPc kconfig → Prop
  | .looking used _ _ => used = pub
  | .putting slot _ _ => some slot = pub
  | _ => True

namespace ControlWorld

def NoThread (world : ControlWorld kconfig UserData) : Prop :=
  ∀ number, world.live number = none

def Ending (world : ControlWorld kconfig UserData) : Prop :=
  ∃ call, world.call = some call ∧ call.Ends

/-- No thread is alive, and both flags say so. -/
def Stopped (world : ControlWorld kconfig UserData) : Prop :=
  world.client.controlThreadStarted = false ∧ world.client.controlThreadRunning = false ∧
    world.NoThread

/-- Between the calls the two flags agree, and only an initialized client has a thread. -/
def Resting (world : ControlWorld kconfig UserData) : Prop :=
  world.client.controlThreadRunning = world.client.controlThreadStarted ∧
    (world.client.controlThreadStarted = true → world.client.initialized = true) ∧
    (world.client.controlThreadStarted = false → world.NoThread)

def Starting (world : ControlWorld kconfig UserData) (controlFreq : UInt32) : Prop :=
  controlFreq ≠ 0 ∧ world.client.initialized = true ∧ ¬world.Ending

def CallerSound (world : ControlWorld kconfig UserData) : StopReturn → Prop
  | .restart controlFreq => world.Starting controlFreq
  | .owner | .destroy => True

/-- What holds when the owner is at a place. -/
def Asserts (world : ControlWorld kconfig UserData) : OwnerPc → Prop
  | .idle => world.Resting ∧ (world.Ending → world.Stopped)
  | .checkCmdSize .. | .initTransport .. | .declarePub .. | .declareSub .. | .unwindInit
  | .setInitialized _ | .setInitFreq _ => world.Stopped ∧ ¬world.Ending
  | .startThread _ => world.Resting ∧ ¬world.Ending
  | .setFreq controlFreq => world.Stopped ∧ world.Starting controlFreq
  | .setRunning controlFreq =>
      world.Stopped ∧ world.Starting controlFreq ∧ world.client.controlFreq = controlFreq
  | .createThread controlFreq =>
      world.client.controlThreadRunning = true ∧ world.NoThread ∧
        world.Starting controlFreq ∧ world.client.controlFreq = controlFreq
  | .setStarted =>
      world.client.controlThreadRunning = true ∧ world.client.initialized = true ∧
        ¬world.Ending
  | .stopThread caller => world.Resting ∧ world.CallerSound caller
  | .clearRunning caller => world.CallerSound caller
  | .joinThread caller | .abortThread caller =>
      world.client.controlThreadRunning = false ∧ world.CallerSound caller
  | .clearStarted caller =>
      world.client.controlThreadRunning = false ∧ world.NoThread ∧ world.CallerSound caller
  | .clearFreq caller => world.Stopped ∧ world.CallerSound caller
  | .releaseTransport | .clearPub | .clearSub | .clearInitialized => world.Stopped

structure ThreadSound (world : ControlWorld kconfig UserData) (number : Nat)
    (thread : ControlThread kconfig) : Prop where
  last : number + 1 = world.created
  freq : world.client.controlFreq = thread.freq
  nonzero : thread.freq ≠ 0
  initialized : world.client.initialized = true
  leaves : thread.pc.Leaves → world.client.controlThreadRunning = false
  uses : thread.pc.Uses world.client.pub

structure ControlSound (world : ControlWorld kconfig UserData) : Prop where
  owner : world.Asserts world.owner
  threads : ∀ number thread, world.live number = some thread → world.ThreadSound number thread

variable {before after : ControlWorld kconfig UserData} {self : UserData}

/-! ## Steps of the owner -/

theorem threads_of_noThread (quiet : after.NoThread) (number : Nat)
    (thread : ControlThread kconfig) (alive : after.live number = some thread) :
    after.ThreadSound number thread := by
  cases (quiet number).symm.trans alive

theorem Resting.stopped (resting : before.Resting)
    (unstarted : before.client.controlThreadStarted = false) : before.Stopped :=
  ⟨unstarted, resting.1.trans unstarted, resting.2.2 unstarted⟩

theorem Resting.stopped_of_uninitialized (resting : before.Resting)
    (uninitialized : before.client.initialized = false) : before.Stopped := by
  refine resting.stopped ?_
  by_contra started
  cases uninitialized.symm.trans (resting.2.1 (by simpa using started))

theorem Stopped.resting (stopped : before.Stopped) : before.Resting :=
  ⟨stopped.2.1.trans stopped.1.symm, fun started => (by cases stopped.1.symm.trans started),
    fun _ => stopped.2.2⟩

/-- A statement that leaves alone what threads look at. -/
theorem ControlSound.threads_frame (sound : before.ControlSound)
    (live : after.live = before.live) (created : after.created = before.created)
    (freq : after.client.controlFreq = before.client.controlFreq)
    (initialized : after.client.initialized = before.client.initialized)
    (pub : after.client.pub = before.client.pub)
    (running : after.client.controlThreadRunning = true →
      before.client.controlThreadRunning = true)
    (number : Nat) (thread : ControlThread kconfig) (alive : after.live number = some thread) :
    after.ThreadSound number thread := by
  have thread := sound.threads number thread (live ▸ alive)
  exact {
    last := thread.last.trans created.symm
    freq := freq.trans thread.freq
    nonzero := thread.nonzero
    initialized := initialized.trans thread.initialized
    leaves := fun leaves => by
      by_contra still
      have cleared := thread.leaves leaves
      rw [running (by simpa using still)] at cleared
      cases cleared
    uses := pub ▸ thread.uses }

/-- Only the thread created last can be alive. -/
theorem ControlSound.earlier (sound : before.ControlSound) {number : Nat}
    (earlier : number ≠ before.created - 1) : before.live number = none := by
  cases alive : before.live number with
  | none => rfl
  | some thread =>
      have last := (sound.threads number thread alive).last
      exact absurd (by omega) earlier

theorem ControlSound.noThread (sound : before.ControlSound)
    (ended : before.live (before.created - 1) = none) : before.NoThread := by
  intro number
  rcases eq_or_ne number (before.created - 1) with rfl | earlier
  · exact ended
  · exact sound.earlier earlier

theorem sound_stopped (stopped : before.Stopped) {caller : StopReturn}
    (callerSound : before.CallerSound caller) : (before.stopped caller).ControlSound := by
  cases caller with
  | owner => exact ⟨⟨stopped.resting, fun _ => stopped⟩, threads_of_noThread stopped.2.2⟩
  | restart controlFreq =>
      exact ⟨⟨stopped, callerSound⟩, threads_of_noThread stopped.2.2⟩
  | destroy => exact ⟨stopped, threads_of_noThread stopped.2.2⟩

theorem ControlSound.begin (sound : before.ControlSound) (idle : before.owner = .idle)
    (call : OwnerCall) : (before.begin call).ControlSound := by
  have resting : before.Resting := by
    have asserts := sound.owner
    rw [idle] at asserts
    exact asserts.1
  cases call with
  | init controlFreq statePayloadSize cmdPayloadSize outcome =>
      have starts : ¬Ending { before with
          call := some (.init controlFreq statePayloadSize cmdPayloadSize outcome) } := by
        simp [Ending, OwnerCall.Ends]
      rw [ControlWorld.begin]
      dsimp only
      split
      case isTrue =>
        exact ⟨⟨resting, fun ending => absurd ending starts⟩,
          sound.threads_frame rfl rfl rfl rfl rfl id⟩
      case isFalse uninitialized =>
        have stopped := resting.stopped_of_uninitialized (by simpa using uninitialized)
        split
        · exact ⟨⟨stopped.resting, fun _ => stopped⟩, threads_of_noThread stopped.2.2⟩
        · exact ⟨⟨stopped, starts⟩, threads_of_noThread stopped.2.2⟩
  | startThread controlFreq =>
      exact ⟨⟨resting, by simp [Ending, goto, ControlWorld.begin, OwnerCall.Ends]⟩,
        sound.threads_frame rfl rfl rfl rfl rfl id⟩
  | stopThread => exact ⟨⟨resting, trivial⟩, sound.threads_frame rfl rfl rfl rfl rfl id⟩
  | destroy =>
      rw [ControlWorld.begin]
      dsimp only
      split
      case isTrue uninitialized =>
        have stopped := resting.stopped_of_uninitialized uninitialized
        exact ⟨⟨stopped.resting, fun _ => stopped⟩, threads_of_noThread stopped.2.2⟩
      case isFalse => exact ⟨⟨resting, trivial⟩, sound.threads_frame rfl rfl rfl rfl rfl id⟩

theorem ControlSound.ownerNext (sound : before.ControlSound) {timedOut : Bool}
    (steps : before.ownerNext self timedOut = some after) : after.ControlSound := by
  have asserts := sound.owner
  rw [ControlWorld.ownerNext] at steps
  generalize before.owner = place at asserts steps
  cases place with
  | idle => cases steps
  | checkCmdSize controlFreq cmdPayloadSize outcome =>
      obtain ⟨stopped, starts⟩ := asserts
      dsimp only at steps
      split at steps
      · cases steps
        exact ⟨⟨stopped.resting, fun _ => stopped⟩, threads_of_noThread stopped.2.2⟩
      · cases steps
        exact ⟨⟨stopped, starts⟩, threads_of_noThread stopped.2.2⟩
  | initTransport controlFreq outcome =>
      obtain ⟨stopped, starts⟩ := asserts
      dsimp only at steps
      split at steps
      · cases steps
        exact ⟨⟨stopped.resting, fun _ => stopped⟩, threads_of_noThread stopped.2.2⟩
      · cases steps
        exact ⟨⟨stopped, starts⟩, threads_of_noThread stopped.2.2⟩
  | declarePub controlFreq outcome =>
      obtain ⟨stopped, starts⟩ := asserts
      dsimp only at steps
      split at steps
      · cases steps
        exact ⟨⟨stopped, starts⟩, threads_of_noThread stopped.2.2⟩
      · cases steps
        exact ⟨⟨stopped, starts⟩, threads_of_noThread stopped.2.2⟩
  | declareSub controlFreq outcome =>
      obtain ⟨stopped, starts⟩ := asserts
      dsimp only at steps
      split at steps
      · cases steps
        exact ⟨⟨stopped, starts⟩, threads_of_noThread stopped.2.2⟩
      · cases steps
        exact ⟨⟨stopped, starts⟩, threads_of_noThread stopped.2.2⟩
  | unwindInit =>
      obtain ⟨stopped, starts⟩ := asserts
      cases steps
      exact ⟨⟨stopped.resting, fun _ => stopped⟩, threads_of_noThread stopped.2.2⟩
  | setInitialized controlFreq =>
      obtain ⟨stopped, starts⟩ := asserts
      cases steps
      exact ⟨⟨stopped, starts⟩, threads_of_noThread stopped.2.2⟩
  | setInitFreq controlFreq =>
      obtain ⟨stopped, starts⟩ := asserts
      cases steps
      exact ⟨⟨stopped.resting, starts⟩, threads_of_noThread stopped.2.2⟩
  | startThread controlFreq =>
      obtain ⟨resting, starts⟩ := asserts
      dsimp only at steps
      split at steps
      case isTrue =>
        cases steps
        exact ⟨⟨resting, fun ending => absurd ending starts⟩,
          sound.threads_frame rfl rfl rfl rfl rfl id⟩
      case isFalse initialized =>
        split at steps
        case isTrue =>
          cases steps
          exact ⟨⟨resting, fun ending => absurd ending starts⟩,
            sound.threads_frame rfl rfl rfl rfl rfl id⟩
        case isFalse nonzero =>
          have starting : before.Starting controlFreq :=
            ⟨nonzero, by simpa using initialized, starts⟩
          split at steps
          case isTrue =>
            cases steps
            exact ⟨⟨resting, starting⟩, sound.threads_frame rfl rfl rfl rfl rfl id⟩
          case isFalse unstarted =>
            cases steps
            have stopped := resting.stopped (by simpa using unstarted)
            exact ⟨⟨stopped, starting⟩, threads_of_noThread stopped.2.2⟩
  | setFreq controlFreq =>
      obtain ⟨stopped, starting⟩ := asserts
      cases steps
      exact ⟨⟨stopped, starting, rfl⟩, threads_of_noThread stopped.2.2⟩
  | setRunning controlFreq =>
      obtain ⟨stopped, starting, freq⟩ := asserts
      cases steps
      exact ⟨⟨rfl, stopped.2.2, starting, freq⟩, threads_of_noThread stopped.2.2⟩
  | createThread controlFreq =>
      obtain ⟨running, quiet, starting, freq⟩ := asserts
      cases steps
      refine ⟨⟨running, starting.2⟩, fun number thread alive => ?_⟩
      rcases eq_or_ne number before.created with rfl | earlier
      · cases (Function.update_self _ _ _).symm.trans alive
        exact ⟨rfl, freq, starting.1, starting.2.1, nofun, trivial⟩
      · cases ((Function.update_of_ne earlier _ _).trans (quiet number)).symm.trans alive
  | setStarted =>
      obtain ⟨running, initialized, starts⟩ := asserts
      cases steps
      exact ⟨⟨⟨running, fun _ => initialized, nofun⟩, fun ending => absurd ending starts⟩,
        sound.threads_frame rfl rfl rfl rfl rfl id⟩
  | stopThread caller =>
      obtain ⟨resting, callerSound⟩ := asserts
      dsimp only at steps
      split at steps
      case isTrue unstarted =>
        cases steps
        exact sound_stopped (resting.stopped unstarted) callerSound
      case isFalse =>
        cases steps
        exact ⟨callerSound, sound.threads_frame rfl rfl rfl rfl rfl id⟩
  | clearRunning caller =>
      cases steps
      exact ⟨⟨rfl, asserts⟩, sound.threads_frame rfl rfl rfl rfl rfl nofun⟩
  | joinThread caller =>
      obtain ⟨unflagged, callerSound⟩ := asserts
      dsimp only at steps
      split at steps
      case isTrue =>
        cases steps
        exact ⟨⟨unflagged, callerSound⟩, sound.threads_frame rfl rfl rfl rfl rfl id⟩
      case isFalse =>
        split at steps
        case isTrue ended =>
          cases steps
          have quiet := sound.noThread (by simpa using ended)
          exact ⟨⟨unflagged, quiet, callerSound⟩, threads_of_noThread quiet⟩
        case isFalse => cases steps
  | abortThread caller =>
      obtain ⟨unflagged, callerSound⟩ := asserts
      cases steps
      have quiet : NoThread { before with
          live := Function.update before.live (before.created - 1) none } := by
        intro number
        rcases eq_or_ne number (before.created - 1) with rfl | earlier
        · exact Function.update_self _ _ _
        · exact (Function.update_of_ne earlier _ _).trans (sound.earlier earlier)
      exact ⟨⟨unflagged, quiet, callerSound⟩, threads_of_noThread quiet⟩
  | clearStarted caller =>
      obtain ⟨unflagged, quiet, callerSound⟩ := asserts
      cases steps
      exact ⟨⟨⟨rfl, unflagged, quiet⟩, callerSound⟩, threads_of_noThread quiet⟩
  | clearFreq caller =>
      obtain ⟨stopped, callerSound⟩ := asserts
      cases steps
      have unfrequent : Stopped { before with
          client := { before.client with controlFreq := 0 } } := stopped
      exact sound_stopped unfrequent callerSound
  | releaseTransport =>
      cases steps
      exact ⟨asserts, threads_of_noThread asserts.2.2⟩
  | clearPub =>
      cases steps
      exact ⟨asserts, threads_of_noThread asserts.2.2⟩
  | clearSub =>
      cases steps
      exact ⟨asserts, threads_of_noThread asserts.2.2⟩
  | clearInitialized =>
      cases steps
      have stopped : Stopped { before with
          client := { before.client with initialized := false } } := asserts
      exact ⟨⟨stopped.resting, fun _ => stopped⟩, threads_of_noThread stopped.2.2⟩

end ControlWorld

end Zenbedded
