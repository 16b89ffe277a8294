import Zenbedded.ControlThreadInvariant

/-!
# The lifecycle of the control thread

In every order of the owner's statements and those of the control threads, at most one
control thread is alive and none is left behind.
-/

namespace Zenbedded

variable {kconfig : Kconfig} {UserData : Type}

namespace ControlWorld

variable {before after : ControlWorld kconfig UserData} {self : UserData}

/-! ## Steps of the threads -/

/-- What holds at a place where threads may be alive does not depend on them. -/
theorem Asserts.of_alive {owner : OwnerPc} (asserts : before.Asserts owner) {number : Nat}
    {thread : ControlThread kconfig} (alive : before.live number = some thread)
    (client : after.client = before.client) (call : after.call = before.call) :
    after.Asserts owner := by
  have unquiet : ¬before.NoThread := fun quiet => by cases (quiet number).symm.trans alive
  have unstopped : ¬before.Stopped := fun stopped => unquiet stopped.2.2
  have ending : after.Ending ↔ before.Ending := by rw [Ending, Ending, call]
  have resting (rests : before.Resting) : after.Resting := by
    rw [Resting, client]
    exact ⟨rests.1, rests.2.1, fun unstarted => absurd (rests.2.2 unstarted) unquiet⟩
  have callerSound {caller : StopReturn} (sound : before.CallerSound caller) :
      after.CallerSound caller := by
    cases caller with
    | restart controlFreq =>
        exact ⟨sound.1, (congrArg _ client).trans sound.2.1, mt ending.mp sound.2.2⟩
    | owner => trivial
    | destroy => trivial
  cases owner with
  | idle =>
      exact ⟨resting asserts.1, fun ends => absurd (asserts.2 (ending.mp ends)) unstopped⟩
  | startThread => exact ⟨resting asserts.1, mt ending.mp asserts.2⟩
  | setStarted =>
      rw [Asserts, client]
      exact ⟨asserts.1, asserts.2.1, mt ending.mp asserts.2.2⟩
  | stopThread => exact ⟨resting asserts.1, callerSound asserts.2⟩
  | clearRunning => exact callerSound asserts
  | joinThread | abortThread =>
      exact ⟨(congrArg _ client).trans asserts.1, callerSound asserts.2⟩
  | createThread | clearStarted => exact absurd asserts.2.1 unquiet
  | checkCmdSize | initTransport | declarePub | declareSub | unwindInit | setInitialized
  | setInitFreq | setFreq | setRunning | clearFreq => exact absurd asserts.1 unstopped
  | releaseTransport | clearPub | clearSub | clearInitialized => exact absurd asserts unstopped

/-- A step of a thread concerns that thread and the transport only. -/
structure ThreadStep (before : ControlWorld kconfig UserData) (number : Nat)
    (after : ControlWorld kconfig UserData) : Prop where
  client : after.client = before.client
  owner : after.owner = before.owner
  call : after.call = before.call
  status : after.status = before.status
  created : after.created = before.created
  others : ∀ other, other ≠ number → after.live other = before.live other
  sound : ∀ thread, after.live number = some thread → after.ThreadSound number thread

theorem ThreadSound.move {number : Nat} {thread : ControlThread kconfig}
    (sound : before.ThreadSound number thread) (pc : ThreadPc kconfig)
    (transport : ZenohTransport kconfig RecvCb UserData)
    (leaves : pc.Leaves → before.client.controlThreadRunning = false)
    (uses : pc.Uses before.client.pub) :
    before.ThreadStep number ({ before with transport }.move number thread pc) where
  client := rfl
  owner := rfl
  call := rfl
  status := rfl
  created := rfl
  others other different := Function.update_of_ne different _ _
  sound := by
    intro moved alive
    cases (Function.update_self _ _ _).symm.trans alive
    exact ⟨sound.last, sound.freq, sound.nonzero, sound.initialized, leaves, uses⟩

theorem ThreadSound.next {number : Nat} {thread : ControlThread kconfig}
    (sound : before.ThreadSound number thread) {input : ThreadInput kconfig}
    (steps : before.threadNext number thread input = some after) :
    before.ThreadStep number after := by
  have uses := sound.uses
  have leaves := sound.leaves
  rw [ControlWorld.threadNext] at steps
  generalize thread.pc = place at steps uses leaves
  cases place with
  | comparing =>
      dsimp only at steps
      split at steps
      · cases steps
      · split at steps
        · cases steps
          exact sound.move .choosing _ nofun trivial
        · cases steps
          exact sound.move .testing _ nofun trivial
  | choosing =>
      dsimp only at steps
      split at steps
      · cases steps
      · cases steps
        exact sound.move .testing _ nofun trivial
  | testing =>
      dsimp only at steps
      split at steps
      case isTrue =>
        cases steps
        exact sound.move .publishing _ nofun trivial
      case isFalse cleared =>
        cases steps
        exact sound.move .clearing _ (fun _ => by simpa using cleared) trivial
  | publishing =>
      dsimp only at steps
      split at steps
      · cases steps
        exact sound.move .sleeping _ nofun trivial
      · cases steps
        exact sound.move (.reading input.tmp) _ nofun trivial
  | reading tmp =>
      obtain ⟨⟨done, read⟩, -, moves⟩ := Option.bind_eq_some_iff.mp steps
      cases done with
      | false =>
          cases moves
          exact sound.move (.reading (read.getD tmp)) _ nofun trivial
      | true =>
          cases moves
          exact sound.move (.handing (read.getD tmp)) _ nofun trivial
  | handing tmp =>
      cases steps
      exact sound.move (.looking before.client.pub tmp before.client.statePayloadSize) _ nofun rfl
  | looking pub tmp size =>
      cases pub with
      | none =>
          cases steps
          exact sound.move .sleeping _ nofun trivial
      | some slot =>
          dsimp only at steps
          split at steps
          · cases steps
            exact sound.move .sleeping _ nofun trivial
          · cases steps
            exact sound.move (.putting slot tmp size) _ nofun uses
  | putting slot tmp size =>
      obtain ⟨⟨status, transport⟩, -, moves⟩ := Option.bind_eq_some_iff.mp steps
      cases moves
      exact sound.move .sleeping transport nofun trivial
  | sleeping =>
      cases steps
      exact sound.move .testing _ nofun trivial
  | clearing =>
      -- The flag is clear already: a thread only leaves when it has seen so.
      have cleared := leaves trivial
      have unchanged : { before.client with controlThreadRunning := false } = before.client := by
        rw [← cleared]
      rw [unchanged] at steps
      cases steps
      exact sound.move .exiting _ (fun _ => cleared) trivial
  | exiting =>
      cases steps
      exact {
        client := rfl
        owner := rfl
        call := rfl
        status := rfl
        created := rfl
        others := fun other different => Function.update_of_ne different _ _
        sound := fun thread alive => by cases (Function.update_self _ _ _).symm.trans alive }

theorem ControlSound.threadStep (sound : before.ControlSound) {number : Nat}
    {thread : ControlThread kconfig} (alive : before.live number = some thread)
    (steps : before.ThreadStep number after) : after.ControlSound := by
  refine ⟨?_, fun other otherThread otherAlive => ?_⟩
  · rw [steps.owner]
    exact sound.owner.of_alive alive steps.client steps.call
  · rcases eq_or_ne other number with rfl | different
    · exact steps.sound otherThread otherAlive
    · rw [steps.others other different] at otherAlive
      have otherSound := sound.threads other otherThread otherAlive
      exact {
        last := otherSound.last.trans steps.created.symm
        freq := (congrArg _ steps.client).trans otherSound.freq
        nonzero := otherSound.nonzero
        initialized := (congrArg _ steps.client).trans otherSound.initialized
        leaves := fun leaves => (congrArg _ steps.client).trans (otherSound.leaves leaves)
        uses := steps.client ▸ otherSound.uses }

theorem next_call {call : OwnerCall} (steps : before.next self (.call call) = some after) :
    before.owner = .idle ∧ after = before.begin call := by
  cases place : before.owner with
  | idle =>
      simp only [next, place] at steps
      cases steps
      exact ⟨rfl, rfl⟩
  | _ => simp [next, place] at steps

theorem controlSound_invariant (kconfig : Kconfig) (self : UserData) :
    (controlThreads kconfig self).Invariant ControlSound where
  start := by
    rintro world ⟨client, owner, call, -, live⟩
    have quiet : world.NoThread := fun number => congrFun live number
    have stopped : world.Stopped := by
      rw [Stopped, client]
      exact ⟨rfl, rfl, quiet⟩
    refine ⟨?_, threads_of_noThread quiet⟩
    rw [owner]
    exact ⟨stopped.resting, fun _ => stopped⟩
  step := by
    intro before action after sound steps
    cases action with
    | call call =>
        obtain ⟨idle, rfl⟩ := next_call steps
        exact sound.begin idle call
    | owner timedOut => exact sound.ownerNext steps
    | thread number input =>
        obtain ⟨thread, alive, moves⟩ := Option.bind_eq_some_iff.mp steps
        exact sound.threadStep alive ((sound.threads number thread alive).next moves)
    | others transport stateBuffer cmdBuffer cmdAcceptedCount =>
        cases steps
        exact ⟨sound.owner, sound.threads_frame rfl rfl rfl rfl rfl id⟩

/-! ## The lifecycle -/

/-- `destroy` has released the transport, and no `init` has brought the client up again. -/
def Released (world : ControlWorld kconfig UserData) : Prop :=
  match world.owner with
  | .clearPub | .clearSub | .clearInitialized => True
  | _ => world.client.initialized = false

/-- The guarantees for the control threads of a client. -/
structure LifecycleSound (self : UserData) (world : ControlWorld kconfig UserData) : Prop where
  oneAlive : ∀ first second, (world.live first).isSome → (world.live second).isSome →
    first = second
  divisor : ∀ number thread, world.live number = some thread → thread.pc.Divides →
    world.client.controlFreq ≠ 0 ∧ world.client.controlFreq = thread.freq
  clearing : ∀ number thread input after, world.live number = some thread →
    thread.pc = .clearing → world.next self (.thread number input) = some after →
      after.client = world.client ∧ number + 1 = world.created
  ended : world.owner = .idle → world.Ending →
    world.NoThread ∧ world.client.isControlThreadRunning = false
  publishes : ∀ number thread slot tmp size, world.live number = some thread →
    thread.pc = .putting slot tmp size → world.client.pub = some slot ∧ ¬world.Released
  released : world.Released → world.NoThread

theorem ControlSound.noThread_of_released (sound : before.ControlSound)
    (released : before.Released) : before.NoThread := by
  have owner := sound.owner
  rw [Released] at released
  split at released
  case h_1 place =>
    rw [place] at owner
    exact owner.2.2
  case h_2 place =>
    rw [place] at owner
    exact owner.2.2
  case h_3 place =>
    rw [place] at owner
    exact owner.2.2
  case h_4 =>
    intro number
    cases alive : before.live number with
    | none => rfl
    | some thread =>
        cases released.symm.trans (sound.threads number thread alive).initialized

end ControlWorld

/-- In every order of the owner's statements and those of the control threads, whatever
other threads do to the transport and to the buffers. -/
theorem control_thread_lifecycle {self : UserData} {world : ControlWorld kconfig UserData}
    (reached : (controlThreads kconfig self).Reachable world) : world.LifecycleSound self := by
  have sound := (ControlWorld.controlSound_invariant kconfig self).reachable reached
  exact {
    oneAlive := by
      intro first second firstAlive secondAlive
      obtain ⟨firstThread, firstEq⟩ := Option.isSome_iff_exists.mp firstAlive
      obtain ⟨secondThread, secondEq⟩ := Option.isSome_iff_exists.mp secondAlive
      have firstLast := (sound.threads first firstThread firstEq).last
      have secondLast := (sound.threads second secondThread secondEq).last
      omega
    divisor := by
      intro number thread alive _
      have threadSound := sound.threads number thread alive
      exact ⟨threadSound.freq ▸ threadSound.nonzero, threadSound.freq⟩
    clearing := by
      intro number thread input after alive _ steps
      have threadSound := sound.threads number thread alive
      rw [ControlWorld.next, alive] at steps
      exact ⟨(threadSound.next steps).client, threadSound.last⟩
    ended := by
      intro idle ending
      have owner := sound.owner
      rw [idle] at owner
      obtain ⟨-, unflagged, quiet⟩ := owner.2 ending
      exact ⟨quiet, unflagged⟩
    publishes := by
      intro number thread slot tmp size alive place
      have uses := (sound.threads number thread alive).uses
      rw [place] at uses
      refine ⟨uses.symm, fun released => ?_⟩
      cases (sound.noThread_of_released released number).symm.trans alive
    released := sound.noThread_of_released }

theorem control_thread_lifecycle_restart :
    ∃ world : ControlWorld (Kconfig.default .tier2) Unit,
      (world.live 1).map (·.freq) = some 200 ∧ world.LifecycleSound () := by
  let started : ControlWorld (Kconfig.default .tier2) Unit :=
    ⟨.construct, .zero, .idle, none, 0, 0, fun _ => none⟩
  let outcome : ClientOutcome :=
    ⟨⟨true, true, true, true, []⟩, ⟨true, true, [], []⟩, ⟨true, true, [], []⟩⟩
  -- The thread of the initialization does not end in time and is aborted.
  let actions : List (ControlAction (Kconfig.default .tier2) Unit) :=
    [.call (.init 100 1 1 outcome)] ++ List.replicate 11 (.owner false) ++
      [.call (.startThread 200)] ++ List.replicate 10 (.owner true)
  have restarts : ((actions.foldlM (ControlWorld.next ()) started).bind (·.live 1)).map (·.freq) =
      some 200 := rfl
  have starts : (controlThreads (Kconfig.default .tier2) ()).start started :=
    ⟨rfl, rfl, rfl, rfl, rfl⟩
  cases runs : actions.foldlM (ControlWorld.next ()) started with
  | none =>
      rw [runs] at restarts
      cases restarts
  | some world =>
      rw [runs] at restarts
      have run : (controlThreads (Kconfig.default .tier2) ()).Run started actions world :=
        .of_foldlM (fun _ _ _ steps => steps) runs
      have reached := (StepSystem.Reachable.start starts).run run
      exact ⟨world, restarts, control_thread_lifecycle reached⟩

end Zenbedded
