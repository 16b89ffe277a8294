import Zenbedded.CommandReception

/-!
# The retry loops of the client

A client reads its buffers in loops that go on until the read succeeds.  No round changes
what decides that: a loop leaves after its first round when the size fits the buffer, and
never otherwise.  An initialized client asks for sizes that fit.
-/

namespace Zenbedded

open ByteBlock

/-! ## Reading until it succeeds -/

namespace DoubleByteBuffer

variable {capacity outSize size : Nat} (state : DoubleByteBuffer capacity)

/-- `while (!read_latest(out, size)) {}`, for as many rounds as the fuel allows. -/
def readUntilDone (size : Nat) : Nat → Block UInt8 outSize → Option (Block UInt8 outSize)
  | 0, _ => none
  | fuel + 1, out => do
      let (done, read) ← state.readLatest (some out) size
      let out := read.getD out
      if done then some out else readUntilDone size fuel out

theorem readUntilDone_of_large (large : capacity < size) (fuel : Nat)
    (out : Block UInt8 outSize) : state.readUntilDone size fuel out = none := by
  induction fuel with
  | zero => rfl
  | succ fuel ih =>
      have refused : state.readLatest (some out) size = some (false, some out) := by
        rw [readLatest, if_pos large]
      rw [readUntilDone, refused]
      exact ih

theorem readUntilDone_of_fits (fits : size ≤ capacity) (room : size ≤ outSize)
    (out : Block UInt8 outSize) :
    ∃ read, state.readLatest (some out) size = some (true, some read) ∧
      ∀ fuel, state.readUntilDone size (fuel + 1) out = some read := by
  obtain ⟨read, readEq, -⟩ := state.readLatest_spec out fits room
  refine ⟨read, readEq, fun fuel => ?_⟩
  rw [readUntilDone, readEq]
  rfl

/-- The loop leaves with some fuel exactly if the size fits, and then it needs one round. -/
theorem readUntilDone_isSome_iff (room : size ≤ outSize) (fuel : Nat)
    (out : Block UInt8 outSize) :
    (state.readUntilDone size fuel out).isSome ↔ size ≤ capacity ∧ 0 < fuel := by
  rcases Nat.lt_or_ge capacity size with large | fits
  · simp [state.readUntilDone_of_large large, Nat.not_le.mpr large]
  · cases fuel with
    | zero => simp [readUntilDone]
    | succ fuel =>
        obtain ⟨read, -, readEq⟩ := state.readUntilDone_of_fits fits room out
        simp [readEq fuel, fits]

end DoubleByteBuffer

/-- Publishing no more than the payload reads nothing outside of it. -/
theorem ZenohTransport.isSome_publish {kconfig : Kconfig} {Callback UserData : Type}
    (transport : ZenohTransport kconfig Callback UserData)
    (pub : Option (Fin kconfig.maxPublishers)) {size payloadSize : Nat}
    (payload : Block UInt8 size) (fits : payloadSize ≤ size) (timestampNs : Int64) (ok : Bool) :
    (transport.publish pub payload payloadSize timestampNs ok).isSome := by
  cases pub with
  | none => rfl
  | some slot =>
      cases used : (transport.pubPool slot).inUse with
      | false => simp [publish, used]
      | true =>
          obtain ⟨_, _, _, _, published, -⟩ :=
            publish_puts used payload fits timestampNs ok
          exact Option.isSome_of_eq_some published

/-! ## The loops of a client -/

namespace ZenbeddedClientBase

variable {kconfig : Kconfig} (client : ZenbeddedClientBase kconfig) (size fuel : Nat)
  {outSize : Nat} (data : Block UInt8 outSize)

theorem readLatestState_eq :
    client.readLatestState size fuel data = client.stateBuffer.readUntilDone size fuel data := by
  induction fuel generalizing data with
  | zero => rfl
  | succ fuel ih => simp only [readLatestState, DoubleByteBuffer.readUntilDone, ih]

theorem readLatestCommandRaw_eq :
    client.readLatestCommandRaw size fuel data =
      client.cmdBuffer.readUntilDone size fuel data := by
  induction fuel generalizing data with
  | zero => rfl
  | succ fuel ih => simp only [readLatestCommandRaw, DoubleByteBuffer.readUntilDone, ih]

def PayloadsFitBuffers : Prop :=
  client.initialized = true →
    client.statePayloadSize ≤ kconfig.maxStateBufferSize ∧
      client.cmdPayloadSize ≤ kconfig.maxCmdBufferSize

end ZenbeddedClientBase

/-! ## Sizes after any calls -/

namespace ClientWorld

variable {kconfig : Kconfig} {Id : Type} [DecidableEq Id] {stateCodec : Id → StateCodec}
  {commandCodec : Id → CommandCodec}

/-- A client that is not initialized may keep a size that was refused. -/
theorem payloadsFitBuffers_invariant :
    (clientWorlds kconfig stateCodec commandCodec).Invariant
      fun world => ∀ id, (world.client id).PayloadsFitBuffers where
  start := by
    rintro _ rfl id isLive
    cases isLive
  step before action after fit steps id isLive := by
    cases clientChange steps id with
    | same clientEq =>
        rw [clientEq] at isLive ⊢
        exact fit id isLive
    | called call applied =>
        have setup := ClientCall.apply_sameSetup applied
        rw [setup.statePayloadSize, setup.cmdPayloadSize]
        exact fit id (setup.initialized.symm.trans isLive)
    | initialized wasDown controlFreq _ _ _ outcome _ _ _ initEq =>
        obtain ⟨_, _, _, _, _, _, _, _, _, stateFits, cmdFits, _⟩ :=
          (before.client id).init_up id before.transport controlFreq outcome wasDown initEq isLive
        exact ⟨stateFits, cmdFits⟩
    | destroyed cause =>
        subst cause
        cases isLive.symm.trans (destroyed_down steps)

end ClientWorld

open ClientWorld in
/-- After any calls and samples, a client reads its state and its command in one round of
their loops. -/
theorem retry_loops_leave_after_one_round {kconfig : Kconfig} {Id : Type} [DecidableEq Id]
    {stateCodec : Id → StateCodec} {commandCodec : Id → CommandCodec}
    {world : ClientWorld kconfig stateCodec commandCodec}
    (reached : (clientWorlds kconfig stateCodec commandCodec).Reachable world) (id : Id) :
    let client := world.client id
    client.PayloadsFitBuffers ∧
      (client.initialized = true →
        ∀ tmp : Block UInt8 kconfig.maxStateBufferSize, ∃ read,
          client.stateBuffer.readLatest (some tmp) client.statePayloadSize =
            some (true, some read) ∧
          ∀ fuel, client.readLatestState client.statePayloadSize (fuel + 1) tmp = some read) ∧
      (client.initialized = true →
        ∀ tmp : Block UInt8 kconfig.maxCmdBufferSize, ∃ read,
          client.cmdBuffer.readLatest (some tmp) client.cmdPayloadSize =
            some (true, some read) ∧
          ∀ fuel, client.readLatestCommandRaw client.cmdPayloadSize (fuel + 1) tmp =
            some read) ∧
      (∀ tmp fuel timestampNs ok,
        (client.zenohPublishState world.transport tmp (fuel + 1) timestampNs ok).isSome ∧
        client.zenohPublishState world.transport tmp (fuel + 1) timestampNs ok =
          client.zenohPublishState world.transport tmp 1 timestampNs ok) ∧
      ∀ tmp fuel out, client.readCommand tmp (fuel + 1) out = client.readCommand tmp 1 out := by
  intro client
  have fit : client.PayloadsFitBuffers := payloadsFitBuffers_invariant.reachable reached id
  have stateLoop (up : client.initialized = true)
      (tmp : Block UInt8 kconfig.maxStateBufferSize) :
      ∃ read, client.stateBuffer.readLatest (some tmp) client.statePayloadSize =
          some (true, some read) ∧
        ∀ fuel, client.readLatestState client.statePayloadSize (fuel + 1) tmp = some read := by
    simpa only [ZenbeddedClientBase.readLatestState_eq] using
      client.stateBuffer.readUntilDone_of_fits (fit up).1 (fit up).1 tmp
  have commandLoop (up : client.initialized = true)
      (tmp : Block UInt8 kconfig.maxCmdBufferSize) :
      ∃ read, client.cmdBuffer.readLatest (some tmp) client.cmdPayloadSize =
          some (true, some read) ∧
        ∀ fuel, client.readLatestCommandRaw client.cmdPayloadSize (fuel + 1) tmp =
          some read := by
    simpa only [ZenbeddedClientBase.readLatestCommandRaw_eq] using
      client.cmdBuffer.readUntilDone_of_fits (fit up).2 (fit up).2 tmp
  refine ⟨fit, stateLoop, commandLoop, fun tmp fuel timestampNs ok => ?_,
    fun tmp fuel out => ?_⟩
  · cases up : client.initialized with
    | false => simp [ZenbeddedClientBase.zenohPublishState, up]
    | true =>
        obtain ⟨read, -, readEq⟩ := stateLoop up tmp
        simp only [ZenbeddedClientBase.zenohPublishState, up, readEq fuel, readEq 0]
        exact ⟨ZenohTransport.isSome_publish _ _ read (fit up).1 timestampNs ok, trivial⟩
  · cases up : client.initialized with
    | false => simp [ZenbeddedClient.readCommand, up]
    | true =>
        obtain ⟨read, -, readEq⟩ := commandLoop up tmp
        simp only [ZenbeddedClient.readCommand, up, readEq fuel, readEq 0]

theorem retry_loops_leave_after_one_round_bytes :
    ∃ world : ClientWorld (Kconfig.default .tier2) (fun _ : Unit => RawCodec.state 1)
        (fun _ => RawCodec.command 1),
      (clientWorlds _ _ _).Reachable world ∧ (world.client ()).initialized = true ∧
      (world.client ()).statePayloadSize = 1 ∧
      ((world.client ()).readLatestState 1 1 (Block.filled 256 7)).isSome := by
  let outcome : ClientOutcome :=
    ⟨⟨true, true, true, true, []⟩, ⟨true, true, [], []⟩, ⟨true, true, [], []⟩⟩
  obtain ⟨after, inits, facts⟩ := ClientWorld.exists_first_init (Kconfig.default .tier2)
    (fun _ : Unit => RawCodec.state 1) (fun _ => RawCodec.command 1) () 1000 () ()
    (Block.filled _ 0) outcome 0 (fun client => (client.initialized, client.statePayloadSize))
    (true, 1) (by decide +kernel)
  obtain ⟨up, size⟩ := Prod.mk.inj facts
  have reached : (clientWorlds _ _ _).Reachable after := .step (.start rfl) inits
  obtain ⟨read, -, readEq⟩ :=
    (retry_loops_leave_after_one_round reached ()).2.1 up (Block.filled 256 7)
  exact ⟨after, reached, up, size, Option.isSome_of_eq_some (size ▸ readEq 0)⟩

end Zenbedded
