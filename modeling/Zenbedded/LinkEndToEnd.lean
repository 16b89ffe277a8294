import Zenbedded.LinkProgress

/-!
# The link from end to end

What a host shows is what a firmware wrote, and what a firmware reads is what a host wrote,
whole and under its names.  A network that keeps the order keeps the order of both, and no
history of a link keeps the next state or command from getting through.
-/

namespace Zenbedded

open ByteBlock

/-! ## An arm over a link -/

def armRoot : YamlNode :=
  .mapping
    [("state_interfaces", .mapping [("arm", .mapping [("position", .scalar "double")])]),
      ("command_interfaces", .mapping [("arm", .mapping [("effort", .scalar "double")])])]

def armHeader : CHeader :=
  ⟨8, 8, [⟨.double, "arm_position"⟩], [⟨.double, "arm_effort"⟩]⟩

abbrev armLink : StepSystem (LinkWorld (Kconfig.default .tier2) armHeader)
    (LinkEvent (Kconfig.default .tier2) armHeader) :=
  orderedLink .ieee armYaml armFiles (Kconfig.default .tier2) armRoot armHeader

/-- A link whose client is initialized and whose host is active, with the effort 1.5 set. -/
theorem exists_armLink : ∃ world, armLink.Reachable world ∧ world.client.initialized = true ∧
    world.host.hardware.stateSub ≠ none ∧ world.host.hardware.commandPub ≠ none ∧
    world.host.hardware.commandInterfaces = [⟨"arm", "effort", 0x3ff8000000000000⟩] ∧
    world.shown = [] ∧ world.taken = [] := by
  let outcome : ClientOutcome :=
    ⟨⟨true, true, true, true, []⟩, ⟨true, true, [], []⟩, ⟨true, true, [], []⟩⟩
  obtain ⟨firmware, inits, up⟩ := ClientWorld.exists_first_init (Kconfig.default .tier2)
    (fun _ : Unit => RawCodec.state (structSize armHeader.state))
    (fun _ => RawCodec.command (structSize armHeader.command)) () 1000 () ()
    (Block.filled _ 0) outcome 0 (·.initialized) true (by decide +kernel)
  have started : armLink.Reachable _ :=
    .start ⟨armStart, "", armStart_starts .ieee, rfl, rfl, rfl⟩
  have isLocal (bytes : List UInt8) : HardwareEvent.onActivate 0 none ≠ .deliver bytes := nofun
  have active : armLink.Reachable _ :=
    @StepSystem.Reachable.step _ _ armLink _ _ (.host (.onActivate 0 none)) started
      ⟨trivial, isLocal, _, rfl, rfl⟩
  have isSet (bytes : List UInt8) :
      HardwareEvent.setCommand 0 0x3ff8000000000000 ≠ .deliver bytes := nofun
  have effort : armLink.Reachable _ :=
    @StepSystem.Reachable.step _ _ armLink _ _ (.host (.setCommand 0 0x3ff8000000000000)) active
      ⟨trivial, isSet, _, rfl, rfl⟩
  have initialized : armLink.Reachable _ :=
    @StepSystem.Reachable.step _ _ armLink _ _
      (.firmware (.init () 1000 () () (Block.filled _ 0) outcome 0)) effort
      ⟨trivial, trivial, firmware, inits, rfl⟩
  refine ⟨_, initialized, up, ?_, ?_, ?_, rfl, rfl⟩
  · exact Option.some_ne_none _
  · exact Option.some_ne_none _
  · rfl

/-- A link over which the positions 1.5 and 2.5 were shown. -/
theorem exists_armShown : ∃ world, armLink.Reachable world ∧
    world.shown = [[("arm_position", 0x3ff8000000000000)],
      [("arm_position", 0x4004000000000000)]] := by
  obtain ⟨world, reached, up, subscribed, -, -, shown, -⟩ := exists_armLink
  let first : Block UInt8 (structSize armHeader.state) := ⟨[0, 0, 0, 0, 0, 0, 0xf8, 0x3f], rfl⟩
  let second : Block UInt8 (structSize armHeader.state) := ⟨[0, 0, 0, 0, 0, 0, 4, 0x40], rfl⟩
  obtain ⟨events, after, run, shownAfter⟩ := LinkWorld.exists_allShown
    (Kconfig.default_admitted .tier2) reached up subscribed (by decide) [first, second]
    (Block.filled _ 0) 0 true
  refine ⟨after, reached.run run, ?_⟩
  rw [shownAfter, shown]
  rfl

theorem requestedCommands_arm {world : LinkWorld (Kconfig.default .tier2) armHeader}
    (reached : armLink.Reachable world) {effort : UInt64} (number : isNan effort = false)
    (interfaces : world.host.hardware.commandInterfaces = [⟨"arm", "effort", effort⟩]) :
    world.host.hardware.requestedCommands = [("arm_effort", effort)] := by
  obtain ⟨state, command, -, allocated⟩ := LinkWorld.exists_specs reached.of_restrict
  rw [requestedCommands_of_numbers allocated (by simpa [interfaces] using number), interfaces]
  rfl

/-- A link over which the efforts 1.5 and 2.5 were read. -/
theorem exists_armTaken : ∃ world, armLink.Reachable world ∧
    world.taken.map (fun command => structCommands armHeader.command command.bytes) =
      [[("arm_effort", 0x3ff8000000000000)], [("arm_effort", 0x4004000000000000)]] := by
  obtain ⟨world, reached, up, -, declared, interfaces, -, taken⟩ := exists_armLink
  obtain ⟨slot, first, middle, run, takenM, sameM, upM, declaredM, interfacesM⟩ :=
    LinkWorld.exists_taken (Kconfig.default_admitted .tier2) reached up declared (by decide)
      (by decide) (Block.filled _ 0) (Block.filled _ 0)
  have isSet (bytes : List UInt8) :
      HardwareEvent.setCommand 0 0x4004000000000000 ≠ .deliver bytes := nofun
  have set : armLink.Reachable _ :=
    @StepSystem.Reachable.step _ _ armLink _ _ (.host (.setCommand 0 0x4004000000000000))
      (reached.run run) ⟨trivial, isSet, _, rfl, rfl⟩
  obtain ⟨slot, second, after, runA, takenA, sameA, -⟩ :=
    LinkWorld.exists_taken (Kconfig.default_admitted .tier2) set upM declaredM (by decide)
      (by decide) (Block.filled _ 0) (Block.filled _ 0)
  have interfacesS : setValue middle.host.hardware.commandInterfaces 0 0x4004000000000000 =
      [⟨"arm", "effort", 0x4004000000000000⟩] := by
    rw [interfacesM, interfaces]
    rfl
  rw [requestedCommands_arm reached (by decide) interfaces] at sameM
  rw [requestedCommands_arm set (by decide) interfacesS] at sameA
  refine ⟨after, set.run runA, ?_⟩
  rw [takenA, List.map_append, List.map_singleton, sameA]
  change middle.taken.map _ ++ _ = _
  rw [takenM, taken, List.nil_append, List.map_singleton, sameM]
  decide +kernel

/-! ## States -/

open LinkWorld in
/-- Whatever the network does, what the state interfaces show are zeros or the members of one
struct that the firmware wrote. -/
theorem states_over_link_are_whole {casts : Casts} {yaml : YamlCpp}
    {files : String → Option String} {kconfig : Kconfig} {root : YamlNode} {header : CHeader}
    {world : LinkWorld kconfig header}
    (reached : (tier2Link casts yaml files kconfig root header).Reachable world) :
    ∀ states ∈ world.shown, ∃ state ∈ Block.filled (structSize header.state) 0 :: world.written,
      states = structStates casts header.state state.bytes := by
  intro states isShown
  obtain ⟨bytes, isSample, rfl⟩ := List.mem_map.mp ((shown_of_reachable reached).subset isShown)
  rcases List.mem_cons.mp isSample with rfl | isReceived
  · exact ⟨_, List.mem_cons_self, structStates_zeros reached⟩
  · have isPut := received_subset reached (List.mem_of_mem_filter isReceived)
    obtain ⟨state, isState, rfl⟩ :=
      List.mem_map.mp ((statesPut_of_reachable reached).puts.subset isPut)
    exact ⟨state, isState, rfl⟩

/-- An arm that shows a position, which its firmware wrote. -/
theorem states_over_link_are_whole_arm :
    ∃ world, armLink.Reachable world ∧
      ∃ state ∈ Block.filled (structSize armHeader.state) 0 :: world.written,
        [("arm_position", 0x3ff8000000000000)] =
          structStates .ieee armHeader.state state.bytes := by
  obtain ⟨world, reached, shown⟩ := exists_armShown
  exact ⟨world, reached, states_over_link_are_whole reached.of_restrict _
    (by rw [shown]; exact List.mem_cons_self)⟩

open LinkWorld in
/-- Over a network that keeps the order, the host shows the states of the firmware in the
order in which they were written, from zeros on; it may miss and repeat some. -/
theorem states_over_link_in_order {casts : Casts} {yaml : YamlCpp}
    {files : String → Option String} {kconfig : Kconfig} {root : YamlNode} {header : CHeader}
    {world : LinkWorld kconfig header}
    (reached : (orderedLink casts yaml files kconfig root header).Reachable world) :
    Resamples ((Block.filled (structSize header.state) 0 :: world.written).map fun state =>
      structStates casts header.state state.bytes) world.shown := by
  have anyOrder : (tier2Link casts yaml files kconfig root header).Reachable world :=
    reached.of_restrict
  have received : Resamples world.stateSource
      (world.host.received.filter fun bytes =>
        bytes.length == world.host.hardware.schema.stateBufferSize) :=
    ((statesPut_of_reachable anyOrder).puts.trans (received_carried reached).resamples).trans
      (.of_sublist List.filter_sublist)
  have shown := shown_of_reachable anyOrder
  rw [sampleSource, List.map_cons, structStates_zeros anyOrder, ← List.map_cons] at shown
  have values := ((Resamples.take received).map (structStates casts header.state)).trans shown
  rwa [← List.map_cons (f := Block.bytes), List.map_map] at values

theorem states_over_link_in_order_arm :
    ∃ world, armLink.Reachable world ∧
      world.shown = [[("arm_position", 0x3ff8000000000000)],
        [("arm_position", 0x4004000000000000)]] ∧
      Resamples ((Block.filled (structSize armHeader.state) 0 :: world.written).map fun state =>
        structStates .ieee armHeader.state state.bytes) world.shown := by
  obtain ⟨world, reached, shown⟩ := exists_armShown
  exact ⟨world, reached, shown, states_over_link_in_order reached⟩

/-! ## Commands -/

open LinkWorld in
/-- Whatever the network does, a command that the firmware reads is zeros or what one write of
the host took from its command interfaces, in the types of the struct. -/
theorem commands_over_link_are_whole {casts : Casts} {yaml : YamlCpp}
    {files : String → Option String} {kconfig : Kconfig} {root : YamlNode} {header : CHeader}
    {world : LinkWorld kconfig header}
    (reached : (tier2Link casts yaml files kconfig root header).Reachable world) :
    ∀ command ∈ world.taken, command = Block.filled _ 0 ∨ ∃ commands ∈ world.commanded,
      structCommands header.command command.bytes = castCommands casts header.command commands := by
  intro command isTaken
  have isSource := (commandsTaken_of_reachable reached).taken.subset
    (List.mem_map_of_mem (f := Block.bytes) isTaken)
  rcases List.mem_cons.mp isSource with zeros | isStored
  · exact .inl (Block.ext zeros)
  · have isPut := List.mem_map_of_mem (f := structCommands header.command)
      (stored_subset reached isStored)
    rw [commanded_eq_published reached] at isPut
    obtain ⟨commands, isCommanded, same⟩ := List.mem_map.mp isPut
    exact .inr ⟨commands, isCommanded, same.symm⟩

/-- An arm whose firmware read an effort, which its host had written. -/
theorem commands_over_link_are_whole_arm :
    ∃ world, armLink.Reachable world ∧ ∃ command ∈ world.taken,
      command ≠ Block.filled _ 0 ∧ ∃ commands ∈ world.commanded,
        structCommands armHeader.command command.bytes =
          castCommands .ieee armHeader.command commands := by
  obtain ⟨world, reached, taken⟩ := exists_armTaken
  obtain ⟨command, isTaken, same⟩ := List.mem_map.mp
    (show [("arm_effort", 0x3ff8000000000000)] ∈ world.taken.map _ by
      rw [taken]; exact List.mem_cons_self)
  have nonzero : command ≠ Block.filled _ 0 := by
    rintro rfl
    revert same
    decide +kernel
  exact ⟨world, reached, command, isTaken, nonzero,
    (commands_over_link_are_whole reached.of_restrict command isTaken).resolve_left nonzero⟩

open LinkWorld in
/-- Over a network that keeps the order, the firmware reads the commands of the host in the
order in which they were written, from zeros on; it may miss and repeat some. -/
theorem commands_over_link_in_order {casts : Casts} {yaml : YamlCpp}
    {files : String → Option String} {kconfig : Kconfig} {root : YamlNode} {header : CHeader}
    {world : LinkWorld kconfig header}
    (reached : (orderedLink casts yaml files kconfig root header).Reachable world) :
    Resamples
      (structCommands header.command (Block.filled (structSize header.command) 0).bytes ::
        world.commanded.map (castCommands casts header.command))
      (world.taken.map fun command => structCommands header.command command.bytes) := by
  have anyOrder : (tier2Link casts yaml files kconfig root header).Reachable world :=
    reached.of_restrict
  have stored := ((stored_carried reached).resamples.map (structCommands header.command))
  rw [commanded_eq_published anyOrder] at stored
  have taken := (commandsTaken_of_reachable anyOrder).taken.map (structCommands header.command)
  rw [List.map_map, commandSource, List.map_cons] at taken
  exact (stored.cons _).trans taken

theorem commands_over_link_in_order_arm :
    ∃ world, armLink.Reachable world ∧
      world.taken.map (fun command => structCommands armHeader.command command.bytes) =
        [[("arm_effort", 0x3ff8000000000000)], [("arm_effort", 0x4004000000000000)]] ∧
      Resamples
        (structCommands armHeader.command
            (Block.filled (structSize armHeader.command) 0).bytes ::
          world.commanded.map (castCommands .ieee armHeader.command))
        (world.taken.map fun command => structCommands armHeader.command command.bytes) := by
  obtain ⟨world, reached, taken⟩ := exists_armTaken
  exact ⟨world, reached, taken, commands_over_link_in_order reached⟩

/-! ## Progress -/

open LinkWorld in
/-- Whatever happened before, an initialized client and an active host get the next state and
the next command over the link, if there are any and the transport takes the commands. -/
theorem link_delivers {casts : Casts} {yaml : YamlCpp} {files : String → Option String}
    {kconfig : Kconfig} {root : YamlNode} {header : CHeader} {world : LinkWorld kconfig header}
    (admitted : kconfig.Admitted)
    (reached : (orderedLink casts yaml files kconfig root header).Reachable world)
    (up : world.client.initialized = true) :
    (world.host.hardware.stateSub ≠ none → header.state ≠ [] →
      ∀ (value : Block UInt8 (structSize header.state)) tmp timestampNs ok, ∃ status after,
        (orderedLink casts yaml files kconfig root header).Run world
          [.firmware (.call () (.writeState value)),
            .firmware (.publishState () tmp 1 timestampNs ok status),
            .carryState world.statePuts.length, .host (.read true)] after ∧
        after.shown = world.shown ++ [structStates casts header.state value.bytes]) ∧
    (world.host.hardware.commandPub ≠ none → header.command ≠ [] →
      structSize header.command ≤ kconfig.maxRxBufferSize → ∀ tmp old, ∃ slot out after,
        (orderedLink casts yaml files kconfig root header).Run world
          [.host .write, .carryCommand world.host.published.length slot,
            .readCommand tmp 1 old true] after ∧
        after.taken = world.taken ++ [out] ∧ structCommands header.command out.bytes =
          castCommands casts header.command world.host.hardware.requestedCommands) :=
  ⟨fun subscribed someState value tmp timestampNs ok =>
      let ⟨status, after, run, shown, _⟩ :=
        exists_shown admitted reached up subscribed someState value tmp timestampNs ok
      ⟨status, after, run, shown⟩,
    fun declared someCommand received tmp old =>
      let ⟨slot, out, after, run, taken, same, _⟩ :=
        exists_taken admitted reached up declared someCommand received tmp old
      ⟨slot, out, after, run, taken, same⟩⟩

theorem link_delivers_arm :
    ∃ world, armLink.Reachable world ∧ ∃ slot out after,
      armLink.Run world
        [.host .write, .carryCommand world.host.published.length slot,
          .readCommand (Block.filled _ 0) 1 (Block.filled _ 0) true] after ∧
      after.taken = world.taken ++ [out] ∧
      structCommands armHeader.command out.bytes = [("arm_effort", 0x3ff8000000000000)] := by
  obtain ⟨world, reached, up, -, declared, interfaces, -, -⟩ := exists_armLink
  obtain ⟨slot, out, after, run, taken, same⟩ := (link_delivers (Kconfig.default_admitted .tier2)
    reached up).2 declared (by decide) (by decide) (Block.filled _ 0) (Block.filled _ 0)
  refine ⟨world, reached, slot, out, after, run, taken, ?_⟩
  rw [same, requestedCommands_arm reached (by decide) interfaces]
  decide +kernel

end Zenbedded
