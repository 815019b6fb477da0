import BigBlackHardware.Controller.Session

/-! The heap blocks of LoadMCUInfo and ProgramMemory requests. What is allocated for a request is
freed only in part, if at all.
-/

namespace BigBlackHardware

open Library

/-- The blocks of the six patterns. -/
def AvrMcuInfo.patternBlocks (info : AvrMcuInfo) : List Nat :=
  [info.flashLoadHiPattern.address, info.flashLoadLoPattern.address,
    info.flashReadLoPattern.address, info.flashReadHiPattern.address,
    info.eepromWritePattern.address, info.eepromReadPattern.address]

/-- The block that `mcu_info` points to and the blocks of its patterns. -/
def Rig.ownedBlocks (rig : Rig) : List Nat :=
  match rig.mcuInfo with
  | none => []
  | some block => block.address :: block.info.patternBlocks

/-- The blocks in use are exactly those of `mcu_info`. -/
def Rig.NothingLost (rig : Rig) : Prop :=
  ∀ address, address ∈ rig.heap.live ↔ address ∈ rig.ownedBlocks

/-- A LoadMCUInfo or ProgramMemory request as it arrives, with the desk as it is at that time. -/
structure HeapRequest where
  desk : Desk
  outQueue : Nat
  packet : Nat
  known
    : (desk.packets packet).header.type = PacketType.loadMcuInfoPacket.val
      ∨ (desk.packets packet).header.type = PacketType.programMemoryPacket.val

/-- The packet object of a request. -/
def HeapRequest.object (request : HeapRequest) : Packet := request.desk.packets request.packet

/-- The call of `process_packet`. -/
def HeapRequest.handle (request : HeapRequest) (rig : Rig) : EStateM.Result Stop Device Int :=
  processPacket request.outQueue request.packet ⟨rig, request.desk⟩

/-- The rig when the device has been restarted, with no block in use and nothing known about what
new blocks hold.
-/
def Rig.rebooted (rig : Rig) : Rig :=
  { rig.restarted with heap := .boot fun i => rig.heap.fresh (rig.heap.next + i) }

/-- A call of `process_packet` that has returned. -/
structure HandledRequest where
  before : Rig
  request : HeapRequest
  after : Rig

/-- The calls that return when requests are handled one after the other. A restart goes on with a
rebooted device; after a `NULL` dereference nothing more can be said.
-/
def handledRequests : Rig → List HeapRequest → List HandledRequest
  | _, [] => []
  | rig, request :: requests =>
      match request.handle rig with
      | .ok _ device => ⟨rig, request, device.rig⟩ :: handledRequests device.rig requests
      | .error .restart device => handledRequests device.rig.rebooted requests
      | .error _ _ => []

/-- The first `mcu_info`: a LoadMCUInfo request that finds none installed. -/
def HandledRequest.InstallsFirst (call : HandledRequest) : Prop :=
  call.request.object.header.type = PacketType.loadMcuInfoPacket.val
  ∧ call.before.mcuInfo = none

-----------------------------------------------------------------------------------------
-- Programs that leave the blocks alone
-----------------------------------------------------------------------------------------

/-- Neither the heap nor `mcu_info` is changed. -/
def KeepsBlocks (before after : Rig) : Prop :=
  after.heap = before.heap ∧ after.mcuInfo = before.mcuInfo

instance : Std.Refl KeepsBlocks := ⟨fun _ => ⟨rfl, rfl⟩⟩

instance : IsTrans Rig KeepsBlocks :=
  ⟨fun _ _ _ one two => ⟨two.1.trans one.1, two.2.trans one.2⟩⟩

/-- A program of an established session leaves the blocks alone. -/
theorem SessionProgram.keepsBlocks {α : Type} {m : RigM α} (program : SessionProgram m)
    : Moves KeepsBlocks m :=
  program.moves (fun _ _ => ⟨rfl, rfl⟩) fun _ => ⟨rfl, rfl⟩

theorem programmerEnablePgmMode_keepsBlocks : Moves KeepsBlocks programmerEnablePgmMode := by
  have off : Moves KeepsBlocks spiDisable := .modify fun rig => ⟨rfl, rfl⟩
  have configured : Moves KeepsBlocks (configureSpi 400000) :=
    .bind off fun _ => .modify fun rig => ⟨rfl, rfl⟩
  rw [programmerEnablePgmMode]
  refine .bind configured fun _ => .bind (.modify fun rig => ⟨rfl, rfl⟩) fun _ => ?_
  refine .bind (SessionProgram.osiSleep 5).keepsBlocks fun _ => ?_
  refine .bind (SessionProgram.sysResetMcu mcuResetOn).keepsBlocks fun _ => ?_
  refine .bind (SessionProgram.osiSleep 50).keepsBlocks fun _ => ?_
  refine .bind (enablePgmLoop_session pgmEnableRetries).keepsBlocks fun entered => ?_
  exact .ite (.pure _) (.bind off fun _ => .pure _)

theorem enterPgmLoop_keepsBlocks (attempts : Nat) (status : Int)
    : Moves KeepsBlocks (enterPgmLoop attempts status) := by
  induction attempts generalizing status with
  | zero => exact .pure status
  | succ attempts ih =>
      rw [enterPgmLoop]
      exact .bind programmerEnablePgmMode_keepsBlocks fun status => .ite (.pure _) (ih status)

/-- The device's blocks are left alone. -/
def DeviceKeepsBlocks (before after : Device) : Prop := KeepsBlocks before.rig after.rig

instance : Std.Refl DeviceKeepsBlocks := ⟨fun device => Std.Refl.refl device.rig⟩

instance : IsTrans Device DeviceKeepsBlocks :=
  ⟨fun _ _ _ one two => IsTrans.trans (r := KeepsBlocks) _ _ _ one two⟩

theorem onDesk_keepsBlocks {α : Type} (m : DeskM α) : Moves DeviceKeepsBlocks (onDesk m) := by
  intro device
  have same : (final (onDesk m device)).rig = device.rig := onDesk_sameRig m device
  rw [DeviceKeepsBlocks, same]
  exact Std.Refl.refl device.rig

theorem onRig_keepsBlocks {α : Type} {m : RigM α} (moves : Moves KeepsBlocks m)
    : Moves DeviceKeepsBlocks (onRig m) :=
  moves.onPart fun _ _ moved => moved

/-- A reply and the reset that follows if it fails. -/
theorem acknowledge_keepsBlocks (status : Int) (outQueue : Nat)
    : Moves DeviceKeepsBlocks
        (do
          let status ← onDesk (sendAck status outQueue)
          sysAssertCritical status
          return status) :=
  .bind (onDesk_keepsBlocks _) fun status => .bind (sysAssertCritical_moves status) fun _ => .pure _

-----------------------------------------------------------------------------------------
-- The blocks of a request
-----------------------------------------------------------------------------------------

/-- The blocks that are in use when seven more are taken and the installed structure is freed. -/
def Rig.liveAfterLoad (rig : Rig) : List Nat :=
  let taken := (List.range' rig.heap.next 7).reverse ++ rig.heap.live
  match rig.mcuInfo with
  | some old => taken.erase old.address
  | none => taken

/-- A LoadMCUInfo request takes seven new blocks, for the structure first of all, and frees the
structure that was installed.
-/
structure LoadsBlocks (before after : Rig) : Prop where
  next : after.heap.next = before.heap.next + 7
  live : after.heap.live = before.liveAfterLoad
  installed
    : ∃ block,
        after.mcuInfo = some block
        ∧ block.address = before.heap.next
        ∧ ∀ address, address ∈ block.info.patternBlocks
            ↔ before.heap.next < address ∧ address < before.heap.next + 7

/-- A ProgramMemory request takes one block, for its data. -/
structure TakesBlock (before after : Rig) : Prop where
  next : after.heap.next = before.heap.next + 1
  live : after.heap.live = before.heap.next :: before.heap.live
  installed : after.mcuInfo = before.mcuInfo

/-- Reading the description takes a block for each pattern. -/
theorem getMcuInfo_blocks (packet : Packet) (heap : Heap)
    : let loaded := getMcuInfo packet heap
      loaded.2.2.next = heap.next + 6
      ∧ loaded.2.2.live = (List.range' heap.next 6).reverse ++ heap.live
      ∧ ∀ address, address ∈ loaded.2.1.patternBlocks
          ↔ heap.next ≤ address ∧ address < heap.next + 6 := by
  refine ⟨rfl, rfl, fun address => ?_⟩
  have blocks : (getMcuInfo packet heap).2.1.patternBlocks
      = [heap.next + 1, heap.next, heap.next + 2, heap.next + 3, heap.next + 4, heap.next + 5] :=
    rfl
  rw [blocks]
  simp only [List.mem_cons, List.not_mem_nil, or_false]
  omega

/-- Whether or not it returns, a LoadMCUInfo request loads the blocks. -/
theorem processLoadMcuInfoPacket_loadsBlocks (outQueue packet : Nat) (device : Device)
    : LoadsBlocks device.rig (final (processLoadMcuInfoPacket outQueue packet device)).rig := by
  obtain ⟨next, live, patterns⟩ :=
    getMcuInfo_blocks (device.desk.packets packet) device.rig.heap.malloc.2
  let loaded := getMcuInfo (device.desk.packets packet) device.rig.heap.malloc.2
  let block : McuInfoBlock := ⟨device.rig.heap.next, loaded.2.1⟩
  let filled : Rig := { device.rig with heap := loaded.2.2 }
  have read : loadMcuInfo (device.desk.packets packet) device.rig = .ok (0, block) filled := rfl
  let installed : Rig := final (programmerSetMcuInfo block filled)
  have set : programmerSetMcuInfo block filled = .ok ⟨⟩ installed := rfl
  have kept
      : KeepsBlocks installed (final (processLoadMcuInfoPacket outQueue packet device)).rig := by
    rw [processLoadMcuInfoPacket, bind_ok (readPacket_eq packet device), bind_ok (onRig_ok read)]
    dsimp only
    rw [if_neg (by decide), bind_ok (onRig_ok set)]
    refine Moves.bind (S := DeviceKeepsBlocks) (onRig_keepsBlocks (enterPgmLoop_keepsBlocks _ _))
      (fun status => .ite ?_ (acknowledge_keepsBlocks status outQueue)) _
    refine .bind (onDesk_keepsBlocks _) fun status => ?_
    exact .bind (sysAssertCritical_moves status) fun _ => acknowledge_keepsBlocks status outQueue
  obtain ⟨heap, mcuInfo⟩ := kept
  have freed
      : installed.heap.live = device.rig.liveAfterLoad
        ∧ installed.heap.next = loaded.2.2.next := by
    rw [Rig.liveAfterLoad]
    change Heap.live (match device.rig.mcuInfo with
        | some old => loaded.2.2.free old.address
        | none => loaded.2.2) = _
      ∧ Heap.next (match device.rig.mcuInfo with
        | some old => loaded.2.2.free old.address
        | none => loaded.2.2) = _
    cases device.rig.mcuInfo <;> exact ⟨rfl, rfl⟩
  refine ⟨?_, ?_, block, mcuInfo, rfl, fun address => ?_⟩
  · rw [heap, freed.2, next]
    rfl
  · rw [heap, freed.1]
  · rw [show block.info.patternBlocks = _ from rfl, patterns]
    change device.rig.heap.next + 1 ≤ _ ∧ _ < device.rig.heap.next + 1 + 6 ↔ _
    omega

/-- Whether or not it returns, a ProgramMemory request takes a block. -/
theorem processProgramMemoryPacket_takesBlock (outQueue packet : Nat) (device : Device)
    : TakesBlock device.rig (final (processProgramMemoryPacket outQueue packet device)).rig := by
  let decoded := getProgMemData (device.desk.packets packet) device.rig.heap
  let filled : Rig := { device.rig with heap := decoded.2.2 }
  have read : loadProgMemData (device.desk.packets packet) device.rig
      = .ok (0, decoded.2.1) filled := rfl
  have kept
      : KeepsBlocks filled (final (processProgramMemoryPacket outQueue packet device)).rig := by
    rw [processProgramMemoryPacket, bind_ok (readPacket_eq packet device),
      bind_ok (onRig_ok read)]
    dsimp only
    rw [if_neg (by decide)]
    refine Moves.bind (S := DeviceKeepsBlocks)
      (onRig_keepsBlocks (programmerProgramMemory_session _).keepsBlocks)
      (fun status => .ite ?_ (acknowledge_keepsBlocks status outQueue)) _
    refine .bind (onDesk_keepsBlocks _) fun _ => ?_
    exact .bind (sysAssertCritical_moves status) fun _ => acknowledge_keepsBlocks status outQueue
  obtain ⟨heap, mcuInfo⟩ := kept
  exact ⟨by rw [heap]; rfl, by rw [heap]; rfl, mcuInfo⟩

-----------------------------------------------------------------------------------------
-- Runs
-----------------------------------------------------------------------------------------

/-- Every block in use has a name below the next one, and the installed structure is none of its
patterns.
-/
structure Rig.BlocksApart (rig : Rig) : Prop where
  below : ∀ address ∈ rig.heap.live, address < rig.heap.next
  apart : ∀ block, rig.mcuInfo = some block → block.address ∉ block.info.patternBlocks

/-- What is in use after a load was in use before it or is new. -/
theorem mem_liveAfterLoad {rig : Rig} {address : Nat} (used : address ∈ rig.liveAfterLoad)
    : address ∈ rig.heap.live
      ∨ (rig.heap.next ≤ address ∧ address < rig.heap.next + 7) := by
  have taken : address ∈ (List.range' rig.heap.next 7).reverse ++ rig.heap.live := by
    rw [Rig.liveAfterLoad] at used
    split at used
    · exact List.mem_of_mem_erase used
    · exact used
  rcases List.mem_append.mp taken with new | old
  · rw [List.mem_reverse, List.mem_range'_1] at new
    exact Or.inr new
  · exact Or.inl old

section Steps

variable {before after : Rig}

theorem LoadsBlocks.blocksApart (loads : LoadsBlocks before after) (apart : before.BlocksApart)
    : after.BlocksApart := by
  obtain ⟨block, installed, address, patterns⟩ := loads.installed
  refine ⟨fun used live => ?_, fun other now => ?_⟩
  · rw [loads.live] at live
    rw [loads.next]
    rcases mem_liveAfterLoad live with old | new
    · exact (apart.below used old).trans_le (Nat.le_add_right _ _)
    · exact new.2
  · rw [installed] at now
    obtain rfl := Option.some.inj now
    rw [patterns, address]
    exact fun inside => Nat.lt_irrefl _ inside.1

theorem TakesBlock.blocksApart (takes : TakesBlock before after) (apart : before.BlocksApart)
    : after.BlocksApart := by
  refine ⟨fun used live => ?_, fun block installed => ?_⟩
  · rw [takes.live] at live
    rw [takes.next]
    rcases List.mem_cons.mp live with rfl | old
    · exact Nat.lt_succ_self _
    · exact (apart.below used old).trans (Nat.lt_succ_self _)
  · rw [takes.installed] at installed
    exact apart.apart block installed

/-- The data of a ProgramMemory request is lost. -/
theorem TakesBlock.loses (takes : TakesBlock before after) (apart : before.BlocksApart)
    (nothing : before.NothingLost) : ¬ after.NothingLost := by
  intro still
  have new : before.heap.next ∈ after.heap.live := by
    rw [takes.live]
    exact List.mem_cons_self
  have same : after.ownedBlocks = before.ownedBlocks := by
    rw [Rig.ownedBlocks, takes.installed, Rig.ownedBlocks]
  have owned := (still _).mp new
  rw [same] at owned
  exact Nat.lt_irrefl _ (apart.below _ ((nothing _).mpr owned))

/-- A LoadMCUInfo request loses nothing exactly if no `mcu_info` was installed: the patterns of one
that was installed are not freed.
-/
theorem LoadsBlocks.nothingLost_iff (loads : LoadsBlocks before after) (apart : before.BlocksApart)
    (nothing : before.NothingLost) : after.NothingLost ↔ before.mcuInfo = none := by
  obtain ⟨block, installed, first, patterns⟩ := loads.installed
  have owned (address : Nat)
      : address ∈ after.ownedBlocks
        ↔ before.heap.next ≤ address ∧ address < before.heap.next + 7 := by
    rw [Rig.ownedBlocks, installed]
    dsimp only
    rw [List.mem_cons, patterns, first]
    omega
  have live := loads.live
  rw [Rig.liveAfterLoad] at live
  cases was : before.mcuInfo with
  | none =>
      have empty : before.heap.live = [] := by
        refine List.eq_nil_iff_forall_not_mem.mpr fun address used => ?_
        have none := (nothing address).mp used
        rw [Rig.ownedBlocks, was] at none
        cases none
      rw [was, empty, List.append_nil] at live
      refine iff_of_true (fun address => ?_) rfl
      rw [live, owned, List.mem_reverse, List.mem_range'_1]
  | some old =>
      rw [was] at live
      refine iff_of_false (fun still => ?_) (Option.some_ne_none old)
      -- any of the old patterns
      have pattern : old.info.flashLoadHiPattern.address ∈ old.info.patternBlocks :=
        List.mem_cons_self
      have used : old.info.flashLoadHiPattern.address ∈ before.heap.live := by
        refine (nothing _).mpr ?_
        rw [Rig.ownedBlocks, was]
        exact List.mem_cons_of_mem _ pattern
      have different : old.info.flashLoadHiPattern.address ≠ old.address := fun same =>
        apart.apart old was (same ▸ pattern)
      have kept : old.info.flashLoadHiPattern.address ∈ after.heap.live := by
        rw [live]
        exact (List.mem_erase_of_ne different).mpr (List.mem_append_right _ used)
      have new := (owned _).mp ((still _).mp kept)
      exact absurd (apart.below _ used) (Nat.not_lt.mpr new.1)

end Steps

/-- A device that comes from a reset has lost nothing. -/
theorem nothingLost_of_reset (rig : Rig) (unused : rig.heap.live = []) (none : rig.mcuInfo = none)
    : rig.BlocksApart ∧ rig.NothingLost := by
  refine ⟨⟨fun address used => ?_, fun block installed => ?_⟩, fun address => ?_⟩
  · rw [unused] at used
    cases used
  · rw [none] at installed
    cases installed
  · rw [unused, Rig.ownedBlocks, none]

/-- A call loads the blocks of its request or takes a block for its data. -/
theorem HeapRequest.handle_blocks (request : HeapRequest) (rig : Rig)
    : (request.object.header.type = PacketType.loadMcuInfoPacket.val
        ∧ LoadsBlocks rig (final (request.handle rig)).rig)
      ∨ (request.object.header.type ≠ PacketType.loadMcuInfoPacket.val
        ∧ TakesBlock rig (final (request.handle rig)).rig) := by
  rcases request.known with load | program
  · refine Or.inl ⟨load, ?_⟩
    rw [HeapRequest.handle, processPacket_eq load rfl]
    exact processLoadMcuInfoPacket_loadsBlocks _ _ ⟨rig, request.desk⟩
  · refine Or.inr ⟨fun load => absurd (program.symm.trans load) (by decide), ?_⟩
    rw [HeapRequest.handle, processPacket_eq program rfl]
    exact processProgramMemoryPacket_takesBlock _ _ ⟨rig, request.desk⟩

/-- A call on a rig that has lost nothing keeps it so exactly if it installs the first `mcu_info`.
-/
theorem HeapRequest.handle_nothingLost_iff (request : HeapRequest) {rig : Rig}
    (apart : rig.BlocksApart) (nothing : rig.NothingLost)
    : (final (request.handle rig)).rig.BlocksApart
      ∧ ((final (request.handle rig)).rig.NothingLost
        ↔ (HandledRequest.mk rig request (final (request.handle rig)).rig).InstallsFirst) := by
  rcases request.handle_blocks rig with ⟨load, loads⟩ | ⟨noLoad, takes⟩
  · exact ⟨loads.blocksApart apart,
      (loads.nothingLost_iff apart nothing).trans (and_iff_right load).symm⟩
  · exact ⟨takes.blocksApart apart,
      iff_of_false (takes.loses apart nothing) fun first => noLoad first.1⟩

/-- From a rig that has lost nothing, nothing is lost exactly if each call that returns installs the
first `mcu_info`, by induction on the requests.
-/
theorem handledRequests_nothingLost_iff (requests : List HeapRequest) {rig : Rig}
    (apart : rig.BlocksApart) (nothing : rig.NothingLost)
    : (∀ call ∈ handledRequests rig requests, call.after.NothingLost)
      ↔ ∀ call ∈ handledRequests rig requests, call.InstallsFirst := by
  induction requests generalizing rig with
  | nil => exact iff_of_true (fun _ none => by cases none) fun _ none => by cases none
  | cons request requests ih =>
      obtain ⟨apart', step⟩ := request.handle_nothingLost_iff apart nothing
      rw [handledRequests]
      cases run : request.handle rig with
      | ok status device =>
          rw [run] at apart' step
          dsimp only [final] at apart' step
          dsimp only
          rw [List.forall_mem_cons, List.forall_mem_cons, ← step]
          exact and_congr_right fun nothing' => ih apart' nothing'
      | error stop device =>
          cases stop with
          | restart =>
              obtain ⟨apart, nothing⟩ := nothingLost_of_reset device.rig.rebooted rfl rfl
              exact ih apart nothing
          | _ => exact iff_of_true (fun _ none => by cases none) fun _ none => by cases none

/-- From a reset of the device on, no block is lost exactly if no ProgramMemory request is handled
to its end and no LoadMCUInfo request finds an `mcu_info` to replace.
-/
theorem processPacket_nothingLost_iff (target : List RigEvent → AvrCommand → AvrCommand)
    (fresh : Nat → Cells UInt8) (junk : Junk) (requests : List HeapRequest)
    : (∀ call ∈ handledRequests (.boot target (.boot fresh) junk) requests,
        call.after.NothingLost)
      ↔ ∀ call ∈ handledRequests (.boot target (.boot fresh) junk) requests,
          call.InstallsFirst := by
  obtain ⟨apart, nothing⟩ := nothingLost_of_reset (.boot target (.boot fresh) junk) rfl rfl
  exact handledRequests_nothingLost_iff requests apart nothing

/-- A LoadMCUInfo request with empty patterns, on a desk with free packets. -/
def emptyInfoRequest : HeapRequest where
  desk :=
    .boot (fun _ => ⟨⟨PacketType.loadMcuInfoPacket.val, 1, 12, 0, 0, 0⟩, fun _ => 0, fun _ => 0⟩)
      (fun _ => 0) ⟨fun _ => 0, 0⟩
  outQueue := 0
  packet := 7
  known := Or.inl rfl

/-- The second of two such requests leaves the six patterns of the first one behind. -/
theorem emptyInfoRequest_loses
    : let rig := Rig.boot (fun _ _ => Vector.replicate 4 0) (.boot fun _ _ => 0) ⟨fun _ => 0, 0⟩
      ¬ ∀ call ∈ handledRequests rig [emptyInfoRequest, emptyInfoRequest],
          call.after.NothingLost := by
  intro rig kept
  have blocks
      : (handledRequests rig [emptyInfoRequest, emptyInfoRequest]).map
          (fun call => (call.after.heap.live, call.after.ownedBlocks))
        = [([6, 5, 4, 3, 2, 1, 0], [0, 2, 1, 3, 4, 5, 6]),
            ([13, 12, 11, 10, 9, 8, 7, 6, 5, 4, 3, 2, 1], [7, 9, 8, 10, 11, 12, 13])] := by
    decide +kernel
  obtain ⟨call, member, state⟩ := List.mem_map.mp (blocks ▸ List.mem_cons_of_mem _
    (List.mem_singleton_self _))
  obtain ⟨live, owned⟩ := Prod.mk.inj state
  have lost := (kept call member 1).mp (by rw [live]; decide)
  rw [owned] at lost
  exact absurd lost (by decide)

end BigBlackHardware
