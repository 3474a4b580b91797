import SpcNvme.Proofs.BlockDevice

/-! The driver and a conforming controller together are a block device: however the
requests of any number of queues are interleaved and reordered, disk and buffers end
up as if each request that was carried out had been transferred in one piece. -/

namespace SpcNvme
open ScatterGather

def Deed.operation (device : CNvmeDevice) : Deed → BlockDevice.Operation (BitVec 8)
  | request _ _ srb => .transfer (srb.transfer device)
  | store address value => .store address value

/-- What was done, to a block device in this state. -/
def Deed.performAll (device : CNvmeDevice) (deeds : List Deed) (start : BlockDevice.State (BitVec 8)) :
    BlockDevice.State (BitVec 8) :=
  BlockDevice.Operation.performAll (deeds.map (Deed.operation device)) start

theorem Deed.performAll_concat (device : CNvmeDevice) (deeds : List Deed) (last : Deed)
    (start : BlockDevice.State (BitVec 8)) :
    Deed.performAll device (deeds ++ [last]) start = (last.operation device).perform (Deed.performAll device deeds start) := by
  simp only [Deed.performAll, List.map_append, List.map_singleton, BlockDevice.Operation.performAll_concat]

/-- No bus reset and no tag twice on an I/O queue, and what the run may rely on;
clients write to their own memory. -/
def DataPath.Obeys (setting : DmaSetting) (device : CNvmeDevice) (state : DataPath) : DataEvent → Prop
  | .adapter event => TagUnused (· ≠ 0) state.adapter event ∧ Allocates setting device state.adapter event
  | .store memory address _ => memory.mmGetPhysicalAddress = setting.translate ∧ setting.client address

/-- What every such run keeps: the storage shows the block device after what was done
so far, and every command on its way carries its request. -/
structure ServesData (setting : DmaSetting) (device : CNvmeDevice) (start : BlockDevice.State (BitVec 8))
    (state : DataPath) : Prop where
  sound : Adapter.Sound 2 state.adapter
  traced : PairsTraced (· ≠ 0) state.adapter
  provenance : Provenance device (fun _ srb => Proper setting device srb) (fun _ _ => True) state.adapter
  carried : ∀ msgid queue, msgid ≠ 0 → state.adapter.host.queue msgid = some queue →
    ∀ submission ∈ queue.trace.submitted, queue.history.history submission.cmd.cid.toNat = some submission.srbext →
      ∃ srb offset len memory page, Carried setting device state.storage
        (state.adapter.host.heap.srbext submission.srbext.address) submission.cmd srb offset len memory page
  fitted : ∀ msgid number srb, Deed.request msgid number srb ∈ state.performed → ∃ offset len,
    parseReadWriteOffsetAndLen srb.cdb = some (offset, len) ∧ Fits setting device srb len
  shows : Shows setting state.storage (Deed.performAll device state.performed start)

namespace ServesData
variable {setting : DmaSetting} {device : CNvmeDevice} {start : BlockDevice.State (BitVec 8)} {before after : DataPath}

theorem stored {memory : Memory} {address : Nat} {value : BitVec 8} (serves : ServesData setting device start before)
    (obeys : before.Obeys setting device (.store memory address value))
    (taken : before.step (.store memory address value) = some after) : ServesData setting device start after := by
  obtain ⟨translates, client⟩ := obeys
  cases taken
  refine ⟨serves.sound, serves.traced, serves.provenance, ?_, ?_, ?_⟩
  · intro msgid queue nonzero present submission member held
    obtain ⟨srb, offset, len, own, page, carried⟩ := serves.carried msgid queue nonzero present submission member held
    refine ⟨srb, offset, len, own, page, carried.keep ?_⟩
    intro _ index inside
    have pooled := carried.provides.inPool index inside
    apply Function.update_of_ne
    intro same
    rw [translates] at same
    have equal := setting.injective _ _ (.inr pooled) (.inl client) same
    exact setting.apart address client (equal ▸ pooled)
  · intro msgid number srb member
    have earlier : Deed.request msgid number srb ∈ before.performed := by simpa using member
    exact serves.fitted msgid number srb earlier
  · rw [Deed.performAll_concat]
    refine ⟨serves.shows.disk, ?_⟩
    intro other known
    simp only [Deed.operation, BlockDevice.Operation.perform, translates]
    by_cases here : other = address
    · subst here
      rw [Function.update_self, Function.update_self]
    · have apart : (setting.translate other).toNat ≠ (setting.translate address).toNat :=
        fun same => here (setting.injective other address (.inl known) (.inl client) same)
      rw [Function.update_of_ne apart, Function.update_of_ne here]
      exact serves.shows.memory other known

theorem carriesOut_pending {event : AdapterEvent} {msgid : Nat} {submission : Submission} {next : Adapter}
    (executes : before.carriesOut event = some (msgid, submission)) (taken : before.adapter.step event = some next) :
    msgid ≠ 0 ∧ ∃ queue, before.adapter.host.queue msgid = some queue ∧
      submission ∈ (before.adapter.controllers msgid).pending := by
  cases event with
  | advance pair own =>
    cases own with
    | post index reply =>
      simp only [DataPath.carriesOut] at executes
      split at executes
      · next succeeds =>
        obtain ⟨found, there, same⟩ := Option.map_eq_some_iff.mp executes
        cases same
        obtain ⟨queue, present, _⟩ := Adapter.step_advance taken
        exact ⟨succeeds.1, queue, present, List.mem_of_getElem? there⟩
      · cases executes
    | _ => cases executes
  | _ => cases executes

theorem carriedOut {event : AdapterEvent} {msgid : Nat} {submission : Submission} {next : Adapter}
    (serves : ServesData setting device start before) (executes : before.carriesOut event = some (msgid, submission))
    (taken : before.adapter.step event = some next) :
    ∃ srb offset len memory page, Carried setting device before.storage
        (before.adapter.host.heap.srbext submission.srbext.address) submission.cmd srb offset len memory page := by
  obtain ⟨nonzero, queue, present, pending⟩ := carriesOut_pending executes taken
  have pair := serves.traced msgid queue nonzero present
  have member := pair.orderly.steady.conformed.pending submission pending
  exact serves.carried msgid queue nonzero present submission member (pair.pending_held pending)

private theorem record_fitted {event : AdapterEvent} {next : Adapter} (serves : ServesData setting device start before)
    (taken : before.adapter.step event = some next) (msgid number : Nat) (srb : Srb)
    (member : Deed.request msgid number srb ∈ before.record event) :
    ∃ offset len, parseReadWriteOffsetAndLen srb.cdb = some (offset, len) ∧ Fits setting device srb len := by
  cases executes : before.carriesOut event with
  | none =>
    simp only [DataPath.record, executes] at member
    exact serves.fitted msgid number srb member
  | some found =>
    obtain ⟨pair, submission⟩ := found
    obtain ⟨own, offset, len, memory, page, carried⟩ := serves.carriedOut executes taken
    simp only [DataPath.record, executes, carried.request, Option.toList_some, List.map_cons, List.map_nil,
      List.mem_append, List.mem_singleton, Deed.request.injEq] at member
    rcases member with earlier | ⟨_, _, rfl⟩
    · exact serves.fitted msgid number srb earlier
    · exact ⟨offset, len, carried.translates.parsed, carried.fits⟩

theorem fits {srb : Srb} {offset : BitVec 64} {len : BitVec 32} (serves : ServesData setting device start before)
    (proper : Proper setting device srb) (admitted : Admitted before.adapter.host srb offset len) :
    Fits setting device srb len := by
  apply proper offset len admitted.function admitted.parsed
  rw [← serves.provenance.settings.isInValidIoRange]
  exact admitted.inRange

/-- `HwStartIo` writes to the page it was given and nowhere else. -/
theorem startIo_outside {target processor logpage page address : Nat} {memory : Memory} {next : Adapter}
    (serves : ServesData setting device start before) (unused : TagUnused (· ≠ 0) before.adapter (.startIo target processor logpage memory))
    (provides : setting.Provides memory page)
    (taken : before.adapter.step (.startIo target processor logpage memory) = some next)
    (known : setting.client address ∨ setting.pool address) (elsewhere : address < page ∨ page + 4096 ≤ address) :
    (before.store next (.startIo target processor logpage memory)).ram (setting.translate address).toNat =
      before.storage.ram (setting.translate address).toNat := by
  obtain ⟨waits, host, returned, rfl⟩ := Adapter.step_startIo taken
  obtain ⟨srb, proper, fresh, unit⟩ := serves.provenance.waiting target waits
  simp only [DataPath.store]
  rcases (hwStartIo_started returned).list fresh unit (fun msgid queue => unused msgid queue) with
    none | ⟨offset, len, admitted, pages, entries⟩
  · simp only [Storage.storePrp2List, none]
  · have fits := serves.fits proper admitted
    apply storePrp2List_outside provides ?_ ?_ known elsewhere
    · rw [entries]
      exact srb.builtReadWrite_short provides.allocates fits offset
    · intro other listed
      rw [pages] at listed
      rcases srb.builtReadWrite_list provides.allocates offset len with ⟨_, none, _⟩ | ⟨holds, _⟩
      · rw [none] at listed
        cases listed
      · exact Option.some.inj (listed.symm.trans holds)

/-- What a step does to the storage: the clients see what was done, and the pages of
lists stay as they are, but for one given to `HwStartIo`. -/
theorem storage_step {event : AdapterEvent} {next : Adapter} (serves : ServesData setting device start before)
    (unused : TagUnused (· ≠ 0) before.adapter event) (allocates : Allocates setting device before.adapter event)
    (taken : before.adapter.step event = some next) :
    Shows setting (before.store next event) (Deed.performAll device (before.record event) start) ∧
      ∀ address, setting.pool address →
        (∀ target processor logpage memory page, event = .startIo target processor logpage memory →
          setting.Provides memory page → address < page ∨ page + 4096 ≤ address) →
        (before.store next event).ram (setting.translate address).toNat =
          before.storage.ram (setting.translate address).toNat := by
  have moved : ∀ msgid submission, before.carriesOut event = some (msgid, submission) →
      Shows setting (before.storage.execute before.adapter.host.device submission.cmd)
        (Deed.performAll device (before.record event) start) ∧
      ∀ address, setting.pool address →
        (before.storage.execute before.adapter.host.device submission.cmd).ram (setting.translate address).toNat =
          before.storage.ram (setting.translate address).toNat := by
    intro msgid submission executes
    obtain ⟨srb, offset, len, memory, page, carried⟩ := serves.carriedOut executes taken
    refine ⟨?_, fun address pooled => carried.execute_pool serves.provenance.settings pooled⟩
    simp only [DataPath.record, executes, carried.request, Option.toList_some, List.map_cons, List.map_nil,
      Deed.performAll_concat]
    exact carried.execute serves.provenance.settings serves.shows
  have kept : before.carriesOut event = none → before.store next event = before.storage →
      Shows setting (before.store next event) (Deed.performAll device (before.record event) start) ∧
      ∀ address, setting.pool address →
        (∀ target processor logpage memory page, event = .startIo target processor logpage memory →
          setting.Provides memory page → address < page ∨ page + 4096 ≤ address) →
        (before.store next event).ram (setting.translate address).toNat =
          before.storage.ram (setting.translate address).toNat := by
    intro idle same
    rw [same]
    simp only [DataPath.record, idle]
    exact ⟨serves.shows, fun _ _ _ => trivial⟩
  cases event with
  | startIo target processor logpage memory =>
    obtain ⟨page, provides, _⟩ := allocates
    refine ⟨⟨?_, ?_⟩, ?_⟩
    · exact (storePrp2List_disk ..).trans serves.shows.disk
    · intro address known
      rw [serves.startIo_outside unused provides taken (.inl known) ?_]
      · exact serves.shows.memory address known
      · -- a client's memory is not in the pool
        apply Classical.byContradiction
        intro within
        have pooled := provides.inPool (address - page) (by omega)
        rw [Nat.add_sub_cancel' (by omega)] at pooled
        exact setting.apart address known pooled
    · intro address pooled elsewhere
      exact serves.startIo_outside unused provides taken (.inr pooled)
        (elsewhere target processor logpage memory page rfl provides)
  | advance msgid own =>
    cases executes : before.carriesOut (.advance msgid own) with
    | none => exact kept executes (by simp only [DataPath.store, executes])
    | some found =>
      obtain ⟨pair, submission⟩ := found
      obtain ⟨shows, pool⟩ := moved pair submission executes
      simp only [DataPath.store, executes]
      exact ⟨shows, fun address pooled _ => pool address pooled⟩
  | _ => exact kept rfl rfl

private theorem carried_new {target processor logpage msgid : Nat} {memory : Memory} {next : Adapter} {old : CNvmeQueue}
    {cmd : NvmeCommand} (serves : ServesData setting device start before)
    (unused : TagUnused (· ≠ 0) before.adapter (.startIo target processor logpage memory))
    (allocates : Allocates setting device before.adapter (.startIo target processor logpage memory))
    (taken : before.adapter.step (.startIo target processor logpage memory) = some next) (nonzero : msgid ≠ 0)
    (present : before.adapter.host.queue msgid = some old)
    (found : next.host.queue msgid = some (old.accept target cmd)) :
    ∃ srb offset len own page, Carried setting device (before.store next (.startIo target processor logpage memory))
      (next.host.heap.srbext target) cmd srb offset len own page := by
  obtain ⟨page, provides, _⟩ := allocates
  obtain ⟨waits, host, returned, rfl⟩ := Adapter.step_startIo taken
  obtain ⟨srb, proper, fresh, unit⟩ := serves.provenance.waiting target waits
  obtain ⟨offset, len, admitted, built, ioQueueIndex, subIndex, record⟩ :=
    (hwStartIo_started returned).sent fresh unit nonzero present (unused msgid old nonzero present) found
  have fits := serves.fits proper admitted
  have inRange : device.isInValidIoRange 1 offset len = true := by
    rw [← serves.provenance.settings.isInValidIoRange]
    exact admitted.inRange
  have own : (srb.builtReadWrite memory offset len).srb = some srb := by
    obtain ⟨prp1, prp2, freePrp2List, prp2VA, prp2List, prp2PA, same⟩ := (SrbExt.init (some srb)).withBuffer_eq memory
      { NvmeCommand.zero with
        opc := if Cdb.isWrite srb.cdb then Opcode.nvmWrite else Opcode.nvmRead
        cid := (SrbExt.init (some srb)).cid
        nsid := (SrbExt.init (some srb)).lun.setWidth 32 + 1 } srb.dataBuffer srb.dataTransferLength.toNat
    exact congrArg SrbExt.srb same
  refine ⟨srb, offset, len, memory, page, ?_⟩
  simp only [DataPath.store, record]
  refine ⟨own, ?_, fits, provides, built, rfl, ?_⟩
  · rw [built]
    exact translates_of_built memory admitted.function admitted.unit admitted.parsed inRange
  · rcases srb.builtReadWrite_list provides.allocates offset len with ⟨_, _, empty⟩ | ⟨holds, address, _⟩
    · intro index inside
      rw [empty] at inside
      cases inside
    · let sent : SrbExt := { srb.builtReadWrite memory offset len with ioQueueIndex := ioQueueIndex, subIndex := subIndex }
      have short : sent.prp2List.length ≤ 512 := srb.builtReadWrite_short provides.allocates fits offset
      exact storePrp2List_listed provides short holds address

theorem stepped {event : AdapterEvent} (serves : ServesData setting device start before)
    (obeys : before.Obeys setting device (.adapter event)) (taken : before.step (.adapter event) = some after) :
    ServesData setting device start after := by
  obtain ⟨unused, allocates⟩ := obeys
  obtain ⟨next, moves, rfl⟩ := Option.map_eq_some_iff.mp taken
  have delivers : Delivers (fun _ srb => Proper setting device srb) (fun _ _ => True) event := by
    cases event with
    | buildIo => exact allocates
    | _ => trivial
  obtain ⟨shows, pool⟩ := serves.storage_step unused allocates moves
  refine ⟨serves.sound.step (.inl (Nat.le_refl 2)) moves, serves.traced.step unused moves,
    serves.provenance.step serves.sound delivers moves, ?_, serves.record_fitted moves, shows⟩
  intro msgid queue nonzero found submission member held
  rcases serves.traced.held_before unused nonzero moves found member held with
    ⟨old, present, earlier, was⟩ | ⟨old, sends, present, rfl⟩
  · -- the extension and the page of its list are as before
    obtain ⟨srb, offset, len, memory, page, carried⟩ := serves.carried msgid old nonzero present submission earlier was
    have slot : before.adapter.host.slots msgid submission.cmd.cid.toNat = some submission.srbext := by
      rw [Host.slots_of_queue present]
      exact was
    have still : next.host.slots msgid submission.cmd.cid.toNat = some submission.srbext := by
      rw [Host.slots_of_queue found]
      exact held
    have untouched := @Adapter.held_untouched _ _ _ (· ≠ 0) _ _ _ serves.sound nonzero unused moves slot still
    simp only
    rw [Adapter.step_frame moves untouched]
    refine ⟨srb, offset, len, memory, page, carried.keep ?_⟩
    intro holds index inside
    apply pool _ (carried.provides.inPool index inside)
    intro target processor logpage given other called provides
    subst called
    obtain ⟨chosen, also, unowned⟩ := allocates
    obtain rfl : other = chosen := Option.some.inj (provides.allocates.symm.trans also.allocates)
    have apart : page ≠ other := fun same => unowned _ (same ▸ holds)
    have first := carried.provides.aligned
    have second := provides.aligned
    omega
  · cases event with
    | startIo target processor logpage memory =>
      obtain ⟨rfl, _⟩ := sends
      exact serves.carried_new unused allocates moves nonzero present found
    | command => exact absurd sends.1 nonzero
    | _ => exact sends.elim

theorem step {event : DataEvent} (serves : ServesData setting device start before)
    (obeys : before.Obeys setting device event) (taken : before.step event = some after) :
    ServesData setting device start after := by
  cases event with
  | adapter event => exact serves.stepped obeys taken
  | store memory address value => exact serves.stored obeys taken

theorem initial {admConfig : Option QueuePairConfig} {ioConfig : Nat → Option QueuePairConfig} {srbext : Nat → SrbExt}
    {slotCount : BitVec 3} {storage : Storage}
    (deep : ∀ index config, ioConfig index = some config → safeSubmitThreshold < config.depth)
    (shows : Shows setting storage start) :
    ServesData setting device start ⟨.initial device admConfig ioConfig srbext slotCount, storage, []⟩ where
  sound := .initial device admConfig ioConfig srbext slotCount (show 1 ≤ 2 by omega)
  traced := by
    apply PairsTraced.initial
    intro msgid config nonzero configured
    rw [if_neg nonzero] at configured
    exact deep (msgid - 1) config configured
  provenance := .initial device admConfig ioConfig srbext slotCount
  carried := by
    intro msgid queue nonzero present submission member
    simp only [Adapter.initial, Host.queue, nonzero, if_false, Option.map_eq_some_iff] at present
    obtain ⟨config, _, rfl⟩ := present
    cases member
  fitted := fun _ _ _ member => absurd member List.not_mem_nil
  shows := shows

end ServesData

/-- In every run of the adapter without a bus reset, where I/O tags are not used twice,
requests fit and pages for lists are free ones: whatever the requests, queues and
interleaving, and in whatever order the controllers answer, the disk and the memory of
the clients are as if each request that was carried out had been one transfer between
its blocks and its buffer, in the order in which they were carried out. -/
theorem storage_is_block_device {setting : DmaSetting} {device : CNvmeDevice} {admConfig : Option QueuePairConfig}
    {ioConfig : Nat → Option QueuePairConfig} {srbext : Nat → SrbExt} {slotCount : BitVec 3} {storage : Storage}
    {start : BlockDevice.State (BitVec 8)} {events : List DataEvent} {final : DataPath}
    (deep : ∀ index config, ioConfig index = some config → safeSubmitThreshold < config.depth)
    (shows : Shows setting storage start)
    (obeys : Machine.Meets DataPath.step (DataPath.Obeys setting device)
      ⟨.initial device admConfig ioConfig srbext slotCount, storage, []⟩ events)
    (ran : Machine.run DataPath.step ⟨.initial device admConfig ioConfig srbext slotCount, storage, []⟩ events = some final) :
    Shows setting final.storage (Deed.performAll device final.performed start) := by
  have serves : ServesData setting device start final :=
    Machine.run_invariant (fun _ _ _ serves obeys taken => serves.step obeys taken) (.initial deep shows) obeys ran
  exact serves.shows

def DmaSetting.buffer (setting : DmaSetting) (srb : Srb) : List Nat :=
  (BlockDevice.stretch srb.dataBuffer srb.dataTransferLength.toNat).map fun address => (setting.translate address).toNat

theorem Shows.buffer {setting : DmaSetting} {device : CNvmeDevice} {storage : Storage}
    {state : BlockDevice.State (BitVec 8)} {srb : Srb} {offset : BitVec 64} {len : BitVec 32}
    (shows : Shows setting storage state) (parsed : parseReadWriteOffsetAndLen srb.cdb = some (offset, len))
    (fits : Fits setting device srb len) :
    gather storage.ram (setting.buffer srb) = gather state.memory (srb.transfer device).inMemory := by
  rw [DmaSetting.buffer, gather_map, Srb.transfer_of_parsed parsed, BlockDevice.Transfer.inMemory, ← fits.length]
  apply gather_congr
  intro address member
  exact shows.memory address (fits.client address member)

/-- In such a run, a read that is carried out finds what the last write of its blocks
stored: its buffer gets the bytes the buffer of the write had before that write,
whatever other transfers, queues and stores of clients came between them. -/
theorem read_gets_written {setting : DmaSetting} {device : CNvmeDevice} {admConfig : Option QueuePairConfig}
    {ioConfig : Nat → Option QueuePairConfig} {srbext : Nat → SrbExt} {slotCount : BitVec 3} {storage : Storage}
    {start : BlockDevice.State (BitVec 8)} {first rest : List DataEvent} {middle final : DataPath} {write read : Srb}
    {between : List Deed} {writePair writeNumber readPair readNumber : Nat}
    (deep : ∀ index config, ioConfig index = some config → safeSubmitThreshold < config.depth)
    (shows : Shows setting storage start)
    (obeys : Machine.Meets DataPath.step (DataPath.Obeys setting device)
      ⟨.initial device admConfig ioConfig srbext slotCount, storage, []⟩ (first ++ rest))
    (began : Machine.run DataPath.step ⟨.initial device admConfig ioConfig srbext slotCount, storage, []⟩ first = some middle)
    (ran : Machine.run DataPath.step middle rest = some final)
    (wrote : final.performed = middle.performed ++ ([.request writePair writeNumber write] ++ between ++
      [.request readPair readNumber read]))
    (writes : Cdb.isWrite write.cdb = true) (reads : Cdb.isWrite read.cdb = false)
    (same : (read.transfer device).onDisk = (write.transfer device).onDisk)
    (spares : ∀ deed ∈ between, (deed.operation device).SparesDisk (write.transfer device).onDisk) :
    gather final.storage.ram (setting.buffer read) = gather middle.storage.ram (setting.buffer write) := by
  have kept : ∀ before event after, ServesData setting device start before → before.Obeys setting device event →
      before.step event = some after → ServesData setting device start after :=
    fun _ _ _ serves obeys taken => serves.step obeys taken
  have early : ServesData setting device start middle :=
    Machine.run_invariant kept (.initial deep shows) obeys.left began
  have late : ServesData setting device start final :=
    Machine.run_invariant kept early (.of_append began obeys) ran
  obtain ⟨_, _, parsedWrite, fitsWrite⟩ := late.fitted writePair writeNumber write (by simp [wrote])
  obtain ⟨_, _, parsedRead, fitsRead⟩ := late.fitted readPair readNumber read (by simp [wrote])
  rw [late.shows.buffer parsedRead fitsRead, early.shows.buffer parsedWrite fitsWrite]
  have toDisk : (write.transfer device).toDisk = true := by rw [Srb.transfer_of_parsed parsedWrite, writes]
  have fromDisk : (read.transfer device).toDisk = false := by rw [Srb.transfer_of_parsed parsedRead, reads]
  have done : Deed.performAll device final.performed start = BlockDevice.Operation.performAll
      ([.transfer (write.transfer device)] ++ between.map (Deed.operation device) ++ [.transfer (read.transfer device)])
      (Deed.performAll device middle.performed start) := by
    rw [wrote, Deed.performAll, List.map_append, BlockDevice.Operation.performAll_append]
    simp only [List.map_append, List.map_cons, List.map_nil, Deed.operation, Deed.performAll]
  rw [done]
  apply BlockDevice.Operation.read_after_write toDisk fromDisk same
  intro operation member
  obtain ⟨deed, inside, rfl⟩ := List.mem_map.mp member
  exact spares deed inside

/-- Physical addresses are virtual ones; two buffers of clients and one page for a list. -/
def sampleSetting : DmaSetting where
  translate := BitVec.ofNat 64
  client address := 0x20000 ≤ address ∧ address < 0x40000
  pool address := 0x10000 ≤ address ∧ address < 0x11000
  offset := sampleMemory_pageWise.offset
  next := sampleMemory_pageWise.next
  injective := by
    intro first second known also same
    simp only [BitVec.toNat_ofNat] at same
    omega
  apart := by
    intro address client pool
    omega

def sampleWriteBlock : Srb :=
  { sampleReadBlock with queueTag := 1, cdb := [0x2A, 0, 0, 0, 0, 1, 0, 0, 1, 0], dataBuffer := 0x30000 }

def sampleDataPath : DataPath := ⟨sampleIoAdapter, ⟨fun _ => 0, fun _ => 0⟩, []⟩

def sampleBothStarted : List DataEvent :=
  [.adapter (.buildIo 0 sampleWriteBlock), .adapter (.buildIo 1 sampleReadBlock), .store Host.sampleMemory 0x30000 7,
    .adapter (.startIo 0 0 0 Host.sampleMemory), .adapter (.startIo 1 0 0 Host.sampleMemory), .adapter (.advance 1 .fetch),
    .adapter (.advance 1 .fetch)]

def sampleBothDone : List DataEvent :=
  [.adapter (.advance 1 (.post 0 sampleReply)), .store Host.sampleMemory 0x30000 9,
    .adapter (.advance 1 (.post 0 sampleReply)), .adapter (.advance 1 (.enter 0))]

example : (Machine.run DataPath.step sampleDataPath (sampleBothStarted ++ sampleBothDone)).map (fun state =>
    (state.storage.ram 0x20000, state.storage.disk 512, state.storage.ram 0x30000)) = some (7, 7, 9) := by decide +kernel

structure SampleQuiet (state : DataPath) : Prop where
  sound : Adapter.Sound 2 state.adapter
  others : ∀ address, 2 ≤ address → (state.adapter.host.heap.srbext address).initOK = false ∧
    (state.adapter.host.heap.srbext address).prp2VA = none
  queues : ∀ msgid, 2 ≤ msgid → state.adapter.host.queue msgid = none

theorem SampleQuiet.step {before after : DataPath} {event : DataEvent} (quiet : SampleQuiet before)
    (member : event ∈ sampleBothStarted ++ sampleBothDone) (taken : before.step event = some after) : SampleQuiet after := by
  cases event with
  | store memory address value =>
    cases taken
    exact ⟨quiet.sound, quiet.others, quiet.queues⟩
  | adapter event =>
    obtain ⟨next, moves, rfl⟩ := Option.map_eq_some_iff.mp taken
    refine ⟨quiet.sound.step (.inl (Nat.le_refl 2)) moves, ?_, ?_⟩
    · intro address large
      have free : ¬ Outstanding before.adapter.host.heap address := by
        intro outstanding
        have initOK := outstanding.initOK
        rw [(quiet.others address large).1] at initOK
        cases initOK
      have apart : ¬ event.DeliversTo address := by
        simp only [sampleBothStarted, sampleBothDone, List.mem_append, List.mem_cons, List.not_mem_nil, or_false,
          DataEvent.adapter.injEq, reduceCtorEq, false_or] at member
        rcases member with (rfl | rfl | rfl | rfl | rfl | rfl) | (rfl | rfl | rfl) <;> simp [AdapterEvent.DeliversTo] <;> omega
      rw [Adapter.step_frame moves (Adapter.unused_untouched quiet.sound free apart moves)]
      exact quiet.others address large
    · intro msgid large
      cases found : next.host.queue msgid with
      | none => rfl
      | some queue =>
        have present := Adapter.step_present moves (found ▸ rfl : (next.host.queue msgid).isSome = true)
        rw [quiet.queues msgid large] at present
        cases present

def sampleStartsFree (state : DataPath) : DataEvent → Bool
  | .adapter (.startIo address _ _ _) =>
      (state.adapter.host.heap.srbext 0).prp2VA.isNone && (state.adapter.host.heap.srbext 1).prp2VA.isNone &&
        (state.adapter.host.slots 1 (state.adapter.host.heap.srbext address).cid.toNat).isNone
  | _ => true

private theorem sampleBlock_fits {srb : Srb} (member : srb = sampleWriteBlock ∨ srb = sampleReadBlock) :
    Proper sampleSetting sampleIoAdapter.host.device srb := by
  intro offset len _ parsed _
  have one : (offset, len) = (1, 1) := by
    rcases member with rfl | rfl
    · exact Option.some.inj (parsed.symm.trans (by decide +kernel))
    · exact Option.some.inj (parsed.symm.trans (by decide +kernel))
  cases one
  have length : srb.dataTransferLength.toNat = 512 := by rcases member with rfl | rfl <;> rfl
  have buffer : srb.dataBuffer = 0x30000 ∨ srb.dataBuffer = 0x20000 := by
    rcases member with rfl | rfl
    · exact .inl rfl
    · exact .inr rfl
  have bytes : sampleIoAdapter.host.device.blockBytes 1 = 512 := by decide +kernel
  have single : (1 : BitVec 32).toNat = 1 := rfl
  refine ⟨by decide, by decide, ?_, ?_, ?_⟩
  · rw [length, bytes]
    rfl
  · rw [length]
    simp only [pageSize]
    omega
  · intro index inside
    simp only [sampleSetting]
    omega

private theorem sampleMemory_provides : sampleSetting.Provides Host.sampleMemory 0x10000 := by
  refine ⟨rfl, rfl, rfl, ?_⟩
  intro index inside
  simp only [sampleSetting]
  omega

theorem SampleQuiet.startIo {state : DataPath} {address : Nat} (quiet : SampleQuiet state)
    (free : sampleStartsFree state (.adapter (.startIo address 0 0 Host.sampleMemory)) = true) :
    state.Obeys sampleSetting sampleIoAdapter.host.device (.adapter (.startIo address 0 0 Host.sampleMemory)) := by
  simp only [sampleStartsFree, Bool.and_eq_true, Option.isNone_iff_eq_none] at free
  obtain ⟨⟨first, second⟩, slot⟩ := free
  refine ⟨?_, 0x10000, sampleMemory_provides, ?_⟩
  · intro msgid queue nonzero present
    by_cases one : msgid = 1
    · subst one
      rwa [Host.slots_of_queue present] at slot
    · rw [quiet.queues msgid (by omega)] at present
      cases present
  · intro other
    have unlisted : (state.adapter.host.heap.srbext other).prp2VA = none := by
      match other with
      | 0 => exact first
      | 1 => exact second
      | other + 2 => exact (quiet.others (other + 2) (by omega)).2
    rw [unlisted]
    simp

theorem sample_obeys : Machine.Meets DataPath.step (DataPath.Obeys sampleSetting sampleIoAdapter.host.device) sampleDataPath
    (sampleBothStarted ++ sampleBothDone) := by
  have members : Machine.Meets DataPath.step (fun _ event => event ∈ sampleBothStarted ++ sampleBothDone) sampleDataPath
      (sampleBothStarted ++ sampleBothDone) := .of_forall (fun _ member _ => member) sampleDataPath
  have starts : Machine.Meets DataPath.step (fun state event => sampleStartsFree state event = true) sampleDataPath
      (sampleBothStarted ++ sampleBothDone) := by decide +kernel
  have quiet : SampleQuiet sampleDataPath := by
    refine ⟨.initial _ _ _ _ _ (show 1 ≤ 2 by omega), fun _ _ => ⟨rfl, rfl⟩, ?_⟩
    intro msgid large
    have admin : msgid ≠ 0 := by omega
    have other : msgid - 1 ≠ 0 := by omega
    simp [sampleDataPath, sampleIoAdapter, Adapter.initial, Host.queue, admin, other]
  have kept : ∀ before event after, SampleQuiet before →
      event ∈ sampleBothStarted ++ sampleBothDone ∧ sampleStartsFree before event = true →
      DataPath.step before event = some after → SampleQuiet after :=
    fun _ _ _ quiet allowed taken => quiet.step allowed.1 taken
  apply Machine.Meets.of_invariant kept ?_ quiet (members.and starts)
  intro state event quiet allowed
  obtain ⟨member, free⟩ := allowed
  simp only [sampleBothStarted, sampleBothDone, List.mem_append, List.mem_cons, List.not_mem_nil, or_false] at member
  rcases member with (rfl | rfl | rfl | rfl | rfl | rfl | rfl) | (rfl | rfl | rfl | rfl)
  · exact ⟨trivial, sampleBlock_fits (.inl rfl)⟩
  · exact ⟨trivial, sampleBlock_fits (.inr rfl)⟩
  · exact ⟨rfl, by simp [sampleSetting]⟩
  · exact quiet.startIo free
  · exact quiet.startIo free
  · exact ⟨trivial, trivial⟩
  · exact ⟨trivial, trivial⟩
  · exact ⟨trivial, trivial⟩
  · exact ⟨rfl, by simp [sampleSetting]⟩
  · exact ⟨trivial, trivial⟩
  · exact ⟨trivial, trivial⟩

theorem sampleQueue_deep : ∀ index config, (fun index => if index = 0 then some sampleQueue else none) index = some config →
    safeSubmitThreshold < config.depth := by
  intro index config configured
  simp only at configured
  split at configured
  · cases configured
    decide
  · cases configured

def sampleStart : BlockDevice.State (BitVec 8) := ⟨fun _ => 0, fun _ => 0⟩

theorem sampleStart_shows : Shows sampleSetting sampleDataPath.storage sampleStart := ⟨rfl, fun _ _ => rfl⟩

/-- A write and a read of the same block that overlap. -/
theorem storage_is_block_device_overlap :
    ∃ final, Machine.run DataPath.step sampleDataPath (sampleBothStarted ++ sampleBothDone) = some final ∧
      Shows sampleSetting final.storage
        (Deed.performAll sampleIoAdapter.host.device final.performed sampleStart) := by
  have finishes : (Machine.run DataPath.step sampleDataPath (sampleBothStarted ++ sampleBothDone)).isSome = true := by
    decide +kernel
  obtain ⟨final, ran⟩ := Option.isSome_iff_exists.mp finishes
  exact ⟨final, ran, storage_is_block_device sampleQueue_deep sampleStart_shows sample_obeys ran⟩

theorem read_gets_written_overlap :
    ∃ middle final, Machine.run DataPath.step sampleDataPath sampleBothStarted = some middle ∧
      Machine.run DataPath.step middle sampleBothDone = some final ∧
      gather final.storage.ram (sampleSetting.buffer sampleReadBlock) =
        gather middle.storage.ram (sampleSetting.buffer sampleWriteBlock) := by
  have begins : ((Machine.run DataPath.step sampleDataPath sampleBothStarted).bind fun middle =>
      Machine.run DataPath.step middle sampleBothDone).isSome = true := by decide +kernel
  obtain ⟨final, both⟩ := Option.isSome_iff_exists.mp begins
  obtain ⟨middle, began, ran⟩ := Option.bind_eq_some_iff.mp both
  refine ⟨middle, final, began, ran, ?_⟩
  have wrote : final.performed = middle.performed ++
      ([.request 1 0 sampleWriteBlock] ++ [.store 0x30000 9] ++ [.request 1 1 sampleReadBlock]) := by
    have early : (Machine.run DataPath.step sampleDataPath sampleBothStarted).map DataPath.performed =
        some [.store 0x30000 7] := by decide +kernel
    have late : ((Machine.run DataPath.step sampleDataPath sampleBothStarted).bind fun middle =>
        (Machine.run DataPath.step middle sampleBothDone).map DataPath.performed) =
        some [.store 0x30000 7, .request 1 0 sampleWriteBlock, .store 0x30000 9, .request 1 1 sampleReadBlock] := by decide +kernel
    rw [began, Option.map_some, Option.some.injEq] at early
    rw [began, Option.bind_some, ran, Option.map_some, Option.some.injEq] at late
    rw [early, late]
    rfl
  apply read_gets_written sampleQueue_deep sampleStart_shows sample_obeys began ran wrote
  · decide
  · decide
  · decide +kernel
  · intro deed member
    obtain rfl := List.mem_singleton.mp member
    trivial

end SpcNvme
