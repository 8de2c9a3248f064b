import Libbinder.Status.Capture
import Mathlib.Data.List.AList
import Mathlib.Data.List.Sort

/-!
# Listing services

The registry lists the names of its services by their dump flags, and `dumpsys`
asks twice to keep those that can be dumped as protocol buffers.  The registry
reads the priority bits of the mask only.
-/

namespace Libbinder.Cmd

open List

/-! ## The source -/

def dumpPriorityDefault : UInt32 := 8

def dumpProto : UInt32 := 16

def dumpPriorityAll : UInt32 := 15

def dumpFlagLazyService : UInt32 := 0x40000000

structure AddServiceOptions where
  dumpFlags : UInt32
  isLazy : Bool

namespace AddServiceOptions

variable (opts : AddServiceOptions)

def effectiveDumpFlags : UInt32 :=
  if opts.isLazy then opts.dumpFlags ||| dumpFlagLazyService else opts.dumpFlags

/-- The priority bits of a service, or the default one. -/
def priority : UInt32 :=
  let entryFlags := opts.effectiveDumpFlags &&& dumpPriorityAll
  if entryFlags = 0 then dumpPriorityDefault else entryFlags

/-- The flags share a bit with the mask, where no priority counts as the default one. -/
def Shares (mask : UInt32) : Prop :=
  (opts.priority ||| opts.effectiveDumpFlags) &&& mask ≠ 0

end AddServiceOptions

/-- The map `services`, in any order; an entry may be nil. -/
abbrev ServiceTable := AList fun _ : GoString => Option AddServiceOptions

def sortStrings (names : List GoString) : List GoString :=
  names.mergeSort fun first second => decide (first ≤ second)

/-- Whether `list` keeps an entry. -/
def keeps (filter : UInt32) : Option AddServiceOptions → Bool
  | none => false
  | some opts => filter = 0 || opts.priority &&& filter ≠ 0

def ServiceTable.list (r : ServiceTable) (dumpFlags : UInt32) : List GoString :=
  let filter := dumpFlags &&& dumpPriorityAll
  sortStrings ((r.entries.filter fun entry => keeps filter entry.2).map Sigma.fst)

/-- `ListServices` of the service manager of a session. -/
def ServiceTable.listServices (r : ServiceTable) (dumpFlags : UInt32) :
    Except GoError (List GoString) :=
  .ok (r.list dumpFlags)

/-- `listServices` of `dumpsys`, given `ListServices` of the service manager. -/
def listServices
    (sm : UInt32 → Except GoError (List GoString)) (priorityFlags : UInt32) (asProto : Bool) :
    Except GoError (List GoString) := do
  let services ← sm priorityFlags
  if !asProto then return sortStrings services
  let protoServices ← sm dumpProto
  return (sortStrings services).filter fun name => (sortStrings protoServices).contains name

/-! ## What is listed -/

theorem mem_sortStrings {name : GoString} {names : List GoString} :
    name ∈ sortStrings names ↔ name ∈ names :=
  mem_mergeSort

theorem sorted_sortStrings (names : List GoString) : (sortStrings names).Pairwise (· ≤ ·) := by
  refine (pairwise_mergeSort ?_ ?_ names).imp of_decide_eq_true
  · intro first second third below above
    rw [decide_eq_true_eq] at below above ⊢
    exact List.le_trans below above
  · intro first second
    rw [Bool.or_eq_true, decide_eq_true_eq, decide_eq_true_eq]
    exact List.le_total first second

namespace ServiceTable

variable (r : ServiceTable) (mask : UInt32)

/-- The service is in the registry with such options. -/
def Has (P : AddServiceOptions → Prop) (name : GoString) : Prop :=
  ∃ opts, r.lookup name = some (some opts) ∧ P opts

/--
Without priority bits in the mask every service shares a bit with it, and with
such bits no service shares only another bit.
-/
def Suits : Prop :=
  ∀ name opts, r.lookup name = some (some opts) →
    if mask &&& dumpPriorityAll = 0 then opts.Shares mask
    else opts.Shares mask → opts.priority &&& mask ≠ 0

/--
Every service with a priority of the mask is registered for protocol buffers,
and without priority bits in the mask every service is.
-/
def AllProto : Prop :=
  ∀ name opts, r.lookup name = some (some opts) →
    mask &&& dumpPriorityAll = 0 ∨ opts.priority &&& mask ≠ 0 → opts.dumpFlags &&& dumpProto ≠ 0

/-- The names of a list are those of the entries that it keeps. -/
theorem mem_list (name : GoString) :
    name ∈ r.list mask ↔ r.Has (fun opts => keeps (mask &&& dumpPriorityAll) (some opts)) name := by
  rw [list, mem_sortStrings, mem_map]
  constructor
  · rintro ⟨⟨_, entry⟩, mem, rfl⟩
    rcases mem_filter.mp mem with ⟨stored, kept⟩
    cases entry with
    | none => cases kept
    | some opts => exact ⟨opts, AList.mem_lookup_iff.mpr stored, kept⟩
  · rintro ⟨opts, found, kept⟩
    exact ⟨⟨name, some opts⟩, mem_filter.mpr ⟨AList.mem_lookup_iff.mp found, kept⟩, rfl⟩

/-- The names are keys of a map. -/
theorem nodup_list : (r.list mask).Nodup := by
  refine nodup_mergeSort.mpr ?_
  exact .sublist (filter_sublist.map Sigma.fst) r.nodupKeys

/-- The mask shows of the service what the registry reads. -/
theorem keeps_iff (opts : AddServiceOptions) :
    keeps (mask &&& dumpPriorityAll) (some opts) ↔
      mask &&& dumpPriorityAll = 0 ∨ opts.priority &&& mask ≠ 0 := by
  have inside : opts.priority &&& (mask &&& dumpPriorityAll) = opts.priority &&& mask := by
    have within : opts.priority &&& dumpPriorityAll = opts.priority := by
      unfold AddServiceOptions.priority
      dsimp only
      split_ifs
      · decide
      · rw [UInt32.and_assoc, UInt32.and_self]
    rw [UInt32.and_comm mask, ← UInt32.and_assoc, within]
  simp [keeps, inside]

/-- A priority of the mask is a shared bit. -/
theorem shares_of_priority {opts : AddServiceOptions} (shown : opts.priority &&& mask ≠ 0) :
    opts.Shares mask := by
  intro apart
  apply shown
  rw [← Go.uint32_or_and_self opts.priority opts.effectiveDumpFlags, UInt32.and_comm (_ ||| _),
    UInt32.and_assoc, apart, UInt32.and_zero]

/-- The condition says when the list is as the mask says. -/
theorem mem_list_iff_shares :
    (∀ name, name ∈ r.list mask ↔ r.Has (·.Shares mask) name) ↔ r.Suits mask := by
  constructor
  · intro same name opts found
    split_ifs with unfiltered
    · have listed := (r.mem_list mask name).mpr
        ⟨opts, found, (keeps_iff mask opts).mpr (.inl unfiltered)⟩
      rcases (same name).mp listed with ⟨_, stored, shares⟩
      cases found.symm.trans stored
      exact shares
    · intro shares
      rcases (r.mem_list mask name).mp ((same name).mpr ⟨opts, found, shares⟩)
        with ⟨_, stored, kept⟩
      cases found.symm.trans stored
      exact ((keeps_iff mask opts).mp kept).resolve_left unfiltered
  · intro suits name
    rw [mem_list]
    refine exists_congr fun opts => and_congr_right fun found => ?_
    have suit := suits name opts found
    refine (keeps_iff mask opts).trans ?_
    split_ifs at suit with unfiltered
    · exact iff_of_true (.inl unfiltered) suit
    · rw [or_iff_right unfiltered]
      exact ⟨shares_of_priority mask, suit⟩

theorem allProto_iff :
    r.AllProto mask ↔ ∀ name ∈ r.list mask, r.Has (·.dumpFlags &&& dumpProto ≠ 0) name := by
  constructor
  · intro all name mem
    rcases (r.mem_list mask name).mp mem with ⟨opts, found, kept⟩
    exact ⟨opts, found, all name opts found ((keeps_iff mask opts).mp kept)⟩
  · intro listed name opts found shown
    have mem := (r.mem_list mask name).mpr ⟨opts, found, (keeps_iff mask opts).mpr shown⟩
    rcases listed name mem with ⟨_, stored, proto⟩
    cases found.symm.trans stored
    exact proto

/-- The second list of `dumpsys` holds all names. -/
theorem listServices_proto (priority : UInt32) :
    Cmd.listServices r.listServices priority true = .ok (sortStrings (r.list priority)) := by
  change Except.ok (filter _ _) = _
  rw [filter_eq_self.mpr]
  intro name mem
  rcases (r.mem_list priority name).mp (mem_sortStrings.mp mem) with ⟨opts, found, -⟩
  rw [contains_iff_mem, mem_sortStrings, mem_list]
  exact ⟨opts, found, rfl⟩

end ServiceTable

/--
The cases in which the list for a mask is as the mask says and `dumpsys` keeps
the services with protocol buffers.
-/
theorem filtered_listing_iff (r : ServiceTable) (mask priority : UInt32) :
    ((r.list mask).Pairwise (· ≤ ·) ∧ (r.list mask).Nodup ∧
        (∀ name, name ∈ r.list mask ↔ r.Has (·.Shares mask) name) ∧
        ∃ names, Cmd.listServices r.listServices priority true = .ok names ∧
          ∀ name, name ∈ names ↔
            name ∈ r.list priority ∧ r.Has (·.dumpFlags &&& dumpProto ≠ 0) name) ↔
      r.Suits mask ∧ r.AllProto priority := by
  have sorted : (r.list mask).Pairwise (· ≤ ·) := sorted_sortStrings _
  rw [and_iff_right sorted, and_iff_right (r.nodup_list mask),
    r.mem_list_iff_shares mask, r.listServices_proto priority, r.allProto_iff priority]
  refine and_congr_right fun _ => ?_
  constructor
  · rintro ⟨_, ⟨⟩, kept⟩ name mem
    exact ((kept name).mp (mem_sortStrings.mpr mem)).2
  · intro all
    refine ⟨_, rfl, fun name => ?_⟩
    rw [mem_sortStrings]
    exact ⟨fun mem => ⟨mem, all name mem⟩, And.left⟩

/-- A registry with one service, which has no protocol buffers. -/
def plainService : ServiceTable :=
  AList.singleton [97] (some ⟨dumpPriorityDefault, false⟩)

theorem list_plainService {mask : UInt32}
    (kept : keeps (mask &&& dumpPriorityAll) (some ⟨dumpPriorityDefault, false⟩)) :
    plainService.list mask = [[97]] := by
  simp [ServiceTable.list, plainService, kept, sortStrings]

/-- The service is listed for the flag it lacks, and `dumpsys` keeps it. -/
theorem proto_lists_other :
    plainService.list dumpProto = [[97]] ∧ ¬ plainService.Has (·.Shares dumpProto) [97] ∧
      listServices plainService.listServices dumpPriorityAll true = .ok [[97]] := by
  refine ⟨list_plainService rfl, ?_, ?_⟩
  · rintro ⟨opts, found, shares⟩
    have same : some (some ⟨dumpPriorityDefault, false⟩) = some (some opts) := found
    cases same
    exact shares rfl
  · rw [ServiceTable.listServices_proto, list_plainService rfl]
    exact congrArg Except.ok (mergeSort_singleton _)

end Libbinder.Cmd
