import Libbinder.Go.Tally
import Libbinder.Go.Transition
import Libbinder.Parcel.Text
import Mathlib.Logic.Function.Basic

/-!
# The files of the shell callback

`OpenFile` opens a file for the system server.  It asks the access checker only
after the open, which may have created or cut the file, and it records the
descriptor last, when `Close` may have emptied the list already.
-/

namespace Libbinder.Cmd

open Go List Function

/-! ## One call -/

def slash : UInt8 := '/'

def isAbs (path : GoString) : Bool :=
  path.head? = some slash

/-- `filepath.Clean` comes to one element of a path; the last one is on top. -/
def pushElement (rooted : Bool) (stack : List GoString) (element : GoString) : List GoString :=
  if element = [] ∨ element = ['.'] then stack
  else if element = ['.', '.'] then
    match stack with
    | [] => if rooted then [] else [element]
    | top :: below => if top = element then element :: stack else below
  else element :: stack

def clean (path : GoString) : GoString :=
  let kept := ((path.splitOn slash).foldl (pushElement (isAbs path)) []).reverse
  if isAbs path then slash :: [slash].intercalate kept
  else if kept = [] then ['.'] else [slash].intercalate kept

def join (dir path : GoString) : GoString :=
  if dir ≠ [] then clean (dir ++ slash :: path) else if path ≠ [] then clean path else []

/-- The access of a mode; `O_CREAT` and `O_TRUNC` stand together. -/
structure OpenFlags where
  create : Bool
  read : Bool
  write : Bool

def openFlagsForMode (mode : GoString) : Option OpenFlags :=
  if mode = ['w'] then some ⟨true, false, true⟩
  else if mode = ['w', '+'] then some ⟨true, true, true⟩
  else if mode = ['r'] then some ⟨false, true, false⟩
  else if mode = ['r', '+'] then some ⟨false, true, true⟩
  else none

/-- The contents of the files; a missing file has none. -/
abbrev Files := GoString → Option (List UInt8)

/-- What `syscall.Open` depends on. -/
structure Volume where
  /-- The file a path leads to, behind all links. -/
  locate : GoString → GoString
  /-- The error of an open, such as that of a missing file. -/
  refuses : Files → GoString → OpenFlags → Option Nat
  /-- The next descriptor. -/
  fd : Nat

/-- The reasons for what `OpenFile` returns. -/
inductive OpenResult where
  | opened (fd : Nat)
  | inactive
  | invalidMode
  | failed (errno : Nat)
  | denied

/-- The number that `OpenFile` returns, with `EPERM` and `EINVAL`. -/
def OpenResult.value : OpenResult → Int
  | .opened fd => fd
  | .inactive | .denied => -1
  | .invalidMode => -22
  | .failed errno => -errno

/-- The handler refuses the file, not the kernel. -/
def OpenResult.refused : OpenResult → Bool
  | .inactive | .invalidMode | .denied => true
  | _ => false

structure ShellCallbackHandler where
  workingDir : GoString
  active : Bool
  /-- Whether `CheckFileAccess` returns no error. -/
  accessChecker : Option (GoString → GoString → Bool → Bool → Bool)
  openFDs : List Nat

namespace ShellCallbackHandler

variable (h : ShellCallbackHandler) (v : Volume) (files : Files) (path context mode : GoString)

def fullPath : GoString :=
  if isAbs path then path else join h.workingDir path

def permits (flags : OpenFlags) : Bool :=
  match h.accessChecker with
  | some check => context = [] || check (h.fullPath path) context flags.read flags.write
  | none => true

def openFile : OpenResult × Files × ShellCallbackHandler :=
  if h.active = false then (.inactive, files, h)
  else
    match openFlagsForMode mode with
    | none => (.invalidMode, files, h)
    | some flags =>
      match v.refuses files (h.fullPath path) flags with
      | some errno => (.failed errno, files, h)
      | none =>
        let after :=
          if flags.create then update files (v.locate (h.fullPath path)) (some []) else files
        if h.permits path context flags then
          (.opened v.fd, after, { h with openFDs := h.openFDs ++ [v.fd] })
        else (.denied, after, h)

/-- A file that is made or cut before the access is denied was there and empty. -/
def Harmless : Prop :=
  ∀ flags, h.active → openFlagsForMode mode = some flags → flags.create →
    v.refuses files (h.fullPath path) flags = none → h.permits path context flags = false →
      files (v.locate (h.fullPath path)) = some []

/-- The cases in which a refused `OpenFile` changes neither a file nor the list. -/
theorem refused_open_changes_nothing_iff :
    ((h.openFile v files path context mode).1.refused →
        (h.openFile v files path context mode).2.1 = files ∧
          (h.openFile v files path context mode).2.2.openFDs = h.openFDs) ↔
      h.Harmless v files path context mode := by
  unfold openFile Harmless
  cases h.active with
  | false => exact iff_of_true (fun _ => ⟨rfl, rfl⟩) (by rintro _ ⟨⟩)
  | true =>
    cases openFlagsForMode mode with
    | none => exact iff_of_true (fun _ => ⟨rfl, rfl⟩) (by rintro _ _ ⟨⟩)
    | some flags =>
      simp only [Bool.true_eq_false, if_false]
      cases refused : v.refuses files (h.fullPath path) flags with
      | some errno =>
        refine iff_of_true (by rintro ⟨⟩) ?_
        rintro _ _ ⟨⟩ _ taken
        cases refused.symm.trans taken
      | none =>
        cases allowed : h.permits path context flags with
        | true =>
          refine iff_of_true (by rintro ⟨⟩) ?_
          rintro _ _ ⟨⟩ _ _ denied
          cases allowed.symm.trans denied
        | false =>
          constructor
          · rintro same _ _ ⟨⟩ create _ _
            have cut := (same rfl).1
            simp only [create, if_true] at cut
            exact (update_eq_self_iff.mp cut).symm
          · intro empty _
            refine ⟨?_, rfl⟩
            cases create : flags.create with
            | false => rfl
            | true =>
              exact update_eq_self_iff.mpr (empty flags trivial rfl create refused allowed).symm

/-- The checker denies everything, and the one file has contents. -/
theorem denied_open_truncates :
    let h : ShellCallbackHandler := ⟨[], true, some fun _ _ _ _ => false, []⟩
    let v : Volume := ⟨id, fun _ _ _ => none, 3⟩
    (h.openFile v (fun _ => some [1]) ['f'] ['u'] ['w']).1 = .denied ∧
      (h.openFile v (fun _ => some [1]) ['f'] ['u'] ['w']).2.1 ['f'] = some [] := by
  exact ⟨rfl, rfl⟩

end ShellCallbackHandler

/-! ## Concurrent calls -/

/-- A running call. -/
inductive CallbackCall where
  /-- `OpenFile` has begun, `late` if `Deactivate` came before it. -/
  | started (late : Bool)
  /-- It has found the handler active. -/
  | admitted (late : Bool)
  | opened (late : Bool) (fd : Nat)
  /-- `Close` has these descriptors left. -/
  | closing (rest : List Nat)
  deriving DecidableEq

/-- The handler; a descriptor is the number of the open that made it. -/
structure Callback where
  active : Bool
  openFDs : List Nat
  running : List CallbackCall
  opens : Nat
  closes : Nat → Nat
  /-- What the `OpenFile` calls have returned, and whether they were late. -/
  answers : List (Bool × Option Nat)
  /-- Some `Close` has emptied the list. -/
  drained : Bool
  /-- Some `Close` has returned. -/
  closed : Bool

inductive CallbackLabel where
  | start
  | deactivate
  | close
  /-- A running call goes on, with the outcome of its open or of its access check. -/
  | advance (call : CallbackCall) (ok : Bool)

/-- A descriptor goes on the list. -/
def CallbackLabel.records : CallbackLabel → Bool
  | .advance (.opened _ _) ok => ok
  | _ => false

namespace Callback

def init : Callback :=
  ⟨true, [], [], 0, fun _ => 0, [], false, false⟩

def answer (s : Callback) (late : Bool) (result : Option Nat) : Callback :=
  { s with answers := (late, result) :: s.answers }

def closeFD (s : Callback) (fd : Nat) : Callback :=
  { s with closes := update s.closes fd (s.closes fd + 1) }

/-- The next action of a call, and what is left of the call. -/
def advance (s : Callback) (ok : Bool) : CallbackCall → Callback × List CallbackCall
  | .started late => if s.active then (s, [.admitted late]) else (s.answer late none, [])
  | .admitted late =>
    if ok then ({ s with opens := s.opens + 1 }, [.opened late s.opens])
    else (s.answer late none, [])
  | .opened late fd =>
    if ok then ({ s with openFDs := s.openFDs ++ [fd] }.answer late (some fd), [])
    else ((s.closeFD fd).answer late none, [])
  | .closing (fd :: rest) => (s.closeFD fd, [.closing rest])
  | .closing [] => ({ s with closed := true }, [])

def step (s : Callback) : CallbackLabel → Option Callback
  | .start => some { s with running := .started (!s.active) :: s.running }
  | .deactivate => some { s with active := false }
  | .close =>
    some { s with openFDs := [], drained := true, running := .closing s.openFDs :: s.running }
  | .advance call ok =>
    if call ∈ s.running then
      some { (s.advance ok call).1 with
        running := advanceStage s.running call (s.advance ok call).2 }
    else none

/-- No descriptor goes on the list once a `Close` has emptied it. -/
def InTime (s : Callback) (label : CallbackLabel) : Prop :=
  label.records → s.drained = false

instance decidableInTime (s : Callback) (label : CallbackLabel) : Decidable (s.InTime label) :=
  inferInstanceAs (Decidable (_ → _))

/-- What a running call knows of the handler. -/
def Allows (s : Callback) : CallbackCall → Prop
  | .started late => late → s.active = false
  | .admitted late => late = false
  | .opened late _ => late = false
  | .closing _ => s.drained

end Callback

/-- Whether the call has to close the descriptor. -/
def CallbackCall.holds (fd : Nat) : CallbackCall → Int
  | .opened _ own => if own = fd then 1 else 0
  | .closing rest => rest.count fd
  | _ => 0

namespace Callback

/-- Each descriptor is closed, listed or held. -/
structure Inv (s : Callback) : Prop where
  once : ∀ fd, (s.closes fd : Int) + s.openFDs.count fd + total (CallbackCall.holds fd) s.running =
      if fd < s.opens then 1 else 0
  calls : ∀ call ∈ s.running, s.Allows call
  early : ∀ fd, (true, some fd) ∉ s.answers
  emptied : s.drained → s.openFDs = []
  closed : s.closed → s.drained

variable {s t : Callback}

theorem Inv.init : Inv .init := by
  constructor <;> simp [Callback.init]

variable {call : CallbackCall}

theorem Allows.mono (allows : s.Allows call)
    (active : s.active = false → t.active = false) (drained : s.drained → t.drained) :
    t.Allows call := by
  cases call with
  | started late => exact fun isLate => active (allows isLate)
  | admitted | opened => exact allows
  | closing rest => exact drained allows

/-- A running call goes on. -/
theorem Inv.replace
    (inv : Inv s) {successors : List CallbackCall} (mem : call ∈ s.running)
    (once : ∀ fd,
        (t.closes fd : Int) + t.openFDs.count fd + total (CallbackCall.holds fd) successors -
        (if fd < t.opens then 1 else 0) =
      s.closes fd + s.openFDs.count fd + call.holds fd - if fd < s.opens then 1 else 0)
    (active : t.active = s.active) (drained : t.drained = s.drained)
    (calls : ∀ new ∈ successors, t.Allows new) (early : ∀ fd, (true, some fd) ∉ t.answers)
    (emptied : t.drained → t.openFDs = []) (closed : t.closed → t.drained) :
    Inv { t with running := advanceStage s.running call successors } where
  once := by
    intro fd
    have before := inv.once fd
    have change := once fd
    simp only [total_advanceStage _ _ mem]
    omega
  calls := by
    intro other listed
    rcases mem_append.mp listed with new | old
    · exact calls other new
    · refine (inv.calls other (mem_of_mem_erase old)).mono ?_ ?_
      · exact active.trans
      · exact drained.trans
  early := early
  emptied := emptied
  closed := closed

/-- A descriptor of the call is closed. -/
theorem closes_closeFD (s : Callback) (fd other : Nat) :
    ((s.closeFD fd).closes other : Int) = s.closes other + if fd = other then 1 else 0 := by
  unfold closeFD
  by_cases same : fd = other
  · subst same
    simp
  · simp [same, Ne.symm same]

theorem Inv.advance
    (inv : Inv s) {ok : Bool} (mem : call ∈ s.running) (lawful : s.InTime (.advance call ok)) :
    Inv { (s.advance ok call).1 with
      running := advanceStage s.running call (s.advance ok call).2 } := by
  have known := inv.calls call mem
  have unanswered {late : Bool} (fd : Nat) : (true, some fd) ∉ (late, none) :: s.answers := by
    simpa using inv.early fd
  unfold Callback.advance
  split
  · next late =>
      split_ifs with active
      · refine inv.replace mem (fun _ => rfl) rfl rfl ?_ inv.early inv.emptied inv.closed
        rw [forall_mem_singleton]
        refine Bool.eq_false_iff.mpr fun isLate => ?_
        rw [known isLate] at active
        cases active
      · exact inv.replace mem (fun _ => rfl) rfl rfl nofun unanswered inv.emptied inv.closed
  · next late =>
      split_ifs
      · refine inv.replace mem ?_ rfl rfl ?_ inv.early inv.emptied inv.closed
        · intro fd
          simp only [total_cons, total_nil, CallbackCall.holds]
          split_ifs <;> omega
        · exact forall_mem_singleton.mpr known
      · exact inv.replace mem (fun _ => rfl) rfl rfl nofun unanswered inv.emptied inv.closed
  · next late fd =>
      cases ok with
      | true =>
        rw [if_pos rfl]
        refine inv.replace mem ?_ rfl rfl nofun ?_ ?_ inv.closed
        · intro other
          rw [total_nil]
          simp only [answer, count_append, count_singleton, beq_iff_eq, CallbackCall.holds]
          push_cast
          omega
        · intro other
          simpa [answer, show late = false from known] using inv.early other
        · exact fun drained => absurd drained (Bool.eq_false_iff.mp (lawful rfl))
      | false =>
        rw [if_neg Bool.false_ne_true]
        refine inv.replace mem ?_ rfl rfl nofun unanswered inv.emptied inv.closed
        intro other
        rw [total_nil]
        have closed := s.closes_closeFD fd other
        simp only [answer, closeFD, CallbackCall.holds] at closed ⊢
        omega
  · next fd rest =>
      refine inv.replace mem ?_ rfl rfl ?_ inv.early inv.emptied inv.closed
      · intro other
        have closed := s.closes_closeFD fd other
        simp only [closeFD, total_cons, total_nil, CallbackCall.holds, count_cons,
          beq_iff_eq] at closed ⊢
        push_cast
        omega
      · exact forall_mem_singleton.mpr known
  · exact inv.replace mem (fun _ => rfl) rfl rfl nofun inv.early inv.emptied fun _ => known

/-- A step in time keeps the descriptors. -/
theorem Inv.step {label : CallbackLabel} (inv : Inv s) (lawful : s.InTime label)
    (ran : s.step label = some t) : Inv t := by
  cases label with
  | start =>
    cases ran
    refine { inv with once := ?_, calls := ?_ }
    · exact fun fd => (by simp [CallbackCall.holds, inv.once fd])
    · refine forall_mem_cons.mpr ⟨?_, fun call mem => (inv.calls call mem).mono id id⟩
      exact fun late => by simpa using late
  | deactivate =>
    cases ran
    exact { inv with calls := fun call mem => (inv.calls call mem).mono (fun _ => rfl) id }
  | close =>
    cases ran
    refine ⟨?_, ?_, inv.early, fun _ => rfl, fun _ => rfl⟩
    · intro fd
      have before := inv.once fd
      simp only [count_nil, total_cons, CallbackCall.holds]
      omega
    · exact forall_mem_cons.mpr ⟨rfl, fun call mem => (inv.calls call mem).mono id fun _ => rfl⟩
  | advance call ok =>
    rcases Option.ite_none_right_eq_some.mp ran with ⟨mem, same⟩
    cases same
    exact inv.advance mem lawful

end Callback

open Callback

/-- The interleavings of the calls of one handler. -/
def callbacks : System Callback CallbackLabel where
  init := init
  step := step

/--
No late `OpenFile` returns a descriptor.  When no call is running and a `Close`
has returned, every descriptor was closed exactly once.
-/
theorem descriptors_closed_once {s : Callback} (inTime : callbacks.Reaches InTime s) :
    (∀ fd, (true, some fd) ∉ s.answers) ∧
      (s.closed → s.running = [] → ∀ fd < s.opens, s.closes fd = 1) := by
  have inv : Inv s := inTime.invariant .init fun _ _ _ inv lawful ran => inv.step lawful ran
  refine ⟨inv.early, ?_⟩
  intro closed idle fd below
  have once := inv.once fd
  rw [inv.emptied (inv.closed closed), idle, if_pos below] at once
  simpa using once

/-- One file is opened before `Deactivate` and `Close`. -/
def openedFirst : List CallbackLabel :=
  [.start, .advance (.started false) true, .advance (.admitted false) true,
    .advance (.opened false 0) true, .deactivate, .close, .advance (.closing [0]) true,
    .advance (.closing []) true]

theorem openedFirst_closed : ∃ s, callbacks.run openedFirst init = some s ∧ s.closes 0 = 1 :=
  ⟨_, rfl, (descriptors_closed_once (.of_run .start
    (by decide : callbacks.Meets InTime openedFirst init) rfl)).2 rfl rfl 0 (by decide)⟩

/-- `Close` returns before the running `OpenFile` has recorded its descriptor. -/
theorem descriptor_leaked :
    ∃ s, callbacks.run [.start, .advance (.started false) true, .advance (.admitted false) true,
        .deactivate, .close, .advance (.closing []) true, .advance (.opened false 0) true]
        init = some s ∧
      s.closed ∧ s.running = [] ∧ s.opens = 1 ∧ s.closes 0 = 0 :=
  ⟨_, rfl, rfl, rfl, rfl, rfl⟩

end Libbinder.Cmd
