import Libbinder.Go.Transition
import Libbinder.Parcel.Text

/-!
# Registrations, their watchers and the calls that wait for one

`add` and `watchRegistrations` enter and copy what they need under the lock of
the registry and call the callbacks after it is released.  The callbacks of one
`add` are called in the order of a map iteration, so any of them may come next.

`WaitService` looks the service up, subscribes, looks it up again and then
waits for its own callback, which offers what it is given to a channel with
one place.  The cache of a manager only holds names that are registered, so it
changes no outcome here and is left out.

A call of `add` that is refused changes nothing.  Entries are numbered in the
order of the calls that made them.
-/

namespace Libbinder.Rpc

open Go List Function Option

variable {B : Type}

/-- An entry of the registry; every `add` makes a new one. -/
structure RegistryEntry (B : Type) where
  service : B
  number : Nat
deriving DecidableEq

/-- A callback that is still to be called. -/
structure Callback (B : Type) where
  watch : Nat
  /-- By `watchRegistrations` itself, and not by an `add`. -/
  initial : Bool
  entry : RegistryEntry B
deriving DecidableEq

/-- The registry, with the callbacks that are still to be called and what they told. -/
structure Registrations (B : Type) where
  services : GoString → Option (RegistryEntry B)
  /-- The number of entries made so far. -/
  adds : Nat
  /-- The name of a watch that was made. -/
  watched : Nat → Option GoString
  /-- The watches in `registrationWatchers`. -/
  opened : List Nat
  pending : List (Callback B)
  delivered : Nat → List (RegistryEntry B)

/-- The critical sections of the registry and the calls of the callbacks. -/
inductive RegistryLabel (B : Type) where
  /-- The critical section of `add`; an absent service is nil. -/
  | add (name : GoString) (service : Option B)
  /-- The critical section of `watchRegistrations`. -/
  | watch (w : Nat) (name : GoString)
  /-- A callback that is due is called. -/
  | call (callback : Callback B)
  /-- The close function of the subscription. -/
  | close (w : Nat)

namespace Registrations

def init : Registrations B where
  services := fun _ => none
  adds := 0
  watched := fun _ => none
  opened := []
  pending := []
  delivered := fun _ => []

/-- The open watches of a name. -/
def watchers (s : Registrations B) (name : GoString) : List Nat :=
  s.opened.filter fun w => s.watched w = some name

variable {name : GoString} {s : Registrations B}

theorem mem_watchers {w : Nat} : w ∈ s.watchers name ↔ w ∈ s.opened ∧ s.watched w = some name := by
  simp [watchers]

/-- The critical section of `add`, for a service that is entered. -/
def enter (s : Registrations B) (name : GoString) (entry : RegistryEntry B) : Registrations B :=
  { s with
    services := update s.services name (some entry)
    adds := s.adds + 1
    pending := s.pending ++ (s.watchers name).map fun w => ⟨w, false, entry⟩ }

/-- `add`; a nil service or an empty name is not entered. -/
def add (s : Registrations B) (name : GoString) : Option B → Registrations B
  | none => s
  | some service => if name = [] then s else s.enter name ⟨service, s.adds⟩

theorem services_enter_of_ne {other : GoString} {entry : RegistryEntry B} (apart : other ≠ name) :
    (s.enter name entry).services other = s.services other :=
  update_of_ne apart _ _

/-- The critical section of `watchRegistrations`. -/
def watchRegistrations (s : Registrations B) (w : Nat) (name : GoString) : Registrations B :=
  { s with
    watched := update s.watched w (some name)
    opened := w :: s.opened
    pending := s.pending ++ (s.services name).toList.map fun entry => ⟨w, true, entry⟩ }

/-- The callback is called. -/
def deliver [DecidableEq B] (s : Registrations B) (callback : Callback B) : Registrations B :=
  { s with
    pending := s.pending.erase callback
    delivered := update s.delivered callback.watch
      (s.delivered callback.watch ++ [callback.entry]) }

def step [DecidableEq B] (s : Registrations B) : RegistryLabel B → Option (Registrations B)
  | .add name service => some (s.add name service)
  | .watch w name => if s.watched w = none then some (s.watchRegistrations w name) else none
  | .call callback => if callback ∈ s.pending then some (s.deliver callback) else none
  | .close w => some { s with opened := s.opened.filter (· ≠ w) }

/-- The watch has no callback to come. -/
def Quiet (s : Registrations B) (w : Nat) : Prop :=
  ∀ callback ∈ s.pending, callback.watch ≠ w

/-- The entry has come to the watch, or a callback with it is to come. -/
def Due (s : Registrations B) (w : Nat) (entry : RegistryEntry B) : Prop :=
  entry ∈ s.delivered w ∨ ∃ callback ∈ s.pending, callback.watch = w ∧ callback.entry = entry

/-- Every open watch is told of the entry its name has. -/
structure Inv (s : Registrations B) : Prop where
  unborn : ∀ w, s.watched w = none → s.delivered w = [] ∧ w ∉ s.opened ∧ s.Quiet w
  told : ∀ w name entry, w ∈ s.opened → s.watched w = some name →
    s.services name = some entry → s.Due w entry

variable {s t : Registrations B} {w : Nat} {entry : RegistryEntry B}

/-- More callbacks leave the others to come. -/
theorem Due.more (due : s.Due w entry) (more : List (Callback B)) :
    ({ s with pending := s.pending ++ more } : Registrations B).Due w entry :=
  due.imp_right fun ⟨callback, before, aimed⟩ => ⟨callback, mem_append_left _ before, aimed⟩

namespace Inv

theorem init : Inv (init : Registrations B) where
  unborn := fun _ _ => ⟨rfl, not_mem_nil, fun _ mem => absurd mem not_mem_nil⟩
  told := fun _ _ _ mem => absurd mem not_mem_nil

variable (inv : Inv s)

include inv

theorem enter (name : GoString) (entry : RegistryEntry B) : Inv (s.enter name entry) where
  unborn := by
    intro w unmade
    rcases inv.unborn w unmade with ⟨silent, out, quiet⟩
    refine ⟨silent, out, fun callback mem => ?_⟩
    rcases mem_append.mp mem with old | new
    · exact quiet callback old
    · rcases mem_map.mp new with ⟨v, among, rfl⟩
      exact fun same => out (same ▸ (mem_watchers.mp among).1)
  told := by
    intro w other found mem watches known
    by_cases same : other = name
    · subst same
      cases (update_self other _ s.services).symm.trans known
      exact .inr ⟨⟨w, false, entry⟩,
        mem_append_right _ (mem_map_of_mem (mem_watchers.mpr ⟨mem, watches⟩)), rfl, rfl⟩
    · exact (inv.told w other found mem watches ((update_of_ne same _ _).symm.trans known)).more _

theorem watch (unmade : s.watched w = none) (name : GoString) :
    Inv (s.watchRegistrations w name) where
  unborn := by
    intro v still
    have apart : v ≠ w := by
      rintro rfl
      simp [watchRegistrations] at still
    rcases inv.unborn v ((update_of_ne apart _ _).symm.trans still) with ⟨silent, out, quiet⟩
    refine ⟨silent, fun mem => out (mem_of_ne_of_mem apart mem), fun callback mem => ?_⟩
    rcases mem_append.mp mem with old | new
    · exact quiet callback old
    · rcases mem_map.mp new with ⟨entry, -, rfl⟩
      exact apart.symm
  told := by
    intro v other found mem watches known
    by_cases same : v = w
    · subst same
      cases (update_self v _ s.watched).symm.trans watches
      exact .inr ⟨⟨v, true, found⟩,
        mem_append_right _ (mem_map_of_mem (mem_toList.mpr known)), rfl, rfl⟩
    · exact (inv.told v other found (mem_of_ne_of_mem same mem)
        ((update_of_ne same _ _).symm.trans watches) known).more _

end Inv

/-! ## The last callback of a watch -/

/-- The entry is the one that the name has, or an earlier one. -/
def UpTo (services : Option (RegistryEntry B)) (entry : RegistryEntry B) : Prop :=
  ∃ current, services = some current ∧ (entry = current ∨ entry.number < current.number)

/-- The watch has been told of the entry last, or a callback with it is to come. -/
def ToldLast (s : Registrations B) (w : Nat) (entry : Option (RegistryEntry B)) : Prop :=
  (∃ callback ∈ s.pending, callback.watch = w ∧ entry = some callback.entry) ∨
    s.Quiet w ∧ (s.delivered w).getLast? = entry

/-- Callbacks to other watches change nothing. -/
theorem ToldLast.more
    {current : Option (RegistryEntry B)} {more : List (Callback B)} (told : s.ToldLast w current)
    (elsewhere : ∀ callback ∈ more, callback.watch ≠ w) :
    ({ s with pending := s.pending ++ more } : Registrations B).ToldLast w current := by
  rcases told with ⟨callback, mem, aimed⟩ | ⟨quiet, last⟩
  · exact .inl ⟨callback, mem_append_left _ mem, aimed⟩
  · exact .inr ⟨fun callback mem => (mem_append.mp mem).elim (quiet callback) (elsewhere callback),
      last⟩

/--
The callbacks to come have entries up to the one that is registered, and what a
watch is told last is the entry that its name has.
-/
structure Latest (s : Registrations B) : Prop where
  inv : Inv s
  numbered : ∀ name entry, s.services name = some entry → entry.number < s.adds
  upTo : ∀ callback ∈ s.pending, ∀ name, s.watched callback.watch = some name →
    UpTo (s.services name) callback.entry
  last : ∀ w name, w ∈ s.opened → s.watched w = some name → s.ToldLast w (s.services name)

namespace Latest

theorem init : Latest (init : Registrations B) where
  inv := .init
  numbered := by rintro _ _ ⟨⟩
  upTo := fun _ member => absurd member not_mem_nil
  last := fun _ _ member => absurd member not_mem_nil

variable (latest : Latest s)

include latest

/-- A new entry comes to every open watch of its name. -/
theorem enter (name : GoString) (service : B) : Latest (s.enter name ⟨service, s.adds⟩) where
  inv := latest.inv.enter name _
  numbered := by
    intro other entry known
    by_cases same : other = name
    · subst same
      cases (update_self other _ s.services).symm.trans known
      exact Nat.lt_succ_self _
    · have before := latest.numbered other entry ((update_of_ne same _ _).symm.trans known)
      exact Nat.lt_succ_of_lt before
  upTo := by
    intro callback mem other watches
    rcases mem_append.mp mem with old | new
    · have earlier := latest.upTo callback old other watches
      by_cases same : other = name
      · subst same
        rcases earlier with ⟨current, known, order⟩
        have less := latest.numbered other current known
        refine ⟨_, update_self other _ _, .inr ?_⟩
        rcases order with same | before
        · exact same ▸ less
        · exact before.trans less
      · rwa [services_enter_of_ne same]
    · rcases mem_map.mp new with ⟨v, among, rfl⟩
      cases (mem_watchers.mp among).2.symm.trans watches
      exact ⟨_, update_self name _ _, .inl rfl⟩
  last := by
    intro v other opened watches
    by_cases same : other = name
    · subst same
      exact .inl ⟨⟨v, false, _⟩,
        mem_append_right _ (mem_map_of_mem (mem_watchers.mpr ⟨opened, watches⟩)), rfl,
        update_self other _ _⟩
    · rw [services_enter_of_ne same]
      refine (latest.last v other opened watches).more fun callback new => ?_
      rcases mem_map.mp new with ⟨u, among, rfl⟩
      rintro rfl
      exact same (some_inj.mp (watches.symm.trans (mem_watchers.mp among).2))

/-- A new watch is told of the entry that is there. -/
theorem watch (unmade : s.watched w = none) (name : GoString) :
    Latest (s.watchRegistrations w name) where
  inv := latest.inv.watch unmade name
  numbered := latest.numbered
  upTo := by
    rcases latest.inv.unborn w unmade with ⟨-, -, unaimed⟩
    intro callback mem other watches
    rcases mem_append.mp mem with old | new
    · exact latest.upTo callback old other
        ((update_of_ne (unaimed callback old) _ _).symm.trans watches)
    · rcases mem_map.mp new with ⟨found, among, rfl⟩
      cases (update_self w _ s.watched).symm.trans watches
      exact ⟨found, mem_toList.mp among, .inl rfl⟩
  last := by
    rcases latest.inv.unborn w unmade with ⟨silent, -, unaimed⟩
    intro v other opened watches
    change (s.watchRegistrations w name).ToldLast v (s.services other)
    by_cases same : v = w
    · subst same
      cases (update_self v _ s.watched).symm.trans watches
      cases known : s.services name with
      | none =>
        refine .inr ⟨fun callback mem => ?_, congrArg getLast? silent⟩
        simp only [watchRegistrations, known, toList_none, map_nil, append_nil] at mem
        exact unaimed callback mem
      | some found =>
        refine .inl ⟨⟨v, true, found⟩, mem_append_right _ (mem_map_of_mem ?_), rfl, rfl⟩
        exact mem_toList.mpr known
    · refine (latest.last v other (mem_of_ne_of_mem same opened)
        ((update_of_ne same _ _).symm.trans watches)).more fun callback new => ?_
      rcases mem_map.mp new with ⟨found, -, rfl⟩
      exact .symm same

end Latest

variable [DecidableEq B] {label : RegistryLabel B}

theorem Due.deliver (due : s.Due w entry) (callback : Callback B) :
    (s.deliver callback).Due w entry := by
  rcases due with came | ⟨other, before, rfl, rfl⟩
  · left
    simp only [Registrations.deliver, update_apply]
    split_ifs with same
    · exact mem_append_left _ (same ▸ came)
    · exact came
  · by_cases same : other = callback
    · subst same
      left
      simp [Registrations.deliver]
    · exact .inr ⟨other, (mem_erase_of_ne same).mpr before, rfl, rfl⟩

/-- The steps that change something. -/
theorem step_cases (ran : s.step label = some t) :
    t = s ∨
      (∃ name service, label = .add name (some service) ∧ t = s.enter name ⟨service, s.adds⟩) ∨
      (∃ w name, label = .watch w name ∧ s.watched w = none ∧ t = s.watchRegistrations w name) ∨
      (∃ callback ∈ s.pending, label = .call callback ∧ t = s.deliver callback) ∨
      ∃ w, label = .close w ∧ t = { s with opened := s.opened.filter (· ≠ w) } := by
  cases label with
  | add name service =>
    cases ran
    unfold add
    split
    · exact .inl rfl
    · split_ifs
      · exact .inl rfl
      · exact .inr (.inl ⟨name, _, rfl, rfl⟩)
  | watch w name =>
    simp only [step] at ran
    split_ifs at ran with unmade
    cases ran
    exact .inr (.inr (.inl ⟨w, name, rfl, unmade, rfl⟩))
  | call callback =>
    simp only [step] at ran
    split_ifs at ran with mem
    cases ran
    exact .inr (.inr (.inr (.inl ⟨callback, mem, rfl, rfl⟩)))
  | close w =>
    cases ran
    exact .inr (.inr (.inr (.inr ⟨w, rfl, rfl⟩)))

/-- What a watch is to be told stays due until it is told. -/
theorem Due.step (due : s.Due w entry) (ran : s.step label = some t) : t.Due w entry := by
  rcases step_cases ran with rfl | ⟨name, service, -, rfl⟩ | ⟨v, name, -, -, rfl⟩ |
    ⟨callback, -, -, rfl⟩ | ⟨v, -, rfl⟩
  · exact due
  · exact due.more _
  · exact due.more _
  · exact due.deliver callback
  · exact due

/-- A watch keeps its name. -/
theorem watched_step (watches : s.watched w = some name) (ran : s.step label = some t) :
    t.watched w = some name := by
  rcases step_cases ran with rfl | ⟨_, _, -, rfl⟩ | ⟨v, other, -, unmade, rfl⟩ |
    ⟨_, -, -, rfl⟩ | ⟨_, -, rfl⟩
  · exact watches
  · exact watches
  · have apart : w ≠ v := fun same => by simp [same, unmade] at watches
    exact (update_of_ne apart _ _).trans watches
  · exact watches
  · exact watches

theorem Inv.deliver {callback : Callback B} (inv : Inv s) (mem : callback ∈ s.pending) :
    Inv (s.deliver callback) where
  unborn := by
    intro w unmade
    rcases inv.unborn w unmade with ⟨silent, out, quiet⟩
    refine ⟨?_, out, fun other still => quiet other (mem_of_mem_erase still)⟩
    exact (update_of_ne (quiet callback mem).symm _ _).trans silent
  told := fun w name entry among watches known =>
    (inv.told w name entry among watches known).deliver callback

/-- Every step keeps the watches told. -/
theorem Inv.step (inv : Inv s) (ran : s.step label = some t) : Inv t := by
  rcases step_cases ran with rfl | ⟨name, service, -, rfl⟩ | ⟨w, name, -, unmade, rfl⟩ |
    ⟨callback, mem, -, rfl⟩ | ⟨w, -, rfl⟩
  · exact inv
  · exact inv.enter name _
  · exact inv.watch unmade name
  · exact inv.deliver mem
  · constructor
    · intro v unmade
      rcases inv.unborn v unmade with ⟨silent, out, quiet⟩
      exact ⟨silent, fun mem => out (mem_filter.mp mem).1, quiet⟩
    · exact fun v name entry mem => inv.told v name entry (mem_filter.mp mem).1

/-! ## Convergence -/

/-- A callback finds no earlier entry still to be told to its watch. -/
def InOrder (s : Registrations B) : RegistryLabel B → Prop
  | .call callback => ∀ other ∈ s.pending, other.watch = callback.watch →
    callback.entry.number ≤ other.entry.number
  | _ => True

instance InOrder.decidable (s : Registrations B) :
    (label : RegistryLabel B) → Decidable (InOrder s label)
  | .call callback =>
    inferInstanceAs (Decidable (∀ other ∈ s.pending, other.watch = callback.watch →
      callback.entry.number ≤ other.entry.number))
  | .watch _ _ | .add _ _ | .close _ => isTrue trivial

namespace Latest

variable (latest : Latest s)

include latest

/-- A callback that is in order is the last one, or the last one is still to come. -/
theorem deliver
    {callback : Callback B} (mem : callback ∈ s.pending) (order : InOrder s (.call callback)) :
    Latest (s.deliver callback) where
  inv := latest.inv.deliver mem
  numbered := latest.numbered
  upTo := fun other still => latest.upTo other (mem_of_mem_erase still)
  last := by
    intro v name opened watches
    have told := latest.last v name opened watches
    by_cases aimed : callback.watch = v
    · subst aimed
      rcases told with ⟨due, waits, own, known⟩ | ⟨quiet, -⟩
      · by_cases same : due = callback
        · subst same
          by_cases more : ∃ other ∈ s.pending.erase due, other.watch = due.watch
          · -- a callback behind this one can only have the same entry
            rcases more with ⟨other, still, also⟩
            have before := mem_of_mem_erase still
            rcases latest.upTo other before name (also.symm ▸ watches) with
              ⟨current, currently, rfl | less⟩
            · exact .inl ⟨other, still, also, currently⟩
            · cases known.symm.trans currently
              have ordered := order other before also
              omega
          · refine .inr ⟨fun other still also => more ⟨other, still, also⟩, ?_⟩
            simp only [Registrations.deliver, update_self, getLast?_concat]
            exact known.symm
        · exact .inl ⟨due, (mem_erase_of_ne same).mpr waits, own, known⟩
      · exact absurd rfl (quiet callback mem)
    · rcases told with ⟨due, waits, own, known⟩ | ⟨quiet, last⟩
      · have apart : due ≠ callback := fun same => aimed (same ▸ own)
        exact .inl ⟨due, (mem_erase_of_ne apart).mpr waits, own, known⟩
      · refine .inr ⟨fun other still => quiet other (mem_of_mem_erase still), ?_⟩
        simp only [Registrations.deliver, update_of_ne (.symm aimed)]
        exact last

/-- Every step in order keeps the latest entry the last one that is told. -/
theorem step (order : InOrder s label) (ran : s.step label = some t) : Latest t := by
  rcases step_cases ran with rfl | ⟨name, service, -, rfl⟩ | ⟨w, name, -, unmade, rfl⟩ |
    ⟨callback, mem, rfl, rfl⟩ | ⟨w, -, rfl⟩
  · exact latest
  · exact latest.enter name service
  · exact latest.watch unmade name
  · exact latest.deliver mem order
  · exact ⟨latest.inv.step ran, latest.numbered, latest.upTo,
      fun v name mem => latest.last v name (mem_filter.mp mem).1⟩

end Latest

end Registrations

/-- All interleavings of the critical sections and the callbacks. -/
def registrations (B : Type) [DecidableEq B] : System (Registrations B) (RegistryLabel B) where
  init := .init
  step := Registrations.step

namespace Registrations

variable {s t : Registrations B} [DecidableEq B]

/-- What a watch is to be told stays due along every run. -/
theorem Due.run
    {w : Nat} {entry : RegistryEntry B} {labels : List (RegistryLabel B)} (due : s.Due w entry)
    (ran : (registrations B).run labels s = some t) : t.Due w entry :=
  @System.run_invariant _ _ (registrations B) (·.Due w entry) s labels t
    (fun _ _ _ due moved => due.step moved) due ran

/--
Where the callbacks of a watch are called in the order of their entries, a
watcher that is told nothing more was last told of the service that is
registered.  In every run, what an `add` registers comes to the watchers that
were open.
-/
theorem registrations_converge :
    (∀ s : Registrations B, (registrations B).Reaches InOrder s →
      ∀ w name, w ∈ s.opened → s.watched w = some name → s.Quiet w →
        (s.delivered w).getLast? = s.services name) ∧
    ∀ (s : Registrations B) w name service labels t, w ∈ s.watchers name → name ≠ [] →
      (registrations B).run (.add name (some service) :: labels) s = some t → t.Quiet w →
      ⟨service, s.adds⟩ ∈ t.delivered w := by
  constructor
  · intro s ordered w name opened watches quiet
    have latest : Latest s :=
      ordered.invariant .init fun _ _ _ latest order ran => latest.step order ran
    rcases latest.last w name opened watches with ⟨callback, mem, aimed, -⟩ | ⟨-, last⟩
    · exact absurd aimed (quiet callback mem)
    · exact last
  · intro s w name service labels t watches named ran quiet
    have added : s.step (.add name (some service)) = some (s.enter name ⟨service, s.adds⟩) :=
      congrArg some (if_neg named)
    have due : (s.enter name ⟨service, s.adds⟩).Due w ⟨service, s.adds⟩ :=
      .inr ⟨⟨w, false, _⟩, mem_append_right _ (mem_map_of_mem watches), rfl, rfl⟩
    simp only [System.run, registrations, added] at ran
    refine (due.run ran).resolve_right ?_
    rintro ⟨callback, member, aimed, -⟩
    exact quiet callback member aimed

/-- A name with one watch. -/
def watchedName : Registrations Nat :=
  init.watchRegistrations 0 [97]

/-- Two registrations and a second watch between them, with all callbacks called late. -/
def toldInOrder : List (RegistryLabel Nat) :=
  [.add [97] (some 5), .watch 1 [97], .add [97] (some 6), .call ⟨0, false, ⟨5, 0⟩⟩,
    .call ⟨1, true, ⟨5, 0⟩⟩, .call ⟨1, false, ⟨6, 1⟩⟩, .call ⟨0, false, ⟨6, 1⟩⟩]

theorem registrations_arrive :
    ∃ t, (registrations Nat).run toldInOrder watchedName = some t ∧
      (t.delivered 0).getLast? = t.services [97] ∧ (t.delivered 1).getLast? = t.services [97] ∧
      ⟨5, 0⟩ ∈ t.delivered 0 := by
  have converges := registrations_converge.1 _ (.of_run .start
    (by decide : (registrations Nat).Meets InOrder (.watch 0 [97] :: toldInOrder) init) rfl)
  refine ⟨_, rfl, converges 0 [97] (by decide) rfl (by rintro _ ⟨⟩),
    converges 1 [97] (by decide) rfl (by rintro _ ⟨⟩), ?_⟩
  exact registrations_converge.2 watchedName 0 [97] 5 _ _ (by decide) (by decide)
    (rfl : (registrations Nat).run toldInOrder watchedName = some _) (by rintro _ ⟨⟩)

/-- Two registrations, of which the earlier one is told last. -/
def overtaken : List (RegistryLabel Nat) :=
  [.watch 0 [97], .add [97] (some 5), .add [97] (some 6),
    .call ⟨0, false, ⟨6, 1⟩⟩, .call ⟨0, false, ⟨5, 0⟩⟩]

theorem overtaken_registration : ∃ s, (registrations Nat).run overtaken init = some s ∧
    s.pending = [] ∧ 0 ∈ s.opened ∧ s.watched 0 = some [97] ∧
    (s.delivered 0).getLast? = some ⟨5, 0⟩ ∧ s.services [97] = some ⟨6, 1⟩ :=
  ⟨_, rfl, rfl, mem_singleton.mpr rfl, rfl, rfl, rfl⟩

end Registrations

end Libbinder.Rpc
