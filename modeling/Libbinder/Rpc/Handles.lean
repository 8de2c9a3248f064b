import Libbinder.Rpc.Session

/-!
# Handle spaces

The counter of an end starts at its own parity and moves in steps of two, so
with fewer than 2^30 registrations it never wraps: every handle it issues is
new, and the two ends never issue the same one.  The export table holds
exactly what was issued and not removed, and the service manager of the
server.
-/

namespace Libbinder.Rpc

open Go List Function

variable {H : Type} {manager : Export H}

/-- The handles an end numbers its own exports with. -/
def OwnSpace (role : Role) (handle : UInt32) : Prop :=
  match role with
  | .client => handle.toNat % 2 = 0
  | .server => handle.toNat % 2 = 1

instance (role : Role) (handle : UInt32) : Decidable (OwnSpace role handle) :=
  match role with
  | .client => inferInstanceAs (Decidable (handle.toNat % 2 = 0))
  | .server => inferInstanceAs (Decidable (handle.toNat % 2 = 1))

theorem not_other_own_of_own {role : Role} {handle : UInt32} (own : OwnSpace role handle) :
    ¬ OwnSpace role.other handle := by
  intro otherOwn
  cases role with
  | client =>
    have even : handle.toNat % 2 = 0 := own
    have odd : handle.toNat % 2 = 1 := otherOwn
    omega
  | server =>
    have odd : handle.toNat % 2 = 1 := own
    have even : handle.toNat % 2 = 0 := otherOwn
    omega

/-- The export is in use: it was issued and not removed. -/
def End.Live (e : End H) (handle : UInt32) (target : Export H) : Prop :=
  (handle, target) ∈ e.issued ∧ handle ∉ e.removed

/-- The invariant of the export table of one end. -/
structure End.Inv (manager : Export H) (role : Role) (e : End H) : Prop where
  few : e.issued.length < 2 ^ 30
  counter : e.nextExportID.toNat = role.exportStart.toNat + 2 * e.issued.length
  spaced : ∀ entry ∈ e.issued,
      role.exportStart.toNat ≤ entry.1.toNat ∧
        entry.1.toNat < e.nextExportID.toNat ∧ OwnSpace role entry.1
  distinct : (e.issued.map Prod.fst).Nodup
  table : ∀ handle target,
      e.exports handle = some target ↔
        e.Live handle target ∨
          role = .server ∧ handle = rpcServerServiceManagerHandle ∧ target = manager
  kept : ∀ handle ∈ e.removed, ∃ target, (handle, target) ∈ e.issued

namespace End.Inv

variable {role : Role} {e : End H}

theorem init (manager : Export H) (role : Role) : End.Inv manager role (.init manager role) where
  few := by
    change 0 < 2 ^ 30
    decide
  counter := by
    simp [End.init]
  spaced := by rintro _ ⟨⟩
  distinct := nodup_nil
  table := by
    intro handle target
    cases role with
    | client => simp [End.init, End.Live]
    | server =>
      simp only [End.init, End.Live, not_mem_nil, false_and, false_or, true_and]
      constructor
      · intro found
        by_cases same : handle = rpcServerServiceManagerHandle
        · subst same
          rw [update_self] at found
          exact ⟨rfl, (Option.some.inj found).symm⟩
        · rw [update_of_ne same] at found
          cases found
      · rintro ⟨rfl, rfl⟩
        rw [update_self]
  kept := by rintro _ ⟨⟩

variable (inv : End.Inv manager role e)

include inv

/-- A handle below the counter was not handed out by the next registration. -/
theorem next_fresh (target : Export H) : (e.nextExportID, target) ∉ e.issued := by
  intro mem
  exact lt_irrefl _ (inv.spaced _ mem).2.1

theorem next_not_removed : e.nextExportID ∉ e.removed := by
  intro gone
  rcases inv.kept _ gone with ⟨target, mem⟩
  exact inv.next_fresh target mem

theorem next_toNat_add : (e.nextExportID + 2).toNat = e.nextExportID.toNat + 2 := by
  have few := inv.few
  have counter := inv.counter
  have start : role.exportStart.toNat ≤ 3 := by
    cases role <;> decide
  rw [UInt32.toNat_add]
  change (e.nextExportID.toNat + 2) % 2 ^ 32 = _
  omega

theorem next_own : OwnSpace role e.nextExportID := by
  have counter := inv.counter
  cases role with
  | client =>
    have start : Role.client.exportStart.toNat = 2 := rfl
    change e.nextExportID.toNat % 2 = 0
    omega
  | server =>
    have start : Role.server.exportStart.toNat = 3 := rfl
    change e.nextExportID.toNat % 2 = 1
    omega

theorem start_le : role.exportStart.toNat ≤ e.nextExportID.toNat := by
  have counter := inv.counter
  omega

theorem next_ne_manager : e.nextExportID ≠ rpcServerServiceManagerHandle := by
  intro same
  have above := inv.start_le
  have start : 2 ≤ role.exportStart.toNat := by
    cases role <;> decide
  have one : rpcServerServiceManagerHandle.toNat = 1 := rfl
  rw [same] at above
  omega

/-- What is issued is neither the null handle nor the service manager. -/
theorem issued_ne {handle : UInt32} {target : Export H} (mem : (handle, target) ∈ e.issued) :
    End.keeps handle = false := by
  have above := (inv.spaced _ mem).1
  have start : 2 ≤ role.exportStart.toNat := by
    cases role <;> decide
  unfold End.keeps rpcServerServiceManagerHandle
  rw [decide_eq_false_iff_not]
  rintro (rfl | rfl)
  · have : (0 : UInt32).toNat = 0 := rfl
    simp only at above
    omega
  · have : (1 : UInt32).toNat = 1 := rfl
    simp only at above
    omega

theorem register (more : e.issued.length + 1 < 2 ^ 30) (target : Export H) :
    End.Inv manager role (e.registerLocalHandler target) where
  few := more
  counter := by
    change (e.nextExportID + 2).toNat = _ + 2 * (e.issued.length + 1)
    rw [inv.next_toNat_add, inv.counter]
    ring
  spaced := by
    intro entry mem
    change _ ∧ entry.1.toNat < (e.nextExportID + 2).toNat ∧ _
    rw [inv.next_toNat_add]
    rcases mem_cons.mp mem with rfl | earlier
    · exact ⟨inv.start_le, by simp, inv.next_own⟩
    · rcases inv.spaced entry earlier with ⟨above, below, own⟩
      exact ⟨above, by omega, own⟩
  distinct := by
    change (e.nextExportID :: e.issued.map Prod.fst).Nodup
    rw [nodup_cons]
    refine ⟨?_, inv.distinct⟩
    intro mem
    rw [mem_map] at mem
    rcases mem with ⟨⟨handle, other⟩, found, rfl⟩
    exact inv.next_fresh other found
  table := by
    intro handle other
    change update e.exports e.nextExportID (some target) handle = some other ↔ _
    by_cases same : handle = e.nextExportID
    · subst same
      rw [update_self, Option.some.injEq]
      constructor
      · rintro rfl
        exact .inl ⟨mem_cons_self, inv.next_not_removed⟩
      · rintro (⟨mem, -⟩ | ⟨-, reserved, -⟩)
        · rcases mem_cons.mp mem with found | found
          · exact (congrArg Prod.snd found).symm
          · exact absurd found (inv.next_fresh other)
        · exact absurd reserved inv.next_ne_manager
    · rw [update_of_ne same, inv.table handle other]
      refine or_congr_left (and_congr_left' ?_)
      constructor
      · exact mem_cons_of_mem _
      · intro mem
        rcases mem_cons.mp mem with found | found
        · exact absurd (congrArg Prod.fst found) same
        · exact found
  kept := by
    intro handle mem
    rcases inv.kept handle mem with ⟨other, found⟩
    exact ⟨other, mem_cons_of_mem _ found⟩

theorem unregister {handle : UInt32} (known : handle ∈ e.issued.map Prod.fst) :
    End.Inv manager role (e.unregisterLocalHandle handle) := by
  rcases mem_map.mp known with ⟨⟨_, target⟩, found, same⟩
  have mem : (handle, target) ∈ e.issued := same ▸ found
  have removable := inv.issued_ne mem
  have reserved : handle ≠ rpcServerServiceManagerHandle := by
    rintro rfl
    cases removable
  rw [End.unregisterLocalHandle, if_neg (by simp [removable])]
  exact { inv with
    table := by
      intro other found
      change update e.exports handle none other = some found ↔ _
      by_cases same : other = handle
      · subst same
        rw [update_self]
        constructor
        · rintro ⟨⟩
        · rintro (⟨-, kept⟩ | ⟨-, manages, -⟩)
          · exact absurd mem_cons_self kept
          · exact absurd manages reserved
      · rw [update_of_ne same, inv.table other found]
        refine or_congr_left (and_congr_right' (not_congr ?_))
        constructor
        · exact mem_cons_of_mem _
        · intro gone
          rcases mem_cons.mp gone with again | earlier
          · exact absurd again same
          · exact earlier
    kept := by
      intro other gone
      rcases mem_cons.mp gone with rfl | earlier
      · exact ⟨target, mem⟩
      · exact inv.kept other earlier }

/-- The import table plays no part. -/
theorem withImports (imports : UInt32 → Option Int32) :
    End.Inv manager role { e with imports := imports } where
  few := inv.few
  counter := inv.counter
  spaced := inv.spaced
  distinct := inv.distinct
  table := inv.table
  kept := inv.kept

theorem forget (handle : UInt32) : End.Inv manager role (e.forget handle) := by
  unfold End.forget
  split
  · exact inv
  · exact inv.withImports _

end End.Inv

/-! ## Runs -/

/-- A run of a session in which no end registers 2^30 handlers. -/
def Few (s : Session H) : SessionAction H → Prop
  | .register role _ => (s.ends role).issued.length + 1 < 2 ^ 30
  | _ => True

instance (s : Session H) (action : SessionAction H) : Decidable (Few s action) := by
  cases action <;> unfold Few <;> infer_instance

/-- Both export tables are in order. -/
def Session.Inv (manager : Export H) (s : Session H) : Prop :=
  ∀ role, End.Inv manager role (s.ends role)

theorem Session.Inv.setEnd
    {s : Session H} (inv : Session.Inv manager s) {role : Role} {e : End H}
    (replaced : End.Inv manager role e) : Session.Inv manager (s.setEnd role e) :=
  (forall_update_iff s.ends (End.Inv manager)).mpr ⟨replaced, fun other _ => inv other⟩

theorem Session.Inv.step
    {s reached : Session H} {action : SessionAction H} (inv : Session.Inv manager s)
    (few : Few s action) (ran : s.step action = some reached) : Session.Inv manager reached := by
  cases action with
  | register role target =>
    cases ran
    exact inv.setEnd ((inv role).register few target)
  | unregister role handle =>
    rcases Option.ite_none_right_eq_some.mp ran with ⟨known, same⟩
    cases same
    exact inv.setEnd ((inv role).unregister known)
  | send role handle =>
    rcases Option.ite_none_right_eq_some.mp ran with ⟨-, same⟩
    cases same
    exact inv
  | callLocal role handle =>
    cases ran
    exact inv
  | lookup role handle =>
    rcases Option.ite_none_right_eq_some.mp ran with ⟨-, resolved⟩
    split at resolved <;> cases resolved <;> exact inv
  | makeProxy role handle stability =>
    rcases Option.ite_none_right_eq_some.mp ran with ⟨-, same⟩
    cases same
    exact inv.setEnd ((inv role).withImports _)
  | noteDeath role handle =>
    rcases Option.ite_none_right_eq_some.mp ran with ⟨-, same⟩
    cases same
    exact inv.setEnd ((inv role).forget handle)
  | noteAllDeaths role =>
    cases ran
    exact inv.setEnd ((inv role).withImports _)

/-- The export tables are in order in every state that is reached. -/
theorem Session.Inv.reached
    {allowed : Session H → SessionAction H → Prop}
    (few : ∀ s action, allowed s action → Few s action) {s : Session H}
    (path : (session manager).Reaches allowed s) : Session.Inv manager s := by
  refine path.invariant (.init manager) ?_
  intro state action next inv lawful ran
  exact inv.step (few state action lawful) ran

/-- A live handle names the handler that was registered under it. -/
theorem End.Inv.dispatchExport_ok_iff
    {role : Role} {e : End H} (inv : End.Inv manager role e) (handle : UInt32) (handler : H) :
    e.dispatchExport handle = .ok handler ↔
      ∃ target, target.handler = handler ∧
        (e.Live handle target ∨
          role = .server ∧ handle = rpcServerServiceManagerHandle ∧ target = manager) := by
  unfold End.dispatchExport End.lookupExport
  constructor
  · intro ran
    split at ran
    · cases ran
    · next target found =>
      cases ran
      exact ⟨target, rfl, (inv.table handle target).mp found⟩
  · rintro ⟨target, rfl, owned⟩
    rw [(inv.table handle target).mpr owned]

/--
In every run with fewer than 2^30 registrations at each end: no handle is
issued twice, the one that would be issued next is new, what is issued is not
zero and of the parity of the end, a transact frame runs a handler exactly if
it is the one registered under its handle and not removed or the service
manager of the server, and the service manager always answers.
-/
theorem handle_spaces
    {s : Session H} (reaches : (session manager).Reaches Few s) (role : Role) :
    ((s.ends role).issued.map Prod.fst).Nodup ∧
      (s.ends role).nextExportID ∉ (s.ends role).issued.map Prod.fst ∧
      (∀ handle target, (handle, target) ∈ (s.ends role).issued →
        handle ≠ 0 ∧ handle ≠ rpcServerServiceManagerHandle ∧ OwnSpace role handle) ∧
      (∀ handle handler,
        (s.ends role).dispatchExport handle = .ok handler ↔
          ∃ target, target.handler = handler ∧
            ((s.ends role).Live handle target ∨
              role = .server ∧ handle = rpcServerServiceManagerHandle ∧ target = manager)) ∧
      (s.ends .server).dispatchExport rpcServerServiceManagerHandle = .ok manager.handler := by
  have tables := Session.Inv.reached (fun _ _ few => few) reaches
  have inv := tables role
  refine ⟨inv.distinct, ?_, ?_, inv.dispatchExport_ok_iff, ?_⟩
  · intro member
    rcases mem_map.mp member with ⟨⟨handle, target⟩, found, same⟩
    cases same
    exact inv.next_fresh target found
  · intro handle target member
    have removable := inv.issued_ne member
    refine ⟨?_, ?_, (inv.spaced _ member).2.2⟩
    · rintro rfl
      cases removable
    · rintro rfl
      cases removable
  · rw [(tables .server).dispatchExport_ok_iff]
    exact ⟨manager, rfl, .inr ⟨rfl, rfl, rfl⟩⟩

/-- The service manager and the handlers of a short session. -/
def sampleExport (handler : Nat) : Export Nat where
  handler := handler
  stability := 0
  serial := false

/-- Registrations at both ends and a removal between two of the server. -/
def sampleRegistrations : List (SessionAction Nat) :=
  [.register .server (sampleExport 10), .register .client (sampleExport 20),
    .unregister .server 3, .register .server (sampleExport 11)]

theorem sampleRegistrations_spaces :
    ∃ s, (session (sampleExport 0)).run sampleRegistrations
        (.init (sampleExport 0)) = some s ∧
      (s.ends .server).issued.map Prod.fst = [5, 3] ∧
      (s.ends .server).dispatchExport 5 = .ok 11 ∧
      (s.ends .server).dispatchExport 3 = .error .noService ∧
      (s.ends .server).dispatchExport 1 = .ok 0 := by
  refine ⟨_, rfl, rfl, rfl, rfl, ?_⟩
  have meets :
      (session (sampleExport 0)).Meets Few sampleRegistrations (.init (sampleExport 0)) := by
    decide
  exact (handle_spaces (System.Reaches.start.of_run meets rfl) .server).2.2.2.2

end Libbinder.Rpc
