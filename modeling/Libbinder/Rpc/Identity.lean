import Libbinder.Rpc.Handles

/-!
# Binder identity across a session

A number an end issued resolves to its export as long as the export is there.
Once it was removed, a message that still mentions the number makes the end
that issued it import it as a proxy of the other end.  This is the only way a
table of proxies can come to hold a number of the own space.
-/

namespace Libbinder.Rpc

open Go Option Function End

variable {H : Type} {manager : Export H}

/--
No end registers 2^30 handlers, and an end that resolves a number of its own
space has an export under it.
-/
def Resolvable (s : Session H) : SessionAction H → Prop
  | .register role _ => (s.ends role).issued.length + 1 < 2 ^ 30
  | .lookup role handle => OwnSpace role handle → ((s.ends role).lookupExport handle).isSome
  | _ => True

instance (s : Session H) : (action : SessionAction H) → Decidable (Resolvable s action)
  | .register _ _ => Nat.decLt _ _
  | .lookup _ _ => instDecidableForall
  | .unregister _ _ | .send _ _ | .callLocal _ _ | .makeProxy _ _ _ | .noteDeath _ _
  | .noteAllDeaths _ => instDecidableTrue

variable {s : Session H} {action : SessionAction H}

theorem Resolvable.few (known : Resolvable s action) : Few s action := by
  cases action with
  | register role target => exact known
  | _ => trivial

/-- No proxy of an end stands, or is about to stand, for a number of its own. -/
structure Foreign (s : Session H) : Prop where
  imports : ∀ role handle, OwnSpace role handle → (s.ends role).imports handle = none
  importing : ∀ role, ∀ handle ∈ s.importing role, ¬ OwnSpace role handle

variable {role : Role} {e : End H}

/-- A table that has no more proxies than before has none of the own space. -/
theorem Foreign.setEnd
    (foreign : Foreign s)
    (fewer : ∀ handle, OwnSpace role handle → (s.ends role).imports handle = none →
        e.imports handle = none) :
    Foreign (s.setEnd role e) where
  imports := by
    refine (forall_update_iff s.ends fun other table =>
      ∀ handle, OwnSpace other handle → table.imports handle = none).mpr ⟨?_, ?_⟩
    · exact fun handle own => fewer handle own (foreign.imports role handle own)
    · exact fun other _ => foreign.imports other
  importing := foreign.importing

theorem Foreign.withImporting
    (foreign : Foreign s) {handles : List UInt32}
    (out : ∀ handle ∈ handles, ¬ OwnSpace role handle) :
    Foreign { s with importing := update s.importing role handles } where
  imports := foreign.imports
  importing := (forall_update_iff s.importing fun other held =>
    ∀ handle ∈ held, ¬ OwnSpace other handle).mpr ⟨out, fun other _ => foreign.importing other⟩

theorem End.imports_unregisterLocalHandle (e : End H) (handle : UInt32) :
    (e.unregisterLocalHandle handle).imports = e.imports := by
  unfold unregisterLocalHandle
  split <;> rfl

variable {handle : UInt32}

theorem End.imports_forget_of_none (absent : e.imports handle = none) (dead : UInt32) :
    (e.forget dead).imports handle = none := by
  unfold forget
  split
  · exact absent
  · change update e.imports dead none handle = none
    by_cases same : handle = dead
    · rw [same, update_self]
    · rwa [update_of_ne same]

theorem End.imports_remoteBinder_of_ne
    (e : End H) {made : UInt32} (level : Int32) (apart : handle ≠ made) :
    (e.remoteBinder made level).imports handle = e.imports handle :=
  update_of_ne apart _ _

theorem End.resolve_of_none (absent : e.lookupExport handle = none) :
    e.resolve handle = .remoteBinder handle := by
  rw [resolve, absent]

theorem End.resolve_of_some {target : Export H} (owned : e.lookupExport handle = some target) :
    e.resolve handle = .localBinder handle target := by
  rw [resolve, owned]

theorem Foreign.step
    {reached : Session H} (foreign : Foreign s) (known : Resolvable s action)
    (ran : s.step action = some reached) : Foreign reached := by
  cases action with
  | register role target =>
    cases ran
    exact foreign.setEnd (fun _ _ absent => absent)
  | unregister role handle =>
    rcases ite_none_right_eq_some.mp ran with ⟨-, same⟩
    cases same
    have kept : Foreign (s.setEnd role ((s.ends role).unregisterLocalHandle handle)) := by
      refine foreign.setEnd ?_
      intro other _ absent
      rwa [imports_unregisterLocalHandle]
    exact ⟨kept.imports, kept.importing⟩
  | send role handle =>
    rcases ite_none_right_eq_some.mp ran with ⟨-, same⟩
    cases same
    exact ⟨foreign.imports, foreign.importing⟩
  | callLocal role handle =>
    cases ran
    exact ⟨foreign.imports, foreign.importing⟩
  | lookup role handle =>
    rcases ite_none_right_eq_some.mp ran with ⟨-, resolved⟩
    cases found : (s.ends role).lookupExport handle with
    | some target =>
      rw [resolve_of_some found] at resolved
      cases resolved
      exact foreign
    | none =>
      rw [resolve_of_none found] at resolved
      cases resolved
      refine foreign.withImporting ?_
      intro other mem
      rcases List.mem_cons.mp mem with rfl | earlier
      · intro own
        have exported := known own
        rw [found] at exported
        cases exported
      · exact foreign.importing role other earlier
  | makeProxy role handle stability =>
    rcases ite_none_right_eq_some.mp ran with ⟨wanted, same⟩
    cases same
    have outside := foreign.importing role handle wanted
    have kept : Foreign (s.setEnd role ((s.ends role).remoteBinder handle stability)) := by
      refine foreign.setEnd ?_
      intro other own absent
      rw [imports_remoteBinder_of_ne]
      · exact absent
      · rintro rfl
        exact outside own
    refine kept.withImporting ?_
    intro other mem
    exact foreign.importing role other (List.mem_of_mem_erase mem)
  | noteDeath role handle =>
    rcases ite_none_right_eq_some.mp ran with ⟨-, same⟩
    cases same
    exact foreign.setEnd (fun _ _ absent => imports_forget_of_none absent handle)
  | noteAllDeaths role =>
    cases ran
    exact foreign.setEnd (fun _ _ _ => rfl)

theorem Foreign.reached (path : (session manager).Reaches Resolvable s) : Foreign s := by
  refine path.invariant ?_ ?_
  · exact ⟨fun _ _ _ => rfl, fun _ _ mem => nomatch mem⟩
  · intro state action next foreign lawful ran
    exact foreign.step lawful ran

/--
In every run in which an end has an export under each number of its own space
that it resolves, a live export resolves to itself, and no proxy stands for a
number of the own space.  A resolution of any other number of the own space
leads to such a proxy.
-/
theorem binder_identity
    {s : Session H} (reaches : (session manager).Reaches Resolvable s)
    (role : Role) (handle : UInt32) :
    (∀ target, (s.ends role).Live handle target →
        (s.ends role).resolve handle = .localBinder handle target) ∧
      (OwnSpace role handle → (s.ends role).imports handle = none ∧ handle ∉ s.importing role) ∧
      (handle ∈ s.mentioned role →
        ¬ Resolvable s (.lookup role handle) →
        ∃ looked proxied,
          s.step (.lookup role handle) = some looked ∧
            looked.step (.makeProxy role handle 0) = some proxied ∧
            ((proxied.ends role).imports handle).isSome) := by
  have inv := Session.Inv.reached (fun _ _ permitted => permitted.few) reaches role
  have foreign := Foreign.reached reaches
  refine ⟨?_, ?_, ?_⟩
  · intro target live
    exact End.resolve_of_some ((inv.table handle target).mpr (Or.inl live))
  · intro own
    exact ⟨foreign.imports role handle own, fun member => foreign.importing role handle member own⟩
  · intro mentioned unresolvable
    simp only [Resolvable, Classical.not_imp, Bool.not_eq_true,
      isSome_eq_false_iff, isNone_iff_eq_none] at unresolvable
    have wanted : handle ∈ update s.importing role (handle :: s.importing role) role := by
      simp
    refine ⟨{ s with importing := update s.importing role (handle :: s.importing role) }, _, ?_,
      if_pos wanted, ?_⟩
    · rw [Session.step, if_pos mentioned, resolve_of_none unresolvable.2]
    · change ((update s.ends role ((s.ends role).remoteBinder handle 0) role).imports handle).isSome
      simp [remoteBinder]

/-- A binder of the server goes to the client and comes back. -/
def roundTrip : List (SessionAction Nat) :=
  [.register .server (sampleExport 10), .send .server 3, .lookup .client 3,
    .makeProxy .client 3 0, .send .client 3, .lookup .server 3]

theorem roundTrip_identity :
    ∃ s, (session (sampleExport 0)).run roundTrip
        (.init (sampleExport 0)) = some s ∧
      (s.ends .server).resolve 3 = .localBinder 3 (sampleExport 10) ∧
      (s.ends .server).imports 3 = none := by
  refine ⟨_, rfl, rfl, ?_⟩
  have meets : (session (sampleExport 0)).Meets Resolvable roundTrip (.init (sampleExport 0)) := by
    decide
  exact ((binder_identity (System.Reaches.start.of_run meets rfl) .server 3).2.1 (by decide)).1

/-- The binder is removed while it is on its way back. -/
def removedInFlight : List (SessionAction Nat) :=
  [.register .server (sampleExport 10), .send .server 3, .lookup .client 3,
    .makeProxy .client 3 0, .send .client 3, .unregister .server 3,
    .lookup .server 3, .makeProxy .server 3 0]

theorem removedInFlight_imports_own_handle :
    ∃ s, (session (sampleExport 0)).run removedInFlight
        (.init (sampleExport 0)) = some s ∧
      OwnSpace .server 3 ∧ (s.ends .server).issued.length = 1 ∧
      (s.ends .server).imports 3 = some 0 := by
  refine ⟨_, rfl, by decide, rfl, rfl⟩

end Libbinder.Rpc
