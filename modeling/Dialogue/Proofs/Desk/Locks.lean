import Dialogue.Proofs.Desk.Steps
import Dialogue.Proofs.Dict

/-!
# One lock for one session

The locks of a desk come and go with the calls that refer to them.  A lock that went too early, while
a call still refers to it, would let the next call on the session make another one, and then two
calls could be served at once.  That never happens: as long as a call is live, the map has its lock
under its session.

* `Orderly` — the invariant; `orderly_step` and `orderly_run` say that steps and runs keep it.
* `Orderly.isHeld_eq_false_iff` — a lock is free exactly if no call on its session is being served.
* `Needed` — every lock in the map has a call that refers to it; `needed_step` and `needed_run` say
  that this stays so as long as no call is given up.
-/

namespace Dialogue.Desk

variable {σ τ : Type} {d d' : Desk σ τ} {e : Engine σ τ} {n : ℕ}

/-! ## What a call that comes changes -/

lemma ticketsMade_arrive (d : Desk σ τ) (session : String) (call : Call) :
    (d.arrive session call).ticketsMade = d.ticketsMade + 1 := by
  rw [arrive]
  cases d.locks.find? session <;> rfl

lemma locksMade_le_arrive (d : Desk σ τ) (session : String) (call : Call) :
    d.locksMade ≤ (d.arrive session call).locksMade := by
  rw [arrive]
  cases d.locks.find? session with
  | some lock => exact Nat.le_refl _
  | none => exact Nat.le_succ _

lemma lockFor_lt_arrive (hmade : ∀ id l, d.locks.find? id = some l → l < d.locksMade)
    (session : String) (call : Call) :
    d.lockFor session < (d.arrive session call).locksMade := by
  rw [arrive, lockFor]
  cases hfind : d.locks.find? session with
  | some lock => exact hmade session lock hfind
  | none => exact Nat.lt_succ_self _

/-! ## The invariant -/

/-- Live calls are numbered, every one of them refers to the lock that the map has for its session,
different sessions have different locks, and of the calls on one session at most one is being
served. -/
structure Orderly (d : Desk σ τ) : Prop where
  numbered : ∀ x ∈ d.tickets, x.1 < d.ticketsMade
  distinct : (d.tickets.map (·.1)).Nodup
  made : ∀ id l, d.locks.find? id = some l → l < d.locksMade
  apart : ∀ id id' l, d.locks.find? id = some l → d.locks.find? id' = some l → id = id'
  refers : ∀ x ∈ d.tickets, d.locks.find? x.2.session = some x.2.lock
  exclusive : ∀ x ∈ d.tickets, ∀ y ∈ d.tickets, x.2.session = y.2.session →
    x.2.phase.holdsLock = true → y.2.phase.holdsLock = true → x.1 = y.1

lemma orderly_idle (w : World σ τ) : (idle w).Orderly where
  numbered := List.forall_mem_nil _
  distinct := List.nodup_nil
  made id l h := by cases h
  apart id id' l h := by cases h
  refers := List.forall_mem_nil _
  exclusive := List.forall_mem_nil _

section Orderly

variable (h : d.Orderly)
include h

/-- A number belongs to one call. -/
lemma Orderly.eq_of_mem {t u : Ticket} (ht : (n, t) ∈ d.tickets) (hu : (n, u) ∈ d.tickets) :
    t = u :=
  (Prod.mk.inj (List.inj_on_of_nodup_map h.distinct ht hu rfl)).2

/-- Two calls refer to the same lock exactly if they are on the same session. -/
lemma Orderly.lock_eq_iff {x y : ℕ × Ticket} (hx : x ∈ d.tickets) (hy : y ∈ d.tickets) :
    x.2.lock = y.2.lock ↔ x.2.session = y.2.session := by
  have hfindx := h.refers x hx
  have hfindy := h.refers y hy
  constructor
  · intro hlock
    rw [hlock] at hfindx
    exact h.apart _ _ _ hfindx hfindy
  · intro hsession
    rw [hsession, hfindy] at hfindx
    exact (Option.some.inj hfindx).symm

/-- **A lock is free** exactly if no call on its session is being served. -/
lemma Orderly.isHeld_eq_false_iff {x : ℕ × Ticket} (hx : x ∈ d.tickets) :
    d.isHeld x.2.lock = false ↔
      ∀ y ∈ d.tickets, y.2.session = x.2.session → y.2.phase.holdsLock = false := by
  rw [Desk.isHeld_eq_false_iff]
  refine forall₂_congr fun y hy => ?_
  rw [h.lock_eq_iff hy hx]

/-- A new lock is none of those in the map, and an old one was the session's before: no other
session has the lock that a call takes. -/
lemma Orderly.find?_ne_lockFor {session other : String} (hne : other ≠ session) :
    d.locks.find? other ≠ some (d.lockFor session) := by
  intro hsame
  rw [lockFor] at hsame
  cases hold : d.locks.find? session with
  | some lock =>
      rw [hold, Option.getD_some] at hsame
      exact hne (h.apart _ _ _ hsame hold)
  | none =>
      rw [hold, Option.getD_none] at hsame
      exact Nat.lt_irrefl _ (h.made _ _ hsame)

lemma Orderly.arrive (session : String) (call : Call) : (d.arrive session call).Orderly where
  numbered x hx := by
    rw [ticketsMade_arrive]
    rcases mem_arrive.mp hx with hold | rfl
    · exact Nat.lt_succ_of_lt (h.numbered x hold)
    · exact Nat.lt_succ_self _
  distinct := by
    rw [tickets_arrive, List.map_append, List.map_singleton]
    refine List.Nodup.append h.distinct (List.nodup_singleton _) ?_
    intro m hm hnew
    obtain ⟨x, hx, rfl⟩ := List.mem_map.mp hm
    exact Nat.lt_irrefl _ (List.mem_singleton.mp hnew ▸ h.numbered x hx)
  made id l hfind := by
    by_cases hid : id = session
    · subst hid
      rw [find?_arrive_self] at hfind
      exact Option.some.inj hfind ▸ lockFor_lt_arrive h.made id call
    · rw [find?_arrive_of_ne d call hid] at hfind
      exact Nat.lt_of_lt_of_le (h.made id l hfind) (locksMade_le_arrive d session call)
  apart id id' l hfind hfind' := by
    by_cases hid : id = session
    · by_cases hid' : id' = session
      · rw [hid, hid']
      · rw [find?_arrive_of_ne d call hid'] at hfind'
        rw [hid, find?_arrive_self] at hfind
        exact absurd (hfind'.trans hfind.symm) (h.find?_ne_lockFor hid')
    · rw [find?_arrive_of_ne d call hid] at hfind
      by_cases hid' : id' = session
      · rw [hid', find?_arrive_self] at hfind'
        exact absurd (hfind.trans hfind'.symm) (h.find?_ne_lockFor hid)
      · rw [find?_arrive_of_ne d call hid'] at hfind'
        exact h.apart _ _ _ hfind hfind'
  refers x hx := by
    rcases mem_arrive.mp hx with hold | rfl
    · have hfind := h.refers x hold
      by_cases hsession : x.2.session = session
      · rw [hsession] at hfind ⊢
        rw [find?_arrive_self, lockFor, hfind, Option.getD_some]
      · rwa [find?_arrive_of_ne d call hsession]
    · exact find?_arrive_self d session call
  exclusive x hx y hy hsession hholdsx hholdsy := by
    rcases mem_arrive.mp hx with hx | rfl
    · rcases mem_arrive.mp hy with hy | rfl
      · exact h.exclusive x hx y hy hsession hholdsx hholdsy
      · cases hholdsy
    · cases hholdsx

/-- A call that has its lock, or finds it free, is the only one on its session that may. -/
lemma Orderly.eq_of_holdsLock {t : Ticket} (ht : (n, t) ∈ d.tickets)
    (hfree : t.phase.holdsLock = true ∨ d.isHeld t.lock = false) {m : ℕ} {u : Ticket}
    (hu : (m, u) ∈ d.tickets) (hsession : u.session = t.session)
    (hholds : u.phase.holdsLock = true) : m = n := by
  rcases hfree with hholdst | hfree
  · exact h.exclusive (m, u) hu (n, t) ht hsession hholds hholdst
  · have hidle := (h.isHeld_eq_false_iff ht).mp hfree (m, u) hu hsession
    rw [hholds] at hidle
    cases hidle

/-- A call that gets on is the only one on its session that does. -/
lemma Orderly.getsOn (hstep : d.GetsOn d' n) : d'.Orderly := by
  obtain ⟨t, phase, world, ht, -, hfree, rfl⟩ := hstep
  refine ⟨?numbered, ?distinct, h.made, h.apart, ?refers, ?exclusive⟩
  case numbered =>
    rintro ⟨m, u⟩ hu
    obtain ⟨u', hu', -⟩ := exists_of_mem_advance hu
    exact h.numbered (m, u') hu'
  case distinct =>
    rw [map_fst_advance]
    exact h.distinct
  case refers =>
    rintro ⟨m, u⟩ hu
    obtain ⟨u', hu', hsession, hlock, -⟩ := exists_of_mem_advance hu
    rw [hsession, hlock]
    exact h.refers (m, u') hu'
  case exclusive =>
    rintro ⟨m, u⟩ hu ⟨m', v⟩ hv hsession hholdsu hholdsv
    obtain ⟨u', hu', hsessionu, -, hsameu⟩ := exists_of_mem_advance hu
    obtain ⟨v', hv', hsessionv, -, hsamev⟩ := exists_of_mem_advance hv
    have hsession' : u'.session = v'.session := hsessionu.symm.trans (hsession.trans hsessionv)
    by_cases hm : m = n
    · by_cases hm' : m' = n
      · exact hm.trans hm'.symm
      · subst hm
        obtain rfl := h.eq_of_mem hu' ht
        obtain rfl := hsamev hm'
        exact (h.eq_of_holdsLock ht hfree hv' hsession'.symm hholdsv).symm
    · obtain rfl := hsameu hm
      by_cases hm' : m' = n
      · subst hm'
        obtain rfl := h.eq_of_mem hv' ht
        exact h.eq_of_holdsLock ht hfree hu' hsession' hholdsu
      · obtain rfl := hsamev hm'
        exact h.exclusive (m, u) hu' (m', v) hv' hsession' hholdsu hholdsv

lemma Orderly.remove (n : ℕ) : (d.remove n).Orderly where
  numbered x hx := h.numbered x (mem_remove.mp hx).1
  distinct := h.distinct.sublist (List.filter_sublist.map _)
  made := h.made
  apart := h.apart
  refers x hx := h.refers x (mem_remove.mp hx).1
  exclusive x hx y hy := h.exclusive x (mem_remove.mp hx).1 y (mem_remove.mp hy).1

/-- A lock that goes with its last call is missed by nobody. -/
lemma Orderly.goes (hstep : d.Goes d' n) : d'.Orderly := by
  obtain ⟨t, ht, ⟨hlast, -, rfl⟩ | ⟨-, rfl⟩⟩ := hstep
  · have hrest := h.remove n
    have hfind : ∀ {id l}, (d.locks.erase t.session).find? id = some l →
        d.locks.find? id = some l := fun hid => (Dict.find?_filter_eq_some_iff.mp hid).1
    refine ⟨hrest.numbered, hrest.distinct, fun id l hid => h.made id l (hfind hid),
      fun id id' l hid hid' => h.apart id id' l (hfind hid) (hfind hid'), fun x hx => ?_,
      hrest.exclusive⟩
    have hsession : x.2.session ≠ t.session := fun hsame =>
      hlast x hx ((h.lock_eq_iff (mem_remove.mp hx).1 ht).mpr hsame)
    exact (Dict.find?_assign_of_ne d.locks none hsession).trans (hrest.refers x hx)
  · exact h.remove n

/-- **Every step keeps the desk orderly.** -/
theorem orderly_step {s : Step} (hstep : d.step e s = some d') : d'.Orderly := by
  rcases step_cases hstep with ⟨session, call, rfl⟩ | ⟨n, hon⟩ | ⟨n, hgoes⟩ | ⟨n, -, rfl⟩
  · exact h.arrive session call
  · exact h.getsOn hon
  · exact h.goes hgoes
  · exact h.remove n

end Orderly

/-- **Every run keeps the desk orderly.** -/
theorem orderly_run (h : d.Orderly) {ss : List Step} (hrun : d.run e ss = some d') :
    d'.Orderly := by
  induction ss generalizing d with
  | nil => exact Option.some.inj hrun ▸ h
  | cons s ss ih =>
      obtain ⟨d₁, hstep, hrest⟩ := run_cons hrun
      exact ih (orderly_step h hstep) hrest

/-! ## No lock without a call -/

/-- Every lock in the map has a live call on its session. -/
def Needed (d : Desk σ τ) : Prop :=
  ∀ id l, d.locks.find? id = some l → ∃ x ∈ d.tickets, x.2.session = id

/-- **A step keeps every lock needed**, unless it gives up a call. -/
theorem needed_step (h : d.Orderly) (hneeded : d.Needed) {s : Step}
    (hstep : d.step e s = some d') (hs : ∀ n, s ≠ .abandon n) : d'.Needed := by
  intro id l hfind
  rcases step_cases hstep with ⟨session, call, rfl⟩ | ⟨n, hon⟩ | ⟨n, hgoes⟩ | ⟨n, rfl, -⟩
  · by_cases hid : id = session
    · exact ⟨_, mem_arrive.mpr (.inr rfl), hid.symm⟩
    · rw [find?_arrive_of_ne d call hid] at hfind
      obtain ⟨x, hx, hsession⟩ := hneeded id l hfind
      exact ⟨x, mem_arrive.mpr (.inl hx), hsession⟩
  · obtain ⟨t, phase, world, -, -, -, rfl⟩ := hon
    obtain ⟨⟨m, u⟩, hu, hsession⟩ := hneeded id l hfind
    refine ⟨_, mem_advance.mpr ⟨u, hu, rfl⟩, ?_⟩
    dsimp only
    split <;> exact hsession
  · obtain ⟨t, ht, hcases⟩ := hgoes
    -- A call on another session stays.
    have hstays : id ≠ t.session → d.locks.find? id = some l →
        ∃ x ∈ (d.remove n).tickets, x.2.session = id := by
      intro hid hold
      obtain ⟨⟨m, u⟩, hu, hsession⟩ := hneeded id l hold
      refine ⟨(m, u), mem_remove.mpr ⟨hu, ?_⟩, hsession⟩
      rintro rfl
      exact hid (hsession.symm.trans (congrArg Ticket.session (h.eq_of_mem hu ht)))
    rcases hcases with ⟨-, -, rfl⟩ | ⟨hothers, rfl⟩
    · obtain ⟨hold, hid⟩ := Dict.find?_filter_eq_some_iff.mp hfind
      exact hstays (bne_iff_ne.mp hid) hold
    · by_cases hid : id = t.session
      · rcases hothers with ⟨x, hx, hlock⟩ | hnone
        · exact ⟨x, hx, ((h.lock_eq_iff (mem_remove.mp hx).1 ht).mp hlock).trans hid.symm⟩
        · exact absurd (h.refers (n, t) ht) hnone
      · exact hstays hid hfind
  · exact absurd rfl (hs n)

/-- **A run keeps every lock needed**, unless it gives up a call. -/
theorem needed_run (h : d.Orderly) (hneeded : d.Needed) {ss : List Step}
    (hrun : d.run e ss = some d') (hss : ∀ n, Step.abandon n ∉ ss) : d'.Needed := by
  induction ss generalizing d with
  | nil => exact Option.some.inj hrun ▸ hneeded
  | cons s ss ih =>
      obtain ⟨d₁, hstep, hrest⟩ := run_cons hrun
      have hfirst : ∀ n, s ≠ .abandon n := fun n hs => hss n (hs ▸ List.mem_cons_self)
      exact ih (orderly_step h hstep) (needed_step h hneeded hstep hfirst) hrest
        fun n hn => hss n (List.mem_cons_of_mem _ hn)

/-- Without live calls there are no locks that are needed. -/
lemma Needed.locks_eq_empty (h : d.Needed) (hidle : d.tickets = []) : d.locks = .empty := by
  refine Dict.ext_find? fun id => Option.eq_none_iff_forall_ne_some.mpr fun l hfind => ?_
  obtain ⟨x, hx, -⟩ := h id l hfind
  rw [hidle] at hx
  cases hx

end Dialogue.Desk
