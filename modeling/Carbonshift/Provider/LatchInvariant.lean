import Carbonshift.Provider.DesyncLatch

/-!
# The latch in every run

While nobody holds the lock, either everybody has followed the clock or the
latch is set.  Whoever holds it prepares the close of the current slot, or
notifies the peers of the slot that was just entered.
-/

namespace Carbonshift

namespace Provider

/-! ## The record and the clock -/

/-- The record next to the slot that the clock is in. -/
structure Recorded (settings : Settings) (events : List Event) (slot : ℤ) :
    Prop where
  latched : Latched settings events
  closed : Closed settings events
  oneSlot : ∀ move ∈ movesOf events, move.after = move.before + 1
  increasing : (movesOf events).Pairwise fun first second =>
    first.before < second.before
  below : ∀ move ∈ movesOf events, move.before < slot
  expected : ∀ move ∈ movesOf events, ∀ named, move.expectSlot = some named →
    move.before = named

section Record

variable {settings : Settings} {events : List Event} {event : Event}
variable {move : Move} {slot : ℤ}

theorem movesOf_concat (quiet : event.move? = none) :
    movesOf (events ++ [event]) = movesOf events := by
  rw [movesOf_append, movesOf, movesOf, List.filterMap_cons_none quiet,
    List.filterMap_nil, List.append_nil]

theorem movesOf_concat_moved :
    movesOf (events ++ [.moved move]) = movesOf events ++ [move] :=
  movesOf_append events [.moved move]

theorem Recorded.nil : Recorded settings [] slot where
  latched := .nil
  closed := .nil
  oneSlot _ member := absurd member List.not_mem_nil
  increasing := .nil
  below _ member := absurd member List.not_mem_nil
  expected _ member := absurd member List.not_mem_nil

theorem Recorded.concat (recorded : Recorded settings events slot)
    (quiet : event.move? = none) :
    Recorded settings (events ++ [event]) slot where
  latched := recorded.latched.concat quiet
  closed := recorded.closed.concat quiet
  oneSlot := by
    rw [movesOf_concat quiet]
    exact recorded.oneSlot
  increasing := by
    rw [movesOf_concat quiet]
    exact recorded.increasing
  below := by
    rw [movesOf_concat quiet]
    exact recorded.below
  expected := by
    rw [movesOf_concat quiet]
    exact recorded.expected

/-- The clock leaves a slot that is closed, once everybody has followed. -/
theorem Recorded.concat_moved (recorded : Recorded settings events slot)
    (settled : Settled settings events)
    (acknowledged : .closeAcknowledged move.id
      (closePeer (carbonshiftPeer settings)) slot ∈ events)
    (before : move.before = slot) (after : move.after = slot + 1)
    (expects : ∀ named, move.expectSlot = some named → named = slot) :
    Recorded settings (events ++ [.moved move]) (slot + 1) where
  latched := recorded.latched.concat_moved settled
  closed := recorded.closed.concat_moved (before ▸ acknowledged)
  oneSlot := by
    intro other member
    rw [movesOf_concat_moved] at member
    rcases List.mem_append.mp member with earlier | last
    · exact recorded.oneSlot other earlier
    · rw [List.mem_singleton.mp last, after, before]
  increasing := by
    rw [movesOf_concat_moved, List.pairwise_append]
    refine ⟨recorded.increasing, List.pairwise_singleton _ _, ?_⟩
    intro first member second last
    rw [List.mem_singleton.mp last, before]
    exact recorded.below first member
  below := by
    intro other member
    rw [movesOf_concat_moved] at member
    rcases List.mem_append.mp member with earlier | last
    · have := recorded.below other earlier
      omega
    · rw [List.mem_singleton.mp last, before]
      omega
  expected := by
    intro other member named same
    rw [movesOf_concat_moved] at member
    rcases List.mem_append.mp member with earlier | last
    · exact recorded.expected other earlier named same
    · cases List.mem_singleton.mp last
      rw [before, expects named same]

/-- At most one move under requests that expect the same slot. -/
theorem Recorded.onlyOnce (recorded : Recorded settings events slot)
    (named : ℤ) :
    ((movesOf events).filter fun move =>
      move.expectSlot = some named).length ≤ 1 := by
  have apart := recorded.increasing.filter
    (fun move => decide (move.expectSlot = some named))
  have all : ∀ move ∈ (movesOf events).filter (fun move =>
      move.expectSlot = some named), move.before = named := by
    intro move member
    obtain ⟨inside, same⟩ := List.mem_filter.mp member
    exact recorded.expected move inside named (of_decide_eq_true same)
  generalize (movesOf events).filter
    (fun move => decide (move.expectSlot = some named)) = chosen at apart all ⊢
  cases chosen with
  | nil => exact Nat.zero_le 1
  | cons first others =>
      cases others with
      | nil => exact Nat.le_refl 1
      | cons second rest =>
          have increases := List.rel_of_pairwise_cons apart List.mem_cons_self
          rw [all first List.mem_cons_self,
            all second (List.mem_cons_of_mem _ List.mem_cons_self)] at increases
          exact absurd increases (lt_irrefl named)

end Record

/-! ## Requests -/

namespace Service

section Requests

variable {settings : Settings} {id : ℕ} {service : Service settings.grid}
variable {handled : Globals settings.grid × Progress}

/-- The requests that have held the lock. -/
def taken {grid : SlotGrid} (service : Service grid) : List ℕ :=
  service.holder.toList.map Prod.fst ++ service.answered.map Prod.fst

theorem known_eq {grid : SlotGrid} (service : Service grid) :
    service.known = service.waiting.map Prod.fst ++ service.taken :=
  List.append_assoc _ _ _

/-- The request of a handler has held the lock. -/
theorem taken_proceed : (proceed settings id handled service).taken.Perm
    (id :: service.answered.map Prod.fst) := by
  unfold proceed
  split
  · exact .refl _
  · rw [taken, List.map_append]
    exact List.perm_append_singleton id _

theorem known_proceed : (proceed settings id handled service).known.Perm
    (service.waiting.map Prod.fst ++ id :: service.answered.map Prod.fst) := by
  rw [known_eq, waiting_proceed]
  exact taken_proceed.append_left _

/-- Entering takes the request out of those that wait. -/
theorem known_of_enter {index : ℕ} {request : AdvanceRequest}
    (free : service.holder = none)
    (entering : service.waiting[index]? = some (id, request)) :
    ((service.waiting.eraseIdx index).map Prod.fst ++
      id :: service.answered.map Prod.fst).Perm service.known := by
  obtain ⟨inside, same⟩ := List.getElem?_eq_some_iff.mp entering
  have moved := (List.getElem_cons_eraseIdx_perm inside).map Prod.fst
  rw [same, List.map_cons] at moved
  rw [known_eq, taken, free]
  exact List.perm_middle.trans (moved.append_right _)

end Requests

/-! ## What a step records -/

section Happened

variable {settings : Settings} {source : CarbonSource} {iso : IsoFormat}
variable {service next : Service settings.grid} {id : ℕ} {advance : Advance}
variable (outcome : PostOutcome) (actor : ℕ × Option ℤ)

theorem movement_of_clock_eq
    (same : next.globals.clock = service.globals.clock) :
    service.movement next actor = [] := by
  rw [movement, same, if_pos rfl]

theorem movement_of_advance
    (moved : next.globals.clock = service.globals.clock.advance.2) :
    service.movement next actor =
      [.moved
        { id := actor.1
          expectSlot := actor.2
          before := service.globals.clock.currentSlot
          after := service.globals.clock.currentSlot + 1 }] := by
  rw [movement, moved, ProviderClock.currentSlot_advance,
    if_neg (by omega)]

/-- The record of a post. -/
theorem happened_post (held : service.holder = some (id, advance)) :
    happened settings source iso service (.post outcome) =
      service.acknowledgement (.post outcome) ++
        service.movement
          (proceed settings id
            (resume settings source iso advance outcome service.globals)
            service)
          (id, advance.request.expectSlot) := by
  rw [happened, step, actor, held]
  rfl

/-- A confirmation is no move. -/
theorem acknowledgement_quiet (held : service.holder = some (id, advance)) :
    service.acknowledgement (.post outcome) = [] ∨
      ∃ event, service.acknowledgement (.post outcome) = [event] ∧
        event.move? = none := by
  rw [acknowledgement, held]
  dsimp only
  split
  · exact Or.inl rfl
  · split
    · split
      · exact Or.inr ⟨_, rfl, rfl⟩
      · exact Or.inr ⟨_, rfl, rfl⟩
      · exact Or.inl rfl
    · exact Or.inl rfl

variable {outcome}

theorem acknowledgement_of_silent
    (held : service.holder = some (id, advance))
    (silent : ∀ peer rest, advance.fanout.pending = peer :: rest →
      acknowledges peer advance.message outcome = false) :
    service.acknowledgement (.post outcome) = [] := by
  rw [acknowledgement, held]
  dsimp only
  split
  · rfl
  · rename_i peer rest pending
    rw [silent peer rest pending]
    rfl

theorem acknowledgement_of_closes {slot : ℤ}
    (held : service.holder = some (id, advance))
    (closes : ClosesBy settings slot advance outcome) :
    service.acknowledgement (.post outcome) =
      [.closeAcknowledged id (closePeer (carbonshiftPeer settings)) slot] := by
  obtain ⟨payload, pending, message, rfl, confirms⟩ := closes
  rw [acknowledgement, held]
  dsimp only
  rw [pending]
  dsimp only
  rw [if_pos confirms, message]

theorem acknowledgement_of_rolling {peer : Peer} {rest : List Peer}
    (held : service.holder = some (id, advance))
    {clock : ProviderClock settings.grid}
    (rolling : Rolling settings source iso clock advance)
    (pending : advance.fanout.pending = peer :: rest)
    (confirms : acknowledges peer advance.message outcome = true) :
    service.acknowledgement (.post outcome) = [.notified id peer] := by
  rw [acknowledgement, held]
  dsimp only
  rw [pending]
  dsimp only
  rw [if_pos confirms]
  cases rolling
  rfl

end Happened

end Service

/-! ## The invariant -/

/-- Where the request that holds the lock is. -/
inductive Held (settings : Settings) (source : CarbonSource) (iso : IsoFormat)
    (events : List Event) (clock : ProviderClock settings.grid) (id : ℕ)
    (advance : Advance) : Prop where
  | preparing (stage : Preparing settings source iso clock advance)
      (settled : Settled settings events)
      (expects : ∀ named, advance.request.expectSlot = some named →
        named = clock.currentSlot)
      (unmoved : ∀ move ∈ movesOf events, move.id ≠ id)
  | rolling (stage : Rolling settings source iso clock advance)
      (earlier later : List Event) (move : Move)
      (split : events = earlier ++ .moved move :: later)
      (mover : move.id = id) (entered : move.after = clock.currentSlot)
      (last : movesOf later = [])
      (unmoved : ∀ other ∈ movesOf earlier, other.id ≠ id)
      (settled : Settled settings earlier)
      (reached : ∀ peer ∈ peersFromSettings settings,
        peer ∈ advance.fanout.pending ∨ .notified id peer ∈ later)

/-- The latch in every state of a run. -/
structure LatchInvariant (settings : Settings) (source : CarbonSource)
    (iso : IsoFormat) (events : List Event) (service : Service settings.grid) :
    Prop where
  recorded : Recorded settings events service.globals.clock.currentSlot
  notifies : ∀ waiting ∈ service.waiting, waiting.2.notifyPeers = true
  distinct : service.known.Nodup
  movers : ∀ move ∈ movesOf events, move.id ∈ service.taken
  answered : ∀ id response, (id, .advanced response) ∈ service.answered →
    Reports events id response
  free : service.holder = none → service.globals.desynced = none →
    Settled settings events
  held : ∀ id advance, service.holder = some (id, advance) →
    service.globals.desynced = none ∧ advance.request.notifyPeers = true ∧
      Held settings source iso events service.globals.clock id advance

namespace LatchInvariant

variable {settings : Settings} {source : CarbonSource} {iso : IsoFormat}
variable {events : List Event} {service : Service settings.grid} {id : ℕ}

theorem start (instant : ℤ) :
    LatchInvariant settings source iso []
      (Service.start settings.grid instant) where
  recorded := .nil
  notifies _ member := absurd member List.not_mem_nil
  distinct := List.nodup_nil
  movers _ member := absurd member List.not_mem_nil
  answered _ _ member := absurd member List.not_mem_nil
  free _ _ := .nil
  held _ _ same := by cases same

/-- What a handler has to leave behind. -/
theorem proceed {handled : Globals settings.grid × Progress}
    (recorded : Recorded settings events handled.1.clock.currentSlot)
    (notifies : ∀ waiting ∈ service.waiting, waiting.2.notifyPeers = true)
    (distinct : (service.waiting.map Prod.fst ++
      id :: service.answered.map Prod.fst).Nodup)
    (movers : ∀ move ∈ movesOf events,
      move.id ∈ id :: service.answered.map Prod.fst)
    (answered : ∀ other response,
      (other, .advanced response) ∈ service.answered →
        Reports events other response)
    (ends : ∀ answer, handled.2 = .answered answer →
      (handled.1.desynced = none → Settled settings events) ∧
        ∀ response, answer = .advanced response → Reports events id response)
    (goes : ∀ advance, handled.2 = .posting advance →
      handled.1.desynced = none ∧ advance.request.notifyPeers = true ∧
        Held settings source iso events handled.1.clock id advance) :
    LatchInvariant settings source iso events
      (Service.proceed settings id handled service) where
  recorded := by
    rw [Service.globals_proceed]
    exact recorded
  notifies := by
    rw [Service.waiting_proceed]
    exact notifies
  distinct := Service.known_proceed.nodup_iff.mpr distinct
  movers move member := Service.taken_proceed.mem_iff.mpr (movers move member)
  answered other response member := by
    rcases Service.answered_proceed member with earlier | ⟨rfl, same⟩
    · exact answered other response earlier
    · exact (ends _ same).2 response rfl
  free none_ := by
    rw [Service.globals_proceed]
    cases progress : handled.2 with
    | posting advance =>
        rw [Service.proceed, progress] at none_
        cases none_
    | answered answer => exact (ends answer progress).1
  held other advance same := by
    obtain ⟨rfl, posts⟩ := Service.holder_proceed same
    rw [Service.globals_proceed]
    exact goes advance posts

/-- A new request waits for the lock. -/
theorem receive (invariant : LatchInvariant settings source iso events service)
    {request : AdvanceRequest} (notifies : request.notifyPeers = true)
    (fresh : id ∉ service.known) :
    LatchInvariant settings source iso events
      { service with waiting := service.waiting ++ [(id, request)] } where
  recorded := invariant.recorded
  notifies waiting member := by
    rcases List.mem_append.mp member with earlier | last
    · exact invariant.notifies waiting earlier
    · rw [List.mem_singleton.mp last]
      exact notifies
  distinct := by
    have longer := List.nodup_cons.mpr ⟨fresh, invariant.distinct⟩
    rw [Service.known_eq] at longer ⊢
    dsimp only
    rw [List.map_append, List.map_singleton, List.append_assoc,
      List.singleton_append]
    exact List.perm_middle.nodup_iff.mpr longer
  movers := invariant.movers
  answered := invariant.answered
  free := invariant.free
  held := invariant.held

/-- One of the waiting requests takes the lock. -/
theorem enter (invariant : LatchInvariant settings source iso events service)
    (free : service.holder = none) {index : ℕ} {request : AdvanceRequest}
    (entering : service.waiting[index]? = some (id, request)) :
    LatchInvariant settings source iso events
      (Service.proceed settings id
        (begin settings source iso request service.globals)
        { service with waiting := service.waiting.eraseIdx index }) := by
  have notifies := invariant.notifies _ (List.mem_of_getElem? entering)
  have distinct := (Service.known_of_enter free entering).nodup_iff.mpr
    invariant.distinct
  have taken : service.taken = service.answered.map Prod.fst := by
    rw [Service.taken, free]
    rfl
  have unmoved : ∀ move ∈ movesOf events, move.id ≠ id := by
    intro move member same
    have answered := invariant.movers move member
    rw [taken, same] at answered
    exact (List.nodup_cons.mp (List.nodup_append.mp distinct).2.1).1 answered
  obtain ⟨quiet, checked⟩ :=
    @begin_spec settings source iso service.globals request notifies
  refine .proceed ?_ ?_ distinct ?_ invariant.answered ?_ ?_
  · rw [quiet.clock_eq]
    exact invariant.recorded
  · intro waiting member
    exact invariant.notifies waiting (List.mem_of_mem_eraseIdx member)
  · intro move member
    rw [← taken]
    exact List.mem_cons_of_mem _ (invariant.movers move member)
  · intro answer same
    refine ⟨?_, ?_⟩
    · rw [quiet.desynced_eq]
      exact invariant.free free
    · rintro response rfl
      cases quiet.answered _ same
  · intro advance same
    obtain ⟨request_eq, preparing⟩ := quiet.posting advance same
    obtain ⟨synced, expects⟩ := checked advance same
    rw [quiet.desynced_eq, quiet.clock_eq, request_eq]
    exact ⟨synced, notifies, .preparing preparing (invariant.free free synced)
      (by rwa [request_eq]) unmoved⟩

end LatchInvariant

end Provider

end Carbonshift
