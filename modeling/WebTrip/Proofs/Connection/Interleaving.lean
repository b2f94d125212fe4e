import Mathlib.Data.List.Basic
import Mathlib.Data.List.Induction
import WebTrip.Connection.Interleaving
import WebTrip.Proofs.Connection.LifeCycle

/-!
# Calls that take turns

Whatever the order in which calls on one connection take their steps, and whatever succeeds or fails
on the wire, no more than one pool is open. The lock carries this: the call that has it knows from
its stage what is in the slot and which pool is open, and no step of another call changes that.

## Main definitions

- `Move`: what a step can do
- `Custody`: what is in the slot and which pool is open, by the stage of the call with the lock
- `Traffic.Guarded`: the lock is with the one call that needs it, or the open pool is in the slot
- `CallSound`: what a call has done, by its stage
- `Connection.rest`: what a call still does, by its stage

## Main statements

- `Traffic.Guarded.move`, `CallSound.move`: every step keeps both
- `Connection.interleave_onePool`: at most one pool is open, and each program is sent at most once,
  by a call that has acquired a pool
- `Connection.execute_alone`: a call whose steps are not interrupted is `Connection.execute`
-/

namespace WebTrip

/-! ## §1 What a step can do -/

/-- **What a step can do**, from the slot, the pool that would be opened next and whether the lock
is free. -/
inductive Move (c : Connection) (program : String) (slot : Option Nat) (new : Nat) (free : Bool) :
    Stage → Deed → Stage → Prop where
  | lockHeld (pool : Nat) (hfree : free = true) (hslot : slot = some pool) :
      Move c program slot new free .waiting .lock (.probing pool)
  | lockEmpty (hfree : free = true) (hslot : slot = none) :
      Move c program slot new free .waiting .lock .connecting
  | probeOk (pool : Nat) :
      Move c program slot new free (.probing pool) (.wire (.ran pool probeProgram (.ok ())))
        (.leaving (.ok pool))
  | probeError (pool : Nat) (fault : WireFault) :
      Move c program slot new free (.probing pool) (.wire (.ran pool probeProgram (.error fault)))
        (.closing pool)
  | close (pool : Nat) :
      Move c program slot new free (.closing pool) (.wire (.closed pool)) .clearing
  | clear : Move c program slot new free .clearing .clear .connecting
  | connectOk :
      Move c program slot new free .connecting (.wire (.opened new)) (.storing new)
  | connectError (fault : WireFault) :
      Move c program slot new free .connecting (.wire (.refused fault))
        (.leaving (.error (c.unreachable fault)))
  | store (pool : Nat) :
      Move c program slot new free (.storing pool) (.store pool) (.leaving (.ok pool))
  | unlockOk (pool : Nat) :
      Move c program slot new free (.leaving (.ok pool)) (.unlock (.ok pool)) (.querying pool)
  | unlockError (e : Error) :
      Move c program slot new free (.leaving (.error e)) (.unlock (.error e)) (.finished (.error e))
  | query (pool : Nat) (answer : Except WireFault (List (List Cell))) :
      Move c program slot new free (.querying pool) (.wire (.queried pool program answer))
        (.finished (c.readAnswer answer))

/-- The next step of a call is a move. -/
theorem Connection.move_of_next? {c : Connection} {net : Network} {program : String}
    {history : List WireEvent} {slot : Option Nat} {free : Bool} {stage stage' : Stage}
    {deed : Deed} (h : c.next? net program history slot free stage = some (deed, stage')) :
    Move c program slot (newPool history) free stage deed stage' := by
  cases stage with
  | waiting =>
    cases free with
    | false => cases h
    | true =>
      cases slot with
      | none => cases h; exact .lockEmpty rfl rfl
      | some pool => cases h; exact .lockHeld pool rfl rfl
  | probing pool =>
    simp only [next?] at h
    split at h <;> cases h
    · exact .probeOk pool
    · exact .probeError pool _
  | closing pool => cases h; exact .close pool
  | clearing => cases h; exact .clear
  | connecting =>
    simp only [next?] at h
    split at h <;> cases h
    · exact .connectOk
    · exact .connectError _
  | storing pool => cases h; exact .store pool
  | leaving acquired =>
    cases acquired with
    | ok pool => cases h; exact .unlockOk pool
    | error e => cases h; exact .unlockError e
  | querying pool => cases h; exact .query pool _
  | finished result => cases h

/-! ## §2 The call that has the lock -/

/-- **The custody of the lock**: by the stage of the call that has it, what is in the slot and which
pool is the open one. -/
inductive Custody : Stage → (slot current : Option Nat) → Prop where
  | probing (pool : Nat) : Custody (.probing pool) (some pool) (some pool)
  | closing (pool : Nat) : Custody (.closing pool) (some pool) (some pool)
  | clearing (pool : Nat) : Custody .clearing (some pool) none
  | connecting : Custody .connecting none none
  | storing (pool : Nat) : Custody (.storing pool) none (some pool)
  | leavingOk (pool : Nat) : Custody (.leaving (.ok pool)) (some pool) (some pool)
  | leavingError (e : Error) : Custody (.leaving (.error e)) none none

/-- Whether a call needs the lock for what it does next. -/
def Stage.isInside : Stage → Bool
  | .waiting | .querying _ | .finished _ => false
  | .probing _ | .closing _ | .clearing | .connecting | .storing _ | .leaving _ => true

theorem Custody.isInside {stage : Stage} {slot current : Option Nat}
    (h : Custody stage slot current) : stage.isInside = true := by
  cases h <;> rfl

namespace Traffic

variable {ι : Type}

/-- The calls that need the lock. -/
def inside (t : Traffic ι) (i : ι) : Prop :=
  (t.stage i).isInside = true

/-- **The lock guards the open pool.** Either nobody has the lock, and the open pool is in the slot;
or the only call that needs the lock has it, and has the custody of the open pool. -/
inductive Guarded (t : Traffic ι) (current : Option Nat) : Prop where
  | free (hfree : t.holder = none) (hslot : t.slot = current) (houtside : ∀ i, ¬ t.inside i)
  | taken (i : ι) (hholder : t.holder = some i) (hothers : ∀ j, j ≠ i → ¬ t.inside j)
      (hcustody : Custody (t.stage i) t.slot current)

variable [DecidableEq ι]

@[simp] theorem deeds_perform (t : Traffic ι) (i : ι) (deed : Deed) (stage : Stage) :
    (t.perform i deed stage).deeds = t.deeds ++ [(i, deed)] :=
  rfl

@[simp] theorem stage_perform_self (t : Traffic ι) (i : ι) (deed : Deed) (stage : Stage) :
    (t.perform i deed stage).stage i = stage :=
  if_pos rfl

theorem stage_perform_of_ne (t : Traffic ι) {i j : ι} (deed : Deed) (stage : Stage) (h : j ≠ i) :
    (t.perform i deed stage).stage j = t.stage j :=
  if_neg h

theorem inside_perform_self (t : Traffic ι) (i : ι) (deed : Deed) (stage : Stage) :
    (t.perform i deed stage).inside i ↔ stage.isInside = true := by
  rw [inside, stage_perform_self]

theorem inside_perform_of_ne (t : Traffic ι) {i j : ι} (deed : Deed) (stage : Stage) (h : j ≠ i) :
    (t.perform i deed stage).inside j ↔ t.inside j := by
  rw [inside, stage_perform_of_ne t deed stage h, inside]

/-- Behind a step that leads outside, only other calls are inside, and they were before. -/
theorem inside_of_perform {t : Traffic ι} {i j : ι} {deed : Deed} {stage : Stage}
    (hafter : stage.isInside = false) (hj : (t.perform i deed stage).inside j) :
    j ≠ i ∧ t.inside j := by
  by_cases hji : j = i
  · subst hji
    rw [inside_perform_self, hafter] at hj
    cases hj
  · rw [inside_perform_of_ne t deed stage hji] at hj
    exact ⟨hji, hj⟩

omit [DecidableEq ι] in
theorem wireEvents_append_singleton (deeds : List (ι × Deed)) (i : ι) (deed : Deed) :
    wireEvents (deeds ++ [(i, deed)]) = wireEvents deeds ++ deed.event?.toList := by
  rw [wireEvents, List.filterMap_append]
  cases hevent : deed.event? <;> simp [wireEvents, hevent]

namespace Guarded

variable {t : Traffic ι} {current : Option Nat} {i : ι}

/-- A call that needs the lock has it. -/
theorem of_inside (h : t.Guarded current) (hinside : t.inside i) :
    t.holder = some i ∧ (∀ j, j ≠ i → ¬ t.inside j) ∧ Custody (t.stage i) t.slot current := by
  cases h with
  | free _ _ houtside => exact absurd hinside (houtside i)
  | taken k hholder hothers hcustody =>
    by_cases hik : i = k
    · subst hik
      exact ⟨hholder, hothers, hcustody⟩
    · exact absurd hinside (hothers i hik)

/-- While a call has the lock, its steps hand on the custody. -/
theorem perform_inside {slot' current' : Option Nat} {deed : Deed} {stage : Stage}
    (h : t.Guarded current) (hinside : t.inside i)
    (hholder : (t.perform i deed stage).holder = t.holder)
    (hslot : (t.perform i deed stage).slot = slot') (hcustody : Custody stage slot' current') :
    (t.perform i deed stage).Guarded current' := by
  obtain ⟨hholds, hothers, -⟩ := h.of_inside hinside
  refine .taken i (hholder.trans hholds) (fun j hj => ?_) ?_
  · rw [inside_perform_of_ne t deed stage hj]
    exact hothers j hj
  · rwa [stage_perform_self, hslot]

/-- Without the lock, steps on the wire leave the custody where it is. -/
theorem perform_outside {event : WireEvent} {stage : Stage} (h : t.Guarded current)
    (hbefore : ¬ t.inside i) (hafter : stage.isInside = false) :
    (t.perform i (.wire event) stage).Guarded current := by
  cases h with
  | free hfree hslot houtside =>
    exact .free hfree hslot fun j hj => houtside j (inside_of_perform hafter hj).2
  | taken k hholder hothers hcustody =>
    -- the call with the lock is another one, whose stage stays as it is
    have hki : k ≠ i := by
      rintro rfl
      exact hbefore hcustody.isInside
    refine .taken k hholder (fun j hj hj' => hothers j hj (inside_of_perform hafter hj').2) ?_
    rwa [stage_perform_of_ne t _ stage hki]

/-- Who takes the lock finds the open pool in the slot. -/
theorem perform_lock {slot : Option Nat} {stage : Stage} (h : t.Guarded current)
    (hfree : t.holder.isNone = true) (hslot : t.slot = slot) (hcustody : Custody stage slot slot) :
    (t.perform i .lock stage).Guarded current := by
  rw [Option.isNone_iff_eq_none] at hfree
  cases h with
  | free _ hcurrent houtside =>
    refine .taken i rfl (fun j hj => ?_) ?_
    · rw [inside_perform_of_ne t _ stage hj]
      exact houtside j
    · rw [stage_perform_self, ← hcurrent]
      exact hslot ▸ hcustody
  | taken k hholder =>
    rw [hfree] at hholder
    cases hholder

/-- Who gives back the lock leaves the open pool in the slot. -/
theorem perform_unlock {acquired : Except Error Nat} {stage : Stage} (h : t.Guarded current)
    (hinside : t.inside i) (hslot : t.slot = current) (hafter : stage.isInside = false) :
    (t.perform i (.unlock acquired) stage).Guarded current := by
  obtain ⟨-, hothers, -⟩ := h.of_inside hinside
  refine .free rfl hslot fun j hj => ?_
  obtain ⟨hji, hj'⟩ := inside_of_perform hafter hj
  exact hothers j hji hj'

/-- **Every step keeps the guard**, and the open pool in its custody: a pool is opened only when
none is open. -/
theorem move {c : Connection} {program : String} {deed : Deed} {stage : Stage}
    (h : t.Guarded current) (hopen : OnlyOpen (wireEvents t.deeds) current)
    (hmove : Move c program t.slot (newPool (wireEvents t.deeds)) t.holder.isNone (t.stage i) deed
      stage) :
    ∃ current', (t.perform i deed stage).Guarded current' ∧
      OnlyOpen (wireEvents (t.perform i deed stage).deeds) current' ∧
      (∀ pool, deed = .wire (.opened pool) → current = none) := by
  have hevents : wireEvents (t.perform i deed stage).deeds =
      wireEvents t.deeds ++ deed.event?.toList := by
    rw [deeds_perform, wireEvents_append_singleton]
  rw [hevents]
  -- locking, clearing, storing and unlocking do nothing on the wire
  have hsilent : OnlyOpen (wireEvents t.deeds ++ []) current := by rwa [List.append_nil]
  generalize hstage : t.stage i = before at hmove
  generalize hslot : t.slot = slot at hmove
  -- what the call finds, if it has the lock
  have hcustody : before.isInside = true → t.inside i ∧ Custody before slot current := fun hin => by
    have hinside : t.inside i := by rwa [inside, hstage]
    exact ⟨hinside, hstage ▸ hslot ▸ (h.of_inside hinside).2.2⟩
  cases hmove with
  | lockHeld pool hfree hheld =>
    exact ⟨current, h.perform_lock hfree (hslot.trans hheld) (.probing pool), hsilent, by simp⟩
  | lockEmpty hfree hempty =>
    exact ⟨current, h.perform_lock hfree (hslot.trans hempty) .connecting, hsilent, by simp⟩
  | probeOk pool =>
    obtain ⟨hinside, ⟨⟩⟩ := hcustody rfl
    exact ⟨some pool, h.perform_inside hinside rfl hslot (.leavingOk pool), hopen.quiet rfl,
      by simp⟩
  | probeError pool fault =>
    obtain ⟨hinside, ⟨⟩⟩ := hcustody rfl
    exact ⟨some pool, h.perform_inside hinside rfl hslot (.closing pool), hopen.quiet rfl, by simp⟩
  | close pool =>
    obtain ⟨hinside, ⟨⟩⟩ := hcustody rfl
    exact ⟨none, h.perform_inside hinside rfl hslot (.clearing pool), hopen.closed, by simp⟩
  | clear =>
    obtain ⟨hinside, ⟨⟩⟩ := hcustody rfl
    exact ⟨none, h.perform_inside hinside rfl rfl .connecting, hsilent, by simp⟩
  | connectOk =>
    obtain ⟨hinside, ⟨⟩⟩ := hcustody rfl
    exact ⟨_, h.perform_inside hinside rfl hslot (.storing _), hopen.opened, fun _ _ => rfl⟩
  | connectError fault =>
    obtain ⟨hinside, ⟨⟩⟩ := hcustody rfl
    exact ⟨none, h.perform_inside hinside rfl hslot (.leavingError _), hopen.quiet rfl, by simp⟩
  | store pool =>
    obtain ⟨hinside, ⟨⟩⟩ := hcustody rfl
    exact ⟨some pool, h.perform_inside hinside rfl rfl (.leavingOk pool), hsilent, by simp⟩
  | unlockOk pool =>
    obtain ⟨hinside, ⟨⟩⟩ := hcustody rfl
    exact ⟨some pool, h.perform_unlock hinside hslot rfl, hsilent, by simp⟩
  | unlockError e =>
    obtain ⟨hinside, ⟨⟩⟩ := hcustody rfl
    exact ⟨none, h.perform_unlock hinside hslot rfl, hsilent, by simp⟩
  | query pool answer =>
    -- the only step on the wire without the lock
    have houtside : ¬ t.inside i := by simp [inside, hstage, Stage.isInside]
    exact ⟨current, h.perform_outside houtside rfl, hopen.quiet rfl, by simp⟩

end Guarded

end Traffic

/-! ## §3 What a call has done -/

/-- What is true of each step of a record and the steps before it, is true of the last step and of
the record without it. -/
theorem forall_split_append_singleton {α : Type} {P : List α → α → Prop} {l : List α} {x : α} :
    (∀ earlier a later, l ++ [x] = earlier ++ a :: later → P earlier a) ↔
      (∀ earlier a later, l = earlier ++ a :: later → P earlier a) ∧ P l x := by
  constructor
  · intro h
    refine ⟨fun earlier a later hl => h earlier a (later ++ [x]) ?_, h l x [] rfl⟩
    rw [hl, List.append_assoc, List.cons_append]
  · rintro ⟨hl, hx⟩ earlier a later hsplit
    rcases List.eq_nil_or_concat' later with rfl | ⟨later, y, rfl⟩
    · obtain ⟨rfl, hxa⟩ := List.append_inj' hsplit rfl
      cases hxa
      exact hx
    · rw [← List.cons_append, ← List.append_assoc] at hsplit
      exact hl earlier a later (List.append_inj' hsplit rfl).1

/-- Whether a program has been sent for its rows. -/
def Deed.isQuery : Deed → Bool
  | .wire (.queried _ _ _) => true
  | _ => false

/-- Behind such steps the call has acquired a pool: it has probed it with success, or opened it. -/
def HasAcquired (pool : Nat) (done : List Deed) : Prop :=
  .wire (.ran pool probeProgram (.ok ())) ∈ done ∨ .wire (.opened pool) ∈ done

/-- A program that is sent is the call's own, and goes to a pool that the call has acquired, and
given back the lock since. -/
def SendsRightly (program : String) (done : List Deed) (deed : Deed) : Prop :=
  ∀ pool text answer, deed = .wire (.queried pool text answer) →
    text = program ∧ .unlock (.ok pool) ∈ done ∧ HasAcquired pool done

/-- **What a call has done**, by its stage. -/
structure CallSound (program : String) (stage : Stage) (done : List Deed) : Prop where
  unsent : (∀ result, stage ≠ .finished result) → done.countP Deed.isQuery = 0
  opened : ∀ pool, stage = .storing pool → .wire (.opened pool) ∈ done
  acquired : ∀ pool, stage = .leaving (.ok pool) ∨ stage = .querying pool → HasAcquired pool done
  unlocked : ∀ pool, stage = .querying pool → .unlock (.ok pool) ∈ done
  sent_once : done.countP Deed.isQuery ≤ 1
  sent_rightly : ∀ earlier deed later, done = earlier ++ deed :: later →
    SendsRightly program earlier deed

namespace CallSound

variable {c : Connection} {program : String} {slot : Option Nat} {new : Nat} {free : Bool}
  {stage stage' : Stage} {done : List Deed} {deed : Deed}

theorem initial : CallSound program .waiting [] where
  unsent _ := rfl
  opened := by simp
  acquired := by simp
  unlocked := by simp
  sent_once := Nat.zero_le 1
  sent_rightly := by simp

theorem unsent_before (h : CallSound program stage done)
    (hmove : Move c program slot new free stage deed stage') : done.countP Deed.isQuery = 0 :=
  h.unsent fun result => by
    rintro rfl
    cases hmove

/-- **Every step of a call keeps what it has done sound.** -/
theorem move (h : CallSound program stage done)
    (hmove : Move c program slot new free stage deed stage') :
    CallSound program stage' (done ++ [deed]) where
  unsent hfinished := by
    rw [List.countP_append, h.unsent_before hmove]
    cases hmove with
    | unlockError e => rfl
    | query pool answer => exact absurd rfl (hfinished _)
    | _ => rfl
  opened pool hstage := by
    cases hmove <;> cases hstage
    simp
  acquired pool hstage := by
    have hbefore : HasAcquired pool done → HasAcquired pool (done ++ [deed]) := by
      rintro (hprobed | hopened)
      · exact .inl (List.mem_append_left _ hprobed)
      · exact .inr (List.mem_append_left _ hopened)
    -- the pool has just been probed, or has been opened and is in the slot now, or was acquired
    rcases hstage with hstage | hstage
    · cases hmove <;> cases hstage
      · exact .inl (by simp)
      · exact hbefore (.inr (h.opened pool rfl))
    · cases hmove <;> cases hstage
      exact hbefore (h.acquired pool (.inl rfl))
  unlocked pool hstage := by
    cases hmove <;> cases hstage
    simp
  sent_once := by
    rw [List.countP_append, h.unsent_before hmove, Nat.zero_add]
    exact List.countP_le_length
  sent_rightly := by
    refine forall_split_append_singleton.mpr ⟨h.sent_rightly, fun pool text answer hdeed => ?_⟩
    cases hmove <;> cases hdeed
    exact ⟨rfl, h.unlocked pool rfl, h.acquired pool (.inr rfl)⟩

end CallSound

/-! ## §4 Taking turns -/

variable {ι : Type} [DecidableEq ι]

theorem deedsOf_append (i : ι) (deeds deeds' : List (ι × Deed)) :
    deedsOf i (deeds ++ deeds') = deedsOf i deeds ++ deedsOf i deeds' :=
  List.filterMap_append

theorem mem_deedsOf {i : ι} {deed : Deed} {deeds : List (ι × Deed)} :
    deed ∈ deedsOf i deeds ↔ (i, deed) ∈ deeds := by
  simp [deedsOf]

theorem deedsOf_singleton_self (i : ι) (deed : Deed) : deedsOf i [(i, deed)] = [deed] := by
  simp [deedsOf]

theorem deedsOf_singleton_of_ne {i j : ι} (deed : Deed) (h : j ≠ i) :
    deedsOf j [(i, deed)] = [] := by
  simp [deedsOf, h.symm]

/-- A pool that is opened finds no other one open. -/
def OpensRightly (earlier : List (ι × Deed)) (deed : ι × Deed) : Prop :=
  ∀ pool, deed.2 = .wire (.opened pool) → ∀ other, ¬ IsOpenAfter (wireEvents earlier) other

/-- **What every turn keeps.** -/
structure Traffic.Sound (programs : ι → String) (t : Traffic ι) : Prop where
  guarded : ∃ current, t.Guarded current ∧ OnlyOpen (wireEvents t.deeds) current
  opens_rightly : ∀ earlier deed later, t.deeds = earlier ++ deed :: later →
    OpensRightly earlier deed
  calls : ∀ i, CallSound (programs i) (t.stage i) (deedsOf i t.deeds)

namespace Traffic.Sound

variable {programs : ι → String} {t : Traffic ι}

theorem initial : Traffic.Sound programs {} where
  guarded := ⟨none, .free rfl rfl fun i => by simp [inside, Stage.isInside], .nil⟩
  opens_rightly := by simp
  calls _ := .initial

theorem step (c : Connection) (net : Network) (h : t.Sound programs) (i : ι) :
    (c.step net programs t i).Sound programs := by
  rw [Connection.step]
  split
  case h_2 => exact h
  case h_1 deed stage hnext =>
    have hmove := Connection.move_of_next? hnext
    obtain ⟨current, hguarded, hopen⟩ := h.guarded
    obtain ⟨current', hguarded', hopen', hopens⟩ := hguarded.move hopen hmove
    refine ⟨⟨current', hguarded', hopen'⟩, ?_, fun j => ?_⟩
    · -- an open pool would be the current one, of which there is none when a pool is opened
      refine forall_split_append_singleton.mpr ⟨h.opens_rightly, fun pool hdeed other hother => ?_⟩
      have hcurrent := (hopen.open_iff other).mp hother
      rw [hopens pool hdeed] at hcurrent
      cases hcurrent
    · rw [deeds_perform, deedsOf_append]
      by_cases hji : j = i
      · subst hji
        rw [deedsOf_singleton_self, stage_perform_self]
        exact (h.calls j).move hmove
      · rw [deedsOf_singleton_of_ne deed hji, List.append_nil, stage_perform_of_ne t _ _ hji]
        exact h.calls j

theorem interleave (c : Connection) (net : Network) (programs : ι → String) (turns : List ι) :
    (c.interleave net programs turns).Sound programs := by
  induction turns using List.reverseRecOn with
  | nil => exact initial
  | append_singleton turns i ih =>
    rw [Connection.interleave, List.foldl_append]
    exact ih.step c net i

end Traffic.Sound

/-- **What is true at every moment** of calls that take turns. -/
structure TrafficLaws (programs : ι → String) (t : Traffic ι) : Prop where
  /-- At most one of the pools that have been opened has not been closed. -/
  one_open : ∀ pool other, IsOpenAfter (wireEvents t.deeds) pool →
    IsOpenAfter (wireEvents t.deeds) other → pool = other
  /-- While nobody has the lock, that pool is in the slot. -/
  slot_open : t.holder = none → ∀ pool, IsOpenAfter (wireEvents t.deeds) pool ↔ t.slot = some pool
  /-- No pool has been opened while another was open. -/
  opened_alone : ∀ earlier i pool later, t.deeds = earlier ++ (i, .wire (.opened pool)) :: later →
    ∀ other, ¬ IsOpenAfter (wireEvents earlier) other
  /-- No call has sent its program more than once, -/
  query_once : ∀ i, (deedsOf i t.deeds).countP Deed.isQuery ≤ 1
  /-- and only after it has acquired the pool itself, and has given back the lock. -/
  query_acquired : ∀ earlier i pool text answer later,
    t.deeds = earlier ++ (i, .wire (.queried pool text answer)) :: later →
      text = programs i ∧ (i, .unlock (.ok pool)) ∈ earlier ∧
        ((i, .wire (.ran pool probeProgram (.ok ()))) ∈ earlier ∨
          (i, .wire (.opened pool)) ∈ earlier)

/-- **At most one open pool.** However many calls take turns on a connection, in whatever order, and
whatever succeeds or fails on the wire: at every moment at most one pool is open. -/
theorem Connection.interleave_onePool (c : Connection) (net : Network) (programs : ι → String)
    (turns : List ι) : TrafficLaws programs (c.interleave net programs turns) := by
  have hsound := Traffic.Sound.interleave c net programs turns
  generalize c.interleave net programs turns = t at hsound
  obtain ⟨current, hguarded, hopen⟩ := hsound.guarded
  refine ⟨fun pool other => hopen.unique, fun hfree pool => ?_,
    fun earlier i pool later hsplit => hsound.opens_rightly earlier _ later hsplit pool rfl,
    fun i => (hsound.calls i).sent_once, fun earlier i pool text answer later hsplit => ?_⟩
  · cases hguarded with
    | free _ hslot => rw [hslot, hopen.open_iff]
    | taken i hholder =>
      rw [hfree] at hholder
      cases hholder
  · -- what has come before in the record has come before in what the call has done
    have hdone : deedsOf i t.deeds =
        deedsOf i earlier ++ .wire (.queried pool text answer) :: deedsOf i later := by
      rw [hsplit, deedsOf_append, ← List.singleton_append, deedsOf_append, deedsOf_singleton_self,
        List.singleton_append]
    obtain ⟨htext, hunlock, hacquired⟩ :=
      (hsound.calls i).sent_rightly _ _ _ hdone pool text answer rfl
    rw [mem_deedsOf] at hunlock
    rw [HasAcquired, mem_deedsOf, mem_deedsOf] at hacquired
    exact ⟨htext, hunlock, hacquired⟩

/-! ## §5 A call on its own -/

/-- How many steps a call has still before it, at most. -/
def Stage.stepsLeft : Stage → Nat
  | .waiting => 8
  | .probing _ => 7
  | .closing _ => 6
  | .clearing => 5
  | .connecting => 4
  | .storing _ => 3
  | .leaving _ => 2
  | .querying _ => 1
  | .finished _ => 0

theorem Move.stepsLeft_lt {c : Connection} {program : String} {slot : Option Nat} {new : Nat}
    {free : Bool} {stage stage' : Stage} {deed : Deed}
    (h : Move c program slot new free stage deed stage') : stage'.stepsLeft < stage.stepsLeft := by
  cases h <;> simp [Stage.stepsLeft]

namespace Connection

variable (c : Connection) (net : Network)

/-- **The rest of a call**, by its stage: what `execute` still does from there. -/
def rest {m : Type → Type} [Monad m] (wire : Wire m) (program : String) :
    Stage → Option Nat → m (Except Error (List Row) × Option Nat)
  | .waiting, slot => c.execute wire program slot
  | .probing pool, _ => c.execute wire program (some pool)
  | .closing pool, _ => do
    wire.close pool
    c.execute wire program none
  | .clearing, _ | .connecting, _ => c.execute wire program none
  | .storing pool, _ => return (c.readAnswer (← wire.query pool program), some pool)
  | .leaving (.ok pool), slot | .querying pool, slot =>
    return (c.readAnswer (← wire.query pool program), slot)
  | .leaving (.error e), slot => return (.error e, slot)
  | .finished result, slot => return (result, slot)

/-- The next step of a call leaves the rest of it to be done. -/
theorem rest_of_next? {program : String} {history : List WireEvent} {slot current : Option Nat}
    {free : Bool} {stage stage' : Stage} {deed : Deed}
    (h : c.next? net program history slot free stage = some (deed, stage'))
    (hcustody : stage.isInside = true → Custody stage slot current) :
    (c.rest net.wire program stage slot).run history =
      (c.rest net.wire program stage' (deed.slotAfter slot)).run
        (history ++ deed.event?.toList) := by
  cases stage with
  | waiting =>
    cases free with
    | false => cases h
    | true => cases slot <;> cases h <;> simp [rest, Deed.event?]
  | probing pool =>
    cases hcustody rfl
    simp only [next?] at h
    split at h <;> cases h
    case h_1 hprobe => exact c.execute_run_ok net program (c.acquire_run_ok net hprobe)
    case h_2 fault hprobe =>
      rw [rest, c.execute_run_lost net program hprobe, List.append_cons]
      rfl
  | closing pool => cases h; rfl
  | clearing => cases h; simp [rest, Deed.event?]
  | connecting =>
    cases hcustody rfl
    simp only [next?] at h
    split at h <;> cases h
    case h_1 hconnect => exact c.execute_run_ok net program (c.openPool_run_ok net hconnect)
    case h_2 fault hconnect =>
      exact c.execute_run_error net program (c.openPool_run_error net hconnect)
  | storing pool => cases h; simp [rest, Deed.slotAfter, Deed.event?]
  | leaving acquired => cases acquired <;> cases h <;> simp [rest, Deed.slotAfter, Deed.event?]
  | querying pool => cases h; rfl
  | finished result => cases h

variable {programs : ι → String} {t : Traffic ι} {i : ι}

/-- A turn of a call does what comes next in `execute`. -/
theorem rest_step (hsound : t.Sound programs) :
    (c.rest net.wire (programs i) (t.stage i) t.slot).run (wireEvents t.deeds) =
      (c.rest net.wire (programs i) ((c.step net programs t i).stage i)
        (c.step net programs t i).slot).run (wireEvents (c.step net programs t i).deeds) := by
  obtain ⟨current, hguarded, -⟩ := hsound.guarded
  rw [step]
  split
  case h_2 => rfl
  case h_1 deed stage hnext =>
    rw [Traffic.deeds_perform, Traffic.stage_perform_self, Traffic.wireEvents_append_singleton]
    exact c.rest_of_next? net hnext fun hinside => (hguarded.of_inside hinside).2.2

/-- If a call has no next step, it has returned, or waits for the lock. -/
theorem stuck_of_next? {program : String} {history : List WireEvent} {slot : Option Nat}
    {free : Bool} {stage : Stage} (h : c.next? net program history slot free stage = none) :
    (∃ result, stage = .finished result) ∨ stage = .waiting ∧ free = false := by
  cases stage with
  | waiting =>
    cases free with
    | false => exact .inr ⟨rfl, rfl⟩
    | true => cases slot <;> cases h
  | probing pool =>
    simp only [next?] at h
    split at h <;> cases h
  | connecting =>
    simp only [next?] at h
    split at h <;> cases h
  | leaving acquired => cases acquired <;> cases h
  | closing | clearing | storing | querying => cases h
  | finished result => exact .inl ⟨result, rfl⟩

theorem exists_finished (n : Nat) (hsteps : (t.stage i).stepsLeft ≤ n)
    (hfree : t.stage i = .waiting → t.holder = none) :
    ∃ result, ((List.replicate n i).foldl (c.step net programs) t).stage i = .finished result := by
  induction n generalizing t with
  | zero =>
    cases hstage : t.stage i with
    | finished result => exact ⟨result, hstage⟩
    | _ =>
      rw [hstage] at hsteps
      cases hsteps
  | succ n ih =>
    rw [List.replicate_succ, List.foldl_cons]
    cases hnext : c.next? net (programs i) (wireEvents t.deeds) t.slot t.holder.isNone
      (t.stage i) with
    | none =>
      rw [step, hnext]
      rcases c.stuck_of_next? net hnext with ⟨result, hresult⟩ | ⟨hwaiting, htaken⟩
      · exact ih (by simp [hresult, Stage.stepsLeft]) hfree
      · rw [hfree hwaiting] at htaken
        cases htaken
    | some next =>
      obtain ⟨deed, stage⟩ := next
      have hfewer := (move_of_next? hnext).stepsLeft_lt
      rw [step, hnext]
      refine ih ?_ fun hwaiting => ?_
      · rw [Traffic.stage_perform_self]
        omega
      · -- no step leads back to waiting, for which the most steps are left
        rw [Traffic.stage_perform_self] at hwaiting
        rw [hwaiting] at hfewer
        cases hstage : t.stage i <;> rw [hstage] at hfewer <;> simp [Stage.stepsLeft] at hfewer

theorem rest_turns (n : Nat) (hsound : t.Sound programs) :
    (c.rest net.wire (programs i) (t.stage i) t.slot).run (wireEvents t.deeds) =
      (c.rest net.wire (programs i)
        (((List.replicate n i).foldl (c.step net programs) t).stage i)
        ((List.replicate n i).foldl (c.step net programs) t).slot).run
        (wireEvents ((List.replicate n i).foldl (c.step net programs) t).deeds) := by
  induction n generalizing t with
  | zero => rfl
  | succ n ih =>
    rw [List.replicate_succ, List.foldl_cons, c.rest_step net hsound]
    exact ih (hsound.step c net i)

/-- **A call on its own** is `execute`: if it takes its steps while no other call does, it has the
same result, leaves the same pool in the slot, and does the same on the wire. -/
theorem execute_alone (hsound : t.Sound programs) (hfree : t.holder = none)
    (hwaiting : t.stage i = .waiting) :
    ∃ result, ((List.replicate 8 i).foldl (c.step net programs) t).stage i = .finished result ∧
      (c.execute net.wire (programs i) t.slot).run (wireEvents t.deeds) =
        ((result, ((List.replicate 8 i).foldl (c.step net programs) t).slot),
          wireEvents ((List.replicate 8 i).foldl (c.step net programs) t).deeds) := by
  obtain ⟨result, hresult⟩ : ∃ result,
      ((List.replicate 8 i).foldl (c.step net programs) t).stage i = .finished result :=
    c.exists_finished net 8 (by simp [hwaiting, Stage.stepsLeft]) fun _ => hfree
  have hrest := c.rest_turns net (i := i) 8 hsound
  rw [hwaiting, hresult] at hrest
  exact ⟨result, hresult, hrest⟩

end Connection

end WebTrip
