import Mathlib.Tactic.ByContra
import WebTrip.Connection.Network

/-!
# Open pools

Which pools are open after something more has happened on a wire. Opening adds the new pool, closing
takes one away, and nothing else changes which pools are open.

## Main definitions

- `OnlyOpen`: no pool is open but this one, if there is one

## Main statements

- `OnlyOpen.opened`, `OnlyOpen.closed`, `OnlyOpen.quiet`: what is open after one more event
-/

namespace WebTrip

/-- Whether an event leaves it as it is which pools are open. -/
def WireEvent.isQuiet : WireEvent → Bool
  | .opened _ | .closed _ => false
  | .refused _ | .ran _ _ _ | .queried _ _ _ => true

/-- Only openings use up numbers of pools. -/
theorem newPool_append (history events : List WireEvent) :
    newPool (history ++ events) = newPool history + newPool events :=
  List.countP_append

/-- **The only open pool.** A pool is open exactly if it is the given one; if none is given, none is
open. The pools in the record are older than the next one. -/
structure OnlyOpen (history : List WireEvent) (pool? : Option Nat) : Prop where
  known : ∀ pool, .opened pool ∈ history ∨ .closed pool ∈ history → pool < newPool history
  open_iff : ∀ pool, IsOpenAfter history pool ↔ pool? = some pool

namespace OnlyOpen

variable {history : List WireEvent}

theorem nil : OnlyOpen [] none where
  known := by simp
  open_iff := by simp [IsOpenAfter]

theorem mem_append_opened {pool new : Nat} :
    (.opened pool ∈ history ++ [.opened new] ↔ .opened pool ∈ history ∨ pool = new) ∧
      (.closed pool ∈ history ++ [.opened new] ↔ .closed pool ∈ history) := by
  simp

theorem mem_append_closed {pool old : Nat} :
    (.opened pool ∈ history ++ [.closed old] ↔ .opened pool ∈ history) ∧
      (.closed pool ∈ history ++ [.closed old] ↔ .closed pool ∈ history ∨ pool = old) := by
  simp

theorem mem_append_quiet {event : WireEvent} (hquiet : event.isQuiet = true) (pool : Nat) :
    (.opened pool ∈ history ++ [event] ↔ .opened pool ∈ history) ∧
      (.closed pool ∈ history ++ [event] ↔ .closed pool ∈ history) := by
  cases event with
  | opened | closed => cases hquiet
  | _ => simp

/-- A pool that is opened is a new one, and becomes the only open one. -/
theorem opened (h : OnlyOpen history none) :
    OnlyOpen (history ++ [.opened (newPool history)]) (some (newPool history)) := by
  have hnew : newPool (history ++ [.opened (newPool history)]) = newPool history + 1 :=
    newPool_append history _
  -- the new pool has not been closed, as the record does not know it
  have hunknown : .closed (newPool history) ∉ history :=
    fun hmem => absurd (h.known _ (.inr hmem)) (Nat.lt_irrefl _)
  have hnone : ∀ pool, ¬ IsOpenAfter history pool := fun pool hpool => by
    cases (h.open_iff pool).mp hpool
  refine ⟨fun pool hpool => ?_, fun pool => ?_⟩
  · rw [mem_append_opened.1, mem_append_opened.2] at hpool
    have hknown := h.known pool
    rw [hnew]
    grind
  · have hpool := hnone pool
    rw [IsOpenAfter, mem_append_opened.1, mem_append_opened.2, Option.some.injEq]
    rw [IsOpenAfter] at hpool
    grind

/-- Behind the only open pool, if it is closed, none is open. -/
theorem closed {old : Nat} (h : OnlyOpen history (some old)) :
    OnlyOpen (history ++ [.closed old]) none := by
  have hopen : IsOpenAfter history old := (h.open_iff old).mpr rfl
  have hnew : newPool (history ++ [.closed old]) = newPool history := newPool_append history _
  refine ⟨fun pool hpool => ?_, fun pool => ?_⟩
  · rw [mem_append_closed.1, mem_append_closed.2] at hpool
    rw [hnew]
    rcases hpool with hopened | hclosed | rfl
    · exact h.known pool (.inl hopened)
    · exact h.known pool (.inr hclosed)
    · exact h.known pool (.inl hopen.1)
  · rw [IsOpenAfter, mem_append_closed.1, mem_append_closed.2]
    have hiff := h.open_iff pool
    rw [IsOpenAfter, Option.some.injEq] at hiff
    grind

theorem quiet {pool? : Option Nat} (h : OnlyOpen history pool?) {event : WireEvent}
    (hquiet : event.isQuiet = true) : OnlyOpen (history ++ [event]) pool? := by
  have hnew : newPool (history ++ [event]) = newPool history := by
    cases event with
    | opened | closed => cases hquiet
    | _ => exact newPool_append history _
  refine ⟨fun pool hpool => ?_, fun pool => ?_⟩
  · rw [(mem_append_quiet hquiet pool).1, (mem_append_quiet hquiet pool).2] at hpool
    rw [hnew]
    exact h.known pool hpool
  · rw [IsOpenAfter, (mem_append_quiet hquiet pool).1, (mem_append_quiet hquiet pool).2]
    exact h.open_iff pool

/-- Two open pools are one. -/
theorem unique {pool? : Option Nat} (h : OnlyOpen history pool?) {pool pool' : Nat}
    (hpool : IsOpenAfter history pool) (hpool' : IsOpenAfter history pool') : pool = pool' :=
  Option.some.inj (((h.open_iff pool).mp hpool).symm.trans ((h.open_iff pool').mp hpool'))

/-- A pool that has been opened is the only open one, or it has been closed. -/
theorem closed_of_ne {pool? : Option Nat} (h : OnlyOpen history pool?) {pool : Nat}
    (hopened : .opened pool ∈ history) (hne : pool? ≠ some pool) : .closed pool ∈ history := by
  by_contra hclosed
  exact hne ((h.open_iff pool).mp ⟨hopened, hclosed⟩)

end OnlyOpen

end WebTrip
