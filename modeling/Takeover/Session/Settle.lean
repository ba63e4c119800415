/-
# Takeover.Session.Settle -- until nothing can run

Tasks have their turns in the order of the queue until it is empty.  This comes
to an end because every turn leaves less work (`Session.turn_less`).

`settle_eq_of_queue_eq_nil` and `settle_oneTurn` unfold it.
-/
import Takeover.Session.Work

namespace Takeover.Session

set_option autoImplicit false

variable {setup : Setup}

/-- Give the tasks in the queue their turns until nothing can run at this time. -/
def settle (s : Session setup) : Session setup :=
  match _ : s.cluster.queue with
  | [] => s
  | task :: rest => settle ((s.withQueue rest).turn task)
termination_by (s.callWork, s.cluster.readingWork, s.cluster.dispatchWork, s.cluster.queue.length)
decreasing_by
  rename_i queue
  rcases s.turn_less queue with h | ⟨h, h' | ⟨h', h'' | ⟨h'', h'''⟩⟩⟩
  · exact Prod.Lex.left _ _ h
  · rw [h]; exact Prod.Lex.right _ (Prod.Lex.left _ _ h')
  · rw [h, h']; exact Prod.Lex.right _ (Prod.Lex.right _ (Prod.Lex.left _ _ h''))
  · rw [h, h', h'']; exact Prod.Lex.right _ (Prod.Lex.right _ (Prod.Lex.right _ h'''))

/-- Have one turn, if there is one to be had. -/
def oneTurn (s : Session setup) : Session setup :=
  match s.cluster.queue with
  | [] => s
  | task :: rest => (s.withQueue rest).turn task

theorem oneTurn_of_nil {s : Session setup} (h : s.cluster.queue = []) : s.oneTurn = s := by
  rw [oneTurn, h]

theorem oneTurn_of_cons {s : Session setup} {task : Task setup} {rest : List (Task setup)}
    (h : s.cluster.queue = task :: rest) : s.oneTurn = (s.withQueue rest).turn task := by
  rw [oneTurn, h]

theorem settle_eq_of_queue_eq_nil {s : Session setup} (h : s.cluster.queue = []) :
    s.settle = s := by
  rw [settle]; split <;> simp_all

theorem settle_oneTurn (s : Session setup) : s.oneTurn.settle = s.settle := by
  unfold oneTurn
  split
  · rfl
  · rename_i task rest h
    rw [settle.eq_def s]
    split
    · simp_all
    · rename_i h'
      obtain ⟨rfl, rfl⟩ := List.cons.inj (h.symm.trans h')
      rfl

/-- A settled session has an empty queue. -/
theorem queue_settle (s : Session setup) : s.settle.cluster.queue = [] := by
  fun_induction settle s with
  | case1 s h => exact h
  | case2 s task rest h ih => exact ih

end Takeover.Session
