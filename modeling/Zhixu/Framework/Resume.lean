import Mathlib.Order.Basic
import Mathlib.Data.List.Basic
import Mathlib.Data.Int.Order.Basic

/-!
# Resuming a numbered stream

A consumer of a stream whose elements are numbered within sessions keeps a
cursor, and after an interruption asks for everything behind it. What it must
never lose is an element it was handed and did not finish: those behind the
cursor come again, those up to the cursor do not.

`Covers received handled session cursor` says that the cursor is safe: every
element of the session received so far with a number up to the cursor has been
handled. The rules below are the moves of such a consumer. It may receive an
element beyond the cursor (`receive_ahead`), or one of another session
(`receive_other`). It may handle anything (`handle`). It may advance the cursor
to an element it handles when it skips no element received before (`advance`).
It may start a session it has seen nothing of (`fresh`).

`not_covers` is the converse: a cursor on an element received and not handled is
unsafe.
-/

namespace Framework

/-- Every element of the session received up to the cursor has been handled. -/
def Covers {σ : Type*} (received handled : List (σ × Int)) (session : σ) (cursor : Int) : Prop :=
  ∀ n ≤ cursor, (session, n) ∈ received → (session, n) ∈ handled

namespace Covers

variable {σ : Type*} {received handled : List (σ × Int)} {session : σ} {cursor : Int}

/-- A lower cursor is safe when a higher one is. -/
theorem mono (h : Covers received handled session cursor) {c : Int} (hc : c ≤ cursor) :
    Covers received handled session c :=
  fun n hn hmem => h n (hn.trans hc) hmem

theorem handle (h : Covers received handled session cursor) (e : σ × Int) :
    Covers received (e :: handled) session cursor :=
  fun n hn hmem => List.mem_cons_of_mem e (h n hn hmem)

theorem receive_other (h : Covers received handled session cursor) {other : σ}
    (hne : other ≠ session) (m : Int) :
    Covers ((other, m) :: received) handled session cursor := by
  intro n hn hmem
  rcases List.mem_cons.mp hmem with heq | hold
  · exact absurd (Prod.mk.inj heq).1.symm hne
  · exact h n hn hold

theorem receive_ahead (h : Covers received handled session cursor) {m : Int} (hm : cursor < m) :
    Covers ((session, m) :: received) handled session cursor := by
  intro n hn hmem
  rcases List.mem_cons.mp hmem with heq | hold
  · have heq' : n = m := (Prod.mk.inj heq).2
    exact absurd (heq' ▸ hn) (not_le.mpr hm)
  · exact h n hn hold

/-- **Advancing the cursor** to an element that is handled, over no element received
before. -/
theorem advance (h : Covers received handled session cursor) {handled' : List (σ × Int)}
    (hmore : handled ⊆ handled') {m : Int} (hm : (session, m) ∈ handled')
    (hgap : ∀ n, cursor < n → n < m → (session, n) ∉ received) :
    Covers ((session, m) :: received) handled' session m := by
  intro n hn hmem
  rcases List.mem_cons.mp hmem with heq | hold
  · rw [heq]
    exact hm
  · rcases lt_or_ge cursor n with hbeyond | hwithin
    · rcases lt_or_eq_of_le hn with hbefore | hlast
      · exact absurd hold (hgap n hbeyond hbefore)
      · rw [hlast]
        exact hm
    · exact hmore (h n hwithin hold)

/-- A session nothing was received of starts safely, wherever its cursor stands. -/
theorem fresh (hnone : ∀ n, (session, n) ∉ received) {m : Int} (hm : (session, m) ∈ handled) :
    Covers ((session, m) :: received) handled session m := by
  intro n _ hmem
  rcases List.mem_cons.mp hmem with heq | hold
  · rw [heq]
    exact hm
  · exact absurd hold (hnone n)

end Covers

theorem not_covers {σ : Type*} {received handled : List (σ × Int)} {session : σ} {cursor : Int}
    (hreceived : (session, cursor) ∈ received) (hmissed : (session, cursor) ∉ handled) :
    ¬ Covers received handled session cursor :=
  fun h => hmissed (h cursor le_rfl hreceived)

end Framework
