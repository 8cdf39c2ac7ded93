import Mathlib.Data.List.Nodup

set_option autoImplicit false

/-!
# Who holds a backend connection

The proxy's backend connections by connection id: the ids in the pool's idle channel
(oldest first), the pool's dial counter, and the id each session holds.  A connection moves
in five ways only: the idle channel lends its oldest connection to a session, a connection
is dialled for a session, the oldest idle connection is closed, a session hands its
connection back to the idle channel, or a session's connection is closed.

`Exclusive` is what the pool is for: every connection has been dialled, and it is idle or
held by one session, never both and never by two.  Every move keeps it.
-/

namespace TransisiDB.Proxy

/-- The holders of the backend connections, by connection id. -/
@[ext]
structure Ownership where
  idle : List Nat
  counter : Nat
  held : Nat → Option Nat

/-- One move of a backend connection. -/
inductive Move where
  | lend (client : Nat)
  | dial (client : Nat)
  | dropIdle
  | giveBack (client : Nat)
  | close (client : Nat)

namespace Ownership

/-- Replace the entry of one session. -/
def assign (held : Nat → Option Nat) (client : Nat) (entry : Option Nat) : Nat → Option Nat :=
  fun other => if other = client then entry else held other

theorem assign_eq_some {held : Nat → Option Nat} {client : Nat} {entry : Option Nat}
    {other id : Nat} :
    assign held client entry other = some id ↔
      other = client ∧ entry = some id ∨ other ≠ client ∧ held other = some id := by
  unfold assign
  split <;> simp_all

theorem assign_none_eq_some {held : Nat → Option Nat} {client other id : Nat}
    (holds : assign held client none other = some id) : other ≠ client ∧ held other = some id :=
  (assign_eq_some.mp holds).resolve_left fun ⟨_, absent⟩ => Option.noConfusion absent

/-- The holders after one move. -/
def move (o : Ownership) : Move → Ownership
  | .lend client =>
      match o.idle with
      | id :: rest => { o with idle := rest, held := assign o.held client (some id) }
      | [] => o
  | .dial client =>
      { o with counter := o.counter + 1, held := assign o.held client (some (o.counter + 1)) }
  | .dropIdle => { o with idle := o.idle.tail }
  | .giveBack client =>
      match o.held client with
      | some id => { o with idle := o.idle ++ [id], held := assign o.held client none }
      | none => o
  | .close client => { o with held := assign o.held client none }

/-- The holders after a sequence of moves. -/
def moves (o : Ownership) (ms : List Move) : Ownership :=
  ms.foldl move o

@[simp]
theorem moves_nil (o : Ownership) : o.moves [] = o := rfl

@[simp]
theorem moves_cons (o : Ownership) (m : Move) (ms : List Move) :
    o.moves (m :: ms) = (o.move m).moves ms := rfl

theorem moves_append (o : Ownership) (ms more : List Move) :
    o.moves (ms ++ more) = (o.moves ms).moves more :=
  List.foldl_append _ _ _ _

/-- Every connection has been dialled, and is idle or held by one session, never both. -/
structure Exclusive (o : Ownership) : Prop where
  idle_nodup : o.idle.Nodup
  idle_dialled : ∀ id ∈ o.idle, id ≤ o.counter
  held_dialled : ∀ client id, o.held client = some id → id ≤ o.counter
  held_not_idle : ∀ client id, o.held client = some id → id ∉ o.idle
  held_once : ∀ client other id, o.held client = some id → o.held other = some id →
    client = other

namespace Exclusive

variable {o : Ownership}

theorem of_sublist (exclusive : o.Exclusive) {o' : Ownership} (idle : o'.idle.Sublist o.idle)
    (counter : o'.counter = o.counter)
    (held : ∀ client id, o'.held client = some id → o.held client = some id) :
    o'.Exclusive where
  idle_nodup := exclusive.idle_nodup.sublist idle
  idle_dialled id member := counter ▸ exclusive.idle_dialled id (idle.subset member)
  held_dialled client id holds := counter ▸ exclusive.held_dialled client id (held _ _ holds)
  held_not_idle client id holds member :=
    exclusive.held_not_idle client id (held _ _ holds) (idle.subset member)
  held_once client other id holds otherHolds :=
    exclusive.held_once client other id (held _ _ holds) (held _ _ otherHolds)

theorem close (exclusive : o.Exclusive) (client : Nat) : (o.move (.close client)).Exclusive :=
  exclusive.of_sublist (List.Sublist.refl _) rfl fun _ _ holds => (assign_none_eq_some holds).2

theorem dropIdle (exclusive : o.Exclusive) : (o.move .dropIdle).Exclusive :=
  exclusive.of_sublist (List.tail_sublist _) rfl fun _ _ holds => holds

theorem assign_fresh (exclusive : o.Exclusive) {o' : Ownership} {client id : Nat}
    (idle : o'.idle.Sublist o.idle) (counter : o.counter ≤ o'.counter)
    (dialled : id ≤ o'.counter) (notIdle : id ∉ o'.idle)
    (unheld : ∀ other, other ≠ client → o.held other ≠ some id)
    (held : o'.held = assign o.held client (some id)) :
    o'.Exclusive where
  idle_nodup := exclusive.idle_nodup.sublist idle
  idle_dialled other member := (exclusive.idle_dialled other (idle.subset member)).trans counter
  held_dialled other otherId holds := by
    rw [held, assign_eq_some] at holds
    rcases holds with ⟨-, same⟩ | ⟨-, holds⟩
    · cases same
      exact dialled
    · exact (exclusive.held_dialled other otherId holds).trans counter
  held_not_idle other otherId holds member := by
    rw [held, assign_eq_some] at holds
    rcases holds with ⟨-, same⟩ | ⟨-, holds⟩
    · cases same
      exact notIdle member
    · exact exclusive.held_not_idle other otherId holds (idle.subset member)
  held_once first second sharedId firstHolds secondHolds := by
    rw [held, assign_eq_some] at firstHolds secondHolds
    rcases firstHolds with ⟨rfl, same⟩ | ⟨firstOther, firstHolds⟩ <;>
      rcases secondHolds with ⟨rfl, secondSame⟩ | ⟨secondOther, secondHolds⟩
    · rfl
    · cases same; exact absurd secondHolds (unheld second secondOther)
    · cases secondSame; exact absurd firstHolds (unheld first firstOther)
    · exact exclusive.held_once first second sharedId firstHolds secondHolds

theorem lend (exclusive : o.Exclusive) (client : Nat) : (o.move (.lend client)).Exclusive := by
  dsimp only [move]
  split
  · rename_i id rest queued
    have first : id ∈ o.idle := queued ▸ List.mem_cons_self id rest
    refine exclusive.assign_fresh (queued ▸ List.sublist_cons_self id rest) le_rfl
      (exclusive.idle_dialled id first) ?_
      (fun other _ holds => exclusive.held_not_idle other id holds first) rfl
    have nodup := exclusive.idle_nodup
    rw [queued, List.nodup_cons] at nodup
    exact nodup.1
  · exact exclusive

theorem dial (exclusive : o.Exclusive) (client : Nat) : (o.move (.dial client)).Exclusive :=
  exclusive.assign_fresh (List.Sublist.refl _) (Nat.le_succ _) le_rfl
    (fun member => Nat.not_succ_le_self _ (exclusive.idle_dialled _ member))
    (fun other _ holds => Nat.not_succ_le_self _ (exclusive.held_dialled other _ holds)) rfl

theorem giveBack (exclusive : o.Exclusive) (client : Nat) :
    (o.move (.giveBack client)).Exclusive := by
  dsimp only [move]
  split
  · rename_i id holds
    exact {
      idle_nodup := List.nodup_append.mpr ⟨exclusive.idle_nodup, List.nodup_singleton id,
        List.disjoint_singleton.mpr (exclusive.held_not_idle client id holds)⟩
      idle_dialled := fun other member => by
        rcases List.mem_append.mp member with idle | returned
        · exact exclusive.idle_dialled other idle
        · rw [List.mem_singleton.mp returned]
          exact exclusive.held_dialled client id holds
      held_dialled := fun other otherId otherHolds =>
        exclusive.held_dialled other otherId (assign_none_eq_some otherHolds).2
      held_not_idle := fun other otherId otherHolds member => by
        obtain ⟨otherClient, otherHolds⟩ := assign_none_eq_some otherHolds
        rcases List.mem_append.mp member with idle | returned
        · exact exclusive.held_not_idle other otherId otherHolds idle
        · rw [List.mem_singleton.mp returned] at otherHolds
          exact otherClient (exclusive.held_once other client id otherHolds holds)
      held_once := fun first second sharedId firstHolds secondHolds =>
        exclusive.held_once first second sharedId (assign_none_eq_some firstHolds).2
          (assign_none_eq_some secondHolds).2 }
  · exact exclusive

theorem move (exclusive : o.Exclusive) : ∀ m : Move, (o.move m).Exclusive
  | .lend client => exclusive.lend client
  | .dial client => exclusive.dial client
  | .dropIdle => exclusive.dropIdle
  | .giveBack client => exclusive.giveBack client
  | .close client => exclusive.close client

theorem moves (exclusive : o.Exclusive) (ms : List Move) : (o.moves ms).Exclusive := by
  induction ms generalizing o with
  | nil => exact exclusive
  | cons m ms inductionHypothesis => exact inductionHypothesis (exclusive.move m)

end Exclusive

end Ownership

end TransisiDB.Proxy
