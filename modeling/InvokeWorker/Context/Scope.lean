import InvokeWorker.Time.Instant

/-!
# Cancellation scopes

A *scope* is what is cancelled together: by a request, or because its deadline has passed, or
because its parent was cancelled. A scope created below another has the earlier of the two
deadlines, is attached to its parent while both are live, and runs a timer until its deadline.
Timers may fire late, so whoever reads a scope's state looks at the clock first.

The scopes form a tree, kept as a list in the order of their creation; a scope is known by its
position (`ScopeTree`). Cancelling a scope reaches every live scope attached below it, one after
the other (`ScopeTree.cancelAll`), and takes it off its parent's list.
-/

namespace InvokeWorker

/-- Why a scope is cancelled. -/
inductive Reason where
  /-- It was asked to. -/
  | cancelled
  /-- Its deadline has passed. -/
  | deadlineExceeded
  deriving DecidableEq, Repr

/-- The wording of a reason. -/
def Reason.message : Reason → Text
  | .cancelled => "context canceled"
  | .deadlineExceeded => "context deadline exceeded"

/-- The state of a scope. -/
structure Scope where
  /-- The scope it was created below. -/
  parent : Option Nat
  /-- The deadline, its own or an ancestor's. -/
  deadline : Option Instant
  /-- Why it is cancelled, if it is. -/
  reason : Option Reason
  /-- Whether those who wait for its cancellation have been woken. -/
  signalled : Bool
  /-- The live scopes created below it. -/
  children : List Nat
  /-- Whether its timer is running. -/
  timer : Bool
  deriving DecidableEq, Repr

namespace Scope

/-- A scope that is not cancelled, neither attached nor timed. -/
def fresh (parent : Option Nat) (deadline : Option Instant) : Scope :=
  ⟨parent, deadline, none, false, [], false⟩

/-- A live scope has no reason to be cancelled. -/
def isLive (s : Scope) : Bool :=
  s.reason.isNone

/-- The scope after its cancellation. -/
def cancelled (s : Scope) (reason : Reason) : Scope :=
  { s with reason := some reason, signalled := true, children := [], timer := false }

/-- The scope without one of its children. -/
def without (s : Scope) (child : Nat) : Scope :=
  { s with children := s.children.filter (· ≠ child) }

/-- Whether a deadline has passed. -/
def isDue (s : Scope) (now : Int) : Bool :=
  match s.deadline with
  | none => false
  | some t => t.millis ≤ now

end Scope

/-- The scopes created so far. -/
structure ScopeTree where
  /-- The scopes in the order of their creation. -/
  scopes : List Scope
  deriving DecidableEq, Repr, Inhabited

namespace ScopeTree

/-- No scope. -/
def empty : ScopeTree := ⟨[]⟩

/-- The state of a scope. -/
def get? (tree : ScopeTree) (id : Nat) : Option Scope :=
  tree.scopes[id]?

/-- How many scopes of a list are live. -/
def liveCount (scopes : List Scope) : Nat :=
  scopes.countP Scope.isLive

/-- Takes a scope off the list of its parent. -/
def detach (parent : Option Nat) (child : Nat) (scopes : List Scope) : List Scope :=
  match parent with
  | none => scopes
  | some p => match scopes[p]? with
    | none => scopes
    | some s => scopes.set p (s.without child)

theorem liveCount_set_lt {scopes : List Scope} {id : Nat} {s t : Scope}
    (found : scopes[id]? = some s) (live : s.isLive) (dead : t.isLive = false) :
    liveCount (scopes.set id t) < liveCount scopes := by
  obtain ⟨inside, rfl⟩ := List.getElem?_eq_some_iff.1 found
  have : 0 < List.countP Scope.isLive scopes :=
    List.countP_pos_iff.2 ⟨_, List.getElem_mem inside, live⟩
  simp only [liveCount, List.countP_set inside, live, dead, if_true, Bool.false_eq_true, if_false]
  omega

theorem liveCount_detach (parent : Option Nat) (child : Nat) (scopes : List Scope) :
    liveCount (detach parent child scopes) = liveCount scopes := by
  cases parent with
  | none => rfl
  | some p =>
    cases found : scopes[p]? with
    | none => simp [detach, found]
    | some s =>
      obtain ⟨inside, rfl⟩ := List.getElem?_eq_some_iff.1 found
      have same : (scopes[p].without child).isLive = scopes[p].isLive := rfl
      simp only [detach, found, liveCount, List.countP_set inside, same]
      split
      · have : 0 < List.countP Scope.isLive scopes :=
          List.countP_pos_iff.2 ⟨_, List.getElem_mem inside, by assumption⟩
        omega
      · omega

/-- Cancels the pending scopes, and with each live one the scopes attached below it. -/
def cancelAll (reason : Reason) (pending : List Nat) (scopes : List Scope) : List Scope :=
  match pending with
  | [] => scopes
  | id :: rest =>
    match _found : scopes[id]? with
    | none => cancelAll reason rest scopes
    | some s =>
      if _live : s.isLive then
        cancelAll reason (s.children ++ rest)
          (detach s.parent id (scopes.set id (s.cancelled reason)))
      else cancelAll reason rest scopes
termination_by (liveCount scopes, pending.length)
decreasing_by
  · exact Prod.Lex.right _ (by simp)
  · exact Prod.Lex.left _ _ (by
      rw [liveCount_detach]
      exact liveCount_set_lt _found _live rfl)
  · exact Prod.Lex.right _ (by simp)

/-- Cancels a scope and all that is attached below it, unless it is cancelled already. -/
def cancel (tree : ScopeTree) (id : Nat) (reason : Reason) : ScopeTree :=
  ⟨cancelAll reason [id] tree.scopes⟩

/-- Changes the state of a scope. -/
def modify (tree : ScopeTree) (id : Nat) (f : Scope → Scope) : ScopeTree :=
  ⟨tree.scopes.modify id f⟩

/-- The earlier of a deadline and that of an ancestor. -/
def earlier (ancestor own : Option Instant) : Option Instant :=
  match ancestor, own with
  | none, own => own
  | some a, none => some a
  | some a, some b => if a < b then some a else some b

/-- The deadline of a scope, none if there is no such scope. -/
def deadlineOf (tree : ScopeTree) (id : Option Nat) : Option Instant :=
  id.bind fun id => (tree.get? id).bind (·.deadline)

/-- Attaches a scope to its parent; if that is cancelled, the scope is cancelled for the same
    reason. -/
def attach (tree : ScopeTree) (parent : Option Nat) (id : Nat) : ScopeTree :=
  match parent with
  | none => tree
  | some p => match tree.get? p with
    | none => tree
    | some s => match s.reason with
      | none => tree.modify p fun s => { s with children := s.children ++ [id] }
      | some reason => tree.cancel id reason

/-- Starts the timer of a scope with a deadline; one whose deadline has passed is cancelled. -/
def startTimer (tree : ScopeTree) (id : Nat) (now : Int) : ScopeTree :=
  match tree.get? id with
  | none => tree
  | some s =>
    if s.deadline.isNone then tree
    else if s.isDue now then tree.cancel id .deadlineExceeded
    else if s.isLive then tree.modify id fun s => { s with timer := true }
    else tree

/-- Creates a scope, below a parent or as a root, and returns its position. -/
def create (tree : ScopeTree) (parent : Option Nat) (deadline : Option Instant) (now : Int) :
    ScopeTree × Nat :=
  let id := tree.scopes.length
  let scope := Scope.fresh parent (earlier (tree.deadlineOf parent) deadline)
  ((attach ⟨tree.scopes ++ [scope]⟩ parent id).startTimer id now, id)

/-- Cancels a scope whose deadline has passed, for those who are about to read its state. -/
def refresh (tree : ScopeTree) (id : Nat) (now : Int) : ScopeTree :=
  match tree.get? id with
  | none => tree
  | some s => if s.isLive && s.isDue now then tree.cancel id .deadlineExceeded else tree

/-- Whether those who wait for the cancellation of a scope have been woken. -/
def isSignalled (tree : ScopeTree) (id : Nat) : Bool :=
  ((tree.get? id).map (·.signalled)).getD false

/-- Why a scope is cancelled, if it is. -/
def reasonOf (tree : ScopeTree) (id : Nat) : Option Reason :=
  (tree.get? id).bind (·.reason)

/-- Whether a timer runs and is due. -/
def timerDue (tree : ScopeTree) (now : Int) (id : Nat) : Bool :=
  match tree.get? id with
  | none => false
  | some s => s.timer && s.isDue now

/-- Fires the timers of some scopes in order, those of them that run and are due. -/
def fire (tree : ScopeTree) (now : Int) (ids : List Nat) : ScopeTree :=
  ids.foldl (fun tree id => if tree.timerDue now id then tree.cancel id .deadlineExceeded else tree)
    tree

/-- The scopes whose timers are due, the earliest deadline first. -/
def due (tree : ScopeTree) (now : Int) : List Nat :=
  ((List.range tree.scopes.length).filter (tree.timerDue now)).mergeSort fun a b =>
    match tree.deadlineOf (some a), tree.deadlineOf (some b) with
    | some s, some t => s.millis ≤ t.millis
    | _, _ => true

end ScopeTree

end InvokeWorker
