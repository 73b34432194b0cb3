/-
  Steppingstone.Net.SessionPool — the session pool of netcore (`SessionPoolImp`,
  `OutputSessionPool`, the close notification of `CellSessionx`).

  A session is opened with two references.  The reader gives one up when the connection ends; the
  other is given up by the thread of the output pool that writes the session, in the pass that finds
  the session in its remove set and in its own set.  The reference that goes last deletes the
  session, and its address may be used again.

  `accept` runs under the mutex of the notifications and is one step; `connect` does not, so the
  reader may end between the input pool and the output pool.  When `handle_input` has returned -1
  the reactor calls `handle_close`, with no lock of the pool.  The map of the input pool is written
  and never read; it is left out.  A write that fails calls `shutdown`, which takes the session out
  of the reactor; that is left out too, so here the reader may go on as it does when it has begun
  already, and the runs of the pool are among those of the model.
-/
import Steppingstone.Lib.TransSys
import Mathlib.Logic.Function.Basic
import Mathlib.Data.List.Basic

namespace Steppingstone.Net.Sessions

/-! ## §1. The pool. -/

/-- A `CellSessionx *`. -/
abbrev Address := Nat

/-- `OutputSessionThreadInfo`, with the `cell_session_set` of the thread's loop. -/
structure OutputThread where
  addCellSessionSet : List Address := []
  removeCellSessionSet : List Address := []
  cellSessionSet : List Address := []
  deriving DecidableEq, Repr

/-- The containers of the pools and what is on its way between their threads. -/
structure State where
  /-- `m_cell_session_map`: the `reference_no` of each session. -/
  referenceNo : Address → Option Int := fun _ => none
  /-- `m_cell_session_map` of the output pool: the thread of each session. -/
  outputMap : Address → Option Nat := fun _ => none
  sessionThreadInfoIndex : Nat := 0
  outputThreads : Nat
  threads : Nat → OutputThread := fun _ => {}
  /-- The sessions that a reactor of the input pool reads. -/
  reading : Address → Bool := fun _ => false
  /-- The sessions, with their numbers, whose `handle_input` has still to return -1. -/
  returning : List (Address × Nat) := []
  /-- The sessions of `connect` that the output pool has not got yet. -/
  connecting : List Address := []
  /-- The sessions between the pool's `sessionOpen` and `sessionClosed`: the `m_session_set` of
  cached. -/
  sessionSet : List Address := []
  /-- Ghost: there is a session at the address, and the number of the last one made there. -/
  alive : Address → Bool := fun _ => false
  born : Address → Nat := fun _ => 0
  next : Nat := 0
  /-- Ghost: the sessions that were deleted. -/
  deleted : List Nat := []
  /-- Ghost: the sessions that were used after that. -/
  dangling : List Nat := []

namespace State

variable (s : State)

/-- The state with another state of an output thread. -/
def setThread (t : Nat) (thread : OutputThread) : State :=
  { s with threads := Function.update s.threads t thread }

/-- The session of that number is at the address. -/
def Intact (p : Address × Nat) : Prop := s.alive p.1 = true ∧ s.born p.1 = p.2

instance (p : Address × Nat) : Decidable (s.Intact p) := inferInstanceAs (Decidable (_ ∧ _))

/-- A member function of the session is called. -/
def use (p : Address × Nat) : State :=
  if s.Intact p then s else { s with dangling := s.dangling ++ [p.2] }

/-! ## §2. Opening. -/

/-- `new CellSessionx` at an address that the allocator has. -/
def newSession (a : Address) : State :=
  { s with
    alive := Function.update s.alive a true
    born := Function.update s.born a s.next
    next := s.next + 1 }

/-- `SessionPoolImp::sessionOpen` up to the output pool: the entry with two references, the notice
to the owner, and `InputSessionPool::handleSession`. -/
def inputHandleSession (a : Address) : State :=
  { s with
    referenceNo := Function.update s.referenceNo a (some 2)
    sessionSet := s.sessionSet.insert a
    reading := Function.update s.reading a true }

/-- `OutputSessionPool::handleSession` -/
def outputHandleSession (a : Address) : State :=
  if s.outputThreads = 0 then s
  else
    let t := s.sessionThreadInfoIndex % s.outputThreads
    let thread := s.threads t
    { s.setThread t { thread with addCellSessionSet := thread.addCellSessionSet.insert a } with
      outputMap := Function.update s.outputMap a (some t)
      sessionThreadInfoIndex := s.sessionThreadInfoIndex + 1 }

/-! ## §3. Closing. -/

/-- `SessionPoolImp::removeSession` -/
def removeSession (a : Address) : State :=
  match s.referenceNo a with
  | none => s
  | some referenceNo =>
      if referenceNo - 1 = 0 then
        let s := s.use (a, s.born a)
        { s with
          deleted := s.deleted ++ [s.born a]
          alive := Function.update s.alive a false
          referenceNo := Function.update s.referenceNo a none }
      else { s with referenceNo := Function.update s.referenceNo a (some (referenceNo - 1)) }

/-- `OutputSessionPool::removeSession` -/
def outputRemoveSession (a : Address) : State :=
  match s.outputMap a with
  | none => s
  | some t =>
      let thread := s.threads t
      { s.setThread t
          { thread with removeCellSessionSet := thread.removeCellSessionSet.insert a } with
        outputMap := Function.update s.outputMap a none }

/-- `SessionPoolImp::sessionClosed` -/
def sessionClosed (a : Address) : State :=
  let s := s.removeSession a
  outputRemoveSession { s with sessionSet := s.sessionSet.filter (· ≠ a) } a

/-- `CellSessionx::rd_stream` comes to -1 and notifies the pool. -/
def readClosed (a : Address) : State :=
  { s with
    reading := Function.update s.reading a false
    returning := s.returning ++ [(a, s.born a)] }.sessionClosed a

/-- `Sessionx::handle_close` -/
def handleClose (p : Address × Nat) : State :=
  let s := s.use p
  { s with returning := s.returning.filter (· ≠ p) }

/-- One session of the remove set in a pass of thread `t`. -/
def letGo (t : Nat) (a : Address) : State :=
  let thread := s.threads t
  let rest := thread.removeCellSessionSet.filter (· ≠ a)
  if a ∈ thread.cellSessionSet then
    (s.setThread t { thread with
      removeCellSessionSet := rest
      cellSessionSet := thread.cellSessionSet.filter (· ≠ a) }).removeSession a
  else s.setThread t { thread with removeCellSessionSet := rest }

/-- The new sessions in a pass of thread `t`. -/
def takeIn (t : Nat) : State :=
  let thread := s.threads t
  s.setThread t { thread with
    addCellSessionSet := []
    cellSessionSet := thread.addCellSessionSet.foldl (fun set a => set.insert a)
      thread.cellSessionSet }

/-- A pass of `OutputSessionPool::svc` under the mutex of the thread's sets. -/
def pass (t : Nat) : State :=
  ((s.threads t).removeCellSessionSet.foldl (fun s a => s.letGo t a) s).takeIn t

/-- `wt_stream` in the loop of thread `t`; what `shutdown` does to the reader is left out. -/
def write (t : Nat) (a : Address) (failed : Bool) : State :=
  let s := s.use (a, s.born a)
  let thread := s.threads t
  if failed then
    s.setThread t { thread with cellSessionSet := thread.cellSessionSet.filter (· ≠ a) }
  else s

end State

/-- What the acceptor, the callers and the threads do. -/
inductive Act where
  /-- The acceptor has made a session, and its `open` notifies the pool. -/
  | accept (a : Address)
  /-- `SessionPoolImp::connect` up to the output pool, and the rest. -/
  | connect (a : Address)
  | connectOutput (a : Address)
  | readClosed (a : Address)
  | handleClose (p : Address × Nat)
  | pass (t : Nat)
  | write (t : Nat) (a : Address) (failed : Bool)
  deriving DecidableEq, Repr

/-- One act, where it can happen. -/
def step (s : State) : Act → Option State
  | .accept a =>
      if s.alive a = false then
        some (((s.newSession a).inputHandleSession a).outputHandleSession a)
      else none
  | .connect a =>
      if s.alive a = false then
        some { (s.newSession a).inputHandleSession a with connecting := a :: s.connecting }
      else none
  | .connectOutput a =>
      if a ∈ s.connecting then
        some ({ s with connecting := s.connecting.filter (· ≠ a) }.outputHandleSession a)
      else none
  | .readClosed a =>
      if s.reading a = true then
        some (s.readClosed a)
      else none
  | .handleClose p => if p ∈ s.returning then some (s.handleClose p) else none
  | .pass t => if t < s.outputThreads then some (s.pass t) else none
  | .write t a failed =>
      if a ∈ (s.threads t).cellSessionSet then some (s.write t a failed) else none

/-- What each act does, and when. -/
inductive Taken (s : State) : Act → State → Prop
  | accept {a : Address} (ha : s.alive a = false) : Taken s (.accept a)
      (((s.newSession a).inputHandleSession a).outputHandleSession a)
  | connect {a : Address} (ha : s.alive a = false) : Taken s (.connect a)
      { (s.newSession a).inputHandleSession a with connecting := a :: s.connecting }
  | connectOutput {a : Address} (ha : a ∈ s.connecting) : Taken s (.connectOutput a)
      ({ s with connecting := s.connecting.filter (· ≠ a) }.outputHandleSession a)
  | readClosed {a : Address} (ha : s.reading a = true) : Taken s (.readClosed a) (s.readClosed a)
  | handleClose {p : Address × Nat} (hp : p ∈ s.returning) :
      Taken s (.handleClose p) (s.handleClose p)
  | pass {t : Nat} (ht : t < s.outputThreads) : Taken s (.pass t) (s.pass t)
  | write {t : Nat} {a : Address} {failed : Bool} (ha : a ∈ (s.threads t).cellSessionSet) :
      Taken s (.write t a failed) (s.write t a failed)

/-- Every step is one of them. -/
theorem taken_of_step {s s' : State} {act : Act} (h : step s act = some s') : Taken s act s' := by
  cases act <;> obtain ⟨hmay, h⟩ := Option.ite_none_right_eq_some.mp h <;>
    obtain rfl := Option.some.inj h
  · exact .accept hmay
  · exact .connect hmay
  · exact .connectOutput hmay
  · exact .readClosed hmay
  · exact .handleClose hmay
  · exact .pass hmay
  · exact .write hmay

/-- The pool with its threads running. -/
def init (outputThreads : Nat) : State := { outputThreads := outputThreads }

/-- The pools, step by step. -/
def poolSystem (outputThreads : Nat) : TransSys State Act where
  init s := s = init outputThreads
  step := step

/-! ## §4. The containers. -/

/-- The output pool has the session for thread `t`. -/
def State.Held (s : State) (t : Nat) (a : Address) : Prop :=
  s.outputMap a = some t ∨ a ∈ (s.threads t).addCellSessionSet ∨
    a ∈ (s.threads t).removeCellSessionSet ∨ a ∈ (s.threads t).cellSessionSet

/-- **What the containers have to do with each other.** -/
structure Shape (s : State) : Prop where
  count : ∀ a, s.referenceNo a =
    if s.alive a = true then if s.reading a = true then some 2 else some 1 else none
  reading : ∀ a, s.reading a = true → s.alive a = true
  sessionSet : ∀ a, a ∈ s.sessionSet ↔ s.reading a = true
  held : ∀ t a, s.Held t a → s.alive a = true
  home : ∀ t t' a, s.Held t a → s.Held t' a → t = t'
  adding : ∀ t a, a ∈ (s.threads t).addCellSessionSet → a ∉ (s.threads t).cellSessionSet
  removing : ∀ t a, a ∈ (s.threads t).removeCellSessionSet →
    s.reading a = false ∧ s.outputMap a = none
  connecting : ∀ a ∈ s.connecting, s.alive a = true ∧ ∀ t, ¬ s.Held t a
  thread : ∀ t a, s.Held t a → t < s.outputThreads
  nodup : ∀ t, (s.threads t).removeCellSessionSet.Nodup

variable {s s' : State} {a : Address} {t : Nat}

/-- It holds at the start. -/
theorem shape_init (n : Nat) : Shape (init n) := by
  refine ⟨?_, ?_, ?_, ?_, ?_, ?_, ?_, ?_, ?_, ?_⟩ <;> simp [init, State.Held]

/-- Using a session that is still there changes nothing. -/
theorem use_of_intact {p : Address × Nat} (hp : s.Intact p) : s.use p = s := if_pos hp

/-- The threads after one was changed. -/
theorem threads_setThread (thread : OutputThread) (t' : Nat) :
    (s.setThread t thread).threads t' = if t' = t then thread else s.threads t' :=
  Function.update_apply ..

/-- A new session is in none of the containers. -/
theorem Shape.newSession (h : Shape s) (ha : s.alive a = false) :
    Shape ((s.newSession a).inputHandleSession a) ∧
      ∀ t, ¬ ((s.newSession a).inputHandleSession a).Held t a := by
  have hnot : ∀ t, ¬ s.Held t a := by
    intro t ht
    have halive := h.held t a ht
    rw [ha] at halive
    cases halive
  refine ⟨?_, hnot⟩
  obtain ⟨h1, h2, h3, h4, h5, h6, h7, h8, h9, h10⟩ := h
  constructor <;> simp only [State.newSession, State.inputHandleSession, State.Held] at * <;>
    grind [Function.update_apply]

/-- A call between its two steps keeps it. -/
theorem Shape.connectInput (h : Shape s) (halive : s.alive a = true) (hnot : ∀ t, ¬ s.Held t a) :
    Shape { s with connecting := a :: s.connecting } := by
  refine ⟨h.count, h.reading, h.sessionSet, h.held, h.home, h.adding, h.removing, ?_, h.thread,
    h.nodup⟩
  exact List.forall_mem_cons.mpr ⟨⟨halive, hnot⟩, h.connecting⟩

/-- Giving a session to a thread keeps it. -/
theorem Shape.outputHandleSession (h : Shape s) (halive : s.alive a = true)
    (hnot : ∀ t, ¬ s.Held t a) (hconnecting : a ∉ s.connecting) :
    Shape (s.outputHandleSession a) := by
  unfold State.outputHandleSession
  by_cases hthreads : s.outputThreads = 0
  · rw [if_pos hthreads]
    exact h
  · rw [if_neg hthreads]
    have hlt := Nat.mod_lt s.sessionThreadInfoIndex (Nat.pos_of_ne_zero hthreads)
    obtain ⟨h1, h2, h3, h4, h5, h6, h7, h8, h9, h10⟩ := h
    constructor <;> simp only [State.setThread, State.Held] at * <;>
      grind [Function.update_apply]

/-- The reader's reference goes and leaves the one of the output pool; the thread of the session, if
it has one, learns of it. -/
theorem Shape.readClosed_eq (h : Shape s) (ha : s.reading a = true) :
    s.readClosed a =
      { s with
        reading := Function.update s.reading a false
        returning := s.returning ++ [(a, s.born a)]
        referenceNo := Function.update s.referenceNo a (some 1)
        sessionSet := s.sessionSet.filter (· ≠ a) }.outputRemoveSession a := by
  have hcount := h.count a
  rw [if_pos (h.reading a ha), if_pos ha] at hcount
  unfold State.readClosed State.sessionClosed State.removeSession
  simp only [hcount]
  rfl

theorem Shape.readClosed (h : Shape s) (ha : s.reading a = true) : Shape (s.readClosed a) := by
  have halive := h.reading a ha
  rw [h.readClosed_eq ha]
  obtain ⟨h1, h2, h3, h4, h5, h6, h7, h8, h9, h10⟩ := h
  unfold State.outputRemoveSession
  split
  · constructor <;> simp only [State.Held] at * <;> grind [Function.update_apply]
  · constructor <;> simp only [State.setThread, State.Held] at * <;>
      grind [Function.update_apply]

theorem Shape.handleClose (h : Shape s) (p : Address × Nat) : Shape (s.handleClose p) := by
  unfold State.handleClose State.use
  split
  · exact ⟨h.count, h.reading, h.sessionSet, h.held, h.home, h.adding, h.removing, h.connecting,
      h.thread, h.nodup⟩
  · exact ⟨h.count, h.reading, h.sessionSet, h.held, h.home, h.adding, h.removing, h.connecting,
      h.thread, h.nodup⟩

/-- The last reference deletes the session. -/
theorem removeSession_last (halive : s.alive a = true) (hcount : s.referenceNo a = some 1) :
    s.removeSession a =
      { s with
        deleted := s.deleted ++ [s.born a]
        alive := Function.update s.alive a false
        referenceNo := Function.update s.referenceNo a none } := by
  unfold State.removeSession
  simp only [hcount, use_of_intact (p := (a, s.born a)) ⟨halive, rfl⟩]
  rfl

/-- A thread that has the session deletes it. -/
theorem Shape.letGo_eq (h : Shape s) (ha : a ∈ (s.threads t).removeCellSessionSet)
    (hcell : a ∈ (s.threads t).cellSessionSet) :
    s.letGo t a =
      { s.setThread t { s.threads t with
          removeCellSessionSet := (s.threads t).removeCellSessionSet.filter (· ≠ a)
          cellSessionSet := (s.threads t).cellSessionSet.filter (· ≠ a) } with
        deleted := s.deleted ++ [s.born a]
        alive := Function.update s.alive a false
        referenceNo := Function.update s.referenceNo a none } := by
  have hcount := h.count a
  have halive := h.held t a (.inr (.inr (.inl ha)))
  rw [if_pos halive, (h.removing t a ha).1, if_neg Bool.false_ne_true] at hcount
  exact (if_pos hcell).trans (removeSession_last halive hcount)

/-- A thread that has not got it, or has it no more, forgets about it. -/
theorem letGo_of_not_mem (hcell : a ∉ (s.threads t).cellSessionSet) :
    s.letGo t a = s.setThread t { s.threads t with
      removeCellSessionSet := (s.threads t).removeCellSessionSet.filter (· ≠ a) } :=
  if_neg hcell

/-- Letting a session go keeps it. -/
theorem Shape.letGo (h : Shape s) (ha : a ∈ (s.threads t).removeCellSessionSet) :
    Shape (s.letGo t a) := by
  have hremoving := h.removing t a ha
  by_cases hcell : a ∈ (s.threads t).cellSessionSet
  · rw [h.letGo_eq ha hcell]
    obtain ⟨h1, h2, h3, h4, h5, h6, h7, h8, h9, h10⟩ := h
    constructor <;> simp only [State.setThread, State.Held] at * <;>
      grind [Function.update_apply]
  · rw [letGo_of_not_mem hcell]
    obtain ⟨h1, h2, h3, h4, h5, h6, h7, h8, h9, h10⟩ := h
    constructor <;> simp only [State.setThread, State.Held] at * <;>
      grind [Function.update_apply]

/-- The set after the added ones were taken in. -/
theorem mem_takeIn (added set : List Address) :
    a ∈ added.foldl (fun set a => set.insert a) set ↔ a ∈ added ∨ a ∈ set := by
  induction added generalizing set with
  | nil => exact (or_iff_right List.not_mem_nil).symm
  | cons b added ih =>
      rw [List.foldl_cons, ih, List.mem_insert_iff, List.mem_cons]
      exact or_left_comm.trans or_assoc.symm

/-- Taking the added ones in keeps it. -/
theorem Shape.takeIn (h : Shape s) (hrest : (s.threads t).removeCellSessionSet = []) :
    Shape (s.takeIn t) := by
  obtain ⟨h1, h2, h3, h4, h5, h6, h7, h8, h9, h10⟩ := h
  constructor <;> simp only [State.takeIn, State.setThread, State.Held] at * <;>
    grind [Function.update_apply, mem_takeIn]

/-- A failed write takes the session out of the thread's set. -/
theorem Shape.write_eq (h : Shape s) (ha : a ∈ (s.threads t).cellSessionSet) (failed : Bool) :
    s.write t a failed = if failed = true then s.setThread t { s.threads t with
      cellSessionSet := (s.threads t).cellSessionSet.filter (· ≠ a) } else s := by
  have hthere : s.Intact (a, s.born a) := ⟨h.held t a (.inr (.inr (.inr ha))), rfl⟩
  unfold State.write
  simp only [use_of_intact hthere]

/-- A write keeps it, failed or not. -/
theorem Shape.write (h : Shape s) (ha : a ∈ (s.threads t).cellSessionSet) (failed : Bool) :
    Shape (s.write t a failed) := by
  rw [h.write_eq ha]
  cases failed with
  | false => exact h
  | true =>
      rw [if_pos rfl]
      obtain ⟨h1, h2, h3, h4, h5, h6, h7, h8, h9, h10⟩ := h
      constructor <;> simp only [State.setThread, State.Held] at * <;>
        grind [Function.update_apply]

/-! ## §5. A pass. -/

theorem threads_removeSession (t : Nat) : (s.removeSession a).threads t = s.threads t := by
  unfold State.removeSession State.use
  repeat' split
  all_goals rfl

/-- A session that is let go leaves the set of those to be removed. -/
theorem letGo_removeSet :
    ((s.letGo t a).threads t).removeCellSessionSet =
      (s.threads t).removeCellSessionSet.filter (· ≠ a) := by
  unfold State.letGo
  dsimp only
  split
  · rw [threads_removeSession, threads_setThread, if_pos rfl]
  · rw [threads_setThread, if_pos rfl]

/-- **A pass**: what each of its removals keeps, and then its additions. -/
theorem Shape.pass_induction {I J : State → Prop} (h : Shape s) (hs : I s)
    (hletGo : ∀ u a, Shape u → a ∈ (u.threads t).removeCellSessionSet → I u → I (u.letGo t a))
    (htakeIn : ∀ u, Shape u → (u.threads t).removeCellSessionSet = [] → I u → J (u.takeIn t)) :
    Shape (s.pass t) ∧ J (s.pass t) := by
  unfold State.pass
  obtain ⟨l, hl⟩ : ∃ l, (s.threads t).removeCellSessionSet = l := ⟨_, rfl⟩
  rw [hl]
  induction l generalizing s with
  | nil => exact ⟨h.takeIn hl, htakeIn s h hl hs⟩
  | cons a l ih =>
      have ha : a ∈ (s.threads t).removeCellSessionSet := hl ▸ List.mem_cons_self
      refine ih (h.letGo ha) (hletGo s a h ha hs) ?_
      -- a set has the session once
      have hnodup := h.nodup t
      rw [hl, List.nodup_cons] at hnodup
      rw [letGo_removeSet, hl, List.filter_cons_of_neg (by simp), List.filter_eq_self]
      intro b hb
      have hne : b ≠ a := fun heq => hnodup.1 (heq ▸ hb)
      exact decide_eq_true hne

/-- Every run keeps the containers in shape. -/
theorem Shape.step {act : Act} (h : Shape s) (hst : step s act = some s') : Shape s' := by
  cases taken_of_step hst with
  | @accept a ha =>
      obtain ⟨hshape, hnot⟩ := h.newSession ha
      refine hshape.outputHandleSession (Function.update_self ..) hnot fun hmem => ?_
      have halive := (h.connecting a hmem).1
      rw [ha] at halive
      cases halive
  | @connect a ha =>
      obtain ⟨hshape, hnot⟩ := h.newSession ha
      exact hshape.connectInput (Function.update_self ..) hnot
  | @connectOutput a ha =>
      obtain ⟨halive, hnot⟩ := h.connecting a ha
      refine Shape.outputHandleSession ?_ halive hnot (by simp)
      refine ⟨h.count, h.reading, h.sessionSet, h.held, h.home, h.adding, h.removing, ?_, h.thread,
        h.nodup⟩
      intro b hb
      exact h.connecting b (List.mem_filter.mp hb).1
  | @readClosed a ha =>
      exact h.readClosed ha
  | @handleClose p _ =>
      exact h.handleClose p
  | @pass t _ =>
      exact (h.pass_induction (I := fun _ => True) (J := fun _ => True) trivial
        (fun _ _ _ _ _ => trivial) fun _ _ _ _ => trivial).1
  | @write t a failed ha =>
      exact h.write ha failed

end Steppingstone.Net.Sessions
