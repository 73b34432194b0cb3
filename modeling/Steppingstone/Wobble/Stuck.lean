/-
  Steppingstone.Wobble.Stuck — unsent output and who will send it.

  A session in the role map that has unsent bytes should be in a thread's wobble set, or have a
  packet queued that hands it to the cooler, or be with the cooler.  Two places let it fall out:
  the handlers that write to the client themselves drop the result, and an entry moves a session
  to its role while the wobble set has the temporary guid.
-/
import Steppingstone.Wobble.Routes

namespace Steppingstone.Wobble

open Gate

/-! ## §1. Covered. -/

/-- Somebody will send the output of session `i` under guid `g`, or the session will go. -/
def Covered (s : State) (g : UInt64) (i : SessionId) : Prop :=
  (∃ t, g ∈ s.wobbleGuid t) ∨ (∃ n ∈ s.notices, n.guid = g) ∨ GivenUp s.gate i

/-- **No session in the map has output that nobody will send.** -/
def NoneStuck (s : State) : Prop :=
  ∀ g i, s.gate.roleMap g = some i → 0 < (s.blocks i).length → Covered s g i

/-- The gate's invariant holds and nobody is stuck. -/
structure Sound (s : State) : Prop where
  gate : Inv s.gate
  noneStuck : NoneStuck s

/-- Who is retried stays so when nothing is taken away. -/
theorem Covered.mono {s s' : State} {g : UInt64} {i : SessionId} (h : Covered s g i)
    (hwobble : ∀ t, g ∈ s.wobbleGuid t → g ∈ s'.wobbleGuid t)
    (hnotices : ∀ n ∈ s.notices, n ∈ s'.notices)
    (hcooled : GivenUp s.gate i → GivenUp s'.gate i) : Covered s' g i := by
  obtain ⟨t, ht⟩ | ⟨n, hn, hg⟩ | hgiven := h
  · exact Or.inl ⟨t, hwobble t ht⟩
  · exact Or.inr (Or.inl ⟨n, hnotices n hn, hg⟩)
  · exact Or.inr (Or.inr (hcooled hgiven))

/-- The guid in the data of a session in the map is the one it is under. -/
theorem Sound.roleGuid {s : State} (h : Inv s.gate) {g : UInt64} {i : SessionId}
    (hi : s.gate.roleMap g = some i) : s.roleGuid i = g := by
  obtain ⟨cs, hcs, hguid, _⟩ := h.mapped g i hi
  unfold State.roleGuid
  rw [hcs]
  exact hguid

/-! ## §2. Writes. -/

/-- What a write to session `i` leaves alone. -/
structure Writes (i : SessionId) (s s' : State) : Prop where
  gate : s'.gate = s.gate
  wobbleGuid : s'.wobbleGuid = s.wobbleGuid
  blocks : ∀ j, j ≠ i → s'.blocks j = s.blocks j
  notices : ∀ n ∈ s.notices, n ∈ s'.notices
  wobbleTime : s'.wobbleTime = s.wobbleTime
  queued : ∀ n ∈ s'.notices, n ∈ s.notices ∨ n.opcode = .writeError

/-- Writing to one session leaves the others covered. -/
theorem Writes.covered {i : SessionId} {s s' : State} (h : Writes i s s') {g : UInt64}
    {j : SessionId} (hc : Covered s g j) : Covered s' g j :=
  hc.mono (fun t ht => by rw [h.wobbleGuid]; exact ht) h.notices fun hj => by rw [h.gate]; exact hj

theorem Writes.refl (s : State) (i : SessionId) : Writes i s s :=
  ⟨rfl, rfl, fun _ _ => rfl, fun _ hn => hn, rfl, fun _ hn => Or.inl hn⟩

theorem writes_writeError (s : State) (i : SessionId) (g : UInt64) :
    Writes i s (s.putInputPacket .writeError g) where
  gate := rfl
  wobbleGuid := rfl
  blocks _ _ := rfl
  notices _ hn := List.mem_append_left _ hn
  wobbleTime := rfl
  queued n hn := by
    obtain hold | hnew := List.mem_append.mp hn
    · exact Or.inl hold
    · rw [List.mem_singleton.mp hnew]
      exact Or.inr rfl

theorem writes_setBlock (s : State) (i : SessionId) (b : MsgBlock) : Writes i s (s.setBlock i b) :=
  ⟨rfl, rfl, fun _ hj => Function.update_of_ne hj .., fun _ hn => hn, rfl, fun _ hn => Or.inl hn⟩

theorem Writes.trans {i : SessionId} {s s' t : State} (h : Writes i s s') (h' : Writes i s' t) :
    Writes i s t where
  gate := h'.gate.trans h.gate
  wobbleGuid := h'.wobbleGuid.trans h.wobbleGuid
  blocks j hj := (h'.blocks j hj).trans (h.blocks j hj)
  notices n hn := h'.notices n (h.notices n hn)
  wobbleTime := h'.wobbleTime.trans h.wobbleTime
  queued n hn := (h'.queued n hn).elim (h.queued n) Or.inr

theorem setBlock_self (s : State) (i : SessionId) (b : MsgBlock) : (s.setBlock i b).blocks i = b :=
  Function.update_self ..

/-- A queued write error is in the list. -/
theorem mem_putInputPacket (s : State) (code : NoticeCode) (g : UInt64) :
    ∃ n ∈ (s.putInputPacket code g).notices, n.guid = g :=
  ⟨⟨code, g⟩, List.mem_append_right _ List.mem_cons_self, rfl⟩

/-- A write error is queued when the packet does not fit behind what is there, and that is more
    than half of the block. -/
theorem serialize_writeError (b : MsgBlock) (body : Nat) :
    (serializeToMsgBlock b body).writeError =
      decide (b.space < streamSize body ∧ b.size < b.length * 2) := by
  unfold serializeToMsgBlock
  simp only
  repeat' split
  all_goals rfl

/-- `serializeToMsgBlock` fails only with a write error. -/
theorem serialize_failed {b : MsgBlock} {body : Nat}
    (h : (serializeToMsgBlock b body).result = -1) : (serializeToMsgBlock b body).writeError = true := by
  rw [serialize_writeError, decide_eq_true_eq]
  by_contra hne
  have hok : (serializeToMsgBlock b body).result = 0 := by
    unfold serializeToMsgBlock
    simp only [if_neg hne]
    repeat' split
    all_goals rfl
  rw [hok] at h
  cases h

/-- A socket that takes all of it leaves nothing. -/
theorem sent_all {b : MsgBlock} {r : SendResult} (h : b.length ≤ r.value.toNat) (hb : b.length ≠ 0) :
    (b.sent r).length = 0 := by
  have hpos : 0 < r.value := by omega
  unfold MsgBlock.sent
  rw [if_pos hpos]
  simp only [MsgBlock.length] at h hb ⊢
  omega

/-- How a write can leave no stuck output although its result is not looked at. -/
inductive Settled (s : State) (g : UInt64) (i : SessionId) (body : Nat) (r : SendResult) : Prop
  /-- The socket takes everything. -/
  | all (h : (serializeToMsgBlock (s.blocks i) body).block.length ≤ r.value.toNat)
  /-- The block is too full, and the session is kicked. -/
  | full (h : (serializeToMsgBlock (s.blocks i) body).writeError = true)
  /-- The connection is broken. -/
  | broken (h : r.value < 0 ∧ r.again = false)
  /-- It was recorded before. -/
  | covered (h : Covered s g i)

/-- The packet is in the block, and a write error is queued if that was too full. -/
theorem queued_writes (s : State) (i : SessionId) (g : UInt64) (e : Bool) (b : MsgBlock) :
    Writes i s ((if e = true then s.putInputPacket .writeError g else s).setBlock i b) := by
  split
  · exact (writes_writeError s i g).trans (writes_setBlock _ i b)
  · exact writes_setBlock s i b

/-- A packet writes to one session. -/
theorem handleOutputStream_writes (s : State) (i : SessionId) (g : UInt64) (body : Nat)
    (r : SendResult) : Writes i s (handleOutputStream s i g body r).1 := by
  unfold handleOutputStream
  simp only
  split
  · exact queued_writes ..
  · split
    · exact (queued_writes ..).trans (writes_writeError ..)
    · exact queued_writes ..

/-- **What a write does**: it leaves nothing, reports 1, or queues a write error. -/
theorem handleOutputStream_spec {s : State} (h : Inv s.gate) {g : UInt64} {i : SessionId}
    (hi : s.gate.roleMap g = some i) (body : Nat) (r : SendResult) :
    ((handleOutputStream s i g body r).1.blocks i).length = 0 ∨
      (handleOutputStream s i g body r).2 = 1 ∨
      ∃ n ∈ (handleOutputStream s i g body r).1.notices, n.guid = g := by
  unfold handleOutputStream
  simp only
  split
  · rename_i hzero
    left
    rw [setBlock_self, hzero]
  · split
    · -- a broken connection is reported under the session's own guid
      right; right
      have hsame : ((if (serializeToMsgBlock (s.blocks i) body).writeError = true then
          s.putInputPacket .writeError g else s).setBlock i
            ((serializeToMsgBlock (s.blocks i) body).block.sent r)).roleGuid i = g := by
        unfold State.roleGuid
        rw [(queued_writes ..).gate]
        exact Sound.roleGuid h hi
      rw [hsame]
      exact mem_putInputPacket ..
    · by_cases hfail : (serializeToMsgBlock (s.blocks i) body).result = -1
      · right; right
        rw [if_pos (serialize_failed hfail)]
        exact mem_putInputPacket s .writeError g
      · rw [if_neg hfail]
        by_cases hneg : r.value < 0
        · right; left
          rw [if_pos hneg]
        · rw [if_neg hneg, setBlock_self]
          by_cases hlen : 0 < ((serializeToMsgBlock (s.blocks i) body).block.sent r).length
          · right; left
            rw [if_pos hlen]
          · left
            omega

/-- The same for a write whose result is not looked at. -/
theorem handleOutputStream_settled {s : State} (h : Inv s.gate) {g : UInt64} {i : SessionId}
    (hi : s.gate.roleMap g = some i) {body : Nat} {r : SendResult} (hset : Settled s g i body r) :
    ((handleOutputStream s i g body r).1.blocks i).length = 0 ∨
      Covered (handleOutputStream s i g body r).1 g i := by
  cases hset with
  | covered hc => exact Or.inr ((handleOutputStream_writes ..).covered hc)
  | full hfull =>
      right; right; left
      unfold handleOutputStream
      simp only [hfull, if_true]
      split
      · exact mem_putInputPacket s .writeError g
      · split
        · obtain ⟨n, hn, hg⟩ := mem_putInputPacket s .writeError g
          exact ⟨n, List.mem_append_left _ hn, hg⟩
        · exact mem_putInputPacket s .writeError g
  | broken hbroken =>
      obtain hzero | hone | hnotice := handleOutputStream_spec h hi body r
      · exact Or.inl hzero
      · -- a broken connection does not report 1
        exfalso
        revert hone
        unfold handleOutputStream
        simp only
        split
        · intro hone
          cases hone
        · rw [if_pos ⟨hbroken.1, by simp [hbroken.2]⟩]
          intro hone
          cases hone
      · exact Or.inr (Or.inr (Or.inl hnotice))
  | all hall =>
      left
      unfold handleOutputStream
      simp only
      split
      · rename_i hzero
        rw [setBlock_self, hzero]
      · rename_i hne
        have hsent := sent_all hall hne
        split
        · show ((State.setBlock _ i _).blocks i).length = 0
          rw [setBlock_self, hsent]
        · show ((State.setBlock _ i _).blocks i).length = 0
          rw [setBlock_self, hsent]

/-- A write that leaves its own session covered leaves everything covered. -/
theorem Sound.write {s s' : State} (h : Sound s) {g : UInt64} {i : SessionId}
    (hi : s.gate.roleMap g = some i) (hw : Writes i s s')
    (hres : (s'.blocks i).length = 0 ∨ Covered s' g i) : Sound s' := by
  refine ⟨by rw [hw.gate]; exact h.gate, fun g' j hj hlen => ?_⟩
  rw [hw.gate] at hj
  by_cases hji : j = i
  · subst hji
    obtain rfl : g = g' := h.gate.single hi hj
    exact hres.resolve_left (by omega)
  · rw [hw.blocks j hji] at hlen
    exact hw.covered (h.noneStuck g' j hj hlen)

/-- Writing to a settled session sticks nobody. -/
theorem Sound.writeDirect {s : State} (h : Sound s) {g : UInt64} {body : Nat} {r : SendResult}
    (hset : ∀ i, s.gate.roleMap g = some i → Settled s g i body r) :
    Sound (Wobble.writeDirect s g body r) := by
  unfold Wobble.writeDirect
  split
  · rename_i i hi
    exact h.write hi (handleOutputStream_writes ..)
      (handleOutputStream_settled h.gate hi (hset i hi))
  · exact h

/-! ## §3. Rounds of the wobble set. -/

/-- A session that wobbles is retried. -/
theorem mem_insertWobble (s : State) (t : Nat) (g : UInt64) :
    g ∈ (s.insertWobble t g).wobbleGuid t := by
  unfold State.insertWobble
  split
  · assumption
  · show g ∈ Function.update s.wobbleGuid t (s.wobbleGuid t ++ [g]) t
    rw [Function.update_self]
    exact List.mem_append_right _ List.mem_cons_self

theorem insertWobble_wobbleGuid (s : State) (t : Nat) (g : UInt64) {u : Nat} {g' : UInt64}
    (h : g' ∈ s.wobbleGuid u) : g' ∈ (s.insertWobble t g).wobbleGuid u := by
  unfold State.insertWobble
  split
  · exact h
  · show g' ∈ Function.update s.wobbleGuid t (s.wobbleGuid t ++ [g]) u
    by_cases hu : u = t
    · rw [hu] at h ⊢
      rw [Function.update_self]
      exact List.mem_append_left _ h
    · rwa [Function.update_of_ne hu]

/-- Recording a guid leaves the sessions alone. -/
theorem insertWobble_rest (s : State) (t : Nat) (g : UInt64) :
    (s.insertWobble t g).gate = s.gate ∧ (s.insertWobble t g).blocks = s.blocks ∧
      (s.insertWobble t g).notices = s.notices := by
  unfold State.insertWobble
  split <;> exact ⟨rfl, rfl, rfl⟩

theorem Covered.insertWobble {s : State} {g : UInt64} {i : SessionId} (h : Covered s g i) (t : Nat)
    (g' : UInt64) : Covered (s.insertWobble t g') g i := by
  obtain ⟨hgate, _, hnotices⟩ := insertWobble_rest s t g'
  apply h.mono
  · intro u hu
    exact insertWobble_wobbleGuid s t g' hu
  · intro n hn
    rw [hnotices]
    exact hn
  · intro hgiven
    rw [hgate]
    exact hgiven

theorem wtStream_writes (s : State) (i : SessionId) (r : SendResult) :
    Writes i s (wtStream s i r).1 := by
  unfold wtStream
  simp only
  split
  · exact Writes.refl s i
  · split
    · exact writes_setBlock ..
    · split
      · exact Writes.refl s i
      · exact writes_writeError ..

/-- **What a retry does**: it leaves nothing, reports 1, or queues a write error. -/
theorem wtStream_spec {s : State} (h : Inv s.gate) {g : UInt64} {i : SessionId}
    (hi : s.gate.roleMap g = some i) (r : SendResult) :
    ((wtStream s i r).1.blocks i).length = 0 ∨ (wtStream s i r).2 = 1 ∨
      ∃ n ∈ (wtStream s i r).1.notices, n.guid = g := by
  unfold wtStream
  simp only
  split
  · rename_i hzero
    exact Or.inl hzero
  · split
    · by_cases hlen : ((s.blocks i).sent r).length ≠ 0
      · right; left
        rw [if_pos hlen]
      · left
        rw [setBlock_self]
        -- `crunch` keeps the length
        show (MsgBlock.crunch _).length = 0
        simp only [MsgBlock.crunch, MsgBlock.length, not_not] at hlen ⊢
        omega
    · split
      · exact Or.inr (Or.inl rfl)
      · right; right
        rw [Sound.roleGuid h hi]
        exact mem_putInputPacket ..

/-- Nothing is stuck but the output that is still to be retried. -/
def StuckOnly (rest : List UInt64) (s : State) : Prop :=
  ∀ g i, s.gate.roleMap g = some i → 0 < (s.blocks i).length → g ∈ rest ∨ Covered s g i

/-- A round looks at one guid after the other. -/
theorem retry_sound {s : State} (h : Inv s.gate) (t : Nat) (rs : UInt64 → SendResult)
    {g : UInt64} {rest : List UInt64} (hstuck : StuckOnly (g :: rest) s) :
    (retry t rs s g).gate = s.gate ∧ StuckOnly rest (retry t rs s g) := by
  unfold retry
  split
  · rename_i hnone
    refine ⟨rfl, fun g' i hi hlen => ?_⟩
    obtain hmem | hc := hstuck g' i hi hlen
    · obtain rfl | hrest := List.mem_cons.mp hmem
      · rw [hnone] at hi
        cases hi
      · exact Or.inl hrest
    · exact Or.inr hc
  · rename_i i hi
    have hw := wtStream_writes s i (rs g)
    -- any further change that keeps what covers, and covers `g` when 1 was reported
    have hclose : ∀ s' : State, s'.gate = (wtStream s i (rs g)).1.gate →
        s'.blocks = (wtStream s i (rs g)).1.blocks →
        (∀ g' j, Covered (wtStream s i (rs g)).1 g' j → Covered s' g' j) →
        ((wtStream s i (rs g)).2 = 1 → Covered s' g i) →
        s'.gate = s.gate ∧ StuckOnly rest s' := by
      intro s' hgate hblocks hcov hone
      refine ⟨hgate.trans hw.gate, fun g' j hj hlen => ?_⟩
      rw [hgate, hw.gate] at hj
      rw [hblocks] at hlen
      by_cases hji : j = i
      · subst hji
        obtain rfl : g = g' := h.single hi hj
        right
        obtain hzero | hres | hnotice := wtStream_spec h hi (rs g)
        · omega
        · exact hone hres
        · exact hcov g j (Or.inr (Or.inl hnotice))
      · rw [hw.blocks j hji] at hlen
        obtain hmem | hc := hstuck g' j hj hlen
        · obtain rfl | hrest := List.mem_cons.mp hmem
          · exact absurd (Option.some.inj (hj.symm.trans hi)) hji
          · exact Or.inl hrest
        · exact Or.inr (hcov g' j (hw.covered hc))
    simp only
    split
    · split
      · refine hclose _ rfl rfl (fun g' j hc => ?_) fun _ => ?_
        · exact hc.mono (fun _ hu => hu) (fun n hn => List.mem_append_left _ hn) fun hj => hj
        · exact Or.inr (Or.inl (mem_putInputPacket ..))
      · refine hclose _ (insertWobble_rest ..).1 (insertWobble_rest ..).2.1 (fun g' j hc => ?_)
          fun _ => Or.inl ⟨t, mem_insertWobble ..⟩
        apply Covered.insertWobble
        exact hc.mono (fun _ hu => hu) (fun n hn => hn) fun hj => hj
    · rename_i hne
      exact hclose _ rfl rfl (fun _ _ hc => hc) fun hone => absurd hone hne

/-- A round retries every session of the thread. -/
theorem foldl_retry_sound (t : Nat) (rs : UInt64 → SendResult) (rest : List UInt64) {s : State}
    (h : Inv s.gate) (hstuck : StuckOnly rest s) :
    (rest.foldl (retry t rs) s).gate = s.gate ∧ StuckOnly [] (rest.foldl (retry t rs) s) := by
  induction rest generalizing s with
  | nil => exact ⟨rfl, hstuck⟩
  | cons g rest ih =>
      obtain ⟨hgate, hrest⟩ := retry_sound h t rs hstuck
      obtain ⟨hgate', hdone⟩ := ih (by rw [hgate]; exact h) hrest
      exact ⟨hgate'.trans hgate, hdone⟩

/-- **A round keeps everything covered**: what is taken out of the set is drained, put back, or
    reported. -/
theorem Sound.handleWobbleStream {s : State} (h : Sound s) (t : Nat) (rs : UInt64 → SendResult) :
    Sound (Wobble.handleWobbleStream s t rs) := by
  have hstart : StuckOnly (s.wobbleGuid t)
      { s with wobbleGuid := Function.update s.wobbleGuid t [] } := by
    intro g i hi hlen
    obtain ⟨u, hu⟩ | hc := h.noneStuck g i hi hlen
    · by_cases hut : u = t
      · exact Or.inl (hut ▸ hu)
      · refine Or.inr (Or.inl ⟨u, ?_⟩)
        show g ∈ Function.update s.wobbleGuid t [] u
        rwa [Function.update_of_ne hut]
    · exact Or.inr (Or.inr hc)
  obtain ⟨hgate, hdone⟩ := foldl_retry_sound
    (s := { s with wobbleGuid := Function.update s.wobbleGuid t [] }) t rs (s.wobbleGuid t) h.gate
    hstart
  unfold Wobble.handleWobbleStream
  refine ⟨by rw [hgate]; exact h.gate, fun g i hi hlen => ?_⟩
  exact (hdone g i hi hlen).resolve_left List.not_mem_nil

/-! ## §4. Steps and runs. -/

/-- A step of the role map after which every session in the map was there before, with the same
    output, or is covered. -/
theorem Sound.moveGate {s : State} (h : Sound s) {g' : GateState}
    {new : UInt64 → SessionId → Prop} (hinv : Inv g') (hk : Keeps new s.gate g')
    (hnew : ∀ g i, new g i → 0 < (s.blocks i).length → Covered s g i) :
    Sound { s with gate := g' } := by
  refine ⟨hinv, fun g i hi hlen => ?_⟩
  have hc : Covered s g i := by
    obtain hold | hcome := hk.mapped g i hi
    · exact h.noneStuck g i hold hlen
    · exact hnew g i hcome hlen
  exact hc.mono (fun _ ht => ht) (fun _ hn => hn) (hk.cooled i)

/-- The steps of the role map that bring nobody anywhere. -/
def Quiet : Gate.Act → Prop
  | .connect | .advance _ _ | .expire _ => False
  | _ => True

theorem quiet_keeps {s s' : GateState} {a : Gate.Act} (hq : Quiet a) (h : Inv s)
    (hs : Gate.step s a = some s') :
    Inv s' ∧ Keeps (fun _ _ => False) s s' := by
  have hfree : Free s a := by
    cases a with
    | advance => exact hq.elim
    | _ => trivial
  refine ⟨Gate.step_inv h hfree hs, gateStep_keeps hs ?_ ?_ ?_⟩
  · intro he
    exact (he ▸ hq : Quiet .connect)
  · intro j found he
    exact (he ▸ hq : Quiet (.advance j found))
  · intro i he
    exact (he ▸ hq : Quiet (.expire i))

/-- A quiet step of the gate sticks nobody. -/
theorem Sound.gateStep {s s' : State} (h : Sound s) {a : Gate.Act} (hq : Quiet a)
    (hs : s.gateStep a = some s') : Sound s' := by
  obtain ⟨g', hg', rfl⟩ := Option.map_eq_some_iff.mp hs
  obtain ⟨hinv, hk⟩ := quiet_keeps hq h.gate hg'
  exact h.moveGate hinv hk fun _ _ hnew => hnew.elim

theorem Sound.onGate {s : State} (h : Sound s) {a : Gate.Act} (hq : Quiet a) :
    Sound (s.onGate a) := by
  match hg : Gate.step s.gate a with
  | none =>
      have hsame : s.onGate a = s := by
        unfold State.onGate
        rw [hg]
        rfl
      rwa [hsame]
  | some g' =>
      have hstep : s.gateStep a = some (s.onGate a) := by
        unfold State.gateStep State.onGate
        rw [hg]
        rfl
      exact h.gateStep hq hstep

/-- How a write stands after a quiet step is how it stood before. -/
theorem settled_onGate {s : State} (h : Sound s) {a : Gate.Act} (hq : Quiet a) {g : UInt64}
    {body : Nat} {r : SendResult}
    (hset : ∀ i, s.gate.roleMap g = some i → Settled s g i body r) (i : SessionId)
    (hi : (s.onGate a).gate.roleMap g = some i) : Settled (s.onGate a) g i body r := by
  have hk : Keeps (fun _ _ => False) s.gate (s.onGate a).gate := by
    show Keeps _ s.gate ((Gate.step s.gate a).getD s.gate)
    match hg : Gate.step s.gate a with
    | none => exact Keeps.refl s.gate
    | some g' => exact (quiet_keeps hq h.gate hg).2
  cases hset i (hk.old hi) with
  | all hall => exact .all hall
  | full hfull => exact .full hfull
  | broken hbroken => exact .broken hbroken
  | covered hc =>
      exact .covered (hc.mono (fun _ ht => ht) (fun _ hn => hn) (hk.cooled i))

/-- A handler that puts what is under the guid into the cooler. -/
theorem drop_givenUp {s s' : GateState} (h : Inv s) {g : UInt64} {i : SessionId} {notFound : Bool}
    (hi : s.roleMap g = some i) (hs : Gate.step s (.drop g notFound) = some s') : GivenUp s' i := by
  obtain ⟨i', hi', rfl⟩ := Option.map_eq_some_iff.mp hs
  obtain rfl : i = i' := Option.some.inj (hi.symm.trans hi')
  obtain ⟨cs, hcs, _⟩ := h.mapped g i hi
  exact givenUp_putClientSession (modify_sessions hcs)

/-- The packets that the handlers of `handleOutputPackage` write themselves. -/
def Output.direct : Output → Bool
  | .playerMake _ | .requestPlayerList _ | .loopback | .jumpMap _ true => true
  | _ => false

/-- The condition on a step: a write whose result is dropped is settled otherwise, and a session
    that comes to its role has nothing to send or is covered there already. -/
def Recorded (s : State) : Act → Prop
  | .output _ p guid body r =>
      p.direct = true → ∀ i, s.gate.roleMap guid = some i → Settled s guid i body r
  | .enterMap guid role _ =>
      ∀ i, Enters s.gate guid role i → 0 < (s.blocks i).length → Covered s role i
  | _ => True

/-- A packet whose outcome is recorded sticks nobody. -/
theorem Sound.output {s : State} (h : Sound s) (t : Nat) {p : Output} {guid : UInt64} {body : Nat}
    {r : SendResult} (hrec : Recorded s (.output t p guid body r)) :
    Sound (if (handleOutputPackage s p guid body r).2 = 1 then
      (handleOutputPackage s p guid body r).1.insertWobble t guid
      else (handleOutputPackage s p guid body r).1) := by
  cases p with
  | playerMake info =>
      exact (h.onGate (a := .roleList guid (some info)) trivial).writeDirect
        (settled_onGate (a := .roleList guid (some info)) h trivial (hrec rfl))
  | requestPlayerList info =>
      exact (h.onGate (a := .roleList guid info) trivial).writeDirect
        (settled_onGate (a := .roleList guid info) h trivial (hrec rfl))
  | jumpMap mapId found =>
      cases found with
      | false => exact h.onGate (a := .jumpMap guid mapId false) trivial
      | true =>
          exact (h.onGate (a := .jumpMap guid mapId true) trivial).writeDirect
            (settled_onGate (a := .jumpMap guid mapId true) h trivial (hrec rfl))
  | loopback => exact h.writeDirect (hrec rfl)
  | kickOff => exact h.onGate (a := .drop guid false) trivial
  | leaveMap => exact h
  | other =>
      unfold handleOutputPackage
      simp only
      split
      · rename_i i hi
        have hw := handleOutputStream_writes s i guid body r
        -- here the result is looked at
        by_cases hone : (handleOutputStream s i guid body r).2 = 1
        · rw [if_pos hone]
          obtain ⟨hgate, hblocks, _⟩ :=
            insertWobble_rest (handleOutputStream s i guid body r).1 t guid
          refine ⟨by rw [hgate, hw.gate]; exact h.gate, fun g j hj hlen => ?_⟩
          rw [hgate, hw.gate] at hj
          rw [hblocks] at hlen
          by_cases hji : j = i
          · subst hji
            obtain rfl : guid = g := h.gate.single hi hj
            exact Or.inl ⟨t, mem_insertWobble ..⟩
          · rw [hw.blocks j hji] at hlen
            exact (hw.covered (h.noneStuck g j hj hlen)).insertWobble t guid
        · rw [if_neg hone]
          apply h.write hi hw
          obtain hzero | hres | hnotice := handleOutputStream_spec h.gate hi body r
          · exact Or.inl hzero
          · exact absurd hres hone
          · exact Or.inr (Or.inr (Or.inl hnotice))
      · exact h

/-- A notice is taken out of its list, and its session goes to the cooler. -/
theorem Sound.notice {s : State} (h : Sound s) {k : Nat} {n : Notice} (hn : s.notices[k]? = some n) :
    Sound ({ s with notices := s.notices.eraseIdx k }.onGate (.drop n.guid false)) := by
  have hleft : ∀ n' ∈ s.notices, n'.guid ≠ n.guid → n' ∈ s.notices.eraseIdx k := by
    intro n' hn' hne
    obtain ⟨j, hj⟩ := List.mem_iff_getElem?.mp hn'
    have hjk : j ≠ k := by
      intro he
      rw [he, hn] at hj
      exact hne (congrArg Notice.guid (Option.some.inj hj).symm)
    exact List.mem_eraseIdx_iff_getElem?.mpr ⟨j, hjk, hj⟩
  match hg : Gate.step s.gate (.drop n.guid false) with
  | none =>
      -- nobody is under the guid any more
      have hnone : s.gate.roleMap n.guid = none := by
        simpa [Gate.step] using hg
      show Sound { s with
        notices := s.notices.eraseIdx k,
        gate := (Gate.step s.gate (.drop n.guid false)).getD s.gate }
      rw [hg]
      refine ⟨h.gate, fun g i hi hlen => ?_⟩
      replace hi : s.gate.roleMap g = some i := hi
      obtain hw | ⟨n', hn', hg'⟩ | hgiven := h.noneStuck g i hi hlen
      · exact Or.inl hw
      · refine Or.inr (Or.inl ⟨n', hleft n' hn' ?_, hg'⟩)
        intro he
        rw [← he, hg', hi] at hnone
        cases hnone
      · exact Or.inr (Or.inr hgiven)
  | some g' =>
      obtain ⟨hinv, hk⟩ := quiet_keeps (a := .drop n.guid false) trivial h.gate hg
      show Sound { s with
        notices := s.notices.eraseIdx k,
        gate := (Gate.step s.gate (.drop n.guid false)).getD s.gate }
      rw [hg]
      refine ⟨hinv, fun g i hi hlen => ?_⟩
      have hold : s.gate.roleMap g = some i := hk.old hi
      obtain hw | ⟨n', hn', hg'⟩ | hgiven := h.noneStuck g i hold hlen
      · exact Or.inl hw
      · by_cases he : n'.guid = n.guid
        · have hmapped : s.gate.roleMap n.guid = some i := by rw [← he, hg', hold]
          exact Or.inr (Or.inr (drop_givenUp h.gate hmapped hg))
        · exact Or.inr (Or.inl ⟨n', hleft n' hn' he, hg'⟩)
      · exact Or.inr (Or.inr (hk.cooled i hgiven))

/-- A refused client gets an error and goes to the cooler, whatever becomes of the error. -/
theorem Sound.authFailed {s : State} (h : Sound s) (guid : UInt64) (body : Nat) (r : SendResult) :
    Sound ((Wobble.writeDirect s guid body r).onGate (.drop guid false)) := by
  match hmap : s.gate.roleMap guid with
  | none =>
      have hsame : Wobble.writeDirect s guid body r = s := by
        unfold Wobble.writeDirect
        rw [hmap]
      rw [hsame]
      exact h.onGate (a := .drop guid false) trivial
  | some i =>
      have hwrite : Wobble.writeDirect s guid body r = (handleOutputStream s i guid body r).1 := by
        unfold Wobble.writeDirect
        rw [hmap]
      have hw := handleOutputStream_writes s i guid body r
      rw [hwrite]
      match hg : Gate.step s.gate (.drop guid false) with
      | none =>
          have hnone : s.gate.roleMap guid = none := by simpa [Gate.step] using hg
          rw [hmap] at hnone
          cases hnone
      | some g' =>
          obtain ⟨hinv, hk⟩ := quiet_keeps (a := .drop guid false) trivial h.gate hg
          have hgate : ((handleOutputStream s i guid body r).1.onGate (.drop guid false)).gate = g' := by
            show (Gate.step (handleOutputStream s i guid body r).1.gate _).getD _ = g'
            rw [hw.gate, hg]
            rfl
          refine ⟨by rw [hgate]; exact hinv, fun g j hj hlen => ?_⟩
          rw [hgate] at hj
          have hold : s.gate.roleMap g = some j := hk.old hj
          by_cases hji : j = i
          · rw [hji]
            exact Or.inr (Or.inr (by rw [hgate]; exact drop_givenUp h.gate hmap hg))
          · replace hlen : 0 < ((handleOutputStream s i guid body r).1.blocks j).length := hlen
            rw [hw.blocks j hji] at hlen
            have hc := hw.covered (h.noneStuck g j hold hlen)
            refine hc.mono ?_ ?_ ?_
            · exact fun _ ht => ht
            · exact fun _ hn => hn
            · rw [hw.gate, hgate]
              exact hk.cooled j

theorem Sound.connect {s s' : State} (h : Sound s) {size : Nat}
    (hs : step size s .connect = some s') : Sound s' := by
  unfold step at hs
  obtain ⟨s₁, hs₁, rfl⟩ := Option.map_eq_some_iff.mp hs
  obtain ⟨g', hg', rfl⟩ := Option.map_eq_some_iff.mp hs₁
  have hinv : Inv g' := Gate.step_inv (a := .connect) h.gate trivial hg'
  have hk := connect_keeps h.gate hg'
  refine ⟨hinv, fun g i hi hlen => ?_⟩
  replace hlen : 0 < (Function.update s.blocks s.gate.next { size := size } i).length := hlen
  by_cases hnew : i = s.gate.next
  · -- a new block is empty
    rw [hnew, Function.update_self] at hlen
    simp [MsgBlock.length] at hlen
  · rw [Function.update_of_ne hnew] at hlen
    have hold : s.gate.roleMap g = some i := (hk.mapped g i hi).resolve_right hnew
    exact (h.noneStuck g i hold hlen).mono (fun _ ht => ht) (fun _ hn => hn) (hk.cooled i)

theorem Sound.expire {s s' : State} (h : Sound s) {i : SessionId}
    (hs : s.gateStep (.expire i) = some s') : Sound s' := by
  obtain ⟨g', hg', rfl⟩ := Option.map_eq_some_iff.mp hs
  have hinv : Inv g' := Gate.step_inv (a := .expire i) h.gate trivial hg'
  refine ⟨hinv, fun g j hj hlen => ?_⟩
  replace hg' : (if i ∈ s.gate.cleaned then _ else none) = some g' := hg'
  split at hg'
  case isFalse => cases hg'
  rename_i hclean
  obtain rfl := Option.some.inj hg'
  -- a closed session is not in the map
  obtain ⟨_, _, _, hopen⟩ := h.gate.mapped g j hj
  have hji : j ≠ i := fun he => hopen (he ▸ hclean)
  refine (h.noneStuck g j hj hlen).mono (fun _ ht => ht) (fun _ hn => hn) fun hgiven => ?_
  obtain ⟨cs, hcs, hflag⟩ := hgiven
  refine ⟨cs, ?_, hflag⟩
  show Function.update s.gate.sessions i none j = some cs
  rw [Function.update_of_ne hji, hcs]

/-- **Every recorded step** keeps unsent output covered. -/
theorem step_sound {size : Nat} {s s' : State} {a : Act} (h : Sound s) (hrec : Recorded s a)
    (hs : step size s a = some s') : Sound s' := by
  cases a with
  | connect => exact h.connect hs
  | enterMap guid role found =>
      obtain rfl := Option.some.inj hs
      apply h.moveGate (inv_handleEnterMap h.gate guid role found)
        (handleEnterMap_keeps h.gate guid role found)
      intro g i hnew hlen
      rw [hnew.1]
      exact hrec i hnew.2 hlen
  | drop guid notFound => exact h.gateStep (a := .drop guid notFound) trivial hs
  | dropSession i => exact h.gateStep (a := .dropSession i) trivial hs
  | cleanPlayerInfo guid => exact h.gateStep (a := .cleanPlayerInfo guid) trivial hs
  | authFailed guid body r =>
      obtain rfl := Option.some.inj hs
      exact h.authFailed guid body r
  | notice k =>
      obtain ⟨n, hn, rfl⟩ := Option.map_eq_some_iff.mp hs
      exact h.notice hn
  | output t p guid body r =>
      obtain rfl := Option.some.inj hs
      exact h.output t hrec
  | wobbleStream t rs =>
      obtain rfl := Option.some.inj hs
      exact h.handleWobbleStream t rs
  | close i => exact h.gateStep (a := .close i) trivial hs
  | expire i => exact h.expire hs

/-- **Nothing is stuck** in the states that runs of recorded steps reach. -/
theorem reachable_noneStuck {size : Nat} {s : State}
    (h : (system size).ReachableWhen Recorded s) : NoneStuck s := by
  have hsound : Sound s := by
    refine TransSys.ReachableWhen.invariant h ?_ ?_
    · intro s hs
      obtain rfl : s = init := hs
      refine ⟨inv_init, fun g i hi => ?_⟩
      cases hi
    · intro s a s' hinv hrec hst
      exact step_sound hinv hrec hst
  exact hsound.noneStuck

/-! ## §5. The wobble time. -/

/-- No round is counted, and no session is reported for wobbling. -/
def Untimed (s : State) : Prop :=
  (∀ i, s.wobbleTime i = 0) ∧ ∀ n ∈ s.notices, n.opcode = .writeError

theorem Untimed.writes {s s' : State} {i : SessionId} (h : Untimed s) (hw : Writes i s s') :
    Untimed s' := by
  refine ⟨fun j => ?_, fun n hn => ?_⟩
  · rw [hw.wobbleTime]
    exact h.1 j
  · obtain hold | hnew := hw.queued n hn
    · exact h.2 n hold
    · exact hnew

theorem Untimed.insertWobble {s : State} (h : Untimed s) (t : Nat) (g : UInt64) :
    Untimed (s.insertWobble t g) := by
  unfold State.insertWobble
  split <;> exact h

/-- A session that is retried in vain is back at 0 before the next round. -/
theorem Untimed.retry {s : State} (h : Untimed s) (t : Nat) (rs : UInt64 → SendResult) (g : UInt64) :
    Untimed (Wobble.retry t rs s g) := by
  unfold Wobble.retry
  split
  · exact h
  · rename_i i _
    have hw := h.writes (wtStream_writes s i (rs g))
    simp only
    split
    · have hone : ((wtStream s i (rs g)).1.setWobbleTime i
          ((wtStream s i (rs g)).1.wobbleTime i + 1)).wobbleTime i = 1 := by
        show Function.update _ i _ i = 1
        rw [Function.update_self, hw.1 i]
      rw [if_neg (by omega)]
      have hzero : Untimed (((wtStream s i (rs g)).1.setWobbleTime i
          ((wtStream s i (rs g)).1.wobbleTime i + 1)).setWobbleTime i 0) := by
        refine ⟨fun j => ?_, hw.2⟩
        show Function.update (Function.update _ i _) i 0 j = 0
        by_cases hji : j = i
        · rw [hji, Function.update_self]
        · rw [Function.update_of_ne hji, Function.update_of_ne hji]
          exact hw.1 j
      exact hzero.insertWobble t g
    · exact hw

theorem Untimed.writeDirect {s : State} (h : Untimed s) (g : UInt64) (body : Nat) (r : SendResult) :
    Untimed (Wobble.writeDirect s g body r) := by
  unfold Wobble.writeDirect
  split
  · exact h.writes (handleOutputStream_writes ..)
  · exact h

theorem Untimed.output {s : State} (h : Untimed s) (p : Output) (g : UInt64) (body : Nat)
    (r : SendResult) : Untimed (handleOutputPackage s p g body r).1 := by
  cases p with
  | playerMake info => exact Untimed.writeDirect (s := s.onGate _) h g body r
  | requestPlayerList info => exact Untimed.writeDirect (s := s.onGate _) h g body r
  | jumpMap mapId found =>
      cases found with
      | false => exact h
      | true => exact Untimed.writeDirect (s := s.onGate _) h g body r
  | loopback => exact h.writeDirect g body r
  | kickOff => exact h
  | leaveMap => exact h
  | other =>
      unfold handleOutputPackage
      simp only
      split
      · exact h.writes (handleOutputStream_writes ..)
      · exact h

/-- **No step** counts a wobble. -/
theorem step_untimed {size : Nat} {s s' : State} {a : Act} (h : Untimed s)
    (hs : step size s a = some s') : Untimed s' := by
  have hgate : ∀ {a : Gate.Act} {t : State}, s.gateStep a = some t → Untimed t := by
    intro a t ht
    obtain ⟨g', _, rfl⟩ := Option.map_eq_some_iff.mp ht
    exact h
  cases a with
  | connect =>
      unfold step at hs
      obtain ⟨t, ht, rfl⟩ := Option.map_eq_some_iff.mp hs
      refine ⟨fun j => ?_, (hgate ht).2⟩
      show Function.update t.wobbleTime s.gate.next 0 j = 0
      by_cases hj : j = s.gate.next
      · rw [hj, Function.update_self]
      · rw [Function.update_of_ne hj]
        exact (hgate ht).1 j
  | enterMap guid role found =>
      obtain rfl := Option.some.inj hs
      exact h
  | drop guid notFound => exact hgate (a := .drop guid notFound) hs
  | dropSession i => exact hgate (a := .dropSession i) hs
  | cleanPlayerInfo guid => exact hgate (a := .cleanPlayerInfo guid) hs
  | authFailed guid body r =>
      obtain rfl := Option.some.inj hs
      exact h.writeDirect guid body r
  | notice k =>
      obtain ⟨n, _, rfl⟩ := Option.map_eq_some_iff.mp hs
      exact ⟨h.1, fun n' hn' => h.2 n' (List.mem_of_mem_eraseIdx hn')⟩
  | output t p guid body r =>
      obtain rfl := Option.some.inj hs
      have hout := h.output p guid body r
      show Untimed (if (handleOutputPackage s p guid body r).2 = 1 then
        (handleOutputPackage s p guid body r).1.insertWobble t guid
        else (handleOutputPackage s p guid body r).1)
      by_cases hone : (handleOutputPackage s p guid body r).2 = 1
      · rw [if_pos hone]
        exact hout.insertWobble t guid
      · rw [if_neg hone]
        exact hout
  | wobbleStream t rs =>
      obtain rfl := Option.some.inj hs
      have hround : ∀ (rest : List UInt64) (s : State), Untimed s →
          Untimed (rest.foldl (Wobble.retry t rs) s) := by
        intro rest
        induction rest with
        | nil => exact fun s hs => hs
        | cons g rest ih => exact fun s hs => ih _ (hs.retry t rs g)
      exact hround _ _ h
  | close i => exact hgate (a := .close i) hs
  | expire i => exact hgate (a := .expire i) hs

/-- **Nobody is given up for wobbling**: the count is cleared in every round that counts it, so
    `GMSG_CLIENT_WOBBLE` is never sent, and a client that takes nothing is retried for ever. -/
theorem reachable_untimed {size : Nat} {s : State} (h : (system size).Reachable s) : Untimed s := by
  refine TransSys.ReachableWhen.invariant h ?_ ?_
  · intro s hs
    obtain rfl : s = init := hs
    exact ⟨fun _ => rfl, fun _ hn => absurd hn List.not_mem_nil⟩
  · intro s a s' hinv _ hst
    exact step_untimed hinv hst

/-! ## §6. Stuck clients. -/

/-- What the socket says when it has room for `n` bytes. -/
def room (n : Nat) : SendResult := ⟨n, false⟩

/-- The role of the runs below. -/
def player : AccountRoleInfo := ⟨72057594037927941, 7, 1⟩

/-- A client whose packets are all looked at: a player list that goes out whole, a packet that
    stops half way and is retried, and an entry with nothing left to send. -/
def drainedRun : List Act :=
  [.connect, .output 0 (.requestPlayerList (some player)) 1 20 (room 24),
    .output 0 .other 1 10 (room 5), .wobbleStream 0 fun _ => room 9, .enterMap 1 player.guid true]

theorem noneStuck_drainedRun :
    ∃ s, (system 8192).run init drainedRun = some s ∧
      s.gate.roleMap player.guid = some 0 ∧ NoneStuck s := by
  obtain ⟨s, hs⟩ : ∃ s, (system 8192).run init drainedRun = some s := ⟨_, rfl⟩
  refine ⟨s, hs, ?_, ?_⟩
  · obtain rfl := Option.some.inj hs
    rfl
  · refine reachable_noneStuck (TransSys.reachableWhen_of_run rfl ?_ hs)
    refine ⟨trivial, _, rfl, ?_, _, rfl, ?_, _, rfl, trivial, _, rfl, ?_, _, rfl, trivial⟩
    · intro _ i hi
      obtain rfl : 0 = i := Option.some.inj hi
      exact .all (by decide)
    · intro hdirect
      cases hdirect
    · intro i hi hlen
      obtain rfl : 0 = i := Option.some.inj hi.1
      exact absurd hlen (by decide)

/-- A loopback reply stops half way. -/
def loopbackRun : List Act := [.connect, .output 0 .loopback 1 10 (room 5)]

/-- A packet stops half way, and the client enters the game before it is retried. -/
def enterRun : List Act :=
  [.connect, .output 0 (.requestPlayerList (some player)) 1 20 (room 24),
    .output 0 .other 1 10 (room 5), .enterMap 1 player.guid true, .wobbleStream 0 fun _ => room 9]

theorem output_stuck :
    (∃ s, (system 8192).run init loopbackRun = some s ∧ ¬ NoneStuck s) ∧
      ∃ s, (system 8192).run init enterRun = some s ∧ ¬ NoneStuck s := by
  refine ⟨⟨_, rfl, fun h => ?_⟩, ⟨_, rfl, fun h => ?_⟩⟩
  · obtain ⟨t, ht⟩ | ⟨n, hn, _⟩ | ⟨cs, hcs, hflag⟩ := h 1 0 rfl (by decide)
    · cases ht
    · cases hn
    · obtain rfl := Option.some.inj hcs
      cases hflag
  · obtain ⟨t, ht⟩ | ⟨n, hn, _⟩ | ⟨cs, hcs, hflag⟩ := h player.guid 0 rfl (by decide)
    · replace ht : player.guid ∈ Function.update (Function.update (fun _ => []) 0 [1]) 0 [] t := ht
      by_cases h0 : t = 0
      · rw [h0, Function.update_self] at ht
        cases ht
      · rw [Function.update_of_ne h0, Function.update_of_ne h0] at ht
        cases ht
    · cases hn
    · obtain rfl := Option.some.inj hcs
      cases hflag

end Steppingstone.Wobble
