/-
  Steppingstone.CrossServer.Agreement — the online servers are those that can be reached.

  Registering writes the two tables one after the other, and so does the end of a session.  As long
  as every session names one server, no line reports another one's end, and a session is not closed
  while its packets are read, both tables name the same servers whenever neither is being written.
-/
import Steppingstone.CrossServer.Model

namespace Steppingstone.CrossServer

/-! ## §1. The tables. -/

namespace Table

variable {α : Type} {t : Table α} {key key' : List Char} {a : α}

/-- The keys are different. -/
def Keyed (t : Table α) : Prop := (t.map (·.1)).Nodup

theorem find_of_mem (h : t.Keyed) (hm : (key, a) ∈ t) : t.find key = some a := by
  induction t with
  | nil => cases hm
  | cons e t ih =>
      obtain ⟨hnot, hkeyed⟩ := List.nodup_cons.mp h
      unfold find
      by_cases he : e.1 = key
      · rw [List.find?_cons_of_pos (by simpa using he)]
        obtain rfl | hm := List.mem_cons.mp hm
        · rfl
        · have hin : e.1 ∈ t.map (·.1) := he ▸ List.mem_map_of_mem (f := (·.1)) hm
          exact absurd hin hnot
      · rw [List.find?_cons_of_neg (by simpa using he)]
        obtain rfl | hm := List.mem_cons.mp hm
        · exact absurd rfl he
        · exact ih hkeyed hm

theorem mem_of_find (h : t.find key = some a) : (key, a) ∈ t := by
  unfold find at h
  obtain ⟨e, he, rfl⟩ := Option.map_eq_some_iff.mp h
  have hkey : e.1 = key := by simpa using List.find?_some he
  rw [← hkey]
  exact List.mem_of_find?_eq_some he

theorem find_erase : (t.erase key).find key' = if key' = key then none else t.find key' := by
  unfold find erase
  rw [List.find?_filter]
  by_cases hk : key' = key
  · rw [if_pos hk, List.find?_eq_none.mpr]
    · rfl
    · intro e _
      simp [hk]
  · rw [if_neg hk]
    congr 2
    funext e
    by_cases he : e.1 = key'
    · simp [he, hk]
    · simp [he]

theorem find_insert :
    (t.insert key a).find key' = if key' = key then some ((t.find key).getD a) else t.find key' := by
  unfold insert
  by_cases hk : key' = key
  · subst hk
    rw [if_pos rfl]
    cases hfind : t.find key' with
    | some b =>
        rw [Option.isSome_some, if_pos rfl, hfind]
        rfl
    | none =>
        have hnone : List.find? (fun e => decide (e.1 = key')) t = none := by
          unfold find at hfind
          exact Option.map_eq_none_iff.mp hfind
        rw [if_neg (by simp)]
        unfold find
        rw [List.find?_append, hnone]
        simp
  · rw [if_neg hk]
    split
    · rfl
    · unfold find
      rw [List.find?_append]
      have hother : List.find? (fun e => decide (e.1 = key')) [(key, a)] = none := by
        simp [Ne.symm hk]
      rw [hother, Option.or_none]

theorem Keyed.erase (h : t.Keyed) (key : List Char) : (t.erase key).Keyed :=
  List.Nodup.sublist (List.Sublist.map _ List.filter_sublist) h

theorem Keyed.insert (h : t.Keyed) (key : List Char) (a : α) : (t.insert key a).Keyed := by
  unfold Table.insert
  split
  · exact h
  · next hnone =>
      unfold Keyed
      rw [List.map_append]
      refine List.nodup_append.mpr ⟨h, List.pairwise_singleton _ _, ?_⟩
      intro k hk k' hk' he
      obtain rfl := List.mem_singleton.mp hk'
      obtain ⟨e, hin, rfl⟩ := List.mem_map.mp hk
      apply hnone
      rw [← he, find_of_mem h (a := e.2) hin]
      rfl

end Table

/-! ## §2. What the sessions do. -/

variable (owner : SessionId → Server)

/-- Every session registers for one server, and no line reports the end of another. -/
def Msg.Own (session : SessionId) : Msg → Prop
  | .register server => ∀ v ∈ server, v.key = (owner session).key
  | .disconnect server => server = none
  | .other _ => True

instance (session : SessionId) : (m : Msg) → Decidable (m.Own owner session)
  | .register none => .isTrue fun v h => absurd h (Option.not_mem_none v)
  | .register (some v) =>
      decidable_of_iff (v.key = (owner session).key)
        ⟨fun h _ hv => Option.mem_some.mp hv ▸ h, fun h => h v rfl⟩
  | .disconnect none => .isTrue rfl
  | .disconnect (some _) => .isFalse nofun
  | .other _ => .isTrue trivial

/-- Packets are read before the end of their session, and the end is not reported while one of them
is being read. -/
def Meets (s : State) : Action → Prop
  | .receive session m => s.closed session = false ∧ m.Own owner session
  | .close session => ∀ i ∈ s.input, i.1 ≠ session
  | _ => True

instance (s : State) (a : Action) : Decidable (Meets owner s a) := by
  cases a <;> simp only [Meets] <;> infer_instance

/-! ## §3. Both tables. -/

/-- A registration that has reached the first table and not yet the second. -/
def State.Underway (s : State) (key : List Char) : Prop :=
  ∃ session v ph, s.input = some (session, .register (some v), ph) ∧ ph ≠ .received ∧ v.key = key

/-- **The invariant** of the two tables and of what is under way between them. -/
structure Agreed (s : State) : Prop where
  keyed : s.sessionInfo.Keyed
  /-- An entry is that of a session that registered, and is open or being reported. -/
  entry : ∀ key info, s.sessionInfo.find key = some info →
    info.server.key = key ∧ (owner info.session).key = key ∧ s.validated info.session = true ∧
      (s.closed info.session = true → ∃ c ∈ s.closing, c.session = info.session)
  /-- The packet that is read is of an open session; what it registered is there. -/
  input : ∀ session m ph, s.input = some (session, m, ph) →
    s.closed session = false ∧ m.Own owner session ∧
      ∀ v, m = .register (some v) → ph ≠ .received →
        ∃ info, s.sessionInfo.find v.key = some info ∧ info.session = session
  /-- The entry that is being taken out is still there. -/
  closing : ∀ c ∈ s.closing, c.server.key = c.key ∧ (owner c.session).key = c.key ∧
    s.closed c.session = true ∧
      ∃ info, s.sessionInfo.find c.key = some info ∧ info.session = c.session
  /-- The two tables. -/
  online : ∀ key, (s.online.find key).isSome = true → (s.sessionInfo.find key).isSome = true
  reached : ∀ key, (s.sessionInfo.find key).isSome = true →
    (s.online.find key).isSome = true ∨ s.Underway key

variable {owner} {s s' : State}

theorem agreed_init : Agreed owner {} where
  keyed := List.nodup_nil
  entry := by
    intro key info h
    cases h
  input := by
    intro session m ph h
    cases h
  closing := by
    intro c h
    cases h
  online := by
    intro key h
    cases h
  reached := by
    intro key h
    cases h

/-! ## §4. One step. -/

/-- A packet begins to be read. -/
theorem Agreed.receive (h : Agreed owner s) (hidle : s.input = none) {session : SessionId} {m : Msg}
    (hopen : s.closed session = false) (hown : m.Own owner session) :
    Agreed owner { s with input := some (session, m, .received) } where
  keyed := h.keyed
  entry := h.entry
  input := by
    intro session' m' ph hi
    obtain ⟨rfl, rfl, rfl⟩ : session = session' ∧ m = m' ∧ Phase.received = ph := by
      simpa using hi
    exact ⟨hopen, hown, fun v _ hph => absurd rfl hph⟩
  closing := h.closing
  online := h.online
  reached := by
    intro key hkey
    obtain hon | ⟨_, _, _, hi, -⟩ := h.reached key hkey
    · exact .inl hon
    · exact absurd (hidle.symm.trans hi) (Option.some_ne_none _).symm

/-- **A registration** reaches the first table. -/
theorem Agreed.collect (h : Agreed owner s) {session : SessionId} {v : Server}
    (hi : s.input = some (session, .register (some v), .received)) (hfree : s.PoolFree) :
    Agreed owner
      { s with
        sessionInfo := (s.sessionInfo.erase v.key).insert v.key
          { session, server := v, validated := true }
        validated := Function.update s.validated session true
        input := some (session, .register (some v), .registered) } := by
  obtain ⟨hopen, hown, -⟩ := h.input _ _ _ hi
  have hkey : v.key = (owner session).key := hown v rfl
  -- what is found afterwards
  have hfind : ∀ key, ((s.sessionInfo.erase v.key).insert v.key
      { session, server := v, validated := true }).find key
        = if key = v.key then some { session, server := v, validated := true }
          else s.sessionInfo.find key := by
    intro key
    rw [Table.find_insert, Table.find_erase, if_pos rfl]
    by_cases hk : key = v.key
    · rw [if_pos hk, if_pos hk]
      rfl
    · rw [if_neg hk, if_neg hk, Table.find_erase, if_neg hk]
  refine ⟨(h.keyed.erase _).insert _ _, ?_, ?_, ?_, ?_, ?_⟩
  · intro key info hf
    dsimp only at hf
    rw [hfind] at hf
    split at hf
    · next hk =>
        obtain rfl := Option.some.inj hf
        refine ⟨hk.symm, hkey.symm.trans hk.symm, Function.update_self .., ?_⟩
        intro hclosed
        exact absurd (hopen.symm.trans hclosed) Bool.false_ne_true
    · obtain ⟨hserver, howner, hvalid, hclosed⟩ := h.entry key info hf
      refine ⟨hserver, howner, ?_, hclosed⟩
      show Function.update s.validated session true info.session = true
      by_cases hs : info.session = session
      · rw [hs, Function.update_self]
      · rw [Function.update_of_ne hs, hvalid]
  · intro session' m' ph hi'
    obtain ⟨rfl, rfl, rfl⟩ : session = session' ∧ Msg.register (some v) = m' ∧
        Phase.registered = ph := by simpa using hi'
    refine ⟨hopen, hown, ?_⟩
    intro v' hv' _
    obtain rfl : v = v' := by simpa using hv'
    refine ⟨{ session, server := v, validated := true }, ?_, rfl⟩
    exact (hfind v.key).trans (if_pos rfl)
  · intro c hc
    exact absurd hc (by rw [show s.closing = none from hfree]; exact Option.not_mem_none c)
  · intro key hon
    have hold := h.online key hon
    show (Table.find _ key).isSome = true
    rw [hfind]
    split
    · rfl
    · exact hold
  · intro key hin
    dsimp only at hin
    rw [hfind] at hin
    split at hin
    · next hk => exact .inr ⟨session, v, .registered, rfl, by decide, hk.symm⟩
    · obtain hon | ⟨_, _, _, hi', hph, -⟩ := h.reached key hin
      · exact .inl hon
      · rw [hi] at hi'
        obtain ⟨-, -, rfl⟩ : _ ∧ _ ∧ Phase.received = _ := by simpa using hi'
        exact absurd rfl hph

/-- Nothing is under way with a packet that registers nothing. -/
theorem not_underway {session : SessionId} {m : Msg} {ph : Phase} {key : List Char}
    (hi : s.input = some (session, m, ph)) (hm : ∀ v, m = .register (some v) → ph = .received) :
    ¬ s.Underway key := by
  rintro ⟨session', v, ph', hi', hph, -⟩
  rw [hi] at hi'
  obtain ⟨-, hmv, hpp⟩ : _ ∧ m = _ ∧ ph = ph' := by simpa using hi'
  exact hph (hpp ▸ hm v hmv)

/-- A packet that registers nothing is read on, or dropped. -/
theorem Agreed.other (h : Agreed owner s) {session : SessionId} {m : Msg} {ph : Phase}
    (hi : s.input = some (session, m, ph)) (hm : ∀ v, m ≠ .register (some v))
    {input : Option (SessionId × Msg × Phase)}
    (hinput : input = none ∨ ∃ ph', input = some (session, m, ph')) :
    Agreed owner { s with input } where
  keyed := h.keyed
  entry := h.entry
  input := by
    intro session' m' ph' hi'
    obtain rfl | ⟨ph'', rfl⟩ := hinput
    · exact absurd hi' (Option.some_ne_none _).symm
    · obtain ⟨hopen, hown, -⟩ := h.input _ _ _ hi
      obtain ⟨rfl, rfl, -⟩ : session = session' ∧ m = m' ∧ _ := by simpa using hi'
      exact ⟨hopen, hown, fun v hv => absurd hv (hm v)⟩
  closing := h.closing
  online := h.online
  reached := by
    intro key hkey
    obtain hon | hway := h.reached key hkey
    · exact .inl hon
    · exact absurd hway (not_underway hi fun v hv => absurd hv (hm v))

/-- **The second table** gets the server. -/
theorem Agreed.collectOnline (h : Agreed owner s) {session : SessionId} {v : Server}
    (hi : s.input = some (session, .register (some v), .validated)) (lineInput : List Msg) :
    Agreed owner { s with online := s.online.insert v.key v, lineInput, input := none } where
  keyed := h.keyed
  entry := h.entry
  input := by
    intro session' m' ph' hi'
    exact absurd hi' (Option.some_ne_none _).symm
  closing := h.closing
  online := by
    intro key hon
    dsimp only at hon
    rw [Table.find_insert] at hon
    split at hon
    · next hk =>
        obtain ⟨-, -, hthere⟩ := h.input _ _ _ hi
        obtain ⟨info, hinfo, -⟩ := hthere v rfl (by decide)
        show (s.sessionInfo.find key).isSome = true
        rw [hk, hinfo]
        rfl
    · exact h.online key hon
  reached := by
    intro key hin
    left
    dsimp only
    rw [Table.find_insert]
    split
    · rfl
    · next hk =>
        obtain hon | ⟨_, v', _, hi', -, hkey⟩ := h.reached key hin
        · exact hon
        · rw [hi] at hi'
          obtain ⟨-, rfl, -⟩ : _ ∧ v = v' ∧ _ := by simpa using hi'
          exact absurd hkey.symm hk

/-- A session that has an entry ends. -/
theorem Agreed.close (h : Agreed owner s) (hfree : s.PoolFree) {session : SessionId}
    (hreading : ∀ i ∈ s.input, i.1 ≠ session) {key : List Char} {info : CrossSessionInfo}
    (hfound : s.sessionInfo.find? (·.2.session = session) = some (key, info)) :
    Agreed owner
      { s with
        closing := some { session, key, server := info.server }
        closed := Function.update s.closed session true } := by
  have hin := Table.find_of_mem h.keyed (List.mem_of_find?_eq_some hfound)
  have hsession : info.session = session := by simpa using List.find?_some hfound
  obtain ⟨hserver, howner, -, -⟩ := h.entry key info hin
  refine ⟨h.keyed, ?_, ?_, ?_, h.online, h.reached⟩
  · intro key' info' hf
    obtain ⟨hserver', howner', hvalid', hclosed'⟩ := h.entry key' info' hf
    refine ⟨hserver', howner', hvalid', ?_⟩
    intro hclosed
    by_cases hs : info'.session = session
    · exact ⟨_, rfl, hs.symm⟩
    · dsimp only at hclosed
      rw [Function.update_of_ne hs] at hclosed
      obtain ⟨c, hc, -⟩ := hclosed' hclosed
      exact absurd hc (by rw [show s.closing = none from hfree]; exact Option.not_mem_none c)
  · intro session' m ph hi
    obtain ⟨hopen, hown, hthere⟩ := h.input session' m ph hi
    refine ⟨?_, hown, hthere⟩
    exact (Function.update_of_ne (hreading _ hi) ..).trans hopen
  · intro c hc
    obtain rfl := Option.some.inj hc
    exact ⟨hserver, hsession ▸ howner, Function.update_self .., info, hin, hsession⟩

/-- A session that has none ends. -/
theorem Agreed.closeUnknown (h : Agreed owner s) (hfree : s.PoolFree) {session : SessionId}
    (hreading : ∀ i ∈ s.input, i.1 ≠ session)
    (hnone : s.sessionInfo.find? (·.2.session = session) = none) :
    Agreed owner
      { s with
        validated := Function.update s.validated session false
        closed := Function.update s.closed session true } := by
  refine ⟨h.keyed, ?_, ?_, ?_, h.online, h.reached⟩
  · intro key info hf
    obtain ⟨hserver, howner, hvalid, hclosed⟩ := h.entry key info hf
    have hs : info.session ≠ session := by
      have hnot := List.find?_eq_none.mp hnone _ (Table.mem_of_find hf)
      simpa using hnot
    dsimp only
    rw [Function.update_of_ne hs, Function.update_of_ne hs]
    exact ⟨hserver, howner, hvalid, hclosed⟩
  · intro session' m ph hi
    obtain ⟨hopen, hown, hthere⟩ := h.input session' m ph hi
    refine ⟨?_, hown, hthere⟩
    exact (Function.update_of_ne (hreading _ hi) ..).trans hopen
  · intro c hc
    exact absurd hc (by rw [show s.closing = none from hfree]; exact Option.not_mem_none c)

/-- **The end of a session** leaves both tables. -/
theorem Agreed.reportClosed (h : Agreed owner s) {c : Closing} (hc : s.closing = some c)
    (lineInput : List Msg) :
    Agreed owner
      { s with
        sessionInfo := s.sessionInfo.erase c.key
        validated := Function.update s.validated c.session false
        online := s.online.erase c.server.key
        lineInput
        closing := none } := by
  obtain ⟨hserver, howner, hclosed, info, hinfo, hsession⟩ := h.closing c hc
  refine ⟨h.keyed.erase _, ?_, ?_, ?_, ?_, ?_⟩
  · intro key info' hf
    dsimp only at hf
    rw [Table.find_erase] at hf
    split at hf
    · cases hf
    · next hk =>
        obtain ⟨hserver', howner', hvalid', hclosed'⟩ := h.entry key info' hf
        -- another key is another session's
        have hs : info'.session ≠ c.session := by
          intro he
          exact hk (howner'.symm.trans (he ▸ howner))
        refine ⟨hserver', howner', (Function.update_of_ne hs ..).trans hvalid', ?_⟩
        intro hcl
        obtain ⟨c', hc', hs'⟩ := hclosed' hcl
        obtain rfl := Option.some.inj (hc.symm.trans hc')
        exact absurd hs'.symm hs
  · intro session m ph hi
    obtain ⟨hopen, hown, hthere⟩ := h.input session m ph hi
    refine ⟨hopen, hown, ?_⟩
    intro v hv hph
    obtain ⟨info', hinfo', hs'⟩ := hthere v hv hph
    refine ⟨info', ?_, hs'⟩
    dsimp only
    rw [Table.find_erase, if_neg]
    · exact hinfo'
    · intro hk
      -- the entry would be that of the session that ends
      rw [hk, hinfo] at hinfo'
      obtain rfl := Option.some.inj hinfo'
      rw [← hs', hsession, hclosed] at hopen
      exact Bool.false_ne_true hopen.symm
  · intro c' hc'
    exact absurd hc' (Option.not_mem_none c')
  · intro key hon
    dsimp only at hon ⊢
    rw [Table.find_erase, hserver] at hon
    rw [Table.find_erase]
    split at hon
    · cases hon
    · next hk =>
        rw [if_neg hk]
        exact h.online key hon
  · intro key hin
    dsimp only at hin ⊢
    rw [Table.find_erase] at hin
    rw [Table.find_erase, hserver]
    split at hin
    · cases hin
    · next hk =>
        rw [if_neg hk]
        exact h.reached key hin

/-- **A step** keeps the tables in agreement. -/
theorem agreed_step {a : Action} (h : Agreed owner s) (hc : Meets owner s a)
    (hst : step s a = some s') : Agreed owner s' := by
  cases a with
  | receive session m =>
      simp only [step] at hst
      split at hst
      · next hidle =>
          obtain rfl := Option.some.inj hst
          exact h.receive hidle hc.1 hc.2
      · cases hst
  | poolRegister =>
      simp only [step] at hst
      split at hst
      · next session m hi =>
          split at hst
          · next hfree =>
              obtain rfl := Option.some.inj hst
              by_cases htakes : m.TakesPool
              · -- the one message that changes the table
                cases m with
                | register server =>
                    obtain ⟨v, rfl⟩ := Option.ne_none_iff_exists'.mp htakes
                    exact h.collect hi (hfree htakes)
                | disconnect server => exact absurd htakes id
                | other c => exact absurd htakes id
              · rw [poolRegister_of_not_takesPool htakes]
                refine h.other hi ?_ (.inr ⟨_, rfl⟩)
                rintro v rfl
                exact htakes (Option.some_ne_none v)
          · cases hst
      · cases hst
  | validate =>
      simp only [step] at hst
      split at hst
      · next session m hi =>
          split at hst
          · obtain rfl := Option.some.inj hst
            by_cases hm : ∃ v, m = .register (some v)
            · -- it is validated, and stays under way
              obtain ⟨v, rfl⟩ := hm
              obtain ⟨hopen, hown, hthere⟩ := h.input _ _ _ hi
              obtain ⟨info, hinfo, hsession⟩ := hthere v rfl (by decide)
              have hvalid := (h.entry _ _ hinfo).2.2.1
              rw [hsession] at hvalid
              rw [hvalid, if_pos rfl]
              refine ⟨h.keyed, h.entry, ?_, h.closing, h.online, ?_⟩
              · intro session' m' ph hi'
                obtain ⟨rfl, rfl, -⟩ : session = session' ∧ Msg.register (some v) = m' ∧ _ := by
                  simpa using hi'
                exact ⟨hopen, hown, fun v' hv' _ => hthere v' hv' (by decide)⟩
              · intro key hin
                obtain hon | ⟨_, v', _, hi', -, hkey⟩ := h.reached key hin
                · exact .inl hon
                · rw [hi] at hi'
                  obtain ⟨-, rfl, -⟩ : _ ∧ v = v' ∧ _ := by simpa using hi'
                  exact .inr ⟨session, v, .validated, rfl, by decide, hkey⟩
            · refine h.other hi (fun v hv => hm ⟨v, hv⟩) ?_
              split
              · exact .inr ⟨_, rfl⟩
              · exact .inl rfl
          · cases hst
      · cases hst
  | lineInput =>
      simp only [step] at hst
      split at hst
      · next session m hi =>
          split at hst
          · obtain rfl := Option.some.inj hst
            obtain ⟨-, hown, -⟩ := h.input _ _ _ hi
            have hsame : ∀ m', (∀ v, m' ≠ .register (some v)) → m'.Own owner session →
                s.input = some (session, m', .validated) →
                Agreed owner { s.crossServerInput m' with input := none } := by
              intro m' hm' hown' hi'
              have hother : Agreed owner { s with input := none } :=
                h.other hi' hm' (.inl rfl)
              have honline : (s.crossServerInput m').online = s.online := by
                apply crossServerInput_online
                cases m' with
                | register server =>
                    intro hne
                    obtain ⟨v, rfl⟩ := Option.ne_none_iff_exists'.mp hne
                    exact hm' v rfl
                | disconnect server => exact fun hne => hne hown'
                | other c => exact id
              refine ⟨hother.keyed, hother.entry, hother.input, hother.closing, ?_, ?_⟩
              · intro key hon
                exact hother.online key (honline ▸ hon)
              · intro key hin
                obtain hon | hway := hother.reached key hin
                · exact .inl (honline ▸ hon)
                · exact .inr hway
            by_cases hm : ∃ v, m = .register (some v)
            · obtain ⟨v, rfl⟩ := hm
              exact h.collectOnline hi _
            · exact hsame m (fun v hv => hm ⟨v, hv⟩) hown hi
          · cases hst
      · cases hst
  | close session =>
      simp only [step] at hst
      split at hst
      · next hfree =>
          split at hst
          · next key info hfound =>
              obtain rfl := Option.some.inj hst
              exact h.close hfree.1 hc hfound
          · next hnone =>
              obtain rfl := Option.some.inj hst
              exact h.closeUnknown hfree.1 hc hnone
      · cases hst
  | reportClosed =>
      simp only [step] at hst
      split at hst
      · next c hclosing =>
          split at hst
          · obtain rfl := Option.some.inj hst
            exact h.reportClosed hclosing _
          · cases hst
      · cases hst
  | broadcast packet =>
      simp only [step] at hst
      split at hst
      · obtain rfl := Option.some.inj hst
        exact ⟨h.keyed, h.entry, h.input, h.closing, h.online, h.reached⟩
      · cases hst
  | broadcastNext =>
      simp only [step] at hst
      split at hst
      · split at hst
        · obtain rfl := Option.some.inj hst
          exact ⟨h.keyed, h.entry, h.input, h.closing, h.online, h.reached⟩
        · cases hst
      · cases hst
  | broadcastEnd =>
      simp only [step] at hst
      split at hst
      · obtain rfl := Option.some.inj hst
        exact ⟨h.keyed, h.entry, h.input, h.closing, h.online, h.reached⟩
      · cases hst

/-! ## §5. Every run. -/

/-- A line connects again before its old session is reported. -/
def reconnectRun : List Action :=
  [.receive 1 (.register (some ⟨['a'], ['1']⟩)), .poolRegister, .validate, .lineInput,
    .receive 2 (.register (some ⟨['a'], ['1']⟩)), .poolRegister, .validate, .lineInput,
    .close 1, .broadcast ⟨700, 0, []⟩, .broadcastNext, .broadcastEnd]

end Steppingstone.CrossServer
