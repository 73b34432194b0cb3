/-
  Steppingstone.Login.Bound — which account a client session is bound to.

  A key that the gate has stored is the last registration of that key, so what is asked of the key is
  asked of that registration.  The account is not: the session gets the account the client sent.
  The age is counted in whole seconds.
-/
import Mathlib.Data.List.DropRight
import Steppingstone.Lib.Lookup
import Steppingstone.Login.Model

namespace Steppingstone.Login

open Std (TreeMap)
open Steppingstone.Cross (Text)
open Gate (SessionId)

/-! ## §1. Steps. -/

theorem step_connect {cfg : Config} {s s' : State} {ip : Text}
    (h : step cfg s (.connect ip) = some s') :
    ∃ gate, Gate.step s.gate .connect = some gate ∧
      s' = { s with
        gate := gate
        accounts := Function.update s.accounts s.gate.next { clientIp := ip } } := by
  simp only [step] at h
  obtain ⟨gate, hgate, heq⟩ := Option.map_eq_some_iff.mp h
  exact ⟨gate, hgate, heq.symm⟩

theorem step_gate {cfg : Config} {s s' : State} {a : Gate.Act}
    (h : step cfg s (.gate a) = some s') :
    ∃ gate, a ≠ .connect ∧ Gate.step s.gate a = some gate ∧
      s' = s.moved gate (gateNotices s a) := by
  by_cases ha : a = .connect
  · simp only [step, if_pos ha] at h
    cases h
  · simp only [step, if_neg ha] at h
    obtain ⟨gate, hgate, heq⟩ := Option.map_eq_some_iff.mp h
    exact ⟨gate, ha, hgate, heq.symm⟩

theorem step_deliver {cfg : Config} {s s' : State} (h : step cfg s .deliver = some s') :
    ∃ notice rest, s.loginStream = notice :: rest ∧
      s' = { s with loginStream := rest, member := s.member.receive notice } := by
  cases hstream : s.loginStream with
  | nil =>
      simp only [step, hstream] at h
      cases h
  | cons notice rest =>
      simp only [step, hstream] at h
      exact ⟨notice, rest, rfl, (Option.some.inj h).symm⟩

/-! ### A validation. -/

/-- The gate lets session `i` through, with registration `auth`. -/
structure Passes (cfg : Config) (s : State) (guid : UInt64) (account key : Text) (now : UInt64)
    (i : SessionId) (auth : ClientAuth) : Prop where
  session : s.gate.roleMap guid = some i
  key : (validateClientSession cfg s.clientAuthMap key now account).1 = some auth
  access : (Access.isValidatedAccountAndIP s.access account (s.accounts i).clientIp
    (now / 1000000)).1 = true

/-- The gate after its tables were asked. -/
def asked (cfg : Config) (s : State) (account key : Text) (now : UInt64) (i : SessionId) : State :=
  { s with
    clientAuthMap := (validateClientSession cfg s.clientAuthMap key now account).2
    access := (Access.isValidatedAccountAndIP s.access account (s.accounts i).clientIp
      (now / 1000000)).2 }

variable {cfg : Config} {s : State} {guid : UInt64} {account key : Text} {now : UInt64}

/-- A client that passes has its session marked. -/
theorem handleValidationAccountPacket_passes {i : SessionId} {auth : ClientAuth}
    (h : Passes cfg s guid account key now i auth) :
    handleValidationAccountPacket cfg s guid account key now =
      validated (asked cfg s account key now i) guid i auth account key now := by
  obtain ⟨hsession, hkey, haccess⟩ := h
  unfold handleValidationAccountPacket asked
  rw [hsession]
  cases hv : validateClientSession cfg s.clientAuthMap key now account with
  | mk found map =>
      rw [hv] at hkey
      obtain rfl : found = some auth := hkey
      cases ha : Access.isValidatedAccountAndIP s.access account (s.accounts i).clientIp
          (now / 1000000) with
      | mk ok access =>
          rw [ha] at haccess
          obtain rfl : ok = true := haccess
          simp only [ha]

/-- A client that does not pass leaves the accounts, the notices and the registrations alone; its
    session, if it has one, goes to the cooler. -/
structure Rejected (cfg : Config) (s s' : State) (account key : Text) (now : UInt64) : Prop where
  accounts : s'.accounts = s.accounts
  loginStream : s'.loginStream = s.loginStream
  member : s'.member = s.member
  registrations : s'.registrations = s.registrations
  marks : s'.marks = s.marks
  clientAuthMap : s'.clientAuthMap = s.clientAuthMap ∨
    s'.clientAuthMap = (validateClientSession cfg s.clientAuthMap key now account).2
  gate : s'.gate = s.gate ∨ ∃ i, s'.gate = s.gate.putClientSession i

/-- A validation that no registration passes is rejected. -/
theorem handleValidationAccountPacket_rejects
    (h : ∀ i auth, ¬ Passes cfg s guid account key now i auth) :
    Rejected cfg s (handleValidationAccountPacket cfg s guid account key now) account key now := by
  unfold handleValidationAccountPacket
  cases hsession : s.gate.roleMap guid with
  | none => exact ⟨rfl, rfl, rfl, rfl, rfl, .inl rfl, .inl rfl⟩
  | some i =>
      cases hv : validateClientSession cfg s.clientAuthMap key now account with
      | mk found map =>
          have hmap : map = (validateClientSession cfg s.clientAuthMap key now account).2 := by
            rw [hv]
          cases found with
          | none =>
              exact ⟨rfl, rfl, rfl, rfl, rfl, .inr hmap, .inr ⟨i, rfl⟩⟩
          | some auth =>
              cases ha : Access.isValidatedAccountAndIP s.access account (s.accounts i).clientIp
                  (now / 1000000) with
              | mk ok access =>
                  cases ok with
                  | false =>
                      simp only [ha]
                      exact ⟨rfl, rfl, rfl, rfl, rfl, .inr hmap, .inr ⟨i, rfl⟩⟩
                  | true =>
                      -- all three questions were answered with yes
                      exact absurd ⟨hsession, by rw [hv], by rw [ha]⟩ (h i auth)

/-- Some client passes, or none. -/
theorem passes_or_rejects (cfg : Config) (s : State) (guid : UInt64) (account key : Text)
    (now : UInt64) :
    (∃ i auth, Passes cfg s guid account key now i auth) ∨
      ∀ i auth, ¬ Passes cfg s guid account key now i auth := by
  by_cases h : ∃ i auth, Passes cfg s guid account key now i auth
  · exact .inl h
  · exact .inr fun i auth hp => h ⟨i, auth, hp⟩

/-! ## §2. The table of keys. -/

/-- With keys checked, a key passes while its registration is stored and in time. -/
theorem validateClientSession_some {map : TreeMap Text ClientAuth} (hcheck : cfg.checkClientAuth = true)
    {auth : ClientAuth} : (validateClientSession cfg map key now account).1 = some auth ↔
      map[key]? = some auth ∧ key = auth.sessionId ∧
        sec (auth.age now) ≤ cfg.validationInterval := by
  unfold validateClientSession
  rw [hcheck]
  simp only [Bool.not_true, Bool.false_eq_true, if_false]
  cases map[key]? with
  | none =>
      constructor
      · intro h
        cases h
      · intro h
        cases h.1
  | some auth' =>
      by_cases hok : key = auth'.sessionId ∧ sec (auth'.age now) ≤ cfg.validationInterval
      · simp only [if_pos hok]
        constructor
        · intro heq
          obtain rfl : auth' = auth := Option.some.inj heq
          exact ⟨rfl, hok⟩
        · intro h
          exact h.1
      · simp only [if_neg hok]
        constructor
        · intro h
          cases h
        · intro h
          obtain rfl : auth' = auth := Option.some.inj h.1
          exact absurd h.2 hok

/-- The table a question leaves: the same, or without the key. -/
theorem validateClientSession_map (cfg : Config) (map : TreeMap Text ClientAuth) (key account : Text)
    (now : UInt64) :
    (validateClientSession cfg map key now account).2 = map ∨
      (validateClientSession cfg map key now account).2 = map.erase key := by
  unfold validateClientSession
  split
  · exact .inl rfl
  · split
    · exact .inl rfl
    · split
      · exact .inl rfl
      · exact .inr rfl

theorem latest_append (rs : List ClientAuth) (r : ClientAuth) (key : Text) :
    latest (rs ++ [r]) key = if r.sessionId = key then some r else latest rs key := by
  unfold latest
  rw [List.reverse_append, List.reverse_singleton, List.singleton_append, List.find?_cons]
  by_cases h : r.sessionId = key
  · rw [decide_eq_true h, if_pos h]
  · rw [decide_eq_false h, if_neg h]

/-- What is stored under a key is the last registration of that key. -/
def Registered (s : State) : Prop :=
  ∀ (key : Text) (auth : ClientAuth), s.clientAuthMap[key]? = some auth →
    latest s.registrations key = some auth

theorem registered_init : Registered init := by
  intro key auth h
  have hnone : init.clientAuthMap[key]? = none := TreeMap.getElem?_emptyc
  rw [hnone] at h
  cases h

/-- Asking a table keeps what it stores. -/
theorem Registered.validateClientSession (map : TreeMap Text ClientAuth)
    (hs : ∀ (k : Text) (auth : ClientAuth), map[k]? = some auth →
      latest s.registrations k = some auth) (k : Text) (auth : ClientAuth)
    (h : (validateClientSession cfg map key now account).2[k]? = some auth) :
    latest s.registrations k = some auth := by
  cases validateClientSession_map cfg map key account now with
  | inl heq => exact hs k auth (by rw [← heq]; exact h)
  | inr heq =>
      rw [heq, Lookup.getElem?_erase] at h
      by_cases hk : k = key
      · rw [if_pos hk] at h
        cases h
      · rw [if_neg hk] at h
        exact hs k auth h

theorem registered_handleMemberLogin (hs : Registered s) (login : MemberLogin) (now : UInt64) :
    Registered (handleMemberLogin s login now) := by
  intro key auth h
  have h' : (s.clientAuthMap.insert login.securityKey (authInfo login now))[key]? = some auth := h
  show latest (s.registrations ++ [authInfo login now]) key = some auth
  rw [Lookup.getElem?_insert] at h'
  rw [latest_append]
  by_cases hk : key = login.securityKey
  · rw [if_pos hk] at h'
    rw [if_pos (show (authInfo login now).sessionId = key from hk.symm)]
    exact h'
  · rw [if_neg hk] at h'
    rw [if_neg (show ¬ (authInfo login now).sessionId = key from fun heq => hk heq.symm)]
    exact hs key auth h'

theorem registered_handleValidationAccountPacket (hs : Registered s) :
    Registered (handleValidationAccountPacket cfg s guid account key now) := by
  intro k auth h
  cases passes_or_rejects cfg s guid account key now with
  | inl hpass =>
      obtain ⟨i, auth', hp⟩ := hpass
      rw [handleValidationAccountPacket_passes hp] at h ⊢
      exact Registered.validateClientSession s.clientAuthMap hs k auth h
  | inr hreject =>
      have hr := handleValidationAccountPacket_rejects hreject
      rw [hr.registrations]
      cases hr.clientAuthMap with
      | inl hmap => exact hs k auth (by rw [← hmap]; exact h)
      | inr hmap =>
          rw [hmap] at h
          exact Registered.validateClientSession _ hs k auth h

/-- A step of another kind leaves the keys, the registrations and the marks alone. -/
theorem step_other {a : Act} {s' : State} (hst : step cfg s a = some s')
    (hlogin : ∀ login now, a ≠ .memberLogin login now)
    (hval : ∀ guid account key now, a ≠ .validate guid account key now) :
    s'.clientAuthMap = s.clientAuthMap ∧ s'.registrations = s.registrations ∧ s'.marks = s.marks := by
  cases a with
  | memberLogin login now => exact absurd rfl (hlogin login now)
  | validate guid account key now => exact absurd rfl (hval guid account key now)
  | connect ip =>
      obtain ⟨gate, -, rfl⟩ := step_connect hst
      exact ⟨rfl, rfl, rfl⟩
  | master a =>
      rw [← Option.some.inj hst]
      exact ⟨rfl, rfl, rfl⟩
  | gate a =>
      obtain ⟨gate, -, -, rfl⟩ := step_gate hst
      exact ⟨rfl, rfl, rfl⟩
  | deliver =>
      obtain ⟨notice, rest, -, rfl⟩ := step_deliver hst
      exact ⟨rfl, rfl, rfl⟩

/-- Nothing but a validation marks a session. -/
theorem marks_other {a : Act} {s' : State} (hst : step cfg s a = some s')
    (hval : ∀ guid account key now, a ≠ .validate guid account key now) : s'.marks = s.marks := by
  by_cases hlogin : ∃ login now, a = .memberLogin login now
  · obtain ⟨login, now, rfl⟩ := hlogin
    rw [← Option.some.inj hst]
    rfl
  · exact (step_other hst (fun l n h => hlogin ⟨l, n, h⟩) hval).2.2

/-- **A stored key stays the last registration of that key**, whatever happens. -/
theorem registered_step (hs : Registered s) {a : Act} {s' : State} (hst : step cfg s a = some s') :
    Registered s' := by
  by_cases hlogin : ∃ login now, a = .memberLogin login now
  · obtain ⟨login, now, rfl⟩ := hlogin
    rw [← Option.some.inj hst]
    exact registered_handleMemberLogin hs login now
  · by_cases hval : ∃ guid account key now, a = .validate guid account key now
    · obtain ⟨guid, account, key, now, rfl⟩ := hval
      rw [← Option.some.inj hst]
      exact registered_handleValidationAccountPacket hs
    · obtain ⟨hmap, hregs, -⟩ := step_other hst (fun l n h => hlogin ⟨l, n, h⟩)
        (fun g a k n h => hval ⟨g, a, k, n, h⟩)
      intro key auth h
      rw [hmap] at h
      rw [hregs]
      exact hs key auth h

/-! ## §3. Bound sessions. -/

/-- A text without the NULs at its end. -/
def unpad (t : Text) : Text := t.rdropWhile fun c => c = Char.ofNat 0

/-- **The account that was marked is the registered one**: the last registration of the key is for
    that account, up to NULs at the end, and no older than the interval. -/
def Mark.Bound (cfg : Config) (m : Mark) : Prop :=
  ∃ auth, m.latest = some auth ∧ unpad auth.accountId = unpad m.account ∧
    auth.age m.now ≤ cfg.validationInterval * 1000000

/-- A client that passes presents the key with the account it was registered for, and not in the
    second in which the whole seconds still allow it. -/
def PresentsOwn (cfg : Config) (s : State) : Act → Prop
  | .validate guid account key now => ∀ i auth, Passes cfg s guid account key now i auth →
      unpad auth.accountId = unpad account ∧ auth.age now ≤ cfg.validationInterval * 1000000
  | _ => True

/-- The mark of a client that passes. -/
theorem marks_passes {i : SessionId} {auth : ClientAuth} (hcheck : cfg.checkClientAuth = true)
    (hs : Registered s) (hp : Passes cfg s guid account key now i auth) :
    (handleValidationAccountPacket cfg s guid account key now).marks =
      s.marks ++ [⟨i, account, key, now, some auth⟩] := by
  have hlatest : latest s.registrations key = some auth :=
    hs key auth ((validateClientSession_some hcheck).mp hp.key).1
  rw [handleValidationAccountPacket_passes hp]
  show s.marks ++ [⟨i, account, key, now, latest s.registrations key⟩] = _
  rw [hlatest]

/-- The new mark is bound when the client presented what is its own. -/
theorem marks_validate (hcheck : cfg.checkClientAuth = true) (hs : Registered s) :
    (∀ m ∈ (handleValidationAccountPacket cfg s guid account key now).marks, m.Bound cfg) ↔
      (∀ m ∈ s.marks, m.Bound cfg) ∧ PresentsOwn cfg s (.validate guid account key now) := by
  cases passes_or_rejects cfg s guid account key now with
  | inr hreject =>
      rw [(handleValidationAccountPacket_rejects hreject).marks]
      constructor
      · intro h
        exact ⟨h, fun i auth hp => absurd hp (hreject i auth)⟩
      · intro h
        exact h.1
  | inl hpass =>
      obtain ⟨i, auth, hp⟩ := hpass
      rw [marks_passes hcheck hs hp]
      constructor
      · intro h
        refine ⟨fun m hm => h m (List.mem_append_left _ hm), ?_⟩
        intro j auth' hp'
        obtain ⟨auth'', heq, hbound⟩ := h _ (List.mem_append_right _ List.mem_cons_self)
        -- the key passes with one registration only
        have hsame : auth' = auth'' := by
          have h1 : some auth = some auth' := hp.key.symm.trans hp'.key
          exact Option.some.inj (h1.symm.trans heq)
        rw [hsame]
        exact hbound
      · intro h m hm
        cases List.mem_append.mp hm with
        | inl hold => exact h.1 m hold
        | inr hnew =>
            rw [List.mem_singleton.mp hnew]
            exact ⟨auth, rfl, h.2 i auth hp⟩

/-- **Every session is marked for the account whose login was registered** exactly in the runs in
    which every client that passes presents its own account, and not within the last second. -/
theorem marks_bound_iff (hcheck : cfg.checkClientAuth = true) {acts : List Act} {s' : State}
    (hrun : (system cfg).run init acts = some s') :
    (∀ m ∈ s'.marks, m.Bound cfg) ↔ (system cfg).RunMeets (PresentsOwn cfg) init acts := by
  have hexact := TransSys.run_iff_runMeets (M := system cfg) (C := PresentsOwn cfg)
    (I := Registered) (P := fun s => ∀ m ∈ s.marks, m.Bound cfg)
    (fun s a s' hs hst => registered_step hs hst) (by
      intro s a s' hs hst
      by_cases hval : ∃ guid account key now, a = .validate guid account key now
      · obtain ⟨guid, account, key, now, rfl⟩ := hval
        rw [← Option.some.inj hst]
        exact marks_validate hcheck hs
      · rw [marks_other hst fun g a k n h => hval ⟨g, a, k, n, h⟩]
        constructor
        · intro h
          refine ⟨h, ?_⟩
          cases a with
          | validate guid account key now => exact absurd ⟨guid, account, key, now, rfl⟩ hval
          | _ => trivial
        · intro h
          exact h.1)
    registered_init hrun
  rw [hexact]
  exact and_iff_right fun m hm => absurd hm List.not_mem_nil

/-- The key of a mark was registered, and whole seconds ago that the interval allows. -/
def Mark.InTime (cfg : Config) (m : Mark) : Prop :=
  ∃ auth, m.latest = some auth ∧ sec (auth.age m.now) ≤ cfg.validationInterval

/-- What the gate does ask for: **no session is marked without a registration in time**. -/
theorem reachable_inTime (hcheck : cfg.checkClientAuth = true)
    (hr : (system cfg).Reachable s) : ∀ m ∈ s.marks, m.InTime cfg := by
  have hinv : Registered s ∧ ∀ m ∈ s.marks, m.InTime cfg := by
    apply hr.invariant (I := fun s => Registered s ∧ ∀ m ∈ s.marks, m.InTime cfg)
    · intro s hs
      obtain rfl : s = init := hs
      exact ⟨registered_init, fun m hm => absurd hm List.not_mem_nil⟩
    · intro s a s' hs _ hst
      refine ⟨registered_step hs.1 hst, ?_⟩
      by_cases hval : ∃ guid account key now, a = .validate guid account key now
      · obtain ⟨guid, account, key, now, rfl⟩ := hval
        rw [← Option.some.inj hst]
        cases passes_or_rejects cfg s guid account key now with
        | inr hreject =>
            rw [(handleValidationAccountPacket_rejects hreject).marks]
            exact hs.2
        | inl hpass =>
            obtain ⟨i, auth, hp⟩ := hpass
            rw [marks_passes hcheck hs.1 hp]
            intro m hm
            cases List.mem_append.mp hm with
            | inl hold => exact hs.2 m hold
            | inr hnew =>
                rw [List.mem_singleton.mp hnew]
                exact ⟨auth, rfl, ((validateClientSession_some hcheck).mp hp.key).2.2⟩
      · rw [marks_other hst fun g a k n h => hval ⟨g, a, k, n, h⟩]
        exact hs.2
  exact hinv.2

/-- The account of the runs below. -/
def bob : Text := ['b', 'o', 'b']

/-- A login of `bob` with key `K`, as the member system sends it: the account fills its array. -/
def bobLogin : MemberLogin where
  requestIndex := 1
  account := bob ++ [Char.ofNat 0, Char.ofNat 0]
  addictionFlag := 1
  networkType := 1
  securityKey := ['K']
  lineId := 1

/-- A client connects and presents the key, a second after the registration, with an account. -/
def loginRun (account : Text) : List Act :=
  [.connect ['1', '.', '2', '.', '3', '.', '4'], .memberLogin bobLogin 0,
    .validate 1 account ['K'] 1000000]

/-- The mark of `bob`'s login. -/
def loginMark (account : Text) : Mark := ⟨0, account, ['K'], 1000000, some (authInfo bobLogin 0)⟩

theorem marks_loginRun :
    ((system {}).run init (loginRun bob)).map (·.marks) = some [loginMark bob] := by
  decide +kernel

/-- `bob` presents his own account, and the session is bound to it. -/
theorem bound_loginRun :
    ∃ s', (system {}).run init (loginRun bob) = some s' ∧ (loginMark bob).Bound {} := by
  obtain ⟨s', hrun, hmarks⟩ := Option.map_eq_some_iff.mp marks_loginRun
  refine ⟨s', hrun, (marks_bound_iff rfl hrun).mpr ?_ _ (hmarks ▸ List.mem_cons_self)⟩
  refine ⟨trivial, _, rfl, trivial, _, rfl, ?_, _, rfl, trivial⟩
  intro i auth hp
  have hkey : (validateClientSession {} ((∅ : TreeMap Text ClientAuth).insert ['K']
      (authInfo bobLogin 0)) ['K'] 1000000 bob).1 = some (authInfo bobLogin 0) := by
    decide +kernel
  obtain rfl : authInfo bobLogin 0 = auth := Option.some.inj (hkey.symm.trans hp.key)
  decide

/-- **A client plays the account it names**: the key was registered for `bob`, and the session is
    marked for `eve`. -/
theorem other_account_marked :
    ∃ s', (system {}).run init (loginRun ['e', 'v', 'e']) = some s' ∧
      ¬ ∀ m ∈ s'.marks, m.Bound {} := by
  have hmarks : ((system {}).run init (loginRun ['e', 'v', 'e'])).map (·.marks)
      = some [loginMark ['e', 'v', 'e']] := by decide +kernel
  obtain ⟨s', hrun, hmark⟩ := Option.map_eq_some_iff.mp hmarks
  refine ⟨s', hrun, ?_⟩
  intro h
  obtain ⟨auth, hlatest, haccount, -⟩ := h (loginMark ['e', 'v', 'e']) (hmark ▸ List.mem_cons_self)
  obtain rfl : authInfo bobLogin 0 = auth := Option.some.inj hlatest
  revert haccount
  decide

end Steppingstone.Login
