/-
  Steppingstone.Access.Bans — whether a ban of an address reaches the clients that connect from it.

  The commands name single addresses, or `*`.  A client session keeps the text of its peer, address
  and port, and `validatedIpAddr` looks that text up among the addresses.  It is in no table, so the
  check comes down to the flag of `*`, which asks for no time.
-/
import Steppingstone.Access.Restart
import Steppingstone.Lib.LastEvent

namespace Steppingstone.Access

open Std (TreeMap TreeSet)
open Steppingstone.Cross (Text)
open LastEvent (Holds holds_snoc not_holds_nil)

/-! ## §1. Commands. -/

/-- A single address, or `*`: no port is named with it. -/
structure Address where
  text : Text
  plain : ':' ∉ text
  deriving DecidableEq, Repr

/-- `*` -/
def star : Address := ⟨allIpStr, by decide⟩

/-- The `m_client_ip` of a session, as `addr_to_string` prints its peer. -/
def peerName (ip : Address) (port : UInt16) : Text := ip.text ++ ':' :: Nat.toDigits 10 port.toNat

/-- The master's commands on addresses; a ban has an end. -/
inductive Command
  | allow (ips : List Address)
  | allowRemove (ips : List Address)
  | forbid (bans : List (Address × UInt64))
  | forbidRemove (ips : List Address)
  deriving Repr

/-- The packet of a command. -/
def Command.act : Command → Act
  | .allow ips => .allowIP (ips.map (·.text))
  | .allowRemove ips => .allowIPRemove (ips.map (·.text))
  | .forbid bans => .forbidIP (bans.map (·.1.text)) (bans.map (·.2))
  | .forbidRemove ips => .forbidIPRemove (ips.map (·.text))

/-- The gate after these commands. -/
def after (cs : List Command) : Host := (cs.map Command.act).foldl step {}

/-! ## §2. What the commands say. -/

/-- What a command says of one address. -/
inductive Change
  | allow (ip : Address)
  | disallow (ip : Address)
  | forbid (ip : Address) (endTime : UInt64)
  | lift (ip : Address)
  deriving DecidableEq, Repr

/-- What a command changes, entry by entry. -/
def Command.changes : Command → List Change
  | .allow ips => ips.map .allow
  | .allowRemove ips => ips.map .disallow
  | .forbid bans => bans.map fun ban => .forbid ban.1 ban.2
  | .forbidRemove ips => ips.map .lift

/-- All changes, the oldest first. -/
def history (cs : List Command) : List Change := cs.flatMap Command.changes

/-- The end of the ban that a change puts on the address. -/
def Change.ban (a : Address) : Change → Option UInt64
  | .forbid ip endTime => if ip = a then some endTime else none
  | .allow _ => none
  | .disallow _ => none
  | .lift _ => none

/-- The change takes the ban of the address away. -/
def Change.Lifts (a : Address) : Change → Prop
  | .lift ip => ip = a
  | .allow _ => False
  | .disallow _ => False
  | .forbid _ _ => False

/-- The change allows the address. -/
def Change.allowance (a : Address) : Change → Option Unit
  | .allow ip => if ip = a then some () else none
  | .disallow _ => none
  | .forbid _ _ => none
  | .lift _ => none

/-- The change does not allow the address any more. -/
def Change.Disallows (a : Address) : Change → Prop
  | .disallow ip => ip = a
  | .allow _ => False
  | .forbid _ _ => False
  | .lift _ => False

/-- The commands leave a ban on the address, with this end. -/
def Banned (cs : List Command) (a : Address) (endTime : UInt64) : Prop :=
  Holds (Change.ban a) (Change.Lifts a) (history cs) endTime

/-- The address is forbidden, and has not been taken out. -/
def Stands (cs : List Command) (a : Address) : Prop := ∃ endTime, Banned cs a endTime

/-- A ban on the address is in force: it has no end, or its end is not over. -/
def InForce (cs : List Command) (a : Address) (now : UInt64) : Prop :=
  ∃ endTime, Banned cs a endTime ∧ (endTime = 0 ∨ now ≤ endTime)

/-- The address is in the allowed set. -/
def Allowed (cs : List Command) (a : Address) : Prop :=
  Holds (Change.allowance a) (Change.Disallows a) (history cs) ()

/-- **The clients that are to pass**: their address has no ban in force, and `*` has none, or they
    are allowed. -/
def Admitted (cs : List Command) (a : Address) (now : UInt64) : Prop :=
  ¬ InForce cs a now ∧ (¬ InForce cs star now ∨ Allowed cs a)

theorem InForce.stands {cs : List Command} {a : Address} {now : UInt64} (h : InForce cs a now) :
    Stands cs a := by
  obtain ⟨endTime, hban, -⟩ := h
  exact ⟨endTime, hban⟩

/-! ## §3. The tables after the commands. -/

/-- What a change does to `m_forbid_ip_map`. -/
def Change.onForbidden (map : TreeMap Text ForbidIPInfo) : Change → TreeMap Text ForbidIPInfo
  | .forbid ip endTime =>
      map.insert ip.text
        { endTime := endTime.toUInt32.toInt32.toInt64.toUInt64, ipAddr := ip.text }
  | .lift ip => map.erase ip.text
  | .allow _ => map
  | .disallow _ => map

/-- What a change does to `m_allow_ip_set`. -/
def Change.onAllowed (set : TreeSet Text) : Change → TreeSet Text
  | .allow ip => set.insert ip.text
  | .disallow ip => set.erase ip.text
  | .forbid _ _ => set
  | .lift _ => set

theorem foldl_map_const {A B C : Type} (f : A → C → A) (g : B → C) (bs : List B) (a : A)
    (h : ∀ a b, f a (g b) = a) : (bs.map g).foldl f a = a := by
  induction bs with
  | nil => rfl
  | cons b bs ih =>
      show (bs.map g).foldl f (f a (g b)) = a
      rw [h, ih]

theorem forbidIpMap_step (h : Host) (c : Command) :
    (step h c.act).session.forbidIpMap = c.changes.foldl Change.onForbidden h.session.forbidIpMap := by
  cases c with
  | allow ips => exact (foldl_map_const _ _ _ _ fun _ _ => rfl).symm
  | allowRemove ips => exact (foldl_map_const _ _ _ _ fun _ _ => rfl).symm
  | forbid bans =>
      show (handleForbidIP h (bans.map (·.1.text)) (bans.map (·.2))).session.forbidIpMap = _
      have hlen : (bans.map (·.1.text)).length = (bans.map (·.2)).length := by
        rw [List.length_map, List.length_map]
      unfold handleForbidIP
      rw [if_pos hlen]
      show (List.foldl _ h.session.forbidIpMap _) =
        (bans.map fun ban => Change.forbid ban.1 ban.2).foldl Change.onForbidden _
      rw [List.zip_map', List.foldl_map, List.foldl_map]
      rfl
  | forbidRemove ips =>
      show (ips.map (·.text)).foldl (·.erase ·) h.session.forbidIpMap =
        (ips.map Change.lift).foldl Change.onForbidden _
      rw [List.foldl_map, List.foldl_map]
      rfl

theorem allowIpSet_step (h : Host) (c : Command) :
    (step h c.act).session.allowIpSet = c.changes.foldl Change.onAllowed h.session.allowIpSet := by
  cases c with
  | allow ips =>
      show (ips.map (·.text)).foldl (·.insert ·) h.session.allowIpSet =
        (ips.map Change.allow).foldl Change.onAllowed _
      rw [List.foldl_map, List.foldl_map]
      rfl
  | allowRemove ips =>
      show (ips.map (·.text)).foldl (·.erase ·) h.session.allowIpSet =
        (ips.map Change.disallow).foldl Change.onAllowed _
      rw [List.foldl_map, List.foldl_map]
      rfl
  | forbid bans =>
      have hset : (handleForbidIP h (bans.map (·.1.text)) (bans.map (·.2))).session.allowIpSet =
          h.session.allowIpSet := by
        unfold handleForbidIP
        split <;> rfl
      exact hset.trans (foldl_map_const _ _ _ _ fun _ _ => rfl).symm
  | forbidRemove ips => exact (foldl_map_const _ _ _ _ fun _ _ => rfl).symm

/-- The tables are those of the changes, one after the other. -/
theorem tables_foldl (cs : List Command) (h : Host) :
    ((cs.map Command.act).foldl step h).session.forbidIpMap =
        (history cs).foldl Change.onForbidden h.session.forbidIpMap ∧
      ((cs.map Command.act).foldl step h).session.allowIpSet =
        (history cs).foldl Change.onAllowed h.session.allowIpSet := by
  induction cs generalizing h with
  | nil => exact ⟨rfl, rfl⟩
  | cons c cs ih =>
      obtain ⟨hmap, hset⟩ := ih (step h c.act)
      show ((cs.map Command.act).foldl step (step h c.act)).session.forbidIpMap =
          (c.changes ++ history cs).foldl Change.onForbidden _ ∧
        ((cs.map Command.act).foldl step (step h c.act)).session.allowIpSet =
          (c.changes ++ history cs).foldl Change.onAllowed _
      rw [hmap, hset, forbidIpMap_step, allowIpSet_step, List.foldl_append, List.foldl_append]
      exact ⟨rfl, rfl⟩

/-- Only plain addresses come into the tables. -/
theorem plain_of_mem_foldl (changes : List Change) {k : Text} (hk : ':' ∈ k) :
    k ∉ changes.foldl Change.onForbidden ∅ ∧ k ∉ changes.foldl Change.onAllowed ∅ := by
  have hne : ∀ ip : Address, ip.text ≠ k := by
    intro ip heq
    exact ip.plain (heq ▸ hk)
  induction changes using List.reverseRecOn with
  | nil => exact ⟨TreeMap.not_mem_emptyc, TreeSet.not_mem_emptyc⟩
  | append_singleton changes e ih =>
      rw [List.foldl_append, List.foldl_append]
      obtain ⟨hmap, hset⟩ := ih
      cases e with
      | allow ip =>
          refine ⟨hmap, ?_⟩
          show k ∉ (changes.foldl Change.onAllowed ∅).insert ip.text
          rw [TreeSet.mem_insert, Std.LawfulEqCmp.compare_eq_iff_eq]
          intro h
          exact h.elim (hne ip) hset
      | disallow ip =>
          refine ⟨hmap, ?_⟩
          show k ∉ (changes.foldl Change.onAllowed ∅).erase ip.text
          rw [TreeSet.mem_erase]
          intro h
          exact hset h.2
      | forbid ip endTime =>
          refine ⟨?_, hset⟩
          show k ∉ (changes.foldl Change.onForbidden ∅).insert ip.text _
          rw [TreeMap.mem_insert, Std.LawfulEqCmp.compare_eq_iff_eq]
          intro h
          exact h.elim (hne ip) hmap
      | lift ip =>
          refine ⟨?_, hset⟩
          show k ∉ (changes.foldl Change.onForbidden ∅).erase ip.text
          rw [TreeMap.mem_erase]
          intro h
          exact hmap h.2

/-- An address is in the table exactly when the changes leave a ban on it. -/
theorem mem_foldl_onForbidden (changes : List Change) (a : Address) :
    a.text ∈ changes.foldl Change.onForbidden ∅ ↔
      ∃ endTime, Holds (Change.ban a) (Change.Lifts a) changes endTime := by
  have htext : ∀ ip : Address, ip.text = a.text ↔ ip = a := by
    intro ip
    constructor
    · intro heq
      cases ip
      cases a
      cases heq
      rfl
    · intro heq
      rw [heq]
  -- on the last change: it sets the entry, lifts it, or leaves what was there
  induction changes using List.reverseRecOn with
  | nil =>
      constructor
      · intro h
        exact absurd h TreeMap.not_mem_emptyc
      · intro h
        obtain ⟨endTime, h⟩ := h
        exact absurd h not_holds_nil
  | append_singleton changes e ih =>
      have hsnoc : (∃ t, Holds (Change.ban a) (Change.Lifts a) (changes ++ [e]) t) ↔
          (e.ban a).isSome ∨ ((e.ban a) = none ∧ ¬ e.Lifts a ∧
            ∃ t, Holds (Change.ban a) (Change.Lifts a) changes t) := by
        constructor
        · intro h
          obtain ⟨t, h⟩ := h
          cases holds_snoc.mp h with
          | inl hset => exact .inl (by rw [hset]; rfl)
          | inr hrest => exact .inr ⟨hrest.1, hrest.2.1, t, hrest.2.2⟩
        · intro h
          cases h with
          | inl hset =>
              obtain ⟨t, ht⟩ := Option.isSome_iff_exists.mp hset
              exact ⟨t, holds_snoc.mpr (.inl ht)⟩
          | inr hrest =>
              obtain ⟨hnone, hlift, t, ht⟩ := hrest
              exact ⟨t, holds_snoc.mpr (.inr ⟨hnone, hlift, ht⟩)⟩
      rw [hsnoc, List.foldl_append]
      refine Iff.trans ?_ (or_congr_right (and_congr_right fun _ => and_congr_right fun _ => ih))
      cases e with
      | allow ip => simp [Change.onForbidden, Change.ban, Change.Lifts]
      | disallow ip => simp [Change.onForbidden, Change.ban, Change.Lifts]
      | forbid ip endTime =>
          show a.text ∈ (changes.foldl Change.onForbidden ∅).insert ip.text _ ↔
            (if ip = a then some endTime else none).isSome ∨
              ((if ip = a then some endTime else none) = none ∧ ¬ False ∧ _)
          rw [TreeMap.mem_insert, Std.LawfulEqCmp.compare_eq_iff_eq, htext]
          by_cases hip : ip = a
          · simp [hip]
          · simp [hip]
      | lift ip =>
          show a.text ∈ (changes.foldl Change.onForbidden ∅).erase ip.text ↔
            (none : Option UInt64).isSome ∨ ((none : Option UInt64) = none ∧ ¬ ip = a ∧ _)
          rw [TreeMap.mem_erase, Ne, Std.LawfulEqCmp.compare_eq_iff_eq, htext]
          simp

/-- **The table holds what the commands forbid.** -/
theorem mem_forbidIpMap_after (cs : List Command) (a : Address) :
    a.text ∈ (after cs).session.forbidIpMap ↔ Stands cs a := by
  rw [show (after cs).session.forbidIpMap = _ from (tables_foldl cs {}).1]
  exact mem_foldl_onForbidden (history cs) a

theorem after_inv (cs : List Command) : Inv (after cs).session := by
  have hkeep : ∀ h : Host, Inv h.session → Inv ((cs.map Command.act).foldl step h).session := by
    induction cs with
    | nil => exact fun h hi => hi
    | cons c cs ih => exact fun h hi => ih _ (hi.step c.act)
  exact hkeep {} inv_empty

/-! ## §4. The check. -/

theorem colon_mem_peerName (a : Address) (port : UInt16) : ':' ∈ peerName a port :=
  List.mem_append_right _ List.mem_cons_self

/-- **The check of a client passes exactly when `*` is not in the table.** -/
theorem validatedIpAddr_peer (cs : List Command) (a : Address) (port : UInt16) (now : UInt64) :
    validatedIpAddr (after cs).session (peerName a port) now = true ↔ ¬ Stands cs star := by
  obtain ⟨hmap, hset⟩ := tables_foldl cs {}
  obtain ⟨hnotmap, hnotset⟩ := plain_of_mem_foldl (history cs) (colon_mem_peerName a port)
  have hban : (after cs).session.forbidIpMap[peerName a port]? = none := by
    apply TreeMap.getElem?_eq_none
    rw [show (after cs).session.forbidIpMap = _ from hmap]
    exact hnotmap
  have hallow : (after cs).session.allowIpSet.contains (peerName a port) = false := by
    rw [show (after cs).session.allowIpSet = _ from hset]
    exact Bool.eq_false_iff.mpr fun h => hnotset (TreeSet.mem_iff_contains.mpr h)
  have hflag : (after cs).session.forbidAllIp = true ↔ Stands cs star :=
    (after_inv cs).flag.trans (mem_forbidIpMap_after cs star)
  unfold validatedIpAddr
  rw [hban, hallow, ← hflag]
  cases (after cs).session.forbidAllIp <;> simp

/-- What has to be the case for the flag to be right: it refuses everybody while `*` stands in the
    table, and nobody else. -/
def FlagSuffices (cs : List Command) (a : Address) (now : UInt64) : Prop :=
  (Stands cs star ∧ (InForce cs a now ∨ (InForce cs star now ∧ ¬ Allowed cs a))) ∨
    (¬ Stands cs star ∧ ¬ InForce cs a now)

/-- **Who is decided right**: the check admits those who are to pass exactly when the flag of `*` is
    enough to tell. -/
theorem check_iff (cs : List Command) (a : Address) (port : UInt16) (now : UInt64) :
    (validatedIpAddr (after cs).session (peerName a port) now = true ↔ Admitted cs a now) ↔
      FlagSuffices cs a now := by
  rw [validatedIpAddr_peer]
  have hstands : InForce cs star now → Stands cs star := InForce.stands
  unfold Admitted FlagSuffices
  tauto

/-- `1.2.3.4` -/
def someAddress : Address := ⟨someIp, by decide⟩

/-- **A ban that is not noticed**: the address is forbidden for good, and a client from it passes.
    And one that does not end: `*` was forbidden up to 5 seconds, and at 10 nobody passes. -/
theorem banned_passes :
    (validatedIpAddr (after [.forbid [(someAddress, 0)]]).session (peerName someAddress 5000) 10 = true ∧
      ¬ Admitted [.forbid [(someAddress, 0)]] someAddress 10) ∧
    (validatedIpAddr (after [.forbid [(star, 5)]]).session (peerName someAddress 5000) 10 = false ∧
      Admitted [.forbid [(star, 5)]] someAddress 10) := by
  have hlast : ∀ (a b : Address) (t t' : UInt64), Banned [.forbid [(a, t)]] b t' → a = b ∧ t = t' := by
    intro a b t t' h
    have hsnoc : Holds (Change.ban b) (Change.Lifts b) ([] ++ [Change.forbid a t]) t' := h
    cases holds_snoc.mp hsnoc with
    | inl hset =>
        obtain ⟨heq, ht⟩ := Option.ite_none_right_eq_some.mp hset
        exact ⟨heq, Option.some.inj ht⟩
    | inr hrest => exact absurd hrest.2.2 not_holds_nil
  refine ⟨⟨by decide +kernel, ?_⟩, by decide +kernel, ?_, ?_⟩
  · intro h
    apply h.1
    have hban : Holds (Change.ban someAddress) (Change.Lifts someAddress)
        ([] ++ [Change.forbid someAddress 0]) 0 := holds_snoc.mpr (.inl rfl)
    exact ⟨0, hban, .inl rfl⟩
  · intro h
    obtain ⟨t, hban, -⟩ := h
    exact absurd (hlast _ _ _ _ hban).1 (by decide)
  · left
    intro h
    obtain ⟨t, hban, ht⟩ := h
    rw [← (hlast _ _ _ _ hban).2] at ht
    exact absurd ht (by decide)

end Steppingstone.Access
